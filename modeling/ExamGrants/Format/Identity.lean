import ExamGrants.Json.Codec
import ExamGrants.User

namespace ExamGrants.Format

/-! User ids, institutions and sets of roles as JSON. -/

open Json

/-- User ids, as the texts that spell them. -/
def userId : Codec UserId where
  decode
    | .text (some content) =>
        match UserId.ofText? content with
        | some id => .ok id
        | none => .error .badUserId
    | tree => .error (tree.unexpected .userId)
  encode id := .text (some id.toText)

/-- Institutions, as integers from zero below `2 ^ 64`. -/
def institution : Codec InstitutionId where
  decode
    | .number numeral =>
        match numeral.integer? with
        | some (.ofNat number) => .ok ⟨UInt64.ofNat number⟩
        | some (.negSucc number) => .error (.negative (.negSucc number))
        | none => .error ((Tree.number numeral).unexpected .natural64)
    | tree => .error (tree.unexpected .natural64)
  encode institution := .number (.ofNat institution.number.toNat)

/-- Sets of roles, as arrays of their members in any order. -/
def roleSet : Codec RoleSet where
  decode tree := ((Codec.list Codec.named).decode tree).map RoleSet.ofList
  encode roles := (Codec.list Codec.named).encode roles.toList

end ExamGrants.Format
