import ExamGrants.Grant
import ExamGrants.Json.Record

namespace ExamGrants.Format

/-! Grants as JSON.

A tier that is left out grants nothing.  A key that is no field is refused, so that a
misspelt tier is noticed.
-/

open Json

inductive GrantField where
  | entityType
  | role
  | base
  | institutional
  | owner
deriving DecidableEq, Repr

namespace GrantField

def name : GrantField → String
  | .entityType => "entity_type"
  | .role => "role"
  | .base => "base"
  | .institutional => "institutional"
  | .owner => "owner"

instance : Named GrantField where
  kind := "field"
  all := [.entityType, .role, .base, .institutional, .owner]
  name := name
  mem_all field := by cases field <;> decide
  name_injective {first second} same := by
    cases first <;> cases second <;> first | rfl | exact absurd same (by decide)

abbrev Value : GrantField → Type
  | .entityType => EntityType
  | .role => Role
  | .base | .institutional | .owner => Level

/-- What a field holds that is left out. -/
def default : (field : GrantField) → Option (Value field)
  | .entityType | .role => none
  | .base | .institutional | .owner => some Level.none

end GrantField

def grantRecord : RecordFormat Grant GrantField where
  title := "RoleGrant"
  strict := true
  Value := GrantField.Value
  codec
    | .entityType => Codec.named
    | .role => Codec.named
    | .base | .institutional | .owner => Codec.named
  whenAbsent := GrantField.default
  whenCut := GrantField.default
  get grant
    | .entityType => grant.entityType
    | .role => grant.role
    | .base => grant.tiers.base
    | .institutional => grant.tiers.institutional
    | .owner => grant.tiers.owner
  make fields :=
    ⟨fields .entityType, fields .role, ⟨fields .base, fields .institutional, fields .owner⟩⟩
  make_get _ := rfl
  get_make fields := by
    funext field
    cases field <;> rfl

def grant : Codec Grant := grantRecord.toCodec

def grants : Codec (List Grant) := Codec.list grant

end ExamGrants.Format
