import ExamGrants.Format.Identity
import ExamGrants.Json.Record

namespace ExamGrants.Format

/-! Users as JSON.  All fields are required, other keys are passed over. -/

open Json

inductive UserField where
  | id
  | username
  | institution
  | roles
deriving DecidableEq, Repr

namespace UserField

def name : UserField → String
  | .id => "user_id"
  | .username => "username"
  | .institution => "institution_id"
  | .roles => "roles"

instance : Named UserField where
  kind := "field"
  all := [.id, .username, .institution, .roles]
  name := name
  mem_all field := by cases field <;> decide
  name_injective {first second} same := by
    cases first <;> cases second <;> first | rfl | exact absurd same (by decide)

abbrev Value : UserField → Type
  | .id => UserId
  | .username => String
  | .institution => InstitutionId
  | .roles => RoleSet

end UserField

def userRecord : RecordFormat User UserField where
  title := "UserIdentity"
  strict := false
  Value := UserField.Value
  codec
    | .id => userId
    | .username => Codec.text
    | .institution => institution
    | .roles => roleSet
  whenAbsent _ := none
  whenCut _ := none
  get user
    | .id => user.id
    | .username => user.username
    | .institution => user.institution
    | .roles => user.roles
  make fields := ⟨fields .id, fields .username, fields .institution, fields .roles⟩
  make_get _ := rfl
  get_make fields := by
    funext field
    cases field <;> rfl

def user : Codec User := userRecord.toCodec

end ExamGrants.Format
