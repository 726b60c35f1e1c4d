import ExamGrants.Entity
import ExamGrants.Format.Identity
import ExamGrants.Json.Record

namespace ExamGrants.Format

/-! Entities as JSON.

An object may leave out the owner and the supporters where there are none, an array
the supporters only.  Other keys are passed over.
-/

open Json

inductive EntityField where
  | entityType
  | institution
  | owner
  | supporters
deriving DecidableEq, Repr

namespace EntityField

def name : EntityField → String
  | .entityType => "entity_type"
  | .institution => "institution_id"
  | .owner => "owner_id"
  | .supporters => "supporter_ids"

instance : Named EntityField where
  kind := "field"
  all := [.entityType, .institution, .owner, .supporters]
  name := name
  mem_all field := by cases field <;> decide
  name_injective {first second} same := by
    cases first <;> cases second <;> first | rfl | exact absurd same (by decide)

abbrev Value : EntityField → Type
  | .entityType => EntityType
  | .institution => InstitutionId
  | .owner => Option UserId
  | .supporters => List UserId

end EntityField

def entityRecord : RecordFormat Entity EntityField where
  title := "EntitySnapshot"
  strict := false
  Value := EntityField.Value
  codec
    | .entityType => Codec.named
    | .institution => institution
    | .owner => Codec.optional userId
    | .supporters => Codec.list userId
  whenAbsent
    | .entityType | .institution => none
    | .owner => some none
    | .supporters => some []
  whenCut
    | .entityType | .institution | .owner => none
    | .supporters => some []
  get entity
    | .entityType => entity.entityType
    | .institution => entity.institution
    | .owner => entity.owner
    | .supporters => entity.supporters
  make fields :=
    ⟨fields .entityType, fields .institution, fields .owner, fields .supporters⟩
  make_get _ := rfl
  get_make fields := by
    funext field
    cases field <;> rfl

def entity : Codec Entity := entityRecord.toCodec

end ExamGrants.Format
