import ExamGrants.Effective
import ExamGrants.Json.Record

namespace ExamGrants.Format

/-! Effective privileges as JSON.  All fields are required, other keys are passed over. -/

open Json

inductive EffectiveField where
  | entityType
  | base
  | institutional
  | owner
deriving DecidableEq, Repr

namespace EffectiveField

def name : EffectiveField → String
  | .entityType => "entity_type"
  | .base => "base"
  | .institutional => "institutional"
  | .owner => "owner"

instance : Named EffectiveField where
  kind := "field"
  all := [.entityType, .base, .institutional, .owner]
  name := name
  mem_all field := by cases field <;> decide
  name_injective {first second} same := by
    cases first <;> cases second <;> first | rfl | exact absurd same (by decide)

abbrev Value : EffectiveField → Type
  | .entityType => EntityType
  | .base | .institutional | .owner => Level

end EffectiveField

def effectiveRecord : RecordFormat Effective EffectiveField where
  title := "EffectivePrivilege"
  strict := false
  Value := EffectiveField.Value
  codec
    | .entityType => Codec.named
    | .base | .institutional | .owner => Codec.named
  whenAbsent _ := none
  whenCut _ := none
  get entry
    | .entityType => entry.entityType
    | .base => entry.tiers.base
    | .institutional => entry.tiers.institutional
    | .owner => entry.tiers.owner
  make fields :=
    ⟨fields .entityType, ⟨fields .base, fields .institutional, fields .owner⟩⟩
  make_get _ := rfl
  get_make fields := by
    funext field
    cases field <;> rfl

def effective : Codec Effective := effectiveRecord.toCodec

end ExamGrants.Format
