import ExamGrants.Format.Effective
import ExamGrants.Format.Entity
import ExamGrants.Format.Grant
import ExamGrants.Format.User
import ExamGrants.Proofs.Json.RoundTrip
import ExamGrants.Proofs.UserIdText

namespace ExamGrants.Format

open Json

/-! The texts of users, entities, grants and effective privileges.

Each of these records is written field by field, and every field is read back: ids by their
spelling, institutions by their digits, names by their letters, and roles whatever their
order.
-/

theorem userId_isLossless : userId.IsLossless where
  writable id := .text id.toText
  decode_encode id := by
    simp only [userId, UserId.ofText?_toText]

theorem institution_isLossless : institution.IsLossless where
  writable institution := .number (Numeral.ofNat_spelledBy institution.number.toNat)
  decode_encode institution := by
    have small : institution.number.toNat < Nat.pow 2 64 := institution.number.toNat_lt
    have read := Numeral.integer?_ofNat small
    have same : UInt64.ofNat institution.number.toNat = institution.number :=
      UInt64.ofNat_toNat
    simp only [Format.institution, read]
    exact congrArg Except.ok (InstitutionId.ext same)

theorem roleSet_isLossless : roleSet.IsLossless where
  writable roles := (Codec.list_isLossless Codec.named_isLossless).writable roles.toList
  decode_encode roles := by
    have listed := (Codec.list_isLossless Codec.named_isLossless).decode_encode roles.toList
    simp only [roleSet, listed, Except.map, RoleSet.ofList_toList]

theorem user_isLossless : user.IsLossless := by
  apply RecordFormat.isLossless (by decide)
  intro field
  cases field with
  | id => exact userId_isLossless
  | username => exact Codec.text_isLossless
  | institution => exact institution_isLossless
  | roles => exact roleSet_isLossless

theorem entity_isLossless : entity.IsLossless := by
  apply RecordFormat.isLossless (by decide)
  intro field
  cases field with
  | entityType => exact Codec.named_isLossless (α := EntityType)
  | institution => exact institution_isLossless
  | owner => exact Codec.optional_isLossless userId_isLossless fun id null => by cases null
  | supporters => exact Codec.list_isLossless userId_isLossless

theorem grant_isLossless : grant.IsLossless := by
  apply RecordFormat.isLossless (by decide)
  intro field
  cases field with
  | entityType => exact Codec.named_isLossless (α := EntityType)
  | role => exact Codec.named_isLossless (α := Role)
  | base | institutional | owner => exact Codec.named_isLossless (α := Level)

theorem effective_isLossless : effective.IsLossless := by
  apply RecordFormat.isLossless (by decide)
  intro field
  cases field with
  | entityType => exact Codec.named_isLossless (α := EntityType)
  | base | institutional | owner => exact Codec.named_isLossless (α := Level)

/-- Users, entities, grants and effective privileges are read back from what is written for
them, and writing settles the text of whatever was read. -/
theorem records_roundTrip :
    user.RoundTrips ∧ entity.RoundTrips ∧ grant.RoundTrips ∧ effective.RoundTrips :=
  ⟨user_isLossless.roundTrips, entity_isLossless.roundTrips, grant_isLossless.roundTrips,
    effective_isLossless.roundTrips⟩

/-- Quotes, backslashes and control characters are escaped, and all else stands for itself. -/
example :
    user.write ⟨⟨1⟩, "a\"\\\u0001😀", ⟨18446744073709551615⟩, .ofList [.teacher, .examAdmin]⟩ =
      "\x7b\"user_id\":\"00000000-0000-0000-0000-000000000001\"," ++
        "\"username\":\"a\\\"\\\\\\u0001😀\",\"institution_id\":18446744073709551615," ++
        "\"roles\":[\"exam_admin\",\"teacher\"]\x7d" := by
  decide +kernel

end ExamGrants.Format
