import ExamGrants.Proofs.Json.Records
import ExamGrants.Table.Text

namespace ExamGrants

/-! Which texts are grant tables.

A table is written as one JSON array with a grant for each row (`Table.WrittenAs`).  Such a
text is parsed to its rows, all of them and in order, and any other text is refused as a
whole (`Table.parse_exactly`).
-/

open Json

namespace Format

/-- The value is the name of what the grant has in the field. -/
def GrantField.Holds (grant : Grant) : GrantField → Tree → Prop
  | .entityType => Codec.IsNameOf grant.entityType
  | .role => Codec.IsNameOf grant.role
  | .base => Codec.IsNameOf grant.tiers.base
  | .institutional => Codec.IsNameOf grant.tiers.institutional
  | .owner => Codec.IsNameOf grant.tiers.owner

/-- The grant has nothing in the field, as in a tier that is not written. -/
def GrantField.LeftOut (grant : Grant) : GrantField → Prop
  | .entityType | .role => False
  | .base => grant.tiers.base = .none
  | .institutional => grant.tiers.institutional = .none
  | .owner => grant.tiers.owner = .none

/-- The object has the fields of the grant under their names, each at most once and in any
order, and nothing else. -/
structure IsObjectOf (grant : Grant) (members : List Member) : Prop where
  known : ∀ member ∈ members, ∃ field : GrantField, member.1 = some field.name
  distinct : (members.map Prod.fst).Nodup
  held : ∀ (field : GrantField) (tree : Tree),
    (some field.name, tree) ∈ members → field.Holds grant tree
  leftOut : ∀ field : GrantField,
    (∀ tree, (some field.name, tree) ∉ members) → field.LeftOut grant

/-- The array has the fields of the grant in declaration order. -/
structure IsArrayOf (grant : Grant) (items : List Tree) : Prop where
  enough : 2 ≤ items.length
  fits : items.length ≤ 5
  held : ∀ (field : GrantField) (tree : Tree),
    items[Named.position field]? = some tree → field.Holds grant tree
  leftOut : ∀ field : GrantField,
    items.length ≤ Named.position field → field.LeftOut grant

/-- The two ways to write a grant. -/
inductive IsGrant : Tree → Grant → Prop where
  | object {members : List Member} {grant : Grant} (listed : IsObjectOf grant members) :
      IsGrant (.object members true) grant
  | array {items : List Tree} {grant : Grant} (listed : IsArrayOf grant items) :
      IsGrant (.array items true) grant

theorem GrantField.decode_eq_ok_iff {field : GrantField} {tree : Tree} {grant : Grant} :
    (grantRecord.codec field).decode tree = .ok (grantRecord.get grant field) ↔
      field.Holds grant tree := by
  cases field with
  | entityType => exact Codec.named_decode_eq_ok_iff (α := EntityType)
  | role => exact Codec.named_decode_eq_ok_iff (α := Role)
  | base | institutional | owner => exact Codec.named_decode_eq_ok_iff (α := Level)

theorem GrantField.whenAbsent_eq_some_iff {field : GrantField} {grant : Grant} :
    grantRecord.whenAbsent field = some (grantRecord.get grant field) ↔
      field.LeftOut grant := by
  cases field <;> simp [default, LeftOut, grantRecord, eq_comm]

/-- The trees of a field make it hold what the grant has there. -/
theorem GrantField.fieldHolds_iff {field : GrantField} {grant : Grant} {trees : List Tree} :
    grantRecord.FieldHolds (grantRecord.whenAbsent field) grant trees ↔
      trees.length ≤ 1 ∧ (∀ tree ∈ trees, field.Holds grant tree) ∧
        (trees = [] → field.LeftOut grant) := by
  simp only [RecordFormat.fieldHolds_iff, decode_eq_ok_iff, whenAbsent_eq_some_iff]

theorem decode_object_iff_isObjectOf {members : List Member} {closed : Bool} {grant : Grant} :
    Format.grant.decode (.object members closed) = .ok grant ↔
      closed = true ∧ IsObjectOf grant members := by
  have absent : ∀ field : GrantField, RecordFormat.treesOf field members = [] ↔
      ∀ tree, (some field.name, tree) ∉ members := by
    intro field
    simp only [List.eq_nil_iff_forall_not_mem, RecordFormat.mem_treesOf]
    rfl
  refine Iff.trans RecordFormat.decode_object_eq_ok_iff (and_congr_right fun _ => ?_)
  simp only [GrantField.fieldHolds_iff, absent, RecordFormat.mem_treesOf]
  constructor
  · rintro ⟨accepted, held⟩
    have known : ∀ member ∈ members, ∃ field : GrantField, member.1 = some field.name := by
      intro member listed
      obtain ⟨key, read, named⟩ := accepted member listed
      obtain ⟨field, rfl⟩ := named rfl
      exact ⟨field, read⟩
    refine ⟨known, ?_, fun field => (held field).2.1, fun field => (held field).2.2⟩
    exact (RecordFormat.nodup_keys_iff known).mpr fun field => (held field).1
  · rintro ⟨known, distinct, held, leftOut⟩
    refine ⟨fun member listed => ?_, fun field => ⟨?_, held field, leftOut field⟩⟩
    · obtain ⟨field, named⟩ := known member listed
      exact ⟨_, named, fun _ => ⟨field, rfl⟩⟩
    · exact (RecordFormat.nodup_keys_iff known).mp distinct field

theorem decode_array_iff_isArrayOf {items : List Tree} {closed : Bool} {grant : Grant} :
    Format.grant.decode (.array items closed) = .ok grant ↔
      closed = true ∧ IsArrayOf grant items := by
  have distinct : (Named.all : List GrantField).Nodup := by decide
  refine Iff.trans (RecordFormat.decode_array_eq_ok_iff distinct)
    (and_congr_right fun _ => ?_)
  have trees : ∀ field : GrantField,
      grantRecord.FieldHolds (grantRecord.whenCut field) grant
          items[Named.position field]?.toList ↔
        (∀ tree, items[Named.position field]? = some tree → field.Holds grant tree) ∧
          (items.length ≤ Named.position field → field.LeftOut grant) := by
    intro field
    refine Iff.trans GrantField.fieldHolds_iff ?_
    simp
  simp only [trees]
  constructor
  · rintro ⟨fits, held⟩
    refine ⟨?_, fits, fun field => (held field).1, fun field => (held field).2⟩
    have roleStands := mt (held .role).2 id
    exact Nat.lt_of_not_le roleStands
  · rintro ⟨_, fits, held, leftOut⟩
    exact ⟨fits, fun field => ⟨held field, leftOut field⟩⟩

theorem grant_decode_eq_ok_iff {tree : Tree} {grant : Grant} :
    Format.grant.decode tree = .ok grant ↔ IsGrant tree grant := by
  constructor
  · intro decoded
    cases tree with
    | object members closed =>
        obtain ⟨rfl, listed⟩ := decode_object_iff_isObjectOf.mp decoded
        exact .object listed
    | array items closed =>
        obtain ⟨rfl, listed⟩ := decode_array_iff_isArrayOf.mp decoded
        exact .array listed
    | _ => cases decoded
  · intro written
    cases written with
    | object listed => exact decode_object_iff_isObjectOf.mpr ⟨rfl, listed⟩
    | array listed => exact decode_array_iff_isArrayOf.mpr ⟨rfl, listed⟩

end Format

/-- The text is one JSON array with the grants of the table, in their order. -/
def Table.WrittenAs (table : Table) (text : String) : Prop :=
  ∃ items, Tree.SpelledBy (.array items true) text.toList ∧
    List.Forall₂ Format.IsGrant items table.grants

namespace Table

theorem parse_eq_ok_iff {text : String} {table : Table} :
    Table.parse text = .ok table ↔ table.WrittenAs text := by
  have read : Table.parse text = .ok table ↔ Format.grants.read text = .ok table.grants := by
    unfold parse
    cases Format.grants.read text <;> simp [ofGrants, Table.ext_iff]
  simp only [read, Codec.read_eq_ok_iff, Format.grants, Codec.list_decode_eq_ok_iff,
    Format.grant_decode_eq_ok_iff]
  constructor
  · rintro ⟨_, spelled, items, rfl, each⟩
    exact ⟨items, spelled, each⟩
  · rintro ⟨items, spelled, each⟩
    exact ⟨_, spelled, items, rfl, each⟩

theorem parse_error_invalidTable {text : String} {problem : Problem}
    (refused : Table.parse text = .error problem) :
    ∃ fault, problem = .invalidTable fault := by
  unfold parse at refused
  split at refused
  · cases refused
  · next fault _ =>
      cases refused
      exact ⟨fault, rfl⟩

/-- The texts of a table are parsed to it, and any text that is the text of no table is
refused with a validation error. -/
theorem parse_exactly (text : String) :
    (∀ table, Table.parse text = .ok table ↔ table.WrittenAs text) ∧
      ((∃ table : Table, table.WrittenAs text) ∨
        ∃ problem, Table.parse text = .error problem ∧ problem.category = .validation ∧
          ∃ wording, problem.detail = "invalid grant table: " ++ wording) := by
  refine ⟨fun table => parse_eq_ok_iff, ?_⟩
  cases parsed : Table.parse text with
  | ok table => exact .inl ⟨table, parse_eq_ok_iff.mp parsed⟩
  | error problem =>
      obtain ⟨fault, rfl⟩ := parse_error_invalidTable parsed
      exact .inr ⟨_, rfl, rfl, fault.message, rfl⟩

/-- An escape in a name, a name as the key of an object, and keys in another order. -/
example :
    Table.parse "[[\"ex\\u0061m\", \"teacher\", \x7b\"write\": null\x7d],
      \x7b\"role\": \"teacher\", \"owner\": \"modify\", \"entity_type\": \"exam\"\x7d]" =
      .ok ⟨[⟨.exam, .teacher, ⟨.write, .none, .none⟩⟩,
        ⟨.exam, .teacher, ⟨.none, .none, .modify⟩⟩]⟩ := by
  decide +kernel

end Table

end ExamGrants
