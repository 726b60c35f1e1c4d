import ExamGrants.Json.Record
import ExamGrants.Proofs.Json.Decoding

namespace ExamGrants.Json.RecordFormat

/-! Which objects and arrays are read as records.

The members of an object may stand in any order, so each field is looked at by itself: it
stands there once and decodes, or it is absent and may be (`decode_object_eq_ok_iff`).  In
an array the place decides (`decode_array_eq_ok_iff`).
-/

variable {α Field : Type} [Named Field] {format : RecordFormat α Field}

/-- A record is complete when every field has its value. -/
theorem value_eq_ok_iff {slots : format.Slots} {value : α} :
    slots.value = .ok value ↔ ∀ field, slots field = some (format.get value field) := by
  unfold Slots.value
  split
  · next field empty =>
      have unread : (slots field).isNone = true :=
        List.find?_some (p := fun field => (slots field).isNone) empty
      constructor
      · intro absurdly
        cases absurdly
      · intro filled
        rw [filled field] at unread
        cases unread
  · next full =>
      simp only [Except.ok.injEq]
      constructor
      · rintro rfl field
        rw [format.get_make]
        simp
      · intro filled
        rw [← format.make_get value]
        congr 1
        funext field
        simp [filled]

/-! ## Objects -/

/-- What stands under the name of a field in an object, in order. -/
def treesOf (field : Field) (members : List Member) : List Tree :=
  (members.filter fun member => member.1 == some (Named.name field)).map Prod.snd

/-- The slot of a field before and after the trees that stand under its name are read. -/
def SlotRead (format : RecordFormat α Field) (field : Field)
    (before after : Option (format.Value field)) : List Tree → Prop
  | [] => after = before
  | [tree] => before = none ∧
      ∃ value, (format.codec field).decode tree = .ok value ∧ after = some value
  | _ => False

/-- What stands for a field makes it hold what it holds in the value: it stands there once
and is read so, or it is left out and has a default. -/
def FieldHolds (format : RecordFormat α Field) {field : Field}
    (default : Option (format.Value field)) (value : α) : List Tree → Prop
  | [] => default = some (format.get value field)
  | [tree] => (format.codec field).decode tree = .ok (format.get value field)
  | _ => False

/-- The key can be read, and is the name of a field where it must be one. -/
def KeyAccepted (format : RecordFormat α Field) (member : Member) : Prop :=
  ∃ key, member.1 = some key ∧ (format.strict = true → ∃ field : Field, key = Named.name field)

theorem treesOf_cons_self (field : Field) (tree : Tree) (members : List Member) :
    treesOf field ((some (Named.name field), tree) :: members) =
      tree :: treesOf field members := by
  simp [treesOf]

theorem treesOf_cons_of_ne {field : Field} {key : String} (differs : key ≠ Named.name field)
    (tree : Tree) (members : List Member) :
    treesOf field ((some key, tree) :: members) = treesOf field members := by
  simp [treesOf, differs]

theorem mem_treesOf {field : Field} {tree : Tree} {members : List Member} :
    tree ∈ treesOf field members ↔ (some (Named.name field), tree) ∈ members := by
  simp [treesOf]

theorem length_treesOf (field : Field) (members : List Member) :
    (treesOf field members).length =
      (members.map Prod.fst).count (some (Named.name field)) := by
  rw [treesOf, List.length_map, ← List.countP_eq_length_filter, List.count, List.countP_map]
  rfl

theorem nodup_keys_iff {members : List Member}
    (known : ∀ member ∈ members, ∃ field : Field, member.1 = some (Named.name field)) :
    (members.map Prod.fst).Nodup ↔ ∀ field : Field, (treesOf field members).length ≤ 1 := by
  rw [List.nodup_iff_count]
  constructor
  · intro distinct field
    rw [length_treesOf]
    exact distinct _
  · intro once key
    by_cases listed : key ∈ members.map Prod.fst
    · obtain ⟨member, given, rfl⟩ := List.mem_map.mp listed
      obtain ⟨field, named⟩ := known member given
      rw [named, ← length_treesOf]
      exact once field
    · rw [List.count_eq_zero_of_not_mem listed]
      exact Nat.zero_le 1

theorem fieldHolds_iff {field : Field} {default : Option (format.Value field)} {value : α}
    {trees : List Tree} :
    format.FieldHolds default value trees ↔
      trees.length ≤ 1 ∧
        (∀ tree ∈ trees, (format.codec field).decode tree = .ok (format.get value field)) ∧
        (trees = [] → default = some (format.get value field)) := by
  match trees with
  | [] => simp [FieldHolds]
  | [tree] => simp [FieldHolds]
  | _ :: _ :: _ => simp [FieldHolds]

theorem decodes_of_slotRead {field : Field} {before after : Option (format.Value field)}
    {tree : Tree} {trees : List Tree} (read : format.SlotRead field before after (tree :: trees)) :
    before = none ∧ ∃ value, (format.codec field).decode tree = .ok value := by
  cases trees with
  | nil =>
      obtain ⟨unread, value, decoded, _⟩ := read
      exact ⟨unread, value, decoded⟩
  | cons => cases read

variable [DecidableEq Field]

/-- Reading the first tree of a field fills its slot and leaves the other ones. -/
theorem slotRead_fill {slots : format.Slots} {field : Field} {value : format.Value field}
    {tree : Tree} (unread : slots field = none)
    (decoded : (format.codec field).decode tree = .ok value) (other : Field)
    {after : Option (format.Value other)} (members : List Member) :
    format.SlotRead other (slots.fill field value other) after (treesOf other members) ↔
      format.SlotRead other (slots other) after
        (treesOf other ((some (Named.name field), tree) :: members)) := by
  by_cases same : field = other
  · subst same
    rw [treesOf_cons_self, unread]
    match treesOf field members with
    | [] => simp [SlotRead, Slots.fill, decoded]
    | [_] | _ :: _ :: _ => simp [SlotRead, Slots.fill]
  · have differs : Named.name field ≠ Named.name other :=
      fun named => same (Named.name_injective named)
    simp [treesOf_cons_of_ne differs, Slots.fill, same]

theorem decodeMembers_eq_ok_iff {slots final : format.Slots} {members : List Member} :
    format.decodeMembers slots members = .ok final ↔
      (∀ member ∈ members, format.KeyAccepted member) ∧
        ∀ field, format.SlotRead field (slots field) (final field) (treesOf field members) := by
  induction members generalizing slots with
  | nil =>
      simp only [decodeMembers, Except.ok.injEq, treesOf, List.filter_nil, List.map_nil, SlotRead]
      constructor
      · rintro rfl
        simp
      · rintro ⟨_, same⟩
        funext field
        exact (same field).symm
  | cons member rest ih =>
      obtain ⟨key, tree⟩ := member
      rw [List.forall_mem_cons]
      cases key with
      | none => simp [decodeMembers, KeyAccepted]
      | some key =>
          cases known : (Named.ofName? key : Option Field) with
          | none =>
              have unknown : ∀ field : Field, key ≠ Named.name field := by
                rintro field rfl
                simp at known
              simp only [decodeMembers, known, treesOf_cons_of_ne (unknown _)]
              cases strict : format.strict with
              | true =>
                  have refused : ¬ format.KeyAccepted (some key, tree) := by
                    rintro ⟨_, ⟨⟩, named⟩
                    obtain ⟨field, same⟩ := named strict
                    exact unknown field same
                  simp [refused]
              | false =>
                  have accepted : format.KeyAccepted (some key, tree) :=
                    ⟨key, rfl, by simp [strict]⟩
                  simp [accepted, ih]
          | some field =>
              obtain rfl := Named.ofName?_eq_some_iff.mp known
              have accepted : format.KeyAccepted (some (Named.name field), tree) :=
                ⟨_, rfl, fun _ => ⟨field, rfl⟩⟩
              simp only [decodeMembers, known, accepted, true_and]
              constructor
              · intro read
                cases unread : slots field with
                | some value => simp [unread] at read
                | none =>
                    simp only [unread, bind_eq_ok_iff, ih] at read
                    obtain ⟨value, decoded, others, slotsRead⟩ := read
                    refine ⟨others, fun other => ?_⟩
                    exact (slotRead_fill unread decoded other rest).mp (slotsRead other)
              · rintro ⟨others, slotsRead⟩
                have own := slotsRead field
                rw [treesOf_cons_self] at own
                obtain ⟨unread, value, decoded⟩ := decodes_of_slotRead own
                simp only [unread, bind_eq_ok_iff, ih]
                refine ⟨value, decoded, others, fun other => ?_⟩
                exact (slotRead_fill unread decoded other rest).mpr (slotsRead other)

omit [DecidableEq Field] in
theorem fieldHolds_iff_slotRead {field : Field} {default : Option (format.Value field)}
    {value : α} {trees : List Tree} :
    format.FieldHolds default value trees ↔
      ∃ slot, format.SlotRead field none slot trees ∧
        slot.or default = some (format.get value field) := by
  match trees with
  | [] => simp [FieldHolds, SlotRead]
  | [tree] => simp [FieldHolds, SlotRead]
  | _ :: _ :: _ => simp [FieldHolds, SlotRead]

theorem decodeMembers_value_iff (defaults : format.Slots) {members : List Member} {value : α} :
    (∃ slots, format.decodeMembers format.noSlots members = .ok slots ∧
        (slots.orElse defaults).value = .ok value) ↔
      (∀ member ∈ members, format.KeyAccepted member) ∧
        ∀ field, format.FieldHolds (defaults field) value (treesOf field members) := by
  simp only [decodeMembers_eq_ok_iff, value_eq_ok_iff, fieldHolds_iff_slotRead]
  rw [Classical.skolem]
  constructor
  · rintro ⟨slots, ⟨accepted, read⟩, complete⟩
    exact ⟨accepted, slots, fun field => ⟨read field, complete field⟩⟩
  · rintro ⟨accepted, slots, held⟩
    exact ⟨slots, ⟨accepted, fun field => (held field).1⟩, fun field => (held field).2⟩

omit [DecidableEq Field] in
theorem valueOr_eq_ok_iff {slots : format.Slots} {fault : Field → Fault} {value : α} :
    (match slots.value with
      | .ok value => .ok value
      | .error field => .error (fault field) : Except Fault α) = .ok value ↔
      slots.value = .ok value := by
  cases slots.value <;> simp

/-- Which objects are read as a record. -/
theorem decode_object_eq_ok_iff {members : List Member} {closed : Bool} {value : α} :
    format.decode (.object members closed) = .ok value ↔
      closed = true ∧ (∀ member ∈ members, format.KeyAccepted member) ∧
        ∀ field, format.FieldHolds (format.whenAbsent field) value (treesOf field members) := by
  rw [← decodeMembers_value_iff format.whenAbsent]
  simp only [decode, bind_eq_ok_iff, ifClosed_eq_ok_iff]
  constructor
  · rintro ⟨slots, read, _, ⟨closed, rfl⟩, complete⟩
    exact ⟨closed, slots, read, valueOr_eq_ok_iff.mp complete⟩
  · rintro ⟨closed, slots, read, complete⟩
    exact ⟨slots, read, slots, ⟨closed, rfl⟩, valueOr_eq_ok_iff.mpr complete⟩

/-! ## Arrays -/

/-- The members that give items to fields, in order. -/
def inOrder (fields : List Field) (items : List Tree) : List Member :=
  (fields.zip items).map fun item => (some (Named.name item.1), item.2)

omit [DecidableEq Field] in
theorem keyAccepted_of_mem_inOrder {fields : List Field} {items : List Tree} {member : Member}
    (listed : member ∈ inOrder fields items) : format.KeyAccepted member := by
  obtain ⟨item, _, rfl⟩ := List.mem_map.mp listed
  exact ⟨_, rfl, fun _ => ⟨item.1, rfl⟩⟩

omit [DecidableEq Field] in
theorem treesOf_inOrder_of_notMem {fields : List Field} {field : Field}
    (unlisted : field ∉ fields) (items : List Tree) :
    treesOf field (inOrder fields items) = [] := by
  simp only [treesOf, inOrder, List.map_eq_nil_iff, List.filter_eq_nil_iff, List.mem_map]
  rintro _ ⟨item, listed, rfl⟩ named
  have same : item.1 = field := Named.name_injective (by simpa using named)
  exact unlisted (same ▸ (List.of_mem_zip listed).1)

theorem treesOf_inOrder {fields : List Field} (distinct : fields.Nodup) {field : Field}
    (listed : field ∈ fields) (items : List Tree) :
    treesOf field (inOrder fields items) = items[fields.idxOf field]?.toList := by
  induction fields generalizing items with
  | nil => cases listed
  | cons first fields ih =>
      cases items with
      | nil => rfl
      | cons tree rest =>
          obtain ⟨fresh, distinct⟩ := List.nodup_cons.mp distinct
          by_cases same : first = field
          · subst same
            have later : treesOf first (inOrder fields rest) = [] :=
              treesOf_inOrder_of_notMem fresh rest
            simp only [inOrder, List.zip_cons_cons, List.map_cons, treesOf_cons_self] at later ⊢
            simp [later]
          · have differs : Named.name first ≠ Named.name field :=
              fun named => same (Named.name_injective named)
            have listed : field ∈ fields :=
              (List.mem_cons.mp listed).resolve_left fun first => same first.symm
            rw [List.idxOf_cons_ne _ same, List.getElem?_cons_succ, ← ih distinct listed]
            exact treesOf_cons_of_ne differs tree (inOrder fields rest)

/-- The items of an array are read as the members of the object that names them. -/
theorem decodeInOrder_eq_decodeMembers {fields : List Field} (distinct : fields.Nodup)
    {items : List Tree} (fits : items.length ≤ fields.length) {slots : format.Slots}
    (unread : ∀ field ∈ fields, slots field = none) :
    format.decodeInOrder slots fields items =
      format.decodeMembers slots (inOrder fields items) := by
  induction fields generalizing items slots with
  | nil =>
      obtain rfl := List.length_eq_zero_iff.mp (Nat.le_zero.mp fits)
      rfl
  | cons field fields ih =>
      cases items with
      | nil => rfl
      | cons tree rest =>
          obtain ⟨fresh, distinct⟩ := List.nodup_cons.mp distinct
          rw [List.forall_mem_cons] at unread
          simp only [decodeInOrder, inOrder, List.zip_cons_cons, List.map_cons, decodeMembers,
            Named.ofName?_name, unread.1]
          congr 1
          funext value
          refine ih distinct (Nat.le_of_succ_le_succ fits) fun other listed => ?_
          have differs : field ≠ other := fun same => fresh (same ▸ listed)
          simp [Slots.fill, differs, unread.2 other listed]

theorem length_le_of_decodeInOrder {fields : List Field} {items : List Tree}
    {slots final : format.Slots} (read : format.decodeInOrder slots fields items = .ok final) :
    items.length ≤ fields.length := by
  induction items generalizing fields slots with
  | nil => exact Nat.zero_le _
  | cons tree rest ih =>
      cases fields with
      | nil => cases read
      | cons field fields =>
          obtain ⟨value, _, read⟩ := bind_eq_ok_iff.mp read
          exact Nat.succ_le_succ (ih read)

/-- Which arrays are read as a record. -/
theorem decode_array_eq_ok_iff (distinct : (Named.all : List Field).Nodup) {items : List Tree}
    {closed : Bool} {value : α} :
    format.decode (.array items closed) = .ok value ↔
      closed = true ∧ items.length ≤ (Named.all : List Field).length ∧
        ∀ field, format.FieldHolds (format.whenCut field) value
          items[Named.position field]?.toList := by
  have placed : ∀ field : Field,
      items[Named.position field]?.toList = treesOf field (inOrder Named.all items) :=
    fun field => (treesOf_inOrder distinct (Named.mem_all field) items).symm
  simp only [placed]
  have accepted : ∀ member ∈ inOrder (Named.all : List Field) items, format.KeyAccepted member :=
    fun _ => keyAccepted_of_mem_inOrder
  have named (fits : items.length ≤ (Named.all : List Field).length) :
      format.decodeInOrder format.noSlots Named.all items =
        format.decodeMembers format.noSlots (inOrder Named.all items) :=
    decodeInOrder_eq_decodeMembers distinct fits fun _ _ => rfl
  simp only [decode, bind_eq_ok_iff, ifClosed_eq_ok_iff]
  constructor
  · rintro ⟨slots, read, _, ⟨closed, rfl⟩, complete⟩
    have fits := length_le_of_decodeInOrder read
    rw [named fits] at read
    have held := (decodeMembers_value_iff format.whenCut).mp
      ⟨slots, read, valueOr_eq_ok_iff.mp complete⟩
    exact ⟨closed, fits, held.2⟩
  · rintro ⟨closed, fits, held⟩
    obtain ⟨slots, read, complete⟩ :=
      (decodeMembers_value_iff format.whenCut).mpr ⟨accepted, held⟩
    rw [← named fits] at read
    exact ⟨slots, read, slots, ⟨closed, rfl⟩, valueOr_eq_ok_iff.mpr complete⟩

end ExamGrants.Json.RecordFormat
