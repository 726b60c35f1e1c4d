import ExamGrants.Proofs.Json.FirstFault

namespace ExamGrants.Json.RecordFormat

/-! Where the object of a record goes wrong.

The members read so far may be all right (`Begins`) and the next one not: its key is no field
or stands there already, or its value cannot be read.  Or the object ends while a field that
must be there is missing.
-/

variable {α Field : Type} [Named Field] [DecidableEq Field] {format : RecordFormat α Field}

/-- The members are fields of the value under their names, each at most once. -/
structure Begins (format : RecordFormat α Field) (value : α) (members : List Member) : Prop where
  known : ∀ member ∈ members, ∃ field : Field, member.1 = some (Named.name field)
  distinct : (members.map Prod.fst).Nodup
  held : ∀ (field : Field) (tree : Tree), (some (Named.name field), tree) ∈ members →
    (format.codec field).decode tree = .ok (format.get value field)

/-- The slots of the fields that stand in an object. -/
def slotsOf (format : RecordFormat α Field) (value : α) (members : List Member) :
    format.Slots :=
  fun field =>
    if some (Named.name field) ∈ members.map Prod.fst then some (format.get value field) else none

variable {value : α} {members : List Member}

theorem Begins.decodeMembers_eq (begins : format.Begins value members) :
    format.decodeMembers format.noSlots members = .ok (format.slotsOf value members) := by
  refine decodeMembers_eq_ok_iff.mpr ⟨fun member listed => ?_, fun field => ?_⟩
  · obtain ⟨field, named⟩ := begins.known member listed
    exact ⟨_, named, fun _ => ⟨field, rfl⟩⟩
  · have once := (nodup_keys_iff begins.known).mp begins.distinct field
    match trees : treesOf field members with
    | [] =>
        have absent : some (Named.name field) ∉ members.map Prod.fst := by
          rw [← List.count_eq_zero, ← length_treesOf, trees]
          rfl
        simp only [slotsOf, absent, if_false]
        rfl
    | [tree] =>
        have listed : (some (Named.name field), tree) ∈ members :=
          mem_treesOf.mp (trees ▸ List.mem_singleton_self tree)
        have present := List.mem_map_of_mem (f := Prod.fst) listed
        simp only [slotsOf, present, if_true]
        exact ⟨rfl, _, begins.held field tree listed, rfl⟩
    | _ :: _ :: _ => simp [trees] at once

/-- What is wrong with the first wrong member is wrong with the object. -/
theorem Begins.decode_eq_error (begins : format.Begins value members) {member : Member}
    {fault : Fault} {closed : Bool}
    (failed : format.decodeMembers (format.slotsOf value members) [member] = .error fault) :
    format.decode (.object (members ++ [member]) closed) = .error fault := by
  refine bind_eq_error_iff.mpr (.inl ?_)
  rw [decodeMembers_append, begins.decodeMembers_eq, ok_bind, failed]

theorem Begins.decode_unknownField (begins : format.Begins value members)
    (strict : format.strict = true) {key : String}
    (unknown : ∀ field : Field, key ≠ Named.name field) (tree : Tree) (closed : Bool) :
    format.decode (.object (members ++ [(some key, tree)]) closed) =
      .error (.unknownField key (Named.names Field)) := by
  refine begins.decode_eq_error ?_
  have unnamed : (Named.ofName? key : Option Field) = none :=
    Option.eq_none_iff_forall_ne_some.mpr fun field found =>
      unknown field (Named.ofName?_eq_some_iff.mp found)
  simp [decodeMembers, unnamed, strict]

theorem Begins.decode_duplicateField (begins : format.Begins value members) {field : Field}
    (present : some (Named.name field) ∈ members.map Prod.fst) (tree : Tree) (closed : Bool) :
    format.decode (.object (members ++ [(some (Named.name field), tree)]) closed) =
      .error (.duplicateField (Named.name field)) := by
  refine begins.decode_eq_error ?_
  simp only [decodeMembers, Named.ofName?_name, slotsOf, present, if_true]

theorem Begins.decode_badField (begins : format.Begins value members) {field : Field}
    (absent : some (Named.name field) ∉ members.map Prod.fst) {tree : Tree} {fault : Fault}
    (failed : (format.codec field).decode tree = .error fault) (closed : Bool) :
    format.decode (.object (members ++ [(some (Named.name field), tree)]) closed) =
      .error fault := by
  refine begins.decode_eq_error ?_
  simp only [decodeMembers, Named.ofName?_name, slotsOf, absent, if_false, failed]
  rfl

omit [DecidableEq Field] in
theorem value_eq_error {slots : format.Slots} {field : Field}
    (empty : slots.firstEmpty? = some field) : slots.value = .error field := by
  unfold Slots.value
  split
  · next other found =>
      rw [empty] at found
      cases found
      rfl
  · next full =>
      rw [empty] at full
      cases full

/-- An object that ends lacks the first field that is neither there nor may be left out. -/
theorem Begins.decode_missingField (begins : format.Begins value members) {field : Field}
    {earlier later : List Field} (order : Named.all = earlier ++ field :: later)
    (filled : ∀ other ∈ earlier,
      some (Named.name other) ∈ members.map Prod.fst ∨ (format.whenAbsent other).isSome)
    (absent : some (Named.name field) ∉ members.map Prod.fst)
    (needed : format.whenAbsent field = none) :
    format.decode (.object members true) = .error (.missingField (Named.name field)) := by
  have empty : ((format.slotsOf value members).orElse format.whenAbsent).firstEmpty? =
      some field := by
    refine List.find?_eq_some_iff_append.mpr ⟨?_, earlier, later, order, fun other listed => ?_⟩
    · simp only [Slots.orElse, slotsOf, absent, if_false, needed]
      rfl
    · obtain present | given := filled other listed
      · simp [Slots.orElse, slotsOf, List.mem_map.mp present]
      · simp [Slots.orElse, given]
  simp only [decode, begins.decodeMembers_eq, ok_bind, ifClosed, if_true, value_eq_error empty]

end ExamGrants.Json.RecordFormat
