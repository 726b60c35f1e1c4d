namespace ExamGrants

/-! Finite kinds of things that are stored by name.

Entity types, roles, levels and the fields of a record are all of this sort: a
closed list in declaration order and one storage name for each member.  Names are
injective, so looking a name up is inverse to naming (`ofName?_eq_some_iff`).
-/

/-- A finite kind of thing whose members have storage names. -/
class Named (α : Type) where
  /-- What a diagnosis calls a member. -/
  kind : String
  /-- The members in declaration order. -/
  all : List α
  /-- The storage name of a member. -/
  name : α → String
  mem_all : ∀ member, member ∈ all
  name_injective : ∀ {first second}, name first = name second → first = second

namespace Named

variable {α : Type} [Named α]

/-- The storage names in declaration order. -/
def names (α : Type) [Named α] : List String :=
  (all : List α).map name

/-- The member with exactly this storage name. -/
def ofName? (text : String) : Option α :=
  all.find? fun member => name member == text

/-- The place of a member in declaration order, counted from zero. -/
def position [DecidableEq α] (member : α) : Nat :=
  all.idxOf member

/-- The storage name with its words run together, each with a capital initial. -/
def title (member : α) : String :=
  String.ofList (((name member).toList.splitOn '_').flatMap (List.modifyHead Char.toUpper))

theorem ofName?_eq_some_iff {text : String} {member : α} :
    ofName? text = some member ↔ text = name member := by
  constructor
  · intro found
    have same := List.find?_some found
    exact (eq_of_beq same).symm
  · rintro rfl
    unfold ofName?
    cases found : (all : List α).find? (fun other => name other == name member) with
    | none =>
        have differs := List.find?_eq_none.mp found member (mem_all member)
        simp at differs
    | some other =>
        have same := List.find?_some found
        exact congrArg some (name_injective (eq_of_beq same))

@[simp] theorem ofName?_name (member : α) : ofName? (name member) = some member :=
  ofName?_eq_some_iff.mpr rfl

theorem position_injective [DecidableEq α] {first second : α}
    (same : position first = position second) : first = second := by
  have firstAt := List.getElem_idxOf (List.idxOf_lt_length_of_mem (mem_all first))
  have secondAt := List.getElem_idxOf (List.idxOf_lt_length_of_mem (mem_all second))
  simp only [position] at same
  rw [← firstAt, ← secondAt]
  simp only [same]

end Named

end ExamGrants
