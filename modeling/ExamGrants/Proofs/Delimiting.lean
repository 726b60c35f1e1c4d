import Mathlib.Data.List.TakeWhile
import Mathlib.Logic.Function.Basic

namespace ExamGrants

/-! Texts in which every value can be told where it stands.

A way of writing delimits values when a text that begins with a written value tells which value
that is and where it ends, as long as no reserved character comes next (`Text.Delimits`).  Such
values can be written one after the other (`Text.Delimits.list`).
-/

namespace Text

/-- The text does not begin with a reserved character. -/
def StartsOutside (reserved : Char → Bool) (cs : List Char) : Prop :=
  ∀ c, cs.head? = some c → reserved c = false

/-- Where no reserved character follows, a written value is told from all others, and from what
follows it. -/
def Delimits {α : Type} (write : α → List Char) (reserved : Char → Bool) : Prop :=
  ∀ ⦃first second : α⦄ ⦃rest others : List Char⦄, StartsOutside reserved rest →
    StartsOutside reserved others → write first ++ rest = write second ++ others →
      first = second ∧ rest = others

variable {α : Type} {write : α → List Char} {reserved next : Char → Bool}

theorem startsOutside_nil : StartsOutside reserved [] := by
  intro c starts
  cases starts

theorem startsOutside_cons {c : Char} (free : reserved c = false) (rest : List Char) :
    StartsOutside reserved (c :: rest) := by
  intro other starts
  rw [← Option.some.inj starts]
  exact free

theorem startsOutside_mark {mark : String} (free : mark.toList.head?.map reserved = some false)
    (rest : List Char) : StartsOutside reserved (mark.toList ++ rest) := by
  obtain ⟨c, starts, outside⟩ := Option.map_eq_some_iff.mp free
  obtain ⟨more, parts⟩ := List.head?_eq_some_iff.mp starts
  rw [parts]
  exact startsOutside_cons outside _

theorem takeWhile_append_of_startsOutside {cs rest : List Char}
    (each : ∀ c ∈ cs, reserved c = true) (ends : StartsOutside reserved rest) :
    (cs ++ rest).takeWhile reserved = cs := by
  rw [List.takeWhile_append_of_pos each]
  cases rest with
  | nil => simp
  | cons c rest => simp [ends c rfl]

theorem append_inj_of_startsOutside {first second rest others : List Char}
    (firstReserved : ∀ c ∈ first, reserved c = true)
    (secondReserved : ∀ c ∈ second, reserved c = true)
    (ends : StartsOutside reserved rest) (otherEnds : StartsOutside reserved others)
    (same : first ++ rest = second ++ others) : first = second ∧ rest = others := by
  have written : first = second := by
    rw [← takeWhile_append_of_startsOutside firstReserved ends, same,
      takeWhile_append_of_startsOutside secondReserved otherEnds]
  subst written
  exact ⟨rfl, List.append_cancel_left same⟩

/-- Values that are written with reserved characters only end before any other character. -/
theorem delimits_of_forall_mem (injective : Function.Injective write)
    (each : ∀ value, ∀ c ∈ write value, reserved c = true) : Delimits write reserved := by
  intro first second rest others ends otherEnds same
  obtain ⟨written, following⟩ :=
    append_inj_of_startsOutside (each first) (each second) ends otherEnds same
  exact ⟨injective written, following⟩

theorem Delimits.after (delimits : Delimits write reserved) (mark : List Char) :
    Delimits (fun value => mark ++ write value) reserved := by
  intro first second rest others ends otherEnds same
  simp only [List.append_assoc] at same
  exact delimits ends otherEnds (List.append_cancel_left same)

/-- What is written for a value begins with one of the characters, and not with a reserved one. -/
def Begins (write : α → List Char) (reserved next : Char → Bool) : Prop :=
  ∀ value, ∃ c rest, write value = c :: rest ∧ reserved c = false ∧ next c = true

theorem Begins.startsOutside_flatMap (begins : Begins write reserved next) (values : List α)
    {rest : List Char} (outside : StartsOutside (fun c => reserved c || next c) rest) :
    StartsOutside reserved (values.flatMap write ++ rest) := by
  cases values with
  | nil => exact fun c starts => (Bool.or_eq_false_iff.mp (outside c starts)).1
  | cons value values =>
      obtain ⟨c, more, written, free, _⟩ := begins value
      simp only [List.flatMap_cons, written, List.cons_append]
      exact startsOutside_cons free _

/-- A value cannot stand where a list of values is said to have ended. -/
theorem Begins.ne_append (begins : Begins write reserved next) (value : α) {cs rest : List Char}
    (outside : StartsOutside (fun c => reserved c || next c) rest) : rest ≠ write value ++ cs := by
  intro same
  obtain ⟨c, more, written, _, isNext⟩ := begins value
  have free := outside c (by rw [same, written]; rfl)
  rw [(Bool.or_eq_false_iff.mp free).2] at isNext
  cases isNext

/-- Written one after the other, values are told apart by the characters that they begin with. -/
theorem Delimits.list (delimits : Delimits write reserved) (begins : Begins write reserved next) :
    Delimits (List.flatMap write) fun c => reserved c || next c := by
  intro first second rest others ends otherEnds same
  induction first generalizing second with
  | nil =>
      cases second with
      | nil => exact ⟨rfl, same⟩
      | cons value values =>
          rw [List.flatMap_cons, List.append_assoc] at same
          exact absurd same (begins.ne_append value ends)
  | cons value values ih =>
      cases second with
      | nil =>
          rw [List.flatMap_cons, List.append_assoc] at same
          exact absurd same.symm (begins.ne_append value otherEnds)
      | cons other more =>
          simp only [List.flatMap_cons, List.append_assoc] at same
          obtain ⟨rfl, following⟩ := delimits (begins.startsOutside_flatMap values ends)
            (begins.startsOutside_flatMap more otherEnds) same
          obtain ⟨rfl, afterwards⟩ := ih following
          exact ⟨rfl, afterwards⟩

end Text

end ExamGrants
