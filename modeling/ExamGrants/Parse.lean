import ExamGrants.Problem
import ExamGrants.Text.Blank

namespace ExamGrants

/-! Names and user ids as people type them: blanks around them do not count. -/

/-- The member of a kind of things that a text names. -/
def Named.parse {α : Type} [Named α] (text : String) : Except Problem α :=
  match Named.ofName? (Text.trim text) with
  | some member => .ok member
  | none => .error (.unknownName (Named.kind α) text)

/-- The user id that a text spells. -/
def UserId.parse (text : String) : Except Problem UserId :=
  match UserId.ofText? (Text.trim text) with
  | some id => .ok id
  | none => .error (.badUserId text)

/-- A text names a member exactly when its trimmed form is the storage name. -/
theorem Named.parse_eq_ok_iff {α : Type} [Named α] {text : String} {member : α} :
    Named.parse text = .ok member ↔ Text.trim text = Named.name member := by
  unfold Named.parse
  rw [← Named.ofName?_eq_some_iff]
  cases Named.ofName? (α := α) (Text.trim text) <;> simp

/-- A text that names no member is quoted as it was typed. -/
theorem Named.parse_eq_error_iff {α : Type} [Named α] {text : String}
    {problem : Problem} :
    (Named.parse text : Except Problem α) = .error problem ↔
      (∀ member : α, Text.trim text ≠ Named.name member) ∧
        problem = .unknownName (Named.kind α) text := by
  simp only [ne_eq, ← Named.ofName?_eq_some_iff, ← Option.eq_none_iff_forall_ne_some]
  unfold Named.parse
  cases Named.ofName? (α := α) (Text.trim text) <;> simp [eq_comm]

end ExamGrants
