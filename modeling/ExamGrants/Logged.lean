import ExamGrants.Event

namespace ExamGrants

/-! Values together with what was recorded on the way to them. -/

/-- A value and the entries of the audit trail, in order. -/
@[ext] structure Logged (α : Type) where
  value : α
  /-- What was recorded on the way to the value. -/
  events : List Event := []

namespace Logged

variable {α β : Type}

instance : Monad Logged where
  pure value := ⟨value, []⟩
  bind first next :=
    let second := next first.value
    ⟨second.value, first.events ++ second.events⟩

def record (event : Event) : Logged Unit := ⟨(), [event]⟩

/-- The members that pass a test, with everything recorded by testing each once, in order. -/
def filter (test : α → Logged Bool) : List α → Logged (List α)
  | [] => pure []
  | member :: rest => do
      let kept ← test member
      let others ← filter test rest
      pure (if kept then member :: others else others)

@[simp] theorem value_pure (value : α) : (pure value : Logged α).value = value := rfl

@[simp] theorem events_pure (value : α) : (pure value : Logged α).events = [] := rfl

@[simp] theorem value_bind (first : Logged α) (next : α → Logged β) :
    (first >>= next).value = (next first.value).value := rfl

@[simp] theorem events_bind (first : Logged α) (next : α → Logged β) :
    (first >>= next).events = first.events ++ (next first.value).events := rfl

@[simp] theorem value_map (f : α → β) (logged : Logged α) :
    (f <$> logged).value = f logged.value := rfl

@[simp] theorem events_map (f : α → β) (logged : Logged α) :
    (f <$> logged).events = logged.events := by
  change logged.events ++ [] = logged.events
  simp

/-- The members kept are those whose test succeeds. -/
theorem value_filter (test : α → Logged Bool) (members : List α) :
    (filter test members).value = members.filter fun member => (test member).value := by
  induction members with
  | nil => rfl
  | cons member rest ih =>
      simp only [filter, value_bind, value_pure, List.filter_cons, ih]

/-- Filtering records what testing each member records, in order. -/
theorem events_filter (test : α → Logged Bool) (members : List α) :
    (filter test members).events = members.flatMap fun member => (test member).events := by
  induction members with
  | nil => rfl
  | cons member rest ih =>
      simp [filter, ih]

end Logged

end ExamGrants
