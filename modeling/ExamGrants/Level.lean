import ExamGrants.Named

namespace ExamGrants

/-! The strength of a privilege.

Levels are ordered `none < readOnly < modify < write`.  A level implies the weaker
ones, but `none` stands outside: it neither satisfies a request nor can it be
requested with success (`implies_iff`).
-/

/-- How much a privilege allows. -/
inductive Level where
  | none
  /-- Viewing an entity. -/
  | readOnly
  /-- Viewing and editing an existing entity. -/
  | modify
  /-- Creating and deleting entities as well. -/
  | write
deriving DecidableEq, Repr

namespace Level

def name : Level → String
  | .none => "none"
  | .readOnly => "read_only"
  | .modify => "modify"
  | .write => "write"

def all : List Level := [.none, .readOnly, .modify, .write]

theorem mem_all (level : Level) : level ∈ all := by
  cases level <;> decide

theorem name_injective {first second : Level} (same : first.name = second.name) :
    first = second := by
  have distinct : ∀ a ∈ all, ∀ b ∈ all, a.name = b.name → a = b := by decide
  exact distinct first (mem_all first) second (mem_all second) same

instance : Named Level where
  kind := "privilege level"
  all := all
  name := name
  mem_all := mem_all
  name_injective := name_injective

/-- The strength of a level as a number. -/
def rank : Level → Nat
  | .none => 0
  | .readOnly => 1
  | .modify => 2
  | .write => 3

theorem rank_injective {first second : Level} (same : first.rank = second.rank) :
    first = second := by
  cases first <;> cases second <;> first | rfl | cases same

instance : LE Level := ⟨fun weaker stronger => weaker.rank ≤ stronger.rank⟩

instance (weaker stronger : Level) : Decidable (weaker ≤ stronger) :=
  inferInstanceAs (Decidable (weaker.rank ≤ stronger.rank))

/-- The stronger of two levels. -/
def max (first second : Level) : Level :=
  if first ≤ second then second else first

/-- Whether holding `held` satisfies a request for `requested`. -/
def implies (held requested : Level) : Bool :=
  held != .none && requested != .none && decide (requested ≤ held)

theorem le_refl (level : Level) : level ≤ level := Nat.le_refl _

theorem le_trans {first second third : Level} (lower : first ≤ second)
    (upper : second ≤ third) : first ≤ third :=
  Nat.le_trans lower upper

theorem le_antisymm {first second : Level} (lower : first ≤ second)
    (upper : second ≤ first) : first = second :=
  rank_injective (Nat.le_antisymm lower upper)

/-- A request is satisfied by the levels from it upwards, a request for `none` by none. -/
theorem implies_iff {held requested : Level} :
    held.implies requested = true ↔ requested ≠ .none ∧ requested ≤ held := by
  cases held <;> cases requested <;> decide

/-- The stronger of two levels satisfies what either of them satisfies. -/
theorem max_implies (first second requested : Level) :
    (first.max second).implies requested =
      (first.implies requested || second.implies requested) := by
  cases first <;> cases second <;> cases requested <;> rfl

end Level

end ExamGrants
