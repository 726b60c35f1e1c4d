import ExamGrants.Policy.Filter
import ExamGrants.Proofs.Decision

namespace ExamGrants

/-! Filters decide as the policy does.

A filter looks up grants and rule before it sees an entity.  What it keeps of a list is
nevertheless what the policy permits one by one, whatever type it was prepared for.
-/

/-- The grants that a filter has looked up permit what the roles of the user permit. -/
theorem Policy.any_grantsFor_eq_isSome_decidingRole? (policy : Policy) (entity : Entity)
    (user : User) (requested : Level) :
    ((policy.registry.grantsFor entity.entityType user.roles.toList).any fun grant =>
        grant.permits entity user requested) =
      (policy.decidingRole? entity user requested).isSome := by
  rw [Bool.eq_iff_iff]
  simp only [decidingRole?, List.find?_isSome, List.any_eq_true, Option.any_eq_true,
    Registry.mem_grantsFor]
  constructor
  · rintro ⟨grant, ⟨role, held, found⟩, permitted⟩
    exact ⟨role, held, grant, found, permitted⟩
  · rintro ⟨role, held, grant, found, permitted⟩
    exact ⟨grant, ⟨role, held, found⟩, permitted⟩

/-- A filter accepts what the policy permits, prepared for the type or not. -/
theorem Policy.value_accepts_filterFor (policy : Policy) (entityType : EntityType)
    (requested : Level) (user : User) (entity : Entity) :
    ((policy.filterFor entityType requested user).accepts entity).value =
      (policy.permits entity requested user).value := by
  by_cases own : entity.entityType = entityType
  · subst own
    cases ruled : policy.rules.rule? entity.entityType with
    | some rule => simp [Filter.accepts, filterFor, permits, ruled]
    | none =>
        simp only [Filter.accepts, filterFor, permits, ruled, if_true, Logged.value_pure,
          value_permitsByTiers, any_grantsFor_eq_isSome_decidingRole?]
  · simp [Filter.accepts, filterFor, own]

/-- A rule that raises a problem or breaks off permits nothing. -/
theorem Policy.value_permits_of_failure {policy : Policy} {entity : Entity} {user : User}
    {requested : Level} {rule : Rule}
    (ruled : policy.rules.rule? entity.entityType = some rule)
    (failure : (rule.judge entity user requested).value = .panicked ∨
      ∃ problem, (rule.judge entity user requested).value = .failed problem) :
    (policy.permits entity requested user).value = false := by
  rw [← Bool.not_eq_true, value_permits_of_rule ruled]
  rcases failure with panicked | ⟨problem, failed⟩
  · simp [panicked]
  · simp [failed]

/-- Filtering keeps, in their order and number, the items that the policy permits.  So the
type of the filter makes no difference, and an item on which a rule fails is lost alone. -/
theorem Policy.value_select_filterFor {α : Type} (policy : Policy) (requested : Level)
    (user : User) (entityOf : α → Entity) (entityType : EntityType) :
    (∀ items, ((policy.filterFor entityType requested user).select entityOf items).value =
      items.filter fun item => (policy.permits (entityOf item) requested user).value) ∧
    (∀ other items, ((policy.filterFor entityType requested user).select entityOf items).value =
      ((policy.filterFor other requested user).select entityOf items).value) ∧
    (∀ before item after rule,
      policy.rules.rule? (entityOf item).entityType = some rule →
      ((rule.judge (entityOf item) user requested).value = .panicked ∨
        ∃ problem, (rule.judge (entityOf item) user requested).value = .failed problem) →
      ((policy.filterFor entityType requested user).select entityOf
          (before ++ item :: after)).value =
        ((policy.filterFor entityType requested user).select entityOf before).value ++
          ((policy.filterFor entityType requested user).select entityOf after).value) := by
  have kept : ∀ prepared items,
      ((policy.filterFor prepared requested user).select entityOf items).value =
        items.filter fun item => (policy.permits (entityOf item) requested user).value := by
    intro prepared items
    rw [Filter.value_select]
    simp only [value_accepts_filterFor]
  refine ⟨kept entityType, ?_, ?_⟩
  · intro other items
    rw [kept entityType, kept other]
  · intro before item after rule ruled failure
    have lost := value_permits_of_failure ruled failure
    simp only [kept, List.filter_append, List.filter_cons, lost, Bool.false_eq_true, if_false]

/-- A rule that breaks off on an owned exam costs the list that exam only. -/
theorem Policy.value_select_past_broken_rule :
    let rule : Rule := .custom fun entity _ _ =>
      if entity.owner.isSome then .panicked else .permit
    let policy : Policy := ⟨.empty, RuleSet.empty.assign .exam rule⟩
    let user : User := ⟨⟨1⟩, "ada", ⟨1⟩, .ofList [.examAdmin]⟩
    let owned : Entity := { entityType := .exam, institution := ⟨1⟩, owner := some ⟨2⟩ }
    let unowned : Entity := { entityType := .exam, institution := ⟨2⟩ }
    (rule.judge owned user .modify).value = .panicked ∧
      ((policy.filterFor .user .modify user).select id [unowned, owned, unowned]).value =
        [unowned, unowned] := by
  intro rule policy user owned unowned
  have panicked : (rule.judge owned user .modify).value = .panicked := rfl
  have others := (value_select_filterFor policy .modify user id .user).2.2 [unowned] owned
    [unowned] rule rfl (.inl panicked)
  exact ⟨panicked, others.trans rfl⟩

end ExamGrants
