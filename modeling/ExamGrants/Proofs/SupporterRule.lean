import ExamGrants.Proofs.Decision

namespace ExamGrants

/-! The supporter rule as a fourth circumstance of the tiers.

The rule keeps the grants of its type and asks each of them; a decision without rules asks
the roles of the user.  Both find the same grants, so a type that has no rule or only the
supporter rule is decided by its tiers (`value_permits_of_followsTiers`).
-/

variable {entity : Entity} {user : User} {requested : Level} {entityType : EntityType}

/-- The rule finds the registered grants of the roles of the user. -/
theorem Rule.judge_supportersOf_eq_permit_iff {registry : Registry} :
    ((supportersOf registry entityType).judge entity user requested).value = .permit ↔
      ∃ role grant, user.hasRole role = true ∧
        registry.find? entityType role = some grant ∧
        permitsSupporter grant entity user requested = true := by
  have decided : ((supportersOf registry entityType).judge entity user requested).value =
      .permit ↔
        (decidingGrant? (registry.grantsOf entityType) entity user requested).isSome = true := by
    simp only [supportersOf, judge]
    cases decidingGrant? (registry.grantsOf entityType) entity user requested <;> simp
  rw [decided, decidingGrant?, List.find?_isSome]
  simp only [List.mem_filter, Registry.grantsOf, Registry.mem_grantsFor]
  constructor
  · rintro ⟨grant, ⟨⟨role, _, found⟩, held⟩, permitted⟩
    have same : grant.role = role := congrArg Prod.snd (Registry.key_of_find? found)
    exact ⟨role, grant, same ▸ held, found, permitted⟩
  · rintro ⟨role, grant, held, found, permitted⟩
    have same : grant.role = role := congrArg Prod.snd (Registry.key_of_find? found)
    exact ⟨grant, ⟨⟨role, Role.mem_all role, found⟩, same ▸ held⟩, permitted⟩

theorem Rule.permitsSupporter_iff {grant : Grant} :
    permitsSupporter grant entity user requested = true ↔
      grant.tiers.base.implies requested = true ∨
        (grant.tiers.institutional.implies requested = true ∧ entity.isHomeOf user = true) ∨
        (grant.tiers.owner.implies requested = true ∧
          (entity.isOwnedBy user = true ∨ entity.isSupportedBy user = true)) := by
  simp only [permitsSupporter, Grant.permits, Grant.permitsEverywhere, Grant.permitsAtHome,
    Grant.permitsOwner, Bool.or_eq_true, Bool.and_eq_true]
  grind

namespace Policy

/-- The type has no rule, or the supporter rule over the grants of the policy itself. -/
def FollowsTiers (policy : Policy) (entityType : EntityType) : Prop :=
  ∀ rule, policy.rules.rule? entityType = some rule →
    rule = .supportersOf policy.registry entityType

/-- Whether the owner tier applies: to the owner, and under a rule to the supporters too. -/
def sharesOwnership (policy : Policy) (entity : Entity) (user : User) : Bool :=
  entity.isOwnedBy user ||
    (policy.rules.covers entity.entityType && entity.isSupportedBy user)

variable {policy : Policy}

theorem value_permits_of_followsTiers (follows : policy.FollowsTiers entity.entityType) :
    (policy.permits entity requested user).value = true ↔
      ∃ role grant, user.hasRole role = true ∧
        policy.registry.find? entity.entityType role = some grant ∧
        (grant.tiers.base.implies requested = true ∨
          (grant.tiers.institutional.implies requested = true ∧ entity.isHomeOf user = true) ∨
          (grant.tiers.owner.implies requested = true ∧
            policy.sharesOwnership entity user = true)) := by
  cases ruled : policy.rules.rule? entity.entityType with
  | none =>
      rw [value_permits_of_no_rule ruled]
      simp only [sharesOwnership, RuleSet.covers, ruled, Option.isSome_none, Bool.false_and,
        Bool.or_false, Grant.permits, Grant.permitsEverywhere, Grant.permitsAtHome,
        Grant.permitsOwner, Bool.or_eq_true, Bool.and_eq_true, or_assoc]
  | some rule =>
      rw [value_permits_of_rule ruled, follows rule ruled,
        Rule.judge_supportersOf_eq_permit_iff]
      simp only [sharesOwnership, RuleSet.covers, ruled, Option.isSome_some, Bool.true_and,
        Bool.or_eq_true, Rule.permitsSupporter_iff]

end Policy

end ExamGrants
