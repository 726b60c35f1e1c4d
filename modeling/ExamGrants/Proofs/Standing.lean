import ExamGrants.Proofs.SupporterRule

namespace ExamGrants

/-! Decisions as a function of held tiers.

Where a type follows its tiers, a decision comes down to three things: the tiers of the
roles that the user holds, the request, and how the user stands to the entity.  Questions
about the whole type are the same function for a user who stands to no entity in particular.
Comparing two decisions then never looks into the registry or the rule again.
-/

variable {registry : Registry} {entityType : EntityType} {entity : Entity} {user : User}
  {requested : Level}

/-- How a user stands to an entity, as far as tiers ask. -/
@[ext] structure Standing where
  /-- The entity belongs to the institution of the user. -/
  home : Bool := false
  /-- The user has the rights of the owner. -/
  owning : Bool := false

def Tiers.permit (tiers : Tiers) (standing : Standing) (requested : Level) : Bool :=
  tiers.base.implies requested || (tiers.institutional.implies requested && standing.home) ||
    (tiers.owner.implies requested && standing.owning)

theorem Tiers.none_permit (standing : Standing) :
    Tiers.none.permit standing requested = false := rfl

theorem Tiers.permit_iff {tiers : Tiers} {standing : Standing} :
    tiers.permit standing requested = true ↔
      tiers.base.implies requested = true ∨
        (tiers.institutional.implies requested = true ∧ standing.home = true) ∨
        (tiers.owner.implies requested = true ∧ standing.owning = true) := by
  simp only [permit, Bool.or_eq_true, Bool.and_eq_true, or_assoc]

theorem Entity.isHomeOf_iff :
    entity.isHomeOf user = true ↔ user.institution = entity.institution := by
  rw [isHomeOf, beq_iff_eq]

namespace Registry

/-- Whether the tiers of a held role permit the request in this standing. -/
def permit (registry : Registry) (entityType : EntityType) (roles : RoleSet)
    (standing : Standing) (requested : Level) : Bool :=
  roles.toList.any fun role => (registry.get entityType role).tiers.permit standing requested

theorem permit_iff {roles : RoleSet} {standing : Standing} :
    registry.permit entityType roles standing requested = true ↔
      ∃ role, roles.has role = true ∧
        (registry.get entityType role).tiers.permit standing requested = true := by
  simp only [permit, List.any_eq_true, RoleSet.mem_toList]

/-- A missing row permits as little as a row of nothing. -/
theorem get_permit (registry : Registry) (entityType : EntityType) (role : Role)
    (standing : Standing) (requested : Level) :
    (registry.get entityType role).tiers.permit standing requested =
      (registry.find? entityType role).any fun grant =>
        grant.tiers.permit standing requested := by
  unfold get
  cases found : registry.find? entityType role with
  | none => exact Tiers.none_permit standing
  | some grant => rfl

end Registry

namespace Policy

variable {policy : Policy}

/-- No rule replaces the tiers of the type. -/
def RuleFree (policy : Policy) (entityType : EntityType) : Prop :=
  policy.rules.rule? entityType = none

/-- The type has the supporter rule over the registry of the policy itself. -/
def UnderSupporterRule (policy : Policy) (entityType : EntityType) : Prop :=
  policy.rules.rule? entityType = some (.supportersOf policy.registry entityType)

theorem RuleFree.followsTiers (free : policy.RuleFree entityType) :
    policy.FollowsTiers entityType := by
  intro rule ruled
  rw [free] at ruled
  contradiction

theorem UnderSupporterRule.followsTiers (ruled : policy.UnderSupporterRule entityType) :
    policy.FollowsTiers entityType := by
  intro rule other
  rw [ruled] at other
  exact (Option.some.inj other).symm

/-- A policy whose only rule is the supporter rule for one type follows its tiers. -/
theorem followsTiers_assign (registry : Registry) (supported entityType : EntityType) :
    (Policy.mk registry (RuleSet.empty.assign supported
      (.supportersOf registry supported))).FollowsTiers entityType := by
  intro rule ruled
  rw [RuleSet.rule?_assign] at ruled
  split at ruled
  · next same =>
      rw [same]
      exact (Option.some.inj ruled).symm
  · contradiction

theorem RuleFree.covers (free : policy.RuleFree entityType) :
    policy.rules.covers entityType = false := by
  rw [RuleSet.covers, free, Option.isSome_none]

theorem UnderSupporterRule.covers (ruled : policy.UnderSupporterRule entityType) :
    policy.rules.covers entityType = true := by
  rw [RuleSet.covers, ruled, Option.isSome_some]

theorem sharesOwnership_iff :
    policy.sharesOwnership entity user = true ↔
      entity.owner = some user.id ∨
        (policy.rules.covers entity.entityType = true ∧ user.id ∈ entity.supporters) := by
  simp only [sharesOwnership, Entity.isOwnedBy, Entity.isSupportedBy, Bool.or_eq_true,
    Bool.and_eq_true, beq_iff_eq, List.contains_iff_mem]

/-- How the user stands to the entity under the rules of the policy. -/
def standing (policy : Policy) (entity : Entity) (user : User) : Standing where
  home := entity.isHomeOf user
  owning := policy.sharesOwnership entity user

theorem value_permits_eq_permit (follows : policy.FollowsTiers entity.entityType) :
    (policy.permits entity requested user).value =
      policy.registry.permit entity.entityType user.roles (policy.standing entity user)
        requested := by
  rw [Bool.eq_iff_iff, value_permits_of_followsTiers follows, Registry.permit_iff]
  simp only [Registry.get_permit, Option.any_eq_true, Tiers.permit_iff, standing, User.hasRole,
    exists_and_left]

theorem permitsEverywhere_eq_permit (policy : Policy) (entityType : EntityType)
    (requested : Level) (user : User) :
    policy.permitsEverywhere entityType requested user =
      policy.registry.permit entityType user.roles {} requested := by
  simp only [Registry.permit, Registry.get_permit]
  simp only [permitsEverywhere, someGrant, Tiers.permit, Grant.permitsEverywhere,
    Bool.and_false, Bool.or_false]

theorem permitsAtHome_eq_permit (policy : Policy) (entityType : EntityType)
    (requested : Level) (user : User) :
    policy.permitsAtHome entityType requested user =
      policy.registry.permit entityType user.roles { home := true } requested := by
  simp only [Registry.permit, Registry.get_permit]
  simp only [permitsAtHome, someGrant, Tiers.permit, Grant.permitsEverywhere, Bool.and_true,
    Bool.and_false, Bool.or_false]

end Policy

end ExamGrants
