import ExamGrants.Effective
import ExamGrants.Proofs.SupporterRule

namespace ExamGrants

/-! The effective privileges say what is permitted.

They merge the grants of all roles tier by tier before any level is requested, while a
decision asks role by role.  Nothing is lost by merging, since the stronger of two levels
satisfies a request exactly when one of them does.
-/

variable {entityType : EntityType} {requested : Level}

/-- The tiers that a list of effective privileges holds for a type, nothing where it has no
entry. -/
def Effective.tiersOf (entries : List Effective) (entityType : EntityType) : Tiers :=
  ((entries.find? fun entry => entry.entityType == entityType).map (·.tiers)).getD .none

theorem Level.implies_self {level : Level} (granted : level ≠ .none) :
    level.implies level = true :=
  implies_iff.mpr ⟨granted, le_refl level⟩

theorem Level.none_implies (requested : Level) : Level.none.implies requested = false := rfl

theorem Tiers.eq_none_of_not_hasAny {tiers : Tiers} (empty : tiers.hasAny = false) :
    tiers = .none := by
  simp only [hasAny, Bool.or_eq_false_iff, bne_eq_false_iff_eq] at empty
  exact Tiers.ext empty.1.1 empty.1.2 empty.2

namespace Registry

variable {registry : Registry} {roles : List Role}

/-- Merging keeps what a tier satisfies, for any tier that merging acts on by itself. -/
theorem foldl_max_implies (tier : Tiers → Level)
    (merges : ∀ first second : Tiers, tier (first.max second) = (tier first).max (tier second))
    (grants : List Grant) (start : Tiers) :
    (tier (grants.foldl (fun tiers grant => tiers.max grant.tiers) start)).implies requested =
      ((tier start).implies requested ||
        grants.any fun grant => (tier grant.tiers).implies requested) := by
  induction grants generalizing start with
  | nil => simp
  | cons grant rest ih =>
      rw [List.foldl_cons, ih, merges, Level.max_implies, List.any_cons, Bool.or_assoc]

theorem tiersFor_implies_iff (tier : Tiers → Level)
    (merges : ∀ first second : Tiers, tier (first.max second) = (tier first).max (tier second))
    (nothing : tier .none = .none) :
    (tier (registry.tiersFor roles entityType)).implies requested = true ↔
      ∃ role grant, role ∈ roles ∧ registry.find? entityType role = some grant ∧
        (tier grant.tiers).implies requested = true := by
  rw [tiersFor, foldl_max_implies tier merges, nothing, Level.none_implies, Bool.false_or]
  simp only [List.any_eq_true, mem_grantsFor]
  constructor
  · rintro ⟨grant, ⟨role, listed, found⟩, satisfied⟩
    exact ⟨role, grant, listed, found, satisfied⟩
  · rintro ⟨role, grant, listed, found, satisfied⟩
    exact ⟨grant, ⟨role, listed, found⟩, satisfied⟩

theorem mem_effective {entry : Effective} :
    entry ∈ registry.effective roles ↔
      entry.tiers = registry.tiersFor roles entry.entityType ∧ entry.tiers.hasAny = true := by
  simp only [effective, List.mem_filter, List.mem_map]
  constructor
  · rintro ⟨⟨entityType, _, rfl⟩, granted⟩
    exact ⟨rfl, granted⟩
  · rintro ⟨same, granted⟩
    exact ⟨⟨entry.entityType, EntityType.mem_all _, by rw [← same]⟩, granted⟩

/-- The entry of a type, where it is left out too, is what its grants amount to. -/
theorem tiersOf_effective (registry : Registry) (roles : List Role) (entityType : EntityType) :
    Effective.tiersOf (registry.effective roles) entityType =
      registry.tiersFor roles entityType := by
  unfold Effective.tiersOf
  cases found : (registry.effective roles).find? fun entry => entry.entityType == entityType with
  | some entry =>
      have same : entry.entityType = entityType :=
        eq_of_beq (List.find?_some (p := fun entry : Effective => entry.entityType == entityType)
          found)
      have tiers := (mem_effective.mp (List.mem_of_find?_eq_some found)).1
      rw [← same]
      exact tiers
  | none =>
      have absent := List.find?_eq_none.mp found
      have empty : (registry.tiersFor roles entityType).hasAny = false := by
        rw [← Bool.not_eq_true]
        intro granted
        have member : (⟨entityType, registry.tiersFor roles entityType⟩ : Effective) ∈
            registry.effective roles := mem_effective.mpr ⟨rfl, granted⟩
        exact absent _ member (beq_self_eq_true entityType)
      exact (Tiers.eq_none_of_not_hasAny empty).symm

end Registry

namespace Policy

variable {policy : Policy} {user : User}

/-- A request is permitted when the merged tiers permit it. -/
theorem value_permits_iff_tiersFor (entity : Entity)
    (follows : policy.FollowsTiers entity.entityType) :
    (policy.permits entity requested user).value = true ↔
      (policy.registry.tiersFor user.roles.toList entity.entityType).base.implies requested =
          true ∨
        ((policy.registry.tiersFor user.roles.toList entity.entityType).institutional.implies
            requested = true ∧ entity.isHomeOf user = true) ∨
        ((policy.registry.tiersFor user.roles.toList entity.entityType).owner.implies
            requested = true ∧ policy.sharesOwnership entity user = true) := by
  rw [value_permits_of_followsTiers follows,
    Registry.tiersFor_implies_iff Tiers.base (fun _ _ => rfl) rfl,
    Registry.tiersFor_implies_iff Tiers.institutional (fun _ _ => rfl) rfl,
    Registry.tiersFor_implies_iff Tiers.owner (fun _ _ => rfl) rfl]
  simp only [RoleSet.mem_toList, User.hasRole]
  grind

/-- What merged tiers grant, they grant on an entity that the user owns at home. -/
theorem value_permits_own (follows : policy.FollowsTiers entityType)
    (granted : (policy.registry.tiersFor user.roles.toList entityType).hasAny = true) :
    ∃ requested, (policy.permits ⟨entityType, user.institution, some user.id, []⟩ requested
      user).value = true := by
  have home : Entity.isHomeOf ⟨entityType, user.institution, some user.id, []⟩ user = true :=
    beq_self_eq_true _
  have owned : policy.sharesOwnership ⟨entityType, user.institution, some user.id, []⟩ user =
      true := by
    simp [sharesOwnership, Entity.isOwnedBy]
  simp only [value_permits_iff_tiersFor ⟨entityType, user.institution, some user.id, []⟩ follows,
    home, owned, and_true]
  simp only [Tiers.hasAny, Bool.or_eq_true, bne_iff_ne] at granted
  rcases granted with (base | institutional) | owner
  · exact ⟨_, .inl (Level.implies_self base)⟩
  · exact ⟨_, .inr (.inl (Level.implies_self institutional))⟩
  · exact ⟨_, .inr (.inr (Level.implies_self owner))⟩

/-- On a type that follows its tiers the effective privileges of the roles of a user decide
about every entity and level, and the type has no entry exactly when all is denied. -/
theorem value_permits_iff_effective (policy : Policy) (user : User) (entityType : EntityType)
    (follows : policy.FollowsTiers entityType) :
    (∀ entity requested, entity.entityType = entityType →
      ((policy.permits entity requested user).value = true ↔
        (Effective.tiersOf (policy.registry.effective user.roles.toList) entityType).base.implies
            requested = true ∨
          ((Effective.tiersOf (policy.registry.effective user.roles.toList)
              entityType).institutional.implies requested = true ∧
            entity.institution = user.institution) ∨
          ((Effective.tiersOf (policy.registry.effective user.roles.toList)
              entityType).owner.implies requested = true ∧
            (entity.owner = some user.id ∨
              (policy.rules.covers entityType = true ∧ user.id ∈ entity.supporters))))) ∧
    ((∀ entry ∈ policy.registry.effective user.roles.toList, entry.entityType ≠ entityType) ↔
      ∀ entity requested, entity.entityType = entityType →
        (policy.permits entity requested user).value = false) := by
  rw [Registry.tiersOf_effective]
  constructor
  · rintro entity requested rfl
    rw [value_permits_iff_tiersFor entity follows]
    simp only [sharesOwnership, Entity.isHomeOf, Entity.isOwnedBy, Entity.isSupportedBy,
      Bool.or_eq_true, Bool.and_eq_true, beq_iff_eq, List.contains_iff_mem,
      eq_comm (a := user.institution)]
  · constructor
    · rintro absent entity requested rfl
      have empty : (policy.registry.tiersFor user.roles.toList entity.entityType).hasAny =
          false := by
        rw [← Bool.not_eq_true]
        intro granted
        exact absent ⟨_, _⟩ (Registry.mem_effective.mpr ⟨rfl, granted⟩) rfl
      rw [← Bool.not_eq_true, value_permits_iff_tiersFor entity follows,
        Tiers.eq_none_of_not_hasAny empty]
      simp [Tiers.none, Level.none_implies]
    · intro denied entry member same
      subst same
      have granted := (Registry.mem_effective.mp member)
      obtain ⟨requested, permitted⟩ := value_permits_own follows (granted.1 ▸ granted.2)
      rw [denied _ requested rfl] at permitted
      cases permitted

/-- A supporter may modify an exam of another institution that another user owns. -/
theorem value_permits_supported_exam :
    let registry := Registry.ofGrants [⟨.exam, .examSupporter, ⟨.none, .none, .modify⟩⟩]
    let policy : Policy :=
      ⟨registry, RuleSet.empty.assign .exam (.supportersOf registry .exam)⟩
    let user : User := ⟨⟨1⟩, "ada", ⟨1⟩, .ofList [.examSupporter]⟩
    let exam : Entity := ⟨.exam, ⟨2⟩, some ⟨2⟩, [⟨1⟩]⟩
    policy.FollowsTiers .exam ∧ (policy.permits exam .modify user).value = true := by
  intro registry policy user exam
  have follows : policy.FollowsTiers .exam := by
    intro rule ruled
    exact (Option.some.inj ruled).symm
  have decides := (value_permits_iff_effective policy user .exam follows).1 exam .modify rfl
  exact ⟨follows, decides.mpr (by decide)⟩

end Policy

end ExamGrants
