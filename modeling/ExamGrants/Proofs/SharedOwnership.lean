import ExamGrants.Proofs.SupporterRule

namespace ExamGrants

/-! Supporters as owners.

The supporter rule asks a snapshot of the grants of its type.  Its answer is that of the three
tiers for the same entity, taken to be of that type and, where the user is among the
supporters, to be owned by the user.  So the owner tier is lent to supporters only through
roles that they hold themselves.
-/

variable {entityType : EntityType} {entity : Entity} {user : User} {requested : Level}
  {registry : Registry}

/-- The entity as one of the given type, owned by the user if they are among its supporters. -/
def Entity.sharedWith (entity : Entity) (entityType : EntityType) (user : User) : Entity :=
  { entity with
    entityType
    owner := if entity.isSupportedBy user then some user.id else entity.owner }

/-- Decisions by the three tiers of a registry, with no rule for any type. -/
def Registry.byTiers (registry : Registry) : Policy := ⟨registry, .empty⟩

theorem Entity.isOwnedBy_sharedWith :
    (entity.sharedWith entityType user).isOwnedBy user =
      (entity.isOwnedBy user || entity.isSupportedBy user) := by
  cases supported : entity.isSupportedBy user <;>
    simp [isOwnedBy, sharedWith, supported]

theorem Entity.sharedWith_of_not_supported (alone : user.id ∉ entity.supporters) :
    entity.sharedWith entityType user = { entity with entityType } := by
  have notSupported : entity.isSupportedBy user = false := by
    simpa [isSupportedBy] using alone
  simp only [sharedWith, notSupported, Bool.false_eq_true, if_false]

theorem Registry.value_permits_byTiers :
    (registry.byTiers.permits entity requested user).value = true ↔
      ∃ role grant, user.hasRole role = true ∧
        registry.find? entity.entityType role = some grant ∧
        grant.permits entity user requested = true := by
  have free : registry.byTiers.rules.rule? entity.entityType = none := rfl
  exact Policy.value_permits_of_no_rule free

namespace Rule

/-- The grant sees no difference between a supporter and an owner. -/
theorem permitsSupporter_eq_permits_sharedWith (grant : Grant) (entity : Entity)
    (entityType : EntityType) (user : User) (requested : Level) :
    permitsSupporter grant entity user requested =
      grant.permits (entity.sharedWith entityType user) user requested := by
  have home : grant.permitsAtHome (entity.sharedWith entityType user) user requested =
      grant.permitsAtHome entity user requested := rfl
  have owner : grant.permitsOwner (entity.sharedWith entityType user) user requested =
      (grant.permitsOwner entity user requested ||
        (entity.isSupportedBy user && grant.tiers.owner.implies requested)) := by
    rw [Grant.permitsOwner, Entity.isOwnedBy_sharedWith, Bool.and_or_distrib_left,
      Grant.permitsOwner, Bool.and_comm (entity.isSupportedBy user)]
  rw [permitsSupporter, Grant.permits, Grant.permits, home, owner, Bool.or_assoc]

/-- The rule always comes to an answer. -/
theorem value_judge_supporters (grants : List Grant) (entity : Entity) (user : User)
    (requested : Level) :
    ((supporters grants).judge entity user requested).value =
      if (decidingGrant? grants entity user requested).isSome then .permit else .deny := by
  rw [judge]
  cases decidingGrant? grants entity user requested <;> rfl

theorem judge_supportersOf_eq_permit_iff_sharedWith :
    ((supportersOf registry entityType).judge entity user requested).value = .permit ↔
      (registry.byTiers.permits (entity.sharedWith entityType user) requested user).value =
        true := by
  rw [judge_supportersOf_eq_permit_iff, Registry.value_permits_byTiers]
  simp only [permitsSupporter_eq_permits_sharedWith _ entity entityType]
  rfl

theorem isSome_decidingGrant?_grantsOf :
    (decidingGrant? (registry.grantsOf entityType) entity user requested).isSome =
      (registry.byTiers.permits (entity.sharedWith entityType user) requested user).value := by
  rw [Bool.eq_iff_iff, ← judge_supportersOf_eq_permit_iff_sharedWith, supportersOf,
    value_judge_supporters]
  cases (decidingGrant? (registry.grantsOf entityType) entity user requested).isSome <;> simp

theorem value_judge_supportersOf (registry : Registry) (entityType : EntityType)
    (entity : Entity) (user : User) (requested : Level) :
    ((supportersOf registry entityType).judge entity user requested).value =
      if (registry.byTiers.permits (entity.sharedWith entityType user) requested user).value
      then .permit else .deny := by
  rw [supportersOf, value_judge_supporters, isSome_decidingGrant?_grantsOf]

theorem judge_supportersOf_of_byTiers
    (permitted : (registry.byTiers.permits { entity with entityType } requested user).value =
      true) :
    ((supportersOf registry entityType).judge entity user requested).value = .permit := by
  obtain ⟨role, grant, held, found, reached⟩ := Registry.value_permits_byTiers.mp permitted
  have shared : permitsSupporter grant entity user requested = true :=
    Bool.or_eq_true_iff.mpr (.inl reached)
  exact judge_supportersOf_eq_permit_iff.mpr ⟨role, grant, held, found, shared⟩

/-- What the rule permits beyond the tiers it permits a supporter, by the owner tier of a role
that they hold. -/
theorem ownerTier_of_judge_supportersOf
    (judged : ((supportersOf registry entityType).judge entity user requested).value = .permit)
    (denied : (registry.byTiers.permits { entity with entityType } requested user).value =
      false) :
    user.id ∈ entity.supporters ∧
      ∃ role grant, user.hasRole role = true ∧
        registry.find? entityType role = some grant ∧
        grant.tiers.owner.implies requested = true := by
  obtain ⟨role, grant, held, found, shared⟩ := judge_supportersOf_eq_permit_iff.mp judged
  rcases Bool.or_eq_true_iff.mp shared with reached | lent
  · have permitted : (registry.byTiers.permits { entity with entityType } requested
        user).value = true :=
      Registry.value_permits_byTiers.mpr ⟨role, grant, held, found, reached⟩
    rw [denied] at permitted
    contradiction
  · obtain ⟨supported, owner⟩ := Bool.and_eq_true_iff.mp lent
    exact ⟨List.contains_iff_mem.mp supported, role, grant, held, found, owner⟩

/-- The supporter rule of a type answers for every entity, and as the three tiers answer for
the entity taken to be of that type and owned by its supporters.  It keeps what the tiers
permit, adds the owner tier of the roles of a supporter, and is the tiers for anyone else. -/
theorem supportersOf_judges_by_tiers (registry : Registry) (entityType : EntityType)
    (entity : Entity) (user : User) (requested : Level) :
    ((supportersOf registry entityType).judge entity user requested).value =
        (if (registry.byTiers.permits (entity.sharedWith entityType user) requested user).value
          then .permit else .deny) ∧
    ((registry.byTiers.permits { entity with entityType } requested user).value = true →
      ((supportersOf registry entityType).judge entity user requested).value = .permit) ∧
    (((supportersOf registry entityType).judge entity user requested).value = .permit →
      (registry.byTiers.permits { entity with entityType } requested user).value = false →
      user.id ∈ entity.supporters ∧
        ∃ role grant, user.hasRole role = true ∧
          registry.find? entityType role = some grant ∧
          grant.tiers.owner.implies requested = true) ∧
    (user.id ∉ entity.supporters →
      ((supportersOf registry entityType).judge entity user requested).value =
        if (registry.byTiers.permits { entity with entityType } requested user).value
          then .permit else .deny) := by
  refine ⟨value_judge_supportersOf _ _ _ _ _, judge_supportersOf_of_byTiers,
    ownerTier_of_judge_supportersOf, ?_⟩
  intro alone
  rw [value_judge_supportersOf, Entity.sharedWith_of_not_supported alone]

/-- A supporter of another user's certificate, under the rule for exams: the owner tier of
their own role lets them modify it, and that of a role they do not hold is not theirs. -/
theorem supportersOf_judges_supported_certificate :
    let registry := Registry.ofGrants [⟨.exam, .examAdmin, ⟨.none, .none, .write⟩⟩,
      ⟨.exam, .examSupporter, ⟨.none, .none, .modify⟩⟩]
    let rule := supportersOf registry .exam
    let ada : User := ⟨⟨1⟩, "ada", ⟨1⟩, .ofList [.examSupporter]⟩
    let owner : User := ⟨⟨2⟩, "bob", ⟨2⟩, .ofList [.examSupporter]⟩
    let entity : Entity := ⟨.certificate, ⟨2⟩, some ⟨2⟩, [⟨1⟩]⟩
    ((rule.judge entity ada .modify).value = .permit ∧
      (registry.byTiers.permits { entity with entityType := .exam } .modify ada).value = false ∧
      ∃ role grant, ada.hasRole role = true ∧ registry.find? .exam role = some grant ∧
        grant.tiers.owner.implies .modify = true) ∧
    (rule.judge entity ada .write).value = .deny ∧
    ((registry.byTiers.permits { entity with entityType := .exam } .modify owner).value = true ∧
      (rule.judge entity owner .modify).value = .permit) ∧
    (owner.id ∉ entity.supporters ∧ (rule.judge entity owner .write).value = .deny) := by
  intro registry rule ada owner entity
  obtain ⟨modifies, _, lent, _⟩ := supportersOf_judges_by_tiers registry .exam entity ada .modify
  obtain ⟨writes, _, _, _⟩ := supportersOf_judges_by_tiers registry .exam entity ada .write
  obtain ⟨_, kept, _, _⟩ := supportersOf_judges_by_tiers registry .exam entity owner .modify
  obtain ⟨_, _, _, alone⟩ := supportersOf_judges_by_tiers registry .exam entity owner .write
  have judged : (rule.judge entity ada .modify).value = .permit := modifies.trans (by decide)
  have denied : (registry.byTiers.permits { entity with entityType := .exam } .modify
      ada).value = false := by decide
  have owned : (registry.byTiers.permits { entity with entityType := .exam } .modify
      owner).value = true := by decide
  have stranger : owner.id ∉ entity.supporters := by decide
  exact ⟨⟨judged, denied, (lent judged denied).2⟩, writes.trans (by decide),
    ⟨owned, kept owned⟩, stranger, (alone stranger).trans (by decide)⟩

end Rule

end ExamGrants
