import ExamGrants.Proofs.SupporterRule

namespace ExamGrants

/-! Decisions about a whole type.

A question about a type is answered before there is an entity to look at.  The answer is yes
exactly when every entity of the type would be permitted, or every one of the own
institution.  Roles do not share the entities out between them: an entity that the user
neither owns nor supports is permitted by a base tier alone, or at home by an
institutional tier.
-/

variable {user : User} {requested : Level} {entityType : EntityType}

/-- An institution other than the given one. -/
def InstitutionId.another (institution : InstitutionId) : InstitutionId :=
  ⟨institution.number + 1⟩

theorem InstitutionId.another_ne (institution : InstitutionId) :
    institution.another ≠ institution := by
  intro same
  have number : institution.number + 1 = institution.number :=
    congrArg InstitutionId.number same
  simp at number

/-- An entity that nobody owns and nobody supports. -/
def Entity.unclaimed (entityType : EntityType) (institution : InstitutionId) : Entity :=
  { entityType, institution }

namespace Policy

variable {policy : Policy}

theorem someGrant_iff {test : Grant → Bool} :
    policy.someGrant entityType user test = true ↔
      ∃ role grant, user.hasRole role = true ∧
        policy.registry.find? entityType role = some grant ∧ test grant = true := by
  simp only [someGrant, List.any_eq_true, RoleSet.mem_toList, Option.any_eq_true, User.hasRole]
  constructor
  · rintro ⟨role, held, grant, found, passed⟩
    exact ⟨role, grant, held, found, passed⟩
  · rintro ⟨role, grant, held, found, passed⟩
    exact ⟨role, held, grant, found, passed⟩

theorem value_permits_of_permitsEverywhere {entity : Entity}
    (follows : policy.FollowsTiers entity.entityType)
    (granted : policy.permitsEverywhere entity.entityType requested user = true) :
    (policy.permits entity requested user).value = true := by
  obtain ⟨role, grant, held, found, base⟩ := someGrant_iff.mp granted
  apply (value_permits_of_followsTiers follows).mpr
  exact ⟨role, grant, held, found, .inl base⟩

theorem value_permits_of_permitsAtHome {entity : Entity}
    (follows : policy.FollowsTiers entity.entityType)
    (home : entity.institution = user.institution)
    (granted : policy.permitsAtHome entity.entityType requested user = true) :
    (policy.permits entity requested user).value = true := by
  obtain ⟨role, grant, held, found, reached⟩ := someGrant_iff.mp granted
  have isHome : entity.isHomeOf user = true := by simp [Entity.isHomeOf, home]
  apply (value_permits_of_followsTiers follows).mpr
  rcases Bool.or_eq_true_iff.mp reached with base | institutional
  · exact ⟨role, grant, held, found, .inl base⟩
  · exact ⟨role, grant, held, found, .inr (.inl ⟨institutional, isHome⟩)⟩

/-- The owner tier has no part in what permits an unclaimed entity. -/
theorem grant_of_value_permits_unclaimed {institution : InstitutionId}
    (follows : policy.FollowsTiers entityType)
    (permitted : (policy.permits (.unclaimed entityType institution) requested user).value =
      true) :
    ∃ role grant, user.hasRole role = true ∧
      policy.registry.find? entityType role = some grant ∧
      (grant.tiers.base.implies requested = true ∨
        (grant.tiers.institutional.implies requested = true ∧
          user.institution = institution)) := by
  have unclaimed : policy.sharesOwnership (.unclaimed entityType institution) user = false := by
    simp [Entity.unclaimed, sharesOwnership, Entity.isOwnedBy, Entity.isSupportedBy]
  have onType : policy.FollowsTiers (Entity.unclaimed entityType institution).entityType :=
    follows
  obtain ⟨role, grant, held, found, reached⟩ :=
    (value_permits_of_followsTiers onType).mp permitted
  refine ⟨role, grant, held, found, ?_⟩
  rcases reached with base | ⟨institutional, home⟩ | ⟨_, owned⟩
  · exact .inl base
  · exact .inr ⟨institutional, eq_of_beq home⟩
  · rw [unclaimed] at owned
    contradiction

theorem permitsEverywhere_of_unclaimed (follows : policy.FollowsTiers entityType)
    (permitted : (policy.permits (.unclaimed entityType user.institution.another) requested
      user).value = true) :
    policy.permitsEverywhere entityType requested user = true := by
  obtain ⟨role, grant, held, found, reached⟩ :=
    grant_of_value_permits_unclaimed follows permitted
  apply someGrant_iff.mpr
  rcases reached with base | ⟨_, abroad⟩
  · exact ⟨role, grant, held, found, base⟩
  · exact absurd abroad.symm user.institution.another_ne

theorem permitsAtHome_of_unclaimed (follows : policy.FollowsTiers entityType)
    (permitted : (policy.permits (.unclaimed entityType user.institution) requested
      user).value = true) :
    policy.permitsAtHome entityType requested user = true := by
  obtain ⟨role, grant, held, found, reached⟩ :=
    grant_of_value_permits_unclaimed follows permitted
  apply someGrant_iff.mpr
  refine ⟨role, grant, held, found, Bool.or_eq_true_iff.mpr ?_⟩
  rcases reached with base | ⟨institutional, _⟩
  · exact .inl base
  · exact .inr institutional

/-- On a type that follows its tiers the user is permitted everywhere, or at home, exactly
when every entity of the type is permitted, or every one of their institution. -/
theorem permitsForType_iff_forall_entity (policy : Policy) (user : User)
    (entityType : EntityType) (requested : Level) (follows : policy.FollowsTiers entityType) :
    (policy.permitsEverywhere entityType requested user = true ↔
      ∀ entity : Entity, entity.entityType = entityType →
        (policy.permits entity requested user).value = true) ∧
    (policy.permitsAtHome entityType requested user = true ↔
      ∀ entity : Entity, entity.entityType = entityType →
        entity.institution = user.institution →
        (policy.permits entity requested user).value = true) := by
  constructor
  · constructor
    · intro granted entity same
      subst same
      exact value_permits_of_permitsEverywhere follows granted
    · intro permitted
      exact permitsEverywhere_of_unclaimed follows (permitted _ rfl)
  · constructor
    · intro granted entity same home
      subst same
      exact value_permits_of_permitsAtHome follows home granted
    · intro permitted
      exact permitsAtHome_of_unclaimed follows (permitted _ rfl rfl)

/-- The institutional grant of one role permits every exam at home.  The owner grant of
another, which reaches the supported exams everywhere, does not make it every exam. -/
theorem permitsForType_supported_exams :
    let registry := Registry.ofGrants [⟨.exam, .examAdmin, ⟨.none, .modify, .none⟩⟩,
      ⟨.exam, .examSupporter, ⟨.none, .none, .write⟩⟩]
    let policy : Policy :=
      ⟨registry, RuleSet.empty.assign .exam (.supportersOf registry .exam)⟩
    let user : User := ⟨⟨1⟩, "ada", ⟨1⟩, .ofList [.examAdmin, .examSupporter]⟩
    policy.FollowsTiers .exam ∧
      (∀ entity : Entity, entity.entityType = .exam → entity.institution = user.institution →
        (policy.permits entity .modify user).value = true) ∧
      ¬ ∀ entity : Entity, entity.entityType = .exam →
        (policy.permits entity .modify user).value = true := by
  intro registry policy user
  have follows : policy.FollowsTiers .exam := by
    intro rule ruled
    exact (Option.some.inj ruled).symm
  have decides := permitsForType_iff_forall_entity policy user .exam .modify follows
  refine ⟨follows, decides.2.mp (by decide), ?_⟩
  intro all
  exact absurd (decides.1.mpr all) (by decide)

end Policy

end ExamGrants
