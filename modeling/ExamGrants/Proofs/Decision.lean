import ExamGrants.Policy

namespace ExamGrants

/-! Who is permitted what.

A decision is read back into the table it rests on.  With a custom rule for the type of
the entity only a permit of that rule permits.  Without one the request must be reached by
a tier that applies, in the last row of the table for the type and a role of the user.
-/

variable {entity : Entity} {user : User} {requested : Level} {entityType : EntityType}

/-- The grant is declared in the table and no later row has its key. -/
def Table.LastOf (table : Table) (key : EntityType × Role) (grant : Grant) : Prop :=
  ∃ before after, table.grants = before ++ grant :: after ∧ grant.key = key ∧
    ∀ later ∈ after, later.key ≠ key

theorem Registry.find?_ofTable_eq_some_iff {table : Table} {role : Role} {grant : Grant} :
    (Registry.ofTable table).value.find? entityType role = some grant ↔
      table.LastOf (entityType, role) grant := by
  change (Registry.ofGrants table.grants).find? entityType role = some grant ↔ _
  rw [Registry.find?_ofGrants, List.find?_eq_some_iff_append]
  constructor
  · rintro ⟨same, after, before, reversed, others⟩
    have order : table.grants = before.reverse ++ grant :: after.reverse := by
      rw [← List.reverse_reverse table.grants, reversed]
      simp
    refine ⟨before.reverse, after.reverse, order, eq_of_beq same, ?_⟩
    intro later member
    have differs := others later (List.mem_reverse.mp member)
    simpa using differs
  · rintro ⟨before, after, order, same, others⟩
    refine ⟨by simp [same], after.reverse, before.reverse, by simp [order], ?_⟩
    intro later member
    have differs := others later (List.mem_reverse.mp member)
    simpa using differs

theorem Registry.mem_grantsFor {registry : Registry} {roles : List Role} {grant : Grant} :
    grant ∈ registry.grantsFor entityType roles ↔
      ∃ role ∈ roles, registry.find? entityType role = some grant := by
  simp [grantsFor]

theorem Grant.permits_iff {grant : Grant} :
    grant.permits entity user requested = true ↔
      requested ≠ .none ∧
        (requested ≤ grant.tiers.base ∨
          (requested ≤ grant.tiers.institutional ∧ user.institution = entity.institution) ∨
          (requested ≤ grant.tiers.owner ∧ entity.owner = some user.id)) := by
  simp only [permits, permitsEverywhere, permitsAtHome, permitsOwner, Entity.isHomeOf,
    Entity.isOwnedBy, Bool.or_eq_true, Bool.and_eq_true, beq_iff_eq, Level.implies_iff]
  constructor
  · rintro ((⟨asked, base⟩ | ⟨⟨asked, institutional⟩, home⟩) | ⟨⟨asked, owner⟩, owned⟩)
    · exact ⟨asked, .inl base⟩
    · exact ⟨asked, .inr (.inl ⟨institutional, home⟩)⟩
    · exact ⟨asked, .inr (.inr ⟨owner, owned⟩)⟩
  · rintro ⟨asked, base | ⟨institutional, home⟩ | ⟨owner, owned⟩⟩
    · exact .inl (.inl ⟨asked, base⟩)
    · exact .inl (.inr ⟨⟨asked, institutional⟩, home⟩)
    · exact .inr ⟨⟨asked, owner⟩, owned⟩

namespace Policy

variable {policy : Policy}

theorem value_permits_of_rule {rule : Rule}
    (ruled : policy.rules.rule? entity.entityType = some rule) :
    (policy.permits entity requested user).value = true ↔
      (rule.judge entity user requested).value = .permit := by
  simp only [permits, ruled, Rule.value_permits]

/-- Without a rule a request is permitted by a registered grant of a role of the user. -/
theorem value_permits_of_no_rule (free : policy.rules.rule? entity.entityType = none) :
    (policy.permits entity requested user).value = true ↔
      ∃ role grant, user.hasRole role = true ∧
        policy.registry.find? entity.entityType role = some grant ∧
        grant.permits entity user requested = true := by
  simp only [permits, free, value_permitsByTiers, decidingRole?, List.find?_isSome,
    RoleSet.mem_toList, Option.any_eq_true]
  constructor
  · rintro ⟨role, held, grant, found, permitted⟩
    exact ⟨role, grant, held, found, permitted⟩
  · rintro ⟨role, grant, held, found, permitted⟩
    exact ⟨role, held, grant, found, permitted⟩

/-- A request is permitted by the rule of the type alone, where there is one; otherwise by a
tier, of a role of the user, that applies in the last row of the table for type and role. -/
theorem value_permits_ofTable_iff (table : Table) (rules : RuleSet) (entity : Entity)
    (requested : Level) (user : User) :
    ((Policy.mk (Registry.ofTable table).value rules).permits entity requested user).value =
        true ↔
      (∃ rule, rules.rule? entity.entityType = some rule ∧
        (rule.judge entity user requested).value = .permit) ∨
      (rules.rule? entity.entityType = none ∧ requested ≠ .none ∧
        ∃ role grant, user.hasRole role = true ∧
          table.LastOf (entity.entityType, role) grant ∧
          (requested ≤ grant.tiers.base ∨
            (requested ≤ grant.tiers.institutional ∧
              user.institution = entity.institution) ∨
            (requested ≤ grant.tiers.owner ∧ entity.owner = some user.id))) := by
  cases ruled : rules.rule? entity.entityType with
  | some rule =>
      rw [value_permits_of_rule ruled]
      constructor
      · intro permitted
        exact .inl ⟨rule, rfl, permitted⟩
      · rintro (⟨other, same, permitted⟩ | ⟨absent, _⟩)
        · cases same
          exact permitted
        · cases absent
  | none =>
      rw [value_permits_of_no_rule ruled]
      constructor
      · rintro ⟨role, grant, held, found, permitted⟩
        obtain ⟨asked, reached⟩ := Grant.permits_iff.mp permitted
        exact .inr ⟨rfl, asked, role, grant, held,
          Registry.find?_ofTable_eq_some_iff.mp found, reached⟩
      · rintro (⟨_, absent, _⟩ | ⟨_, asked, role, grant, held, last, reached⟩)
        · cases absent
        · exact ⟨role, grant, held, Registry.find?_ofTable_eq_some_iff.mpr last,
            Grant.permits_iff.mpr ⟨asked, reached⟩⟩

end Policy

end ExamGrants
