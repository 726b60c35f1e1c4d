import ExamGrants.Effective
import ExamGrants.Proofs.Filtering

namespace ExamGrants

/-! A rule decides about its own type, and about nothing else.

Adding a rule changes no decision about entities of other types and no answer about a whole
type.  Entities of its own type are left to the rule alone, also by filters that were prepared
for other types, so there the registry no longer matters.
-/

variable {entityType : EntityType} {entity : Entity} {user : User} {requested : Level}

namespace Policy

/-- The policies decide alike, and record the same, about every entity of these types. -/
structure AgreeOn (first second : Policy) (types : EntityType → Bool) : Prop where
  permits : ∀ entity requested user, types entity.entityType = true →
    first.permits entity requested user = second.permits entity requested user
  require : ∀ entity requested user, types entity.entityType = true →
    first.require entity requested user = second.require entity requested user
  accepts : ∀ prepared entity requested user, types entity.entityType = true →
    (first.filterFor prepared requested user).accepts entity =
      (second.filterFor prepared requested user).accepts entity
  /-- Of any list, with entities of other types between them, the same ones are kept. -/
  select : ∀ {α : Type} (entityOf : α → Entity) (items : List α) prepared requested user,
    ((first.filterFor prepared requested user).select entityOf items).value.filter
        (fun item => types (entityOf item).entityType) =
      ((second.filterFor prepared requested user).select entityOf items).value.filter
        (fun item => types (entityOf item).entityType)

/-- The policies give the same answers about whole types. -/
structure AgreeOnTypes (first second : Policy) : Prop where
  permitsEverywhere : first.permitsEverywhere = second.permitsEverywhere
  permitsAtHome : first.permitsAtHome = second.permitsAtHome
  requireType : first.requireType = second.requireType
  effective : first.registry.effective = second.registry.effective

variable {first second policy : Policy} {types : EntityType → Bool}

/-- What is decided about single entities settles checks and lists. -/
theorem agreeOn_of_entities
    (permits : ∀ entity requested user, types entity.entityType = true →
      first.permits entity requested user = second.permits entity requested user)
    (accepts : ∀ prepared entity requested user, types entity.entityType = true →
      (first.filterFor prepared requested user).accepts entity =
        (second.filterFor prepared requested user).accepts entity) :
    first.AgreeOn second types where
  permits := permits
  require := by
    intro entity requested user concerned
    rw [Policy.require, Policy.require, permits entity requested user concerned]
  accepts := accepts
  select := by
    intro α entityOf items prepared requested user
    rw [Filter.value_select, Filter.value_select, List.filter_filter, List.filter_filter]
    apply List.filter_congr
    intro item _
    cases concerned : types (entityOf item).entityType with
    | false => rfl
    | true => rw [accepts prepared (entityOf item) requested user concerned]

theorem permits_of_rule {rule : Rule}
    (ruled : policy.rules.rule? entity.entityType = some rule) :
    policy.permits entity requested user = rule.permits entity user requested := by
  simp only [permits, ruled]

/-- The rule is looked up when the filter is made or when the entity is seen. -/
theorem accepts_of_rule {rule : Rule}
    (ruled : policy.rules.rule? entity.entityType = some rule) (prepared : EntityType) :
    (policy.filterFor prepared requested user).accepts entity =
      rule.permits entity user requested := by
  by_cases own : entity.entityType = prepared
  · subst own
    simp only [Filter.accepts, filterFor, ruled, if_true]
  · simp only [Filter.accepts, filterFor, own, if_false]
    exact permits_of_rule ruled

/-- A common rule for the type leaves no other difference between the policies. -/
theorem agreeOn_of_rule {rule : Rule} (inFirst : first.rules.rule? entityType = some rule)
    (inSecond : second.rules.rule? entityType = some rule) :
    first.AgreeOn second (· == entityType) := by
  apply agreeOn_of_entities
  · intro entity requested user ofType
    have same : entity.entityType = entityType := eq_of_beq ofType
    rw [permits_of_rule (same ▸ inFirst), permits_of_rule (same ▸ inSecond)]
  · intro prepared entity requested user ofType
    have same : entity.entityType = entityType := eq_of_beq ofType
    rw [accepts_of_rule (same ▸ inFirst), accepts_of_rule (same ▸ inSecond)]

section SameRegistry

variable {registry : Registry} {rules others : RuleSet}

theorem permits_of_same_rule
    (same : rules.rule? entity.entityType = others.rule? entity.entityType) :
    (Policy.mk registry rules).permits entity requested user =
      (Policy.mk registry others).permits entity requested user := by
  simp only [permits, same]
  cases others.rule? entity.entityType with
  | some rule => rfl
  | none => rfl

theorem accepts_of_same_rule (prepared : EntityType)
    (same : rules.rule? entity.entityType = others.rule? entity.entityType) :
    ((Policy.mk registry rules).filterFor prepared requested user).accepts entity =
      ((Policy.mk registry others).filterFor prepared requested user).accepts entity := by
  by_cases own : entity.entityType = prepared
  · subst own
    simp only [Filter.accepts, filterFor, same, if_true]
  · simp only [Filter.accepts, filterFor, own, if_false]
    exact permits_of_same_rule same

theorem agreeOn_of_same_rules
    (same : ∀ entityType, types entityType = true →
      rules.rule? entityType = others.rule? entityType) :
    (Policy.mk registry rules).AgreeOn ⟨registry, others⟩ types := by
  apply agreeOn_of_entities
  · intro entity requested user concerned
    exact permits_of_same_rule (same entity.entityType concerned)
  · intro prepared entity requested user concerned
    exact accepts_of_same_rule prepared (same entity.entityType concerned)

/-- No question about a whole type looks at a rule. -/
theorem agreeOnTypes_of_registry (registry : Registry) (rules others : RuleSet) :
    (Policy.mk registry rules).AgreeOnTypes ⟨registry, others⟩ :=
  ⟨rfl, rfl, rfl, rfl⟩

end SameRegistry

/-- A rule can be added for a type that has none.  It then makes no difference to entities of
other types nor to questions about types, and decides about the entities of its own type
whatever the registry holds. -/
theorem added_rule_is_local (registry : Registry) (rules : RuleSet) (entityType : EntityType)
    (rule : Rule) (absent : rules.rule? entityType = none) :
    ∃ extended, rules.add entityType rule = .ok extended ∧
      (Policy.mk registry extended).AgreeOn ⟨registry, rules⟩ (· != entityType) ∧
      (Policy.mk registry extended).AgreeOnTypes ⟨registry, rules⟩ ∧
      (∀ other : Registry,
        (Policy.mk other extended).AgreeOn ⟨registry, extended⟩ (· == entityType)) ∧
      ∀ entity requested user, entity.entityType = entityType →
        (Policy.mk registry extended).permits entity requested user =
          rule.permits entity user requested := by
  have added : rules.add entityType rule = .ok (rules.assign entityType rule) := by
    rw [RuleSet.add, absent]
  have ruled : (rules.assign entityType rule).rule? entityType = some rule := by
    rw [RuleSet.rule?_assign, if_pos rfl]
  refine ⟨_, added, ?_, agreeOnTypes_of_registry _ _ _, ?_, ?_⟩
  · apply agreeOn_of_same_rules
    intro other differs
    rw [RuleSet.rule?_assign, if_neg (bne_iff_ne.mp differs)]
  · intro other
    exact agreeOn_of_rule ruled ruled
  · intro entity requested user ofType
    exact permits_of_rule (ofType ▸ ruled)

/-- A rule for exams that always breaks off closes the exams under every registry.  An exam
administrator keeps the certificates, and still reads as one who may write every exam. -/
theorem added_rule_is_local_broken_rule :
    let registry := Registry.ofGrants [⟨.exam, .examAdmin, ⟨.write, .none, .none⟩⟩,
      ⟨.certificate, .examAdmin, ⟨.none, .modify, .none⟩⟩]
    let rules := RuleSet.empty.assign .user (.custom fun _ _ _ => .permit)
    let broken : Rule := .custom fun _ _ _ => .panicked
    let user : User := ⟨⟨1⟩, "ada", ⟨1⟩, .ofList [.examAdmin]⟩
    let exam : Entity := { entityType := .exam, institution := ⟨1⟩ }
    let certificate : Entity := { entityType := .certificate, institution := ⟨1⟩ }
    rules.rule? .exam = none ∧
      ∃ extended, rules.add .exam broken = .ok extended ∧
        ((Policy.mk registry extended).permits certificate .modify user).value = true ∧
        (Policy.mk registry extended).permitsEverywhere .exam .write user = true ∧
        ∀ other, ((Policy.mk other extended).permits exam .readOnly user).value = false := by
  intro registry rules broken user exam certificate
  have absent : rules.rule? .exam = none := rfl
  obtain ⟨extended, added, beyond, wholeTypes, ofType, decided⟩ :=
    added_rule_is_local registry rules .exam broken absent
  refine ⟨absent, extended, added, ?_, ?_, ?_⟩
  · rw [beyond.permits certificate .modify user (by decide)]
    decide
  · rw [wholeTypes.permitsEverywhere]
    decide
  · intro other
    rw [(ofType other).permits exam .readOnly user (by decide), decided exam .readOnly user rfl]
    rfl

end Policy

end ExamGrants
