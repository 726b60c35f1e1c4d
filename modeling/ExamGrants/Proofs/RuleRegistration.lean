import Mathlib.Data.List.Dedup
import ExamGrants.Proofs.Positions
import ExamGrants.Proofs.StorageNames
import ExamGrants.Rule

namespace ExamGrants

/-! Rules registered one after the other.

The first rule of an entity type stays.  A later one for the type is refused as a conflict and
leaves the set as it was, so that a set of rules is known by the first rule of each type
(`RuleSet.rule?_ofRegistrations`).
-/

/-- A rule with the entity type that it is to decide about. -/
abbrev Registration := EntityType × Rule

variable {rules : RuleSet} {entityType : EntityType} {rule : Rule}
  {registrations : List Registration}

namespace RuleSet

/-- The set after a registration has been tried. -/
def register (rules : RuleSet) (registration : Registration) : RuleSet :=
  match rules.add registration.1 registration.2 with
  | .ok extended => extended
  | .error _ => rules

/-- The set after registrations have been tried in a row, each on what the ones before left. -/
def ofRegistrations (registrations : List Registration) : RuleSet :=
  registrations.foldl register empty

theorem add_of_free (free : rules.rule? entityType = none) :
    rules.add entityType rule = .ok (rules.register (entityType, rule)) := by
  simp only [register, add, free]

theorem add_of_taken (taken : (rules.rule? entityType).isSome = true) :
    rules.add entityType rule = .error (.ruleTaken entityType) := by
  obtain ⟨earlier, found⟩ := Option.isSome_iff_exists.mp taken
  simp only [add, found]

theorem register_of_taken (taken : (rules.rule? entityType).isSome = true) :
    rules.register (entityType, rule) = rules := by
  simp only [register, add_of_taken taken]

theorem rule?_register (rules : RuleSet) (entityType other : EntityType) (rule : Rule) :
    (rules.register (entityType, rule)).rule? other =
      (rules.rule? other).or (if other = entityType then some rule else none) := by
  cases found : rules.rule? entityType with
  | none =>
      simp only [register, add, found, rule?_assign]
      by_cases same : other = entityType
      · simp [same, found]
      · simp [same]
  | some earlier =>
      simp only [register, add, found]
      by_cases same : other = entityType
      · simp [same, found]
      · simp [same]

theorem lookup_cons_eq_ite (registration : Registration) (registrations : List Registration)
    (entityType : EntityType) :
    (registration :: registrations).lookup entityType =
      if entityType = registration.1 then some registration.2
      else registrations.lookup entityType := by
  rw [List.lookup_cons]
  by_cases same : entityType = registration.1
  · simp [same]
  · simp [same, beq_false_of_ne same]

theorem rule?_foldl_register (registrations : List Registration) (rules : RuleSet)
    (entityType : EntityType) :
    (registrations.foldl register rules).rule? entityType =
      (rules.rule? entityType).or (registrations.lookup entityType) := by
  induction registrations generalizing rules with
  | nil => simp
  | cons registration rest ih =>
      obtain ⟨other, rule⟩ := registration
      rw [List.foldl_cons, ih, rule?_register, Option.or_assoc, lookup_cons_eq_ite]
      congr 1
      split <;> simp

/-- The rule of a type is the first that was registered for it. -/
theorem rule?_ofRegistrations (registrations : List Registration) (entityType : EntityType) :
    (ofRegistrations registrations).rule? entityType = registrations.lookup entityType := by
  rw [ofRegistrations, rule?_foldl_register, rule?_empty, Option.none_or]

theorem ofRegistrations_append_singleton (registrations : List Registration)
    (registration : Registration) :
    ofRegistrations (registrations ++ [registration]) =
      (ofRegistrations registrations).register registration := by
  rw [ofRegistrations, List.foldl_append, List.foldl_cons, List.foldl_nil, ← ofRegistrations]

theorem isSome_lookup_iff :
    (registrations.lookup entityType).isSome = true ↔
      entityType ∈ registrations.map Prod.fst := by
  induction registrations with
  | nil => simp
  | cons registration rest ih =>
      rw [lookup_cons_eq_ite, List.map_cons, List.mem_cons, ← ih]
      by_cases same : entityType = registration.1 <;> simp [same]

theorem covers_ofRegistrations :
    (ofRegistrations registrations).covers entityType = true ↔
      entityType ∈ registrations.map Prod.fst := by
  rw [covers, rule?_ofRegistrations, isSome_lookup_iff]

theorem entityTypes_ofRegistrations_perm (registrations : List Registration) :
    (ofRegistrations registrations).entityTypes.Perm (registrations.map Prod.fst).dedup := by
  have distinct : (ofRegistrations registrations).entityTypes.Nodup :=
    EntityType.all_nodup.filter _
  apply (List.perm_ext_iff_of_nodup distinct (List.nodup_dedup _)).mpr
  intro entityType
  rw [mem_entityTypes, covers_ofRegistrations, List.mem_dedup]

theorem size_ofRegistrations (registrations : List Registration) :
    (ofRegistrations registrations).size = (registrations.map Prod.fst).dedup.length :=
  (entityTypes_ofRegistrations_perm registrations).length_eq

theorem isEmpty_iff_size_eq_zero (rules : RuleSet) : rules.isEmpty = true ↔ rules.size = 0 := by
  rw [isEmpty, size, List.isEmpty_iff, List.length_eq_zero_iff]

/-- The entity types that have a rule, each once and in any order. -/
structure Enumerates (rules : RuleSet) (entityTypes : List EntityType) : Prop where
  distinct : entityTypes.Nodup
  mem_iff : ∀ entityType, entityType ∈ entityTypes ↔ rules.covers entityType = true

/-- Entity types in declaration order. -/
def sortedTypes (entityTypes : List EntityType) : List EntityType :=
  entityTypes.mergeSort fun first second =>
    decide (Named.position first ≤ Named.position second)

theorem entityTypes_increasing (rules : RuleSet) :
    rules.entityTypes.Pairwise fun first second =>
      Named.position first < Named.position second :=
  EntityType.all_increasing.filter rules.covers

theorem enumerates_entityTypes (rules : RuleSet) : rules.Enumerates rules.entityTypes where
  distinct := EntityType.all_nodup.filter _
  mem_iff _ := mem_entityTypes

/-- In whatever order the types come, sorting them gives those that a diagnosis shows. -/
theorem sortedTypes_of_enumerates {entityTypes : List EntityType}
    (listed : rules.Enumerates entityTypes) : sortedTypes entityTypes = rules.entityTypes := by
  have same : entityTypes.Perm rules.entityTypes :=
    (List.perm_ext_iff_of_nodup listed.distinct rules.enumerates_entityTypes.distinct).mpr
      fun entityType => (listed.mem_iff entityType).trans mem_entityTypes.symm
  exact mergeSort_eq_of_increasing rules.entityTypes_increasing same

/-- A diagnosis shows the types by their identifiers. -/
theorem describe_of_enumerates {entityTypes : List EntityType}
    (listed : rules.Enumerates entityTypes) :
    rules.describe = "GrantRules \x7b entity_types: [" ++
      String.intercalate ", "
        ((sortedTypes entityTypes).map NameTables.entityTypes.identifier) ++ "] \x7d" := by
  have titled : NameTables.entityTypes.identifier = Named.title :=
    funext fun entityType => (NameTables.entityTypes_match.titled entityType).symm
  rw [sortedTypes_of_enumerates listed, titled]
  rfl

theorem lookup_eq_some_iff_mem (distinct : (registrations.map Prod.fst).Nodup) :
    registrations.lookup entityType = some rule ↔ (entityType, rule) ∈ registrations := by
  induction registrations with
  | nil => simp
  | cons registration rest ih =>
      obtain ⟨fresh, distinct⟩ := List.nodup_cons.mp distinct
      rw [lookup_cons_eq_ite, List.mem_cons, ← ih distinct]
      split
      · next same =>
          have absent : rest.lookup entityType ≠ some rule := by
            intro found
            rw [same] at found
            exact fresh (isSome_lookup_iff.mp (Option.isSome_of_eq_some found))
          rw [or_iff_left absent, Option.some.injEq]
          exact ⟨fun equal => Prod.ext same equal.symm,
            fun equal => (congrArg Prod.snd equal).symm⟩
      · next differs => simp [Prod.ext_iff, differs]

/-- Where no type is registered for twice the order of registrations does not matter. -/
theorem rule?_ofRegistrations_of_perm {reordered : List Registration}
    (same : registrations.Perm reordered) (distinct : (registrations.map Prod.fst).Nodup) :
    (ofRegistrations registrations).rule? = (ofRegistrations reordered).rule? := by
  have distinctToo : (reordered.map Prod.fst).Nodup := (same.map Prod.fst).nodup_iff.mp distinct
  funext entityType
  apply Option.ext
  intro rule
  rw [rule?_ofRegistrations, rule?_ofRegistrations, lookup_eq_some_iff_mem distinct,
    lookup_eq_some_iff_mem distinctToo, same.mem_iff]

/-- Of registrations in a row each succeeds while its type is free and otherwise is refused as
a conflict that names the type, without any effect.  What they leave is the first rule of each
type, and the types in declaration order are what a diagnosis lists, in whatever order they
are gone through.  Registrations of different types may come in any order. -/
theorem ofRegistrations_keeps_first (registrations : List Registration) :
    (∀ before entityType rule after, registrations = before ++ (entityType, rule) :: after →
      (entityType ∉ before.map Prod.fst →
        (ofRegistrations before).add entityType rule =
          .ok (ofRegistrations (before ++ [(entityType, rule)]))) ∧
      (entityType ∈ before.map Prod.fst →
        ofRegistrations (before ++ [(entityType, rule)]) = ofRegistrations before ∧
        ∃ problem, (ofRegistrations before).add entityType rule = .error problem ∧
          problem.category = .conflict ∧
          problem.detail =
            "a custom grant rule is already registered for '" ++ entityType.name ++ "'")) ∧
    (∀ entityType,
      (ofRegistrations registrations).rule? entityType = registrations.lookup entityType) ∧
    (ofRegistrations registrations).size = (registrations.map Prod.fst).dedup.length ∧
    ((ofRegistrations registrations).isEmpty = true ↔
      (ofRegistrations registrations).size = 0) ∧
    (∀ entityTypes, (ofRegistrations registrations).Enumerates entityTypes →
      (ofRegistrations registrations).describe =
          "GrantRules \x7b entity_types: [" ++
            String.intercalate ", "
              ((sortedTypes entityTypes).map NameTables.entityTypes.identifier) ++ "] \x7d" ∧
      ((sortedTypes entityTypes).Pairwise fun first second =>
        Named.position first < Named.position second) ∧
      ∀ entityType, entityType ∈ sortedTypes entityTypes ↔
        entityType ∈ registrations.map Prod.fst) ∧
    ∀ reordered : List Registration, registrations.Perm reordered →
      (registrations.map Prod.fst).Nodup →
      ∀ entityType, (ofRegistrations registrations).rule? entityType =
        (ofRegistrations reordered).rule? entityType := by
  refine ⟨?_, rule?_ofRegistrations registrations, size_ofRegistrations registrations,
    isEmpty_iff_size_eq_zero _, ?_, ?_⟩
  · rintro before entityType rule after -
    rw [ofRegistrations_append_singleton, ← covers_ofRegistrations]
    refine ⟨fun free => add_of_free (Option.not_isSome_iff_eq_none.mp free), fun taken => ?_⟩
    exact ⟨register_of_taken taken, .ruleTaken entityType, add_of_taken taken, rfl, rfl⟩
  · intro entityTypes listed
    refine ⟨describe_of_enumerates listed, ?_⟩
    rw [sortedTypes_of_enumerates listed]
    refine ⟨entityTypes_increasing _, fun entityType => ?_⟩
    rw [mem_entityTypes, covers_ofRegistrations]
  · intro reordered same distinct entityType
    rw [rule?_ofRegistrations_of_perm same distinct]

/-- Two rules for exams around one for institutions: the second rule for exams is refused, and
the set lists both types whichever of them comes first. -/
theorem ofRegistrations_keeps_first_exam_rule :
    let permitting : Rule := .custom fun _ _ _ => .permit
    let denying : Rule := .custom fun _ _ _ => .deny
    let before : List Registration := [(.exam, permitting), (.institution, denying)]
    let rules := ofRegistrations (before ++ [(.exam, denying)])
    (rules = ofRegistrations before ∧
      ∃ problem, (ofRegistrations before).add .exam denying = .error problem ∧
        problem.category = .conflict ∧
        problem.detail = "a custom grant rule is already registered for 'exam'") ∧
    (rules.rule? .exam = some permitting ∧ rules.size = 2) ∧
    (rules.Enumerates [.exam, .institution] ∧
      rules.describe = "GrantRules \x7b entity_types: [Institution, Exam] \x7d" ∧
      sortedTypes [.exam, .institution] = [.institution, .exam]) ∧
    (before.Perm [(.institution, denying), (.exam, permitting)] ∧
      (before.map Prod.fst).Nodup ∧
      ∀ entityType, (ofRegistrations before).rule? entityType =
        (ofRegistrations [(.institution, denying), (.exam, permitting)]).rule? entityType) := by
  intro permitting denying before rules
  obtain ⟨steps, first, size, _, lists, _⟩ :=
    ofRegistrations_keeps_first (before ++ [(.exam, denying)])
  obtain ⟨_, _, _, _, _, reorders⟩ := ofRegistrations_keeps_first before
  have refused := (steps before .exam denying [] rfl).2 (by decide)
  have listed : rules.Enumerates [.exam, .institution] := by
    refine ⟨by decide, fun entityType => ?_⟩
    rw [covers, first entityType]
    cases entityType <;> decide
  have exchanged : before.Perm [(.institution, denying), (.exam, permitting)] := .swap _ _ _
  have distinct : (before.map Prod.fst).Nodup := by decide
  have sorted : sortedTypes [.exam, .institution] = [.institution, .exam] :=
    (sortedTypes_of_enumerates listed).trans (by decide)
  refine ⟨refused, ⟨first .exam, size.trans (by decide)⟩, ⟨listed, ?_, sorted⟩,
    exchanged, distinct, reorders _ exchanged distinct⟩
  rw [(lists _ listed).1, sorted]
  decide +kernel

end RuleSet

end ExamGrants
