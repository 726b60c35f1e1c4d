import ExamGrants.Registry

namespace ExamGrants

/-! Custom rules: decisions that replace the three tiers for one entity type.

A rule may permit, deny, raise a problem or break off.  Only a permit permits
(`value_permits`): the request is denied in the other cases, and the last two are
recorded.
-/

/-- What a custom rule makes of a request. -/
inductive Verdict where
  | permit
  | deny
  /-- The rule raised a problem. -/
  | failed (problem : Problem)
  /-- The rule broke off without an answer. -/
  | panicked
deriving DecidableEq, Repr

/-- A custom rule. -/
inductive Rule where
  /-- Any decision, taken without recording anything. -/
  | custom (verdict : Entity → User → Level → Verdict)
  /-- The three tiers of the given grants, with the owner tier open to supporters. -/
  | supporters (grants : List Grant)

namespace Rule

/-- The supporter rule over the grants that a registry holds for an entity type. -/
def supportersOf (registry : Registry) (entityType : EntityType) : Rule :=
  .supporters (registry.grantsOf entityType)

/-- Whether a grant permits the request when supporters have the rights of the owner. -/
def permitsSupporter (grant : Grant) (entity : Entity) (user : User) (requested : Level) :
    Bool :=
  grant.permits entity user requested ||
    (entity.isSupportedBy user && grant.tiers.owner.implies requested)

/-- The first of the grants of a role of the user that permits the request, as owner or
supporter. -/
def decidingGrant? (grants : List Grant) (entity : Entity) (user : User) (requested : Level) :
    Option Grant :=
  (grants.filter fun grant => user.hasRole grant.role).find? fun grant =>
    permitsSupporter grant entity user requested

/-- What the rule makes of the request, with what it records. -/
def judge (rule : Rule) (entity : Entity) (user : User) (requested : Level) :
    Logged Verdict :=
  match rule with
  | .custom verdict => pure (verdict entity user requested)
  | .supporters grants =>
      match decidingGrant? grants entity user requested with
      | some grant =>
          ⟨.permit, [.permitted grant.entityType grant.role requested user.id
            (some (entity.isSupportedBy user))]⟩
      | none => pure .deny

/-- Whether the rule permits the request; problems and breaks deny it and are recorded. -/
def permits (rule : Rule) (entity : Entity) (user : User) (requested : Level) :
    Logged Bool := do
  match ← rule.judge entity user requested with
  | .permit => pure true
  | .deny => pure false
  | .failed problem =>
      Logged.record (.ruleFailed entity.entityType user.id requested problem)
      pure false
  | .panicked =>
      Logged.record (.rulePanicked entity.entityType user.id requested)
      pure false

/-- Only a permit permits. -/
theorem value_permits {rule : Rule} {entity : Entity} {user : User} {requested : Level} :
    (rule.permits entity user requested).value = true ↔
      (rule.judge entity user requested).value = .permit := by
  unfold permits
  rw [Logged.value_bind]
  cases (rule.judge entity user requested).value <;> simp

end Rule

/-- At most one custom rule for each entity type. -/
@[ext] structure RuleSet where
  rule? : EntityType → Option Rule

namespace RuleSet

def empty : RuleSet := ⟨fun _ => none⟩

/-- The set in which an entity type has the given rule. -/
def assign (rules : RuleSet) (entityType : EntityType) (rule : Rule) : RuleSet :=
  ⟨fun other => if other = entityType then some rule else rules.rule? other⟩

/-- Adds a rule for an entity type that has none yet. -/
def add (rules : RuleSet) (entityType : EntityType) (rule : Rule) : Except Problem RuleSet :=
  match rules.rule? entityType with
  | some _ => .error (.ruleTaken entityType)
  | none => .ok (rules.assign entityType rule)

def covers (rules : RuleSet) (entityType : EntityType) : Bool :=
  (rules.rule? entityType).isSome

/-- The entity types that have a rule, in declaration order. -/
def entityTypes (rules : RuleSet) : List EntityType :=
  EntityType.all.filter rules.covers

def size (rules : RuleSet) : Nat := rules.entityTypes.length

def isEmpty (rules : RuleSet) : Bool := rules.entityTypes.isEmpty

/-- The set as a diagnosis shows it. -/
def describe (rules : RuleSet) : String :=
  "GrantRules \x7b entity_types: [" ++
    String.intercalate ", " (rules.entityTypes.map Named.title) ++ "] \x7d"

@[simp] theorem rule?_empty (entityType : EntityType) : empty.rule? entityType = none := rfl

theorem rule?_assign (rules : RuleSet) (entityType other : EntityType) (rule : Rule) :
    (rules.assign entityType rule).rule? other =
      if other = entityType then some rule else rules.rule? other := rfl

@[simp] theorem mem_entityTypes {rules : RuleSet} {entityType : EntityType} :
    entityType ∈ rules.entityTypes ↔ rules.covers entityType = true := by
  simp [entityTypes, EntityType.mem_all]

end RuleSet

end ExamGrants
