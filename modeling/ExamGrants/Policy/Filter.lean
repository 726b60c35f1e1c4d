import ExamGrants.Policy

namespace ExamGrants

/-! Filters: a decision prepared for many entities.

A filter looks up the grants of the user's roles and the rule of its entity type
once.  Entities of other types are decided in full.
-/

/-- A decision for one user and request, prepared for entities of one type. -/
structure Filter where
  /-- What decides about entities of other types. -/
  policy : Policy
  /-- The type that the filter is prepared for. -/
  entityType : EntityType
  requested : Level
  user : User
  grants : List Grant
  rule : Option Rule

/-- Prepares the decision for a user and request on entities of one type. -/
def Policy.filterFor (policy : Policy) (entityType : EntityType)
    (requested : Level) (user : User) : Filter where
  policy := policy
  entityType := entityType
  requested := requested
  user := user
  grants := policy.registry.grantsFor entityType user.roles.toList
  rule := policy.rules.rule? entityType

namespace Filter

/-- Whether the filter lets the entity pass. -/
def accepts (filter : Filter) (entity : Entity) : Logged Bool :=
  if entity.entityType = filter.entityType then
    match filter.rule with
    | some rule => rule.permits entity filter.user filter.requested
    | none => pure (filter.grants.any fun grant =>
        grant.permits entity filter.user filter.requested)
  else
    filter.policy.permits entity filter.requested filter.user

/-- The items whose entity passes, in order. -/
def select {α : Type} (filter : Filter) (entityOf : α → Entity) (items : List α) :
    Logged (List α) :=
  Logged.filter (fun item => filter.accepts (entityOf item)) items

/-- A grant as a diagnosis shows it. -/
def describeGrant (grant : Grant) : String :=
  "RoleGrant \x7b entity_type: " ++ Named.title grant.entityType ++
    ", role: " ++ Named.title grant.role ++
    ", base: " ++ Named.title grant.tiers.base ++
    ", institutional: " ++ Named.title grant.tiers.institutional ++
    ", owner: " ++ Named.title grant.tiers.owner ++ " \x7d"

/-- The filter as a diagnosis shows it. -/
def describe (filter : Filter) : String :=
  "GrantFilter \x7b entity_type: " ++ Named.title filter.entityType ++
    ", requested: " ++ Named.title filter.requested ++
    ", user_id: UserId(" ++ filter.user.id.toText ++
    "), role_grants: [" ++ String.intercalate ", " (filter.grants.map describeGrant) ++
    "], custom_rule: " ++ (if filter.rule.isSome then "true" else "false") ++ " \x7d"

/-- Selecting keeps the items whose entity is accepted. -/
theorem value_select {α : Type} (filter : Filter) (entityOf : α → Entity) (items : List α) :
    (filter.select entityOf items).value =
      items.filter fun item => (filter.accepts (entityOf item)).value :=
  Logged.value_filter _ items

end Filter

end ExamGrants
