import ExamGrants.Rule
import ExamGrants.Table.Builtin

namespace ExamGrants

/-! Decisions: may this user do that to this entity, or to entities of this type?

A custom rule for the type of the entity decides alone.  Otherwise the roles of the
user are tried in declaration order until one is granted the request.  Questions
about a whole type look at registered grants only, never at rules.
-/

/-- What decisions are taken by. -/
structure Policy where
  registry : Registry
  /-- The rules that replace the grants for some entity types. -/
  rules : RuleSet

namespace Policy

/-- The policy of a registry whose exams are under the supporter rule. -/
def withExamSupporters (registry : Registry) : Except Problem Policy := do
  let rules ← RuleSet.empty.add .exam (.supportersOf registry .exam)
  pure ⟨registry, rules⟩

/-- The policy of the built-in table whose exams are under the supporter rule. -/
def standard : Logged (Except Problem Policy) := do
  let registry ← Registry.ofTable .builtin
  pure (withExamSupporters registry)

/-- The first role of the user whose grant permits the request on the entity. -/
def decidingRole? (policy : Policy) (entity : Entity) (user : User)
    (requested : Level) : Option Role :=
  user.roles.toList.find? fun role =>
    (policy.registry.find? entity.entityType role).any
      fun grant => grant.permits entity user requested

/-- Whether a grant of some role permits the request on the entity. -/
def permitsByTiers (policy : Policy) (entity : Entity) (requested : Level)
    (user : User) : Logged Bool :=
  match policy.decidingRole? entity user requested with
  | some role => ⟨true, [.permitted entity.entityType role requested user.id none]⟩
  | none => pure false

/-- Whether the user may do what is requested to the entity. -/
def permits (policy : Policy) (entity : Entity) (requested : Level)
    (user : User) : Logged Bool :=
  match policy.rules.rule? entity.entityType with
  | some rule => rule.permits entity user requested
  | none => policy.permitsByTiers entity requested user

/-- Whether a role of the user has a grant of the type that passes a test. -/
def someGrant (policy : Policy) (entityType : EntityType) (user : User)
    (test : Grant → Bool) : Bool :=
  user.roles.toList.any fun role => (policy.registry.find? entityType role).any test

/-- Whether the user may do what is requested to every entity of the type. -/
def permitsEverywhere (policy : Policy) (entityType : EntityType) (requested : Level)
    (user : User) : Bool :=
  policy.someGrant entityType user fun grant => grant.permitsEverywhere requested

/-- Whether the user may do what is requested to every entity of the type in their own
institution. -/
def permitsAtHome (policy : Policy) (entityType : EntityType)
    (requested : Level) (user : User) : Bool :=
  policy.someGrant entityType user fun grant =>
    grant.permitsEverywhere requested || grant.tiers.institutional.implies requested

/-- Denies a request and records it. -/
def deny {α : Type} (entityType : EntityType) (requested : Level) (user : User) :
    Logged (Except Denial α) :=
  ⟨.error (.notPermitted entityType requested user.id),
    [.denied entityType requested user.id user.username]⟩

/-- The entity itself where the user may do what is requested to it. -/
def require (policy : Policy) (entity : Entity) (requested : Level) (user : User) :
    Logged (Except Denial Entity) := do
  if ← policy.permits entity requested user then
    pure (.ok entity)
  else
    deny entity.entityType requested user

/-- The type itself where the user may do what is requested to every entity of it. -/
def requireType (policy : Policy) (entityType : EntityType) (requested : Level)
    (user : User) : Logged (Except Denial EntityType) :=
  if policy.permitsEverywhere entityType requested user then
    pure (.ok entityType)
  else
    deny entityType requested user

/-- A permit by the tiers is a deciding role. -/
theorem value_permitsByTiers (policy : Policy) (entity : Entity) (requested : Level)
    (user : User) :
    (policy.permitsByTiers entity requested user).value =
      (policy.decidingRole? entity user requested).isSome := by
  unfold permitsByTiers
  cases policy.decidingRole? entity user requested <;> rfl

end Policy

end ExamGrants
