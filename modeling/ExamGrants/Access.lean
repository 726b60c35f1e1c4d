import ExamGrants.Effective
import ExamGrants.Policy.Filter

namespace ExamGrants

/-! Requests of the current user.

Every request is made by whoever is signed in.  Without a user each of them ends in
a missing identity, which is recorded, before anything else is looked at.
-/

/-- A policy for the requests of one user, or of nobody. -/
structure Access where
  policy : Policy
  /-- Who is signed in. -/
  user? : Option User

namespace Access

/-- Runs a request as the current user. -/
def asUser {α : Type} (access : Access) (request : User → Logged (Except Denial α)) :
    Logged (Except Denial α) :=
  match access.user? with
  | some user => request user
  | none => ⟨.error .noUser, [.noUser]⟩

def currentUser (access : Access) : Logged (Except Denial User) :=
  access.asUser fun user => pure (.ok user)

/-- Whether the current user may do what is requested to the entity. -/
def permits (access : Access) (entity : Entity) (requested : Level) :
    Logged (Except Denial Bool) :=
  access.asUser fun user => Except.ok <$> access.policy.permits entity requested user

/-- Whether the current user may do what is requested to every entity of the type. -/
def permitsEverywhere (access : Access) (entityType : EntityType) (requested : Level) :
    Logged (Except Denial Bool) :=
  access.asUser fun user =>
    pure (.ok (access.policy.permitsEverywhere entityType requested user))

/-- Whether the current user may do what is requested to every entity of the type in their
own institution. -/
def permitsAtHome (access : Access) (entityType : EntityType)
    (requested : Level) : Logged (Except Denial Bool) :=
  access.asUser fun user =>
    pure (.ok (access.policy.permitsAtHome entityType requested user))

/-- The entity itself where the current user may do what is requested to it. -/
def require (access : Access) (entity : Entity) (requested : Level) :
    Logged (Except Denial Entity) :=
  access.asUser fun user => access.policy.require entity requested user

/-- The entity itself where the current user may view it. -/
def requireRead (access : Access) (entity : Entity) : Logged (Except Denial Entity) :=
  access.require entity .readOnly

/-- The entity itself where the current user may edit it. -/
def requireModify (access : Access) (entity : Entity) : Logged (Except Denial Entity) :=
  access.require entity .modify

/-- The entity itself where the current user may create or delete it. -/
def requireWrite (access : Access) (entity : Entity) : Logged (Except Denial Entity) :=
  access.require entity .write

/-- The type itself where the current user may do what is requested to every entity of it. -/
def requireType (access : Access) (entityType : EntityType) (requested : Level) :
    Logged (Except Denial EntityType) :=
  access.asUser fun user => access.policy.requireType entityType requested user

/-- A filter that decides for the current user. -/
def filterFor (access : Access) (entityType : EntityType) (requested : Level) :
    Logged (Except Denial Filter) :=
  access.asUser fun user =>
    pure (.ok (access.policy.filterFor entityType requested user))

/-- The items to whose entity the current user may do what is requested, in order. -/
def select {α : Type} (access : Access) (entityType : EntityType) (requested : Level)
    (entityOf : α → Entity) (items : List α) : Logged (Except Denial (List α)) :=
  access.asUser fun user =>
    Except.ok <$> (access.policy.filterFor entityType requested user).select entityOf items

/-- The effective privileges of the current user's roles. -/
def privileges (access : Access) : Logged (Except Denial (List Effective)) :=
  access.asUser fun user =>
    pure (.ok (access.policy.registry.effective user.roles.toList))

end Access

end ExamGrants
