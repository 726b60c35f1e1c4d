import ExamGrants.Access

namespace ExamGrants

/-! Sessions: users come and go, and filters are kept under names.

What can be asked of the current user is a `Request`; `Access.answer` answers any of
them.  A filter that is kept decides for the user it was made for, also after another
one has signed in.
-/

/-- Something that is asked as the current user. -/
inductive Request where
  | currentUser
  | permits (entity : Entity) (requested : Level)
  | permitsEverywhere (entityType : EntityType) (requested : Level)
  | permitsAtHome (entityType : EntityType) (requested : Level)
  | require (entity : Entity) (requested : Level)
  | requireRead (entity : Entity)
  | requireModify (entity : Entity)
  | requireWrite (entity : Entity)
  | requireType (entityType : EntityType) (requested : Level)
  | filterFor (entityType : EntityType) (requested : Level)
  | select (entityType : EntityType) (requested : Level) (entities : List Entity)
  | privileges

/-- The answer to a request. -/
inductive Answer where
  | user (user : User)
  | decision (permitted : Bool)
  | entity (entity : Entity)
  | entityType (entityType : EntityType)
  | filter (filter : Filter)
  /-- The entities kept, each with its place in the list that was asked about. -/
  | kept (items : List (Entity × Nat))
  | privileges (entries : List Effective)

def Access.answer (access : Access) : Request → Logged (Except Denial Answer)
  | .currentUser => Except.map .user <$> access.currentUser
  | .permits entity requested =>
      Except.map .decision <$> access.permits entity requested
  | .permitsEverywhere entityType requested =>
      Except.map .decision <$> access.permitsEverywhere entityType requested
  | .permitsAtHome entityType requested =>
      Except.map .decision <$> access.permitsAtHome entityType requested
  | .require entity requested => Except.map .entity <$> access.require entity requested
  | .requireRead entity => Except.map .entity <$> access.requireRead entity
  | .requireModify entity => Except.map .entity <$> access.requireModify entity
  | .requireWrite entity => Except.map .entity <$> access.requireWrite entity
  | .requireType entityType requested =>
      Except.map .entityType <$> access.requireType entityType requested
  | .filterFor entityType requested =>
      Except.map .filter <$> access.filterFor entityType requested
  | .select entityType requested entities =>
      Except.map .kept <$>
        access.select entityType requested Prod.fst entities.zipIdx
  | .privileges => Except.map .privileges <$> access.privileges

/-- The requests of users who come and go, with filters kept by name. -/
structure Session extends Access where
  /-- The filters kept, the latest first. -/
  filters : List (String × Filter) := []

namespace Session

/-- A session in which nobody is signed in. -/
def start (policy : Policy) : Session where
  policy := policy
  user? := none

/-- Signs a user in, in the place of whoever was. -/
def signIn (session : Session) (user : User) : Session :=
  { session with user? := some user }

def signOut (session : Session) : Session :=
  { session with user? := none }

/-- Keeps a filter under a name, in the place of an older one of the name. -/
def keep (session : Session) (name : String) (filter : Filter) : Session :=
  { session with
    filters := (name, filter) :: session.filters.filter fun entry => entry.1 != name }

/-- The filter kept under a name. -/
def filter? (session : Session) (name : String) : Option Filter :=
  session.filters.lookup name

end Session

end ExamGrants
