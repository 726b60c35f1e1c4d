import ExamGrants.EntityType
import ExamGrants.User

namespace ExamGrants

/-! What is acted on, as far as a decision looks at it. -/

/-- The part of a protected thing that decisions read. -/
@[ext] structure Entity where
  entityType : EntityType
  institution : InstitutionId
  /-- The user who owns it, where it has an owner. -/
  owner : Option UserId := none
  /-- The users who share the rights of the owner under the supporter rule. -/
  supporters : List UserId := []
deriving DecidableEq, Repr

namespace Entity

/-- Whether the user owns the entity; nobody owns one without an owner. -/
def isOwnedBy (entity : Entity) (user : User) : Bool :=
  entity.owner == some user.id

def isSupportedBy (entity : Entity) (user : User) : Bool :=
  entity.supporters.contains user.id

def isHomeOf (entity : Entity) (user : User) : Bool :=
  user.institution == entity.institution

end Entity

end ExamGrants
