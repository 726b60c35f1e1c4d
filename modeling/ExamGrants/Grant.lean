import ExamGrants.Entity
import ExamGrants.Level

namespace ExamGrants

/-! Grants: what one role may do with one entity type.

A grant has three tiers.  The base tier applies to every entity, the institutional
tier to those of the user's own institution, the owner tier to those the user owns.
A request is permitted when one of the tiers that apply implies it.
-/

/-- A level for each of the three circumstances in which a grant applies. -/
@[ext] structure Tiers where
  /-- The level on every entity. -/
  base : Level := .none
  /-- The level on entities of the user's own institution. -/
  institutional : Level := .none
  /-- The level on entities that the user owns. -/
  owner : Level := .none
deriving DecidableEq, Repr

namespace Tiers

def none : Tiers := {}

def max (first second : Tiers) : Tiers where
  base := first.base.max second.base
  institutional := first.institutional.max second.institutional
  owner := first.owner.max second.owner

def hasAny (tiers : Tiers) : Bool :=
  tiers.base != .none || tiers.institutional != .none || tiers.owner != .none

end Tiers

/-- One row of a grant table: the tiers of a role on an entity type. -/
@[ext] structure Grant where
  entityType : EntityType
  /-- The role that the tiers are granted to. -/
  role : Role
  tiers : Tiers
deriving DecidableEq, Repr

namespace Grant

/-- The grant that stands for a missing row. -/
def none (entityType : EntityType) (role : Role) : Grant :=
  ⟨entityType, role, .none⟩

/-- What a table knows the row by. -/
def key (grant : Grant) : EntityType × Role :=
  (grant.entityType, grant.role)

/-- Whether the base tier permits the request. -/
def permitsEverywhere (grant : Grant) (requested : Level) : Bool :=
  grant.tiers.base.implies requested

/-- Whether the institutional tier permits the request on this entity. -/
def permitsAtHome (grant : Grant) (entity : Entity) (user : User) (requested : Level) : Bool :=
  grant.tiers.institutional.implies requested && entity.isHomeOf user

/-- Whether the owner tier permits the request on this entity, wherever it belongs. -/
def permitsOwner (grant : Grant) (entity : Entity) (user : User) (requested : Level) : Bool :=
  grant.tiers.owner.implies requested && entity.isOwnedBy user

/-- Whether any of the three tiers permits the request on this entity. -/
def permits (grant : Grant) (entity : Entity) (user : User) (requested : Level) : Bool :=
  grant.permitsEverywhere requested || grant.permitsAtHome entity user requested ||
    grant.permitsOwner entity user requested

end Grant

end ExamGrants
