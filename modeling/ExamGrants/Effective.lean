import ExamGrants.Registry

namespace ExamGrants

/-! Effective privileges: what a set of roles may do, taken together. -/

/-- The strongest level per tier that a set of roles holds on an entity type. -/
@[ext] structure Effective where
  entityType : EntityType
  tiers : Tiers
deriving DecidableEq, Repr

namespace Registry

/-- The strongest level per tier over the grants of the listed roles. -/
def tiersFor (registry : Registry) (roles : List Role) (entityType : EntityType) : Tiers :=
  (registry.grantsFor entityType roles).foldl
    (fun tiers grant => tiers.max grant.tiers) .none

/-- The effective privileges of the listed roles, by entity type, without those of nothing. -/
def effective (registry : Registry) (roles : List Role) : List Effective :=
  (EntityType.all.map fun entityType => ⟨entityType, registry.tiersFor roles entityType⟩).filter
    fun entry => entry.tiers.hasAny

end Registry

end ExamGrants
