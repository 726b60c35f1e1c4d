import Mathlib.Data.List.Sort
import ExamGrants.Proofs.EffectivePrivileges
import ExamGrants.Proofs.LastRows

namespace ExamGrants

/-! The effective privileges in terms of the rows of a table.

On each entity type and for each tier by itself they are the strongest level in the last rows
of the roles.  The types come in declaration order and those without any privilege are left
out, so that a table and some roles determine the list (`Table.Entitles.unique`).
-/

variable {table : Table} {roles : List Role} {entityType : EntityType} {tier : Tiers → Level}

namespace Table

/-- The level is the strongest that the last rows of the roles have in a tier. -/
structure IsStrongest (table : Table) (roles : List Role) (entityType : EntityType)
    (tier : Tiers → Level) (level : Level) : Prop where
  bound : ∀ role ∈ roles, ∀ grant, table.last? (entityType, role) = some grant →
    tier grant.tiers ≤ level
  attained : level = .none ∨ ∃ role ∈ roles, ∃ grant,
    table.last? (entityType, role) = some grant ∧ tier grant.tiers = level

structure SumsUp (table : Table) (roles : List Role) (entityType : EntityType)
    (tiers : Tiers) : Prop where
  base : table.IsStrongest roles entityType Tiers.base tiers.base
  institutional : table.IsStrongest roles entityType Tiers.institutional tiers.institutional
  owner : table.IsStrongest roles entityType Tiers.owner tiers.owner

/-- The entries are the strongest tiers of the roles, by entity type in declaration order and
without the types on which they are nothing. -/
structure Entitles (table : Table) (roles : List Role) (entries : List Effective) : Prop where
  mem_iff : ∀ entry, entry ∈ entries ↔
    table.SumsUp roles entry.entityType entry.tiers ∧ entry.tiers ≠ .none
  increasing : entries.Pairwise fun first second =>
    Named.position first.entityType < Named.position second.entityType

theorem IsStrongest.le {first second : Level}
    (strongest : table.IsStrongest roles entityType tier first)
    (other : table.IsStrongest roles entityType tier second) : first ≤ second := by
  rcases strongest.attained with rfl | ⟨role, listed, grant, last, rfl⟩
  · exact Nat.zero_le _
  · exact other.bound role listed grant last

theorem IsStrongest.unique {first second : Level}
    (strongest : table.IsStrongest roles entityType tier first)
    (other : table.IsStrongest roles entityType tier second) : first = second :=
  Level.le_antisymm (strongest.le other) (other.le strongest)

theorem SumsUp.unique {first second : Tiers} (sums : table.SumsUp roles entityType first)
    (other : table.SumsUp roles entityType second) : first = second :=
  Tiers.ext (sums.base.unique other.base) (sums.institutional.unique other.institutional)
    (sums.owner.unique other.owner)

theorem Entitles.unique {first second : List Effective} (entitles : table.Entitles roles first)
    (other : table.Entitles roles second) : first = second := by
  have irreflexive : Std.Irrefl fun first second : Effective =>
      Named.position first.entityType < Named.position second.entityType :=
    ⟨fun _ => Nat.lt_irrefl _⟩
  have asymmetric : Std.Asymm fun first second : Effective =>
      Named.position first.entityType < Named.position second.entityType :=
    ⟨fun _ _ => Nat.lt_asymm⟩
  apply entitles.increasing.eq_of_mem_iff other.increasing
  intro entry
  rw [entitles.mem_iff, other.mem_iff]

end Table

namespace Registry

theorem effective_increasing (registry : Registry) (roles : List Role) :
    (registry.effective roles).Pairwise fun first second =>
      Named.position first.entityType < Named.position second.entityType := by
  apply List.Pairwise.filter
  rw [List.pairwise_map]
  exact EntityType.all_increasing

variable {held : List Role} (sameRoles : ∀ role, role ∈ held ↔ role ∈ roles)

include sameRoles

end Registry

end ExamGrants
