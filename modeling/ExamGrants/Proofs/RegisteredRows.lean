import ExamGrants.Proofs.Positions
import ExamGrants.Registry

namespace ExamGrants.Registry

/-! Registered rows in any order.

What a registry holds is a map from keys to rows, and a map may be gone through in whatever
order.  Each row comes once, under its own key.  Taking those of one entity type and sorting
them by role leaves nothing of the order in which they came.
-/

variable {registry : Registry} {entityType : EntityType} {role : Role} {grant : Grant}
  {entries : List ((EntityType × Role) × Grant)}

theorem find?_eq_some_iff_mem :
    registry.find? entityType role = some grant ↔
      grant ∈ registry.grants ∧ grant.key = (entityType, role) := by
  refine ⟨fun found => ⟨List.mem_of_find?_eq_some found, key_of_find? found⟩, ?_⟩
  intro ⟨member, same⟩
  cases found : registry.find? entityType role with
  | none =>
      have differs := List.find?_eq_none.mp found grant member
      exact absurd (beq_iff_eq.mpr same) differs
  | some other =>
      have sameKey : other.key = grant.key := (key_of_find? found).trans same.symm
      have registered : other ∈ registry.grants := List.mem_of_find?_eq_some found
      exact congrArg some
        (List.inj_on_of_nodup_map registry.keys_nodup registered member sameKey)

theorem mem_grants_iff_find? :
    grant ∈ registry.grants ↔ registry.find? grant.entityType grant.role = some grant := by
  rw [find?_eq_some_iff_mem]
  exact (and_iff_left rfl).symm

theorem grants_nodup (registry : Registry) : registry.grants.Nodup :=
  registry.keys_nodup.of_map _

/-- The entries say, each key once and in any order, which row is held under which key. -/
structure Enumerates (registry : Registry) (entries : List ((EntityType × Role) × Grant)) :
    Prop where
  distinct : (entries.map Prod.fst).Nodup
  mem_iff : ∀ entityType role grant, ((entityType, role), grant) ∈ entries ↔
    registry.find? entityType role = some grant

namespace Enumerates

variable (listed : registry.Enumerates entries)

include listed

theorem key_eq {entry : (EntityType × Role) × Grant} (member : entry ∈ entries) :
    entry.2.key = entry.1 :=
  key_of_find? ((listed.mem_iff entry.1.1 entry.1.2 entry.2).mp member)

theorem map_key_values : (entries.map Prod.snd).map Grant.key = entries.map Prod.fst := by
  rw [List.map_map]
  exact List.map_congr_left fun _ member => listed.key_eq member

theorem mem_values : grant ∈ entries.map Prod.snd ↔ grant ∈ registry.grants := by
  rw [mem_grants_iff_find?, ← listed.mem_iff, List.mem_map]
  refine ⟨?_, fun member => ⟨_, member, rfl⟩⟩
  intro ⟨entry, member, same⟩
  subst same
  have key : (entry.2.entityType, entry.2.role) = entry.1 := listed.key_eq member
  rw [key]
  exact member

theorem values_perm : (entries.map Prod.snd).Perm registry.grants := by
  have distinct : ((entries.map Prod.snd).map Grant.key).Nodup := by
    rw [listed.map_key_values]
    exact listed.distinct
  exact (List.perm_ext_iff_of_nodup (distinct.of_map _) registry.grants_nodup).mpr
    fun _ => listed.mem_values

/-- Every row that is held is gone through once, and no other is. -/
theorem count_values (grant : Grant) :
    (entries.map Prod.snd).count grant =
      if registry.find? grant.entityType grant.role = some grant then 1 else 0 := by
  simp only [listed.values_perm.count_eq, registry.grants_nodup.count, mem_grants_iff_find?]

end Enumerates

theorem enumerates_grants (registry : Registry) :
    registry.Enumerates (registry.grants.map fun grant => (grant.key, grant)) where
  distinct := by
    rw [List.map_map]
    exact registry.keys_nodup
  mem_iff entityType role grant := by
    rw [find?_eq_some_iff_mem, List.mem_map]
    refine ⟨?_, fun ⟨member, same⟩ => ⟨grant, member, by rw [same]⟩⟩
    intro ⟨other, member, same⟩
    obtain ⟨key, rfl⟩ := Prod.mk.inj same
    exact ⟨member, key⟩

/-- The rows of one entity type, sorted by role. -/
def sortedRows (rows : List Grant) (entityType : EntityType) : List Grant :=
  (rows.filter fun grant => grant.entityType == entityType).mergeSort fun first second =>
    decide (Named.position first.role ≤ Named.position second.role)

theorem mem_grantsOf :
    grant ∈ registry.grantsOf entityType ↔
      grant ∈ registry.grants ∧ grant.entityType = entityType := by
  simp only [grantsOf, grantsFor, List.mem_filterMap, find?_eq_some_iff_mem, Grant.key,
    Prod.mk.injEq]
  refine ⟨fun ⟨_, _, member, same, _⟩ => ⟨member, same⟩, ?_⟩
  intro ⟨member, same⟩
  exact ⟨grant.role, Role.mem_all _, member, same, rfl⟩

theorem grantsOf_increasing (registry : Registry) (entityType : EntityType) :
    (registry.grantsOf entityType).Pairwise fun first second =>
      Named.position first.role < Named.position second.role := by
  apply List.Pairwise.filterMap (registry.find? entityType) ?_ Role.all_increasing
  intro role other before grant found later foundLater
  have role_eq : grant.role = role := congrArg Prod.snd (key_of_find? found)
  have other_eq : later.role = other := congrArg Prod.snd (key_of_find? foundLater)
  rw [role_eq, other_eq]
  exact before

theorem grantsOf_nodup (registry : Registry) (entityType : EntityType) :
    (registry.grantsOf entityType).Nodup :=
  nodup_of_increasing (registry.grantsOf_increasing entityType)

/-- However the rows come, sorting those of a type gives its rows in the order of roles. -/
theorem sortedRows_of_perm {rows : List Grant} (listed : rows.Perm registry.grants)
    (entityType : EntityType) : sortedRows rows entityType = registry.grantsOf entityType := by
  have ofType : (registry.grants.filter fun grant => grant.entityType == entityType).Perm
      (registry.grantsOf entityType) := by
    apply (List.perm_ext_iff_of_nodup (registry.grants_nodup.filter _)
      (registry.grantsOf_nodup entityType)).mpr
    intro grant
    rw [List.mem_filter, beq_iff_eq, mem_grantsOf]
  exact mergeSort_eq_of_increasing (registry.grantsOf_increasing entityType)
    ((listed.filter _).trans ofType)

theorem toList_perm (registry : Registry) : registry.toList.Perm registry.grants := by
  have distinct : registry.toList.Nodup := by
    rw [toList, List.nodup_flatMap]
    refine ⟨fun entityType _ => registry.grantsOf_nodup entityType, ?_⟩
    apply EntityType.all_nodup.imp
    intro first second differs grant member memberToo
    exact differs ((mem_grantsOf.mp member).2.symm.trans (mem_grantsOf.mp memberToo).2)
  apply (List.perm_ext_iff_of_nodup distinct registry.grants_nodup).mpr
  intro grant
  simp only [toList, List.mem_flatMap, mem_grantsOf]
  exact ⟨fun ⟨_, _, member, _⟩ => member,
    fun member => ⟨_, EntityType.mem_all _, member, rfl⟩⟩

end ExamGrants.Registry
