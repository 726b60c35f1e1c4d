import Mathlib.Data.List.Nodup
import ExamGrants.EntityType
import ExamGrants.Role

namespace ExamGrants

/-! Lists that go by position.

Roles, entity types and whatever is listed by them come in declaration order.  Such a list has
no repetition, the first of its items to pass a test is the one of the lowest position, and
sorting a rearrangement of it gives it back.
-/

theorem Role.all_increasing :
    Role.all.Pairwise fun first second => Named.position first < Named.position second := by
  decide

theorem EntityType.all_increasing :
    EntityType.all.Pairwise fun first second =>
      Named.position first < Named.position second := by
  decide

theorem RoleSet.toList_increasing (roles : RoleSet) :
    roles.toList.Pairwise fun first second => Named.position first < Named.position second :=
  Role.all_increasing.filter roles.has

section Increasing

variable {α : Type} {items : List α} {position : α → Nat}
  (increasing : items.Pairwise fun first second => position first < position second)

include increasing

theorem nodup_positions_of_increasing : (items.map position).Nodup :=
  List.pairwise_map.mpr (increasing.imp Nat.ne_of_lt)

theorem nodup_of_increasing : items.Nodup :=
  (nodup_positions_of_increasing increasing).of_map _

/-- The first item to pass a test passes it while no item of a lower position does. -/
theorem find?_eq_some_iff_earliest {test : α → Bool} {item : α} :
    items.find? test = some item ↔
      item ∈ items ∧ test item = true ∧
        ∀ earlier ∈ items, position earlier < position item → test earlier = false := by
  rw [List.find?_eq_some_iff_append]
  constructor
  · rintro ⟨passes, before, after, rfl, failing⟩
    refine ⟨by simp, passes, ?_⟩
    intro earlier member less
    rcases List.mem_append.mp member with inBefore | later
    · simpa using failing earlier inBefore
    · have above : ∀ other ∈ item :: after, position item ≤ position other := by
        have following := (List.pairwise_cons.mp (List.pairwise_append.mp increasing).2.1).1
        exact List.forall_mem_cons.mpr
          ⟨Nat.le_refl _, fun other listed => Nat.le_of_lt (following other listed)⟩
      exact absurd less (Nat.not_lt.mpr (above earlier later))
  · rintro ⟨member, passes, first⟩
    obtain ⟨before, after, rfl⟩ := List.append_of_mem member
    refine ⟨passes, before, after, rfl, ?_⟩
    intro earlier inBefore
    have less : position earlier < position item :=
      (List.pairwise_append.mp increasing).2.2 earlier inBefore item List.mem_cons_self
    rw [first earlier (List.mem_append_left _ inBefore) less]
    rfl

/-- However the items come, sorting them by position gives the one list that goes by it. -/
theorem mergeSort_eq_of_increasing {rearranged : List α} (same : rearranged.Perm items) :
    (rearranged.mergeSort fun first second => decide (position first ≤ position second)) =
      items := by
  have transitive : ∀ first second third : α,
      decide (position first ≤ position second) = true →
      decide (position second ≤ position third) = true →
      decide (position first ≤ position third) = true := by
    intro first second third
    simp only [decide_eq_true_eq]
    omega
  have total : ∀ first second : α,
      (decide (position first ≤ position second) ||
        decide (position second ≤ position first)) = true := by
    intro first second
    simp only [Bool.or_eq_true, decide_eq_true_eq]
    omega
  have sorted := List.pairwise_mergeSort transitive total rearranged
  have rearranges := (List.mergeSort_perm rearranged fun first second =>
    decide (position first ≤ position second)).trans same
  refine rearranges.eq_of_pairwise ?_ (sorted.imp of_decide_eq_true)
    (increasing.imp Nat.le_of_lt)
  intro first second member memberToo below above
  exact List.inj_on_of_nodup_map (nodup_positions_of_increasing increasing)
    (rearranges.mem_iff.mp member) memberToo (Nat.le_antisymm below above)

end Increasing

end ExamGrants
