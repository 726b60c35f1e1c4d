import ExamGrants.Proofs.Monotonicity
import ExamGrants.Proofs.StrongestTiers

namespace ExamGrants

/-! Effective privileges of roles taken together.

A level is known by the requests that it satisfies, and merged tiers satisfy what some role in
the list satisfies.  So the privileges of two lists of roles unite type by type and tier by
tier, and nothing is left of the order and number in which roles are listed.
-/

variable {registry : Registry} {first second roles : List Role} {entityType : EntityType}

namespace Level

theorem le_of_implies {lower upper : Level}
    (satisfied : ∀ requested, lower.implies requested = true → upper.implies requested = true) :
    lower ≤ upper := by
  by_cases nothing : lower = .none
  · rw [nothing]
    exact Nat.zero_le _
  · exact (implies_iff.mp (satisfied lower (implies_self nothing))).2

theorem eq_of_implies_iff {one other : Level}
    (same : ∀ requested, one.implies requested = true ↔ other.implies requested = true) :
    one = other :=
  le_antisymm (le_of_implies fun requested => (same requested).mp)
    (le_of_implies fun requested => (same requested).mpr)

end Level

/-- The entries of both lists by entity type, each tier the stronger of the two, without those
of nothing. -/
def Effective.unite (first second : List Effective) : List Effective :=
  (EntityType.all.map fun entityType =>
    ⟨entityType, (tiersOf first entityType).max (tiersOf second entityType)⟩).filter
      fun entry => entry.tiers.hasAny

namespace Registry

section Tier

/-! What holds of any tier that merging acts on by itself. -/

variable (tier : Tiers → Level)
  (merges : ∀ first second : Tiers, tier (first.max second) = (tier first).max (tier second))
  (nothing : tier .none = .none)

include merges nothing

theorem tier_tiersFor_append :
    tier (registry.tiersFor (first ++ second) entityType) =
      (tier (registry.tiersFor first entityType)).max
        (tier (registry.tiersFor second entityType)) := by
  apply Level.eq_of_implies_iff
  intro requested
  rw [Level.max_implies, Bool.or_eq_true, tiersFor_implies_iff tier merges nothing,
    tiersFor_implies_iff tier merges nothing, tiersFor_implies_iff tier merges nothing]
  simp only [List.mem_append, or_and_right, exists_or]

theorem tier_tiersFor_le (added : first ⊆ second) :
    tier (registry.tiersFor first entityType) ≤ tier (registry.tiersFor second entityType) := by
  apply Level.le_of_implies
  intro requested satisfied
  obtain ⟨role, grant, listed, found, reached⟩ :=
    (tiersFor_implies_iff tier merges nothing).mp satisfied
  exact (tiersFor_implies_iff tier merges nothing).mpr
    ⟨role, grant, added listed, found, reached⟩

end Tier

theorem tiersFor_append (registry : Registry) (first second : List Role)
    (entityType : EntityType) :
    registry.tiersFor (first ++ second) entityType =
      (registry.tiersFor first entityType).max (registry.tiersFor second entityType) :=
  Tiers.ext (tier_tiersFor_append Tiers.base (fun _ _ => rfl) rfl)
    (tier_tiersFor_append Tiers.institutional (fun _ _ => rfl) rfl)
    (tier_tiersFor_append Tiers.owner (fun _ _ => rfl) rfl)

theorem tiersFor_atMost (registry : Registry) (added : first ⊆ second)
    (entityType : EntityType) :
    (registry.tiersFor first entityType).AtMost (registry.tiersFor second entityType) where
  base := tier_tiersFor_le Tiers.base (fun _ _ => rfl) rfl added
  institutional := tier_tiersFor_le Tiers.institutional (fun _ _ => rfl) rfl added
  owner := tier_tiersFor_le Tiers.owner (fun _ _ => rfl) rfl added

theorem tiersFor_congr (registry : Registry) (same : ∀ role, role ∈ first ↔ role ∈ second) :
    registry.tiersFor first = registry.tiersFor second := by
  funext entityType
  have forth := registry.tiersFor_atMost (fun role => (same role).mp) entityType
  have back := registry.tiersFor_atMost (fun role => (same role).mpr) entityType
  exact Tiers.ext (Level.le_antisymm forth.base back.base)
    (Level.le_antisymm forth.institutional back.institutional)
    (Level.le_antisymm forth.owner back.owner)

theorem effective_append (registry : Registry) (first second : List Role) :
    registry.effective (first ++ second) =
      Effective.unite (registry.effective first) (registry.effective second) := by
  simp only [Effective.unite, tiersOf_effective, ← tiersFor_append]
  rfl

theorem effective_congr (registry : Registry) (same : ∀ role, role ∈ first ↔ role ∈ second) :
    registry.effective first = registry.effective second := by
  simp only [effective, registry.tiersFor_congr same]

theorem effective_eq_foldr (registry : Registry) (roles : List Role) :
    registry.effective roles =
      (roles.map fun role => registry.effective [role]).foldr Effective.unite [] := by
  induction roles with
  | nil => rfl
  | cons role rest ih =>
      rw [List.map_cons, List.foldr_cons, ← ih]
      exact registry.effective_append [role] rest

theorem entityTypes_effective_nodup (registry : Registry) (roles : List Role) :
    ((registry.effective roles).map (·.entityType)).Nodup :=
  nodup_of_increasing (List.pairwise_map.mpr (registry.effective_increasing roles))

theorem exists_tier_of_mem_effective {entry : Effective}
    (member : entry ∈ registry.effective roles) :
    entry.tiers.base ≠ .none ∨ entry.tiers.institutional ≠ .none ∨ entry.tiers.owner ≠ .none := by
  have granted := (mem_effective.mp member).2
  simpa only [Tiers.hasAny, Bool.or_eq_true, bne_iff_ne, or_assoc] using granted

/-- The effective privileges of two lists of roles together are those of each united, type by
type and tier by tier.  So they are united from those of single roles, depend on which roles
are listed and on nothing else, and only rise when roles are added.  The types come in
declaration order, each once and only with a privilege. -/
theorem effective_unites_roles (registry : Registry) :
    (∀ first second, registry.effective (first ++ second) =
      Effective.unite (registry.effective first) (registry.effective second)) ∧
    (∀ first second, (∀ role, role ∈ first ↔ role ∈ second) →
      registry.effective first = registry.effective second) ∧
    (∀ id username institution roles,
      registry.effective (User.mk id username institution (.ofList roles)).roles.toList =
        registry.effective roles) ∧
    (∀ roles, registry.effective roles =
      (roles.map fun role => registry.effective [role]).foldr Effective.unite []) ∧
    (∀ first second, first ⊆ second → ∀ entityType,
      (Effective.tiersOf (registry.effective first) entityType).AtMost
        (Effective.tiersOf (registry.effective second) entityType)) ∧
    ∀ roles,
      ((registry.effective roles).Pairwise fun first second =>
        Named.position first.entityType < Named.position second.entityType) ∧
      ((registry.effective roles).map (·.entityType)).Nodup ∧
      ∀ entry ∈ registry.effective roles, entry.tiers.base ≠ .none ∨
        entry.tiers.institutional ≠ .none ∨ entry.tiers.owner ≠ .none := by
  refine ⟨registry.effective_append, fun _ _ => registry.effective_congr, ?_,
    registry.effective_eq_foldr, ?_, ?_⟩
  · intro id username institution roles
    apply registry.effective_congr
    intro role
    rw [RoleSet.mem_toList, RoleSet.has_ofList]
  · intro first second added entityType
    rw [tiersOf_effective, tiersOf_effective]
    exact registry.tiersFor_atMost added entityType
  · intro roles
    exact ⟨registry.effective_increasing roles, registry.entityTypes_effective_nodup roles,
      fun _ => exists_tier_of_mem_effective⟩

/-- A teacher who is an examination administrator as well, the two roles listed in either
order and one of them twice. -/
theorem effective_unites_two_roles :
    let registry := Registry.ofGrants [⟨.exam, .examAdmin, ⟨.none, .write, .none⟩⟩,
      ⟨.exam, .teacher, ⟨.readOnly, .none, .modify⟩⟩, ⟨.user, .teacher, ⟨.none, .none, .none⟩⟩]
    let listed : List Role := [.teacher, .examAdmin, .teacher]
    let others : List Role := [.examAdmin, .teacher]
    (∀ role, role ∈ listed ↔ role ∈ others) ∧ [Role.teacher] ⊆ others ∧
    registry.effective listed = registry.effective others ∧
    registry.effective others = [⟨.exam, ⟨.readOnly, .write, .modify⟩⟩] ∧
    (Effective.tiersOf (registry.effective [.teacher]) .exam).AtMost
      (Effective.tiersOf (registry.effective others) .exam) := by
  intro registry listed others
  have same : ∀ role, role ∈ listed ↔ role ∈ others := by
    intro role
    cases role <;> decide
  have added : [Role.teacher] ⊆ others := by decide
  obtain ⟨_, sameSet, _, _, rises, _⟩ := effective_unites_roles registry
  exact ⟨same, added, sameSet listed others same, by decide,
    rises [.teacher] others added .exam⟩

end Registry

end ExamGrants
