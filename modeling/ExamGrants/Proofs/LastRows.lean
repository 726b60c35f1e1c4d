import Mathlib.Data.List.Dedup
import ExamGrants.Proofs.RegisteredRows
import ExamGrants.Proofs.RuleLocality

namespace ExamGrants

/-! The last row of each key.

A registry keeps of a table the last row of each key and nothing else: neither the rows that a
later one overwrites nor the order of rows with different keys.  Two tables with the same last
rows are therefore answered and decided alike, by whatever rules.
-/

variable {entityType : EntityType} {role : Role} {grant : Grant}

namespace Table

/-- The rows of a key, in their order. -/
def rowsWith (table : Table) (key : EntityType × Role) : List Grant :=
  table.grants.filter fun grant => grant.key == key

def last? (table : Table) (key : EntityType × Role) : Option Grant :=
  (table.rowsWith key).getLast?

def SameLastRows (first second : Table) : Prop :=
  ∀ key, first.last? key = second.last? key

theorem sameLastRows_of_rowsWith {first second : Table}
    (same : ∀ key, first.rowsWith key = second.rowsWith key) : first.SameLastRows second := by
  intro key
  rw [last?, last?, same key]

theorem sameLastRows_of_overwritten {overwritten : Grant} {after : List Grant}
    (later : ∃ grant ∈ after, grant.key = overwritten.key) (before : List Grant) :
    SameLastRows ⟨before ++ overwritten :: after⟩ ⟨before ++ after⟩ := by
  intro key
  simp only [last?, rowsWith, List.filter_append, List.getLast?_append, List.filter_cons]
  split
  · next declared =>
      -- The row is not the last one, since a later one has its key.
      obtain ⟨grant, member, same⟩ := later
      have remains : grant ∈ after.filter fun grant => grant.key == key := by
        rw [List.mem_filter, same]
        exact ⟨member, declared⟩
      rw [List.getLast?_cons_of_ne_nil (List.ne_nil_of_mem remains)]
  · rfl

theorem SameLastRows.trans {first second third : Table} (one : first.SameLastRows second)
    (two : second.SameLastRows third) : first.SameLastRows third :=
  fun key => (one key).trans (two key)

end Table

namespace Registry

theorem find?_ofTable (table : Table) (entityType : EntityType) (role : Role) :
    (ofTable table).value.find? entityType role = table.last? (entityType, role) := by
  rw [Table.last?, Table.rowsWith, List.getLast?_filter]
  exact find?_ofGrants table.grants entityType role

theorem mem_keys_ofTable {table : Table} {key : EntityType × Role} :
    key ∈ (ofTable table).value.grants.map Grant.key ↔ key ∈ table.grants.map Grant.key := by
  have held : key ∈ (ofTable table).value.grants.map Grant.key ↔
      ((ofTable table).value.find? key.1 key.2).isSome = true := by
    simp only [List.mem_map, Option.isSome_iff_exists, find?_eq_some_iff_mem]
  have declared : key ∈ table.grants.map Grant.key ↔ (table.last? key).isSome = true := by
    rw [Table.last?, List.getLast?_isSome, Table.rowsWith, Ne, List.filter_eq_nil_iff]
    simp [List.mem_map]
  rw [held, declared, find?_ofTable]

theorem keys_ofTable_perm (table : Table) :
    ((ofTable table).value.grants.map Grant.key).Perm (table.grants.map Grant.key).dedup := by
  apply (List.perm_ext_iff_of_nodup (keys_nodup _) (List.nodup_dedup _)).mpr
  intro key
  rw [List.mem_dedup, mem_keys_ofTable]

theorem size_ofTable (table : Table) :
    (ofTable table).value.size = (table.grants.map Grant.key).dedup.length := by
  rw [size, ← List.length_map Grant.key]
  exact (keys_ofTable_perm table).length_eq

theorem size_ofTable_le (table : Table) : (ofTable table).value.size ≤ table.size := by
  rw [size_ofTable, Table.size, ← List.length_map Grant.key]
  exact (List.dedup_sublist _).length_le

theorem size_ofTable_eq_iff (table : Table) :
    (ofTable table).value.size = table.size ↔ (table.grants.map Grant.key).Nodup := by
  rw [size_ofTable, Table.size, ← List.length_map Grant.key, ← List.dedup_eq_self]
  exact ⟨(List.dedup_sublist _).eq_of_length, congrArg List.length⟩

end Registry

/-- The registry holds the last row of each key of the table, and all its queries are about
those rows alone. -/
structure Table.FrozenAs (table : Table) (registry : Registry) : Prop where
  find? : ∀ entityType role, registry.find? entityType role = table.last? (entityType, role)
  size : registry.size = (table.grants.map Grant.key).dedup.length
  size_le : registry.size ≤ table.size
  size_eq_iff : registry.size = table.size ↔ (table.grants.map Grant.key).Nodup
  toList : registry.toList.Perm registry.grants
  enumerates : registry.Enumerates (registry.grants.map fun grant => (grant.key, grant))
  ownKey : ∀ entries, registry.Enumerates entries → ∀ entry ∈ entries, entry.2.key = entry.1
  once : ∀ entries, registry.Enumerates entries → ∀ grant,
    (entries.map Prod.snd).count grant =
      if registry.find? grant.entityType grant.role = some grant then 1 else 0
  ofType : ∀ entityType grant, grant ∈ registry.grantsOf entityType ↔
    registry.find? grant.entityType grant.role = some grant ∧ grant.entityType = entityType
  increasing : ∀ entityType, (registry.grantsOf entityType).Pairwise fun first second =>
    Named.position first.role < Named.position second.role
  anyOrder : ∀ entries, registry.Enumerates entries → ∀ entityType,
    Registry.sortedRows (entries.map Prod.snd) entityType = registry.grantsOf entityType
  forRoles : ∀ entityType roles, registry.grantsFor entityType roles =
    roles.filterMap fun role => table.last? (entityType, role)

theorem Table.frozenAs_ofTable (table : Table) :
    table.FrozenAs (Registry.ofTable table).value where
  find? := Registry.find?_ofTable table
  size := Registry.size_ofTable table
  size_le := Registry.size_ofTable_le table
  size_eq_iff := Registry.size_ofTable_eq_iff table
  toList := Registry.toList_perm _
  enumerates := Registry.enumerates_grants _
  ownKey _ listed _ member := listed.key_eq member
  once _ listed := listed.count_values
  ofType _ _ := by rw [Registry.mem_grantsOf, Registry.mem_grants_iff_find?]
  increasing := Registry.grantsOf_increasing _
  anyOrder _ listed := Registry.sortedRows_of_perm listed.values_perm
  forRoles entityType _ := by
    simp only [Registry.grantsFor, ← Registry.find?_ofTable]

/-- No query tells the registries apart, but for the order in which rows are gone through. -/
structure Registry.AnswersAs (first second : Registry) : Prop where
  find? : first.find? = second.find?
  get : first.get = second.get
  grantsFor : first.grantsFor = second.grantsFor
  grantsOf : first.grantsOf = second.grantsOf
  toList : first.toList = second.toList
  effective : first.effective = second.effective
  size : first.size = second.size
  isEmpty : first.isEmpty = second.isEmpty
  enumerates : first.Enumerates = second.Enumerates
  supportersOf : Rule.supportersOf first = Rule.supportersOf second

section SameRows

variable {first second : Registry} (same : first.find? = second.find?)

include same

theorem Registry.grants_perm_of_find? : first.grants.Perm second.grants := by
  apply (List.perm_ext_iff_of_nodup first.grants_nodup second.grants_nodup).mpr
  intro grant
  rw [mem_grants_iff_find?, mem_grants_iff_find?, same]

/-- All queries go back to looking up single keys. -/
theorem Registry.answersAs_of_find? : first.AnswersAs second := by
  have grantsFor : first.grantsFor = second.grantsFor := by
    funext entityType roles
    rw [Registry.grantsFor, Registry.grantsFor, same]
  have grantsOf : first.grantsOf = second.grantsOf := by
    funext entityType
    rw [Registry.grantsOf, Registry.grantsOf, grantsFor]
  have listed := grants_perm_of_find? same
  exact {
    find? := same
    get := by
      funext entityType role
      rw [Registry.get, Registry.get, same]
    grantsFor := grantsFor
    grantsOf := grantsOf
    toList := by rw [Registry.toList, Registry.toList, grantsOf]
    effective := by
      funext roles
      simp only [Registry.effective, tiersFor, grantsFor]
    size := listed.length_eq
    isEmpty := listed.isEmpty_eq
    enumerates := by
      funext entries
      apply propext
      refine ⟨fun listed => ⟨listed.distinct, ?_⟩, fun listed => ⟨listed.distinct, ?_⟩⟩
      · rw [← same]
        exact listed.mem_iff
      · rw [same]
        exact listed.mem_iff
    supportersOf := by
      funext entityType
      rw [Rule.supportersOf, Rule.supportersOf, grantsOf] }

theorem Policy.permits_of_find? (rules : RuleSet) :
    (Policy.mk first rules).permits = (Policy.mk second rules).permits := by
  funext entity requested user
  simp only [permits, permitsByTiers, decidingRole?, same]

theorem Policy.accepts_filterFor_of_find? (rules : RuleSet) (prepared : EntityType)
    (entity : Entity) (requested : Level) (user : User) :
    ((Policy.mk first rules).filterFor prepared requested user).accepts entity =
      ((Policy.mk second rules).filterFor prepared requested user).accepts entity := by
  have prepares : (Policy.mk first rules).filterFor prepared requested user =
      { (Policy.mk second rules).filterFor prepared requested user with
        policy := ⟨first, rules⟩ } := by
    simp only [filterFor, (Registry.answersAs_of_find? same).grantsFor]
  rw [prepares]
  simp only [Filter.accepts, permits_of_find? same rules]
  rfl

theorem Policy.agreeOn_of_find? (rules : RuleSet) :
    (Policy.mk first rules).AgreeOn ⟨second, rules⟩ fun _ => true := by
  apply agreeOn_of_entities
  · intro entity requested user _
    rw [permits_of_find? same]
  · intro prepared entity requested user _
    exact accepts_filterFor_of_find? same rules prepared entity requested user

theorem Policy.agreeOnTypes_of_find? (rules : RuleSet) :
    (Policy.mk first rules).AgreeOnTypes ⟨second, rules⟩ := by
  have someGrant : (Policy.mk first rules).someGrant = (Policy.mk second rules).someGrant := by
    funext entityType user test
    simp only [Policy.someGrant, same]
  have everywhere : (Policy.mk first rules).permitsEverywhere =
      (Policy.mk second rules).permitsEverywhere := by
    funext entityType requested user
    rw [permitsEverywhere, permitsEverywhere, someGrant]
  exact {
    permitsEverywhere := everywhere
    permitsAtHome := by
      funext entityType requested user
      rw [permitsAtHome, permitsAtHome, someGrant]
    requireType := by
      funext entityType requested user
      rw [requireType, requireType, everywhere]
    effective := (Registry.answersAs_of_find? same).effective }

end SameRows

/-- A registry holds the last row of each key of its table.  So tables with the same last rows,
by moving rows of different keys or by leaving out overwritten ones, make registries that no
query and no decision tells apart. -/
theorem Registry.ofTable_holds_lastRows (table : Table) :
    table.FrozenAs (ofTable table).value ∧
    (∀ other : Table, table.SameLastRows other →
      (ofTable table).value.AnswersAs (ofTable other).value ∧
      ∀ rules,
        (Policy.mk (ofTable table).value rules).AgreeOn ⟨(ofTable other).value, rules⟩
          (fun _ => true) ∧
        (Policy.mk (ofTable table).value rules).AgreeOnTypes ⟨(ofTable other).value, rules⟩) ∧
    (∀ other : Table, (∀ key, table.rowsWith key = other.rowsWith key) →
      table.SameLastRows other) ∧
    ∀ before overwritten after, table = ⟨before ++ overwritten :: after⟩ →
      (∃ later ∈ after, later.key = overwritten.key) →
      table.SameLastRows ⟨before ++ after⟩ := by
  refine ⟨table.frozenAs_ofTable, ?_, fun _ => Table.sameLastRows_of_rowsWith, ?_⟩
  · intro other lastRows
    have same : (ofTable table).value.find? = (ofTable other).value.find? := by
      funext entityType role
      rw [find?_ofTable, find?_ofTable, lastRows]
    exact ⟨answersAs_of_find? same,
      fun rules => ⟨Policy.agreeOn_of_find? same rules, Policy.agreeOnTypes_of_find? same rules⟩⟩
  · intro before overwritten after declared later
    rw [declared]
    exact Table.sameLastRows_of_overwritten later before

/-- An exam row of teachers that is declared anew after a row of another type: only the second
declaration counts, and the order of the two rows that are left is immaterial. -/
theorem Registry.ofTable_holds_lastRows_redeclared :
    let early : Grant := ⟨.exam, .teacher, ⟨.write, .none, .none⟩⟩
    let between : Grant := ⟨.user, .teacher, ⟨.none, .none, .readOnly⟩⟩
    let late : Grant := ⟨.exam, .teacher, ⟨.none, .none, .modify⟩⟩
    let table : Table := ⟨[early, between, late]⟩
    let turned : Table := ⟨[late, between]⟩
    ((∃ later ∈ [between, late], later.key = early.key) ∧
      (∀ key, Table.rowsWith ⟨[between, late]⟩ key = turned.rowsWith key)) ∧
    table.SameLastRows turned ∧
    (ofTable table).value.find? .exam .teacher = some late ∧
    (ofTable table).value.size = 2 ∧
    (ofTable table).value.AnswersAs (ofTable turned).value := by
  intro early between late table turned
  have later : ∃ later ∈ [between, late], later.key = early.key := ⟨late, by simp, rfl⟩
  have apart : ∀ key, Table.rowsWith ⟨[between, late]⟩ key = turned.rowsWith key := by
    intro (entityType, role)
    cases entityType <;> cases role <;> rfl
  obtain ⟨frozen, indistinguishable, _, leavesOut⟩ := ofTable_holds_lastRows table
  obtain ⟨_, _, reorders, _⟩ := ofTable_holds_lastRows ⟨[between, late]⟩
  have lastRows : table.SameLastRows turned :=
    (leavesOut [] early [between, late] rfl later).trans (reorders turned apart)
  exact ⟨⟨later, apart⟩, lastRows, (frozen.find? .exam .teacher).trans (by decide),
    frozen.size.trans (by decide), (indistinguishable turned lastRows).1⟩

end ExamGrants
