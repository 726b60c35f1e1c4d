import ExamGrants.Policy
import ExamGrants.Proofs.RecordText
import ExamGrants.Table.Text

namespace ExamGrants

/-! Four ways to build a table.

Rows may be given as grants, as tuples, one by one, or as the JSON text of their grants.  The
table is the same, with every row in its place, so a table that is written and loaded again
decides as before.
-/

@[simp] theorem Grant.ofRow_toRow (grant : Grant) : Grant.ofRow grant.toRow = grant := rfl

/-- The policy of a table whose rules may rest on the registry of the table. -/
def Policy.ofTable (table : Table) (rules : Registry → RuleSet) : Policy :=
  let registry := (Registry.ofTable table).value
  ⟨registry, rules registry⟩

namespace Table

/-- The table with more rows at its end, registered one after the other. -/
def registerAll (table : Table) (rows : List Row) : Table :=
  rows.foldl (fun table (entityType, role, base, institutional, owner) =>
    table.register entityType role base institutional owner) table

theorem grants_registerAll (table : Table) (rows : List Row) :
    (table.registerAll rows).grants = table.grants ++ rows.map Grant.ofRow := by
  induction rows generalizing table with
  | nil => simp [registerAll]
  | cons row rest ih =>
      obtain ⟨entityType, role, base, institutional, owner⟩ := row
      have following := ih (table.register entityType role base institutional owner)
      have pushed : (table.register entityType role base institutional owner).grants =
          table.grants ++ [Grant.ofRow (entityType, role, base, institutional, owner)] := rfl
      rw [pushed, List.append_assoc] at following
      exact following

theorem map_ofRow_toRow (grants : List Grant) :
    (grants.map Grant.toRow).map Grant.ofRow = grants := by
  simp [Function.comp_def]

theorem ofRows_toRow (grants : List Grant) :
    Table.ofRows (grants.map Grant.toRow) = Table.ofGrants grants :=
  congrArg Table.ofGrants (map_ofRow_toRow grants)

theorem registerAll_toRow (grants : List Grant) :
    Table.empty.registerAll (grants.map Grant.toRow) = Table.ofGrants grants := by
  apply Table.ext
  rw [grants_registerAll, map_ofRow_toRow]
  rfl

theorem parse_of_read {text : String} {grants : List Grant}
    (read : Format.grants.read text = .ok grants) :
    Table.parse text = .ok (Table.ofGrants grants) := by
  rw [parse, read]

theorem grants_isLossless : Format.grants.IsLossless :=
  Json.Codec.list_isLossless Format.grant_isLossless

theorem parse_write (grants : List Grant) :
    Table.parse (Format.grants.write grants) = .ok (Table.ofGrants grants) :=
  parse_of_read (grants_isLossless.read_write grants)

theorem parse_pretty (grants : List Grant) :
    Table.parse (Format.grants.encode grants).pretty = .ok (Table.ofGrants grants) :=
  parse_of_read (grants_isLossless.read_pretty grants)

/-- Tuples, grants, registered rows and written texts build one table, with all rows in order.
The policy of a table that was written and loaded decides as the policy of the table. -/
theorem builders_agree (grants : List Grant) :
    (Table.ofGrants grants).grants = grants ∧
    Table.ofRows (grants.map Grant.toRow) = Table.ofGrants grants ∧
    Table.empty.registerAll (grants.map Grant.toRow) = Table.ofGrants grants ∧
    Table.parse (Format.grants.encode grants).pretty = .ok (Table.ofGrants grants) ∧
    ∃ loaded, Table.parse (Format.grants.write grants) = .ok loaded ∧
      loaded = Table.ofGrants grants ∧
      ∀ rules,
        (Policy.ofTable loaded rules).permits =
          (Policy.ofTable (Table.ofGrants grants) rules).permits ∧
        (Policy.ofTable loaded rules).permitsEverywhere =
          (Policy.ofTable (Table.ofGrants grants) rules).permitsEverywhere ∧
        (Policy.ofTable loaded rules).permitsAtHome =
          (Policy.ofTable (Table.ofGrants grants) rules).permitsAtHome := by
  refine ⟨rfl, ofRows_toRow grants, registerAll_toRow grants, parse_pretty grants,
    Table.ofGrants grants, parse_write grants, rfl, ?_⟩
  intro rules
  exact ⟨rfl, rfl, rfl⟩

end Table

end ExamGrants
