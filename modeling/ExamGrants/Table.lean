import ExamGrants.Grant

namespace ExamGrants

/-! Grant tables: rows in the order of their declaration.

A table may declare a key more than once; which row counts is settled by the
registry that is built from it.
-/

/-- A row written as entity type, role, base, institutional and owner level. -/
abbrev Row := EntityType × Role × Level × Level × Level

/-- The grant that a row declares. -/
def Grant.ofRow : Row → Grant
  | (entityType, role, base, institutional, owner) =>
      ⟨entityType, role, ⟨base, institutional, owner⟩⟩

/-- The row that declares a grant. -/
def Grant.toRow (grant : Grant) : Row :=
  (grant.entityType, grant.role, grant.tiers.base, grant.tiers.institutional,
    grant.tiers.owner)

/-- An ordered list of grants. -/
@[ext] structure Table where
  grants : List Grant := []
deriving DecidableEq, Repr

namespace Table

def empty : Table := {}

def ofGrants (grants : List Grant) : Table := ⟨grants⟩

def ofRows (rows : List Row) : Table := ofGrants (rows.map Grant.ofRow)

/-- The table with one more grant at its end. -/
def push (table : Table) (grant : Grant) : Table := ⟨table.grants ++ [grant]⟩

/-- The table with one more row at its end, written out. -/
def register (table : Table) (entityType : EntityType) (role : Role)
    (base institutional owner : Level) : Table :=
  table.push ⟨entityType, role, ⟨base, institutional, owner⟩⟩

/-- The rows of one table followed by those of another. -/
def append (first second : Table) : Table := ⟨first.grants ++ second.grants⟩

/-- The number of rows, repeated keys included. -/
def size (table : Table) : Nat := table.grants.length

def isEmpty (table : Table) : Bool := table.grants.isEmpty

end Table

end ExamGrants
