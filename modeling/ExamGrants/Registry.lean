import ExamGrants.Logged
import ExamGrants.Table

namespace ExamGrants

/-! Registries: the grant that counts for each entity type and role.

A registry holds one grant per key.  Of the rows of a table with one key the last
one counts (`find?_ofGrants`); a grant is always found under its own key
(`key_of_find?`).
-/

/-- Grants with pairwise different keys, in the order in which the keys first appeared. -/
structure Registry where
  grants : List Grant
  keys_nodup : (grants.map Grant.key).Nodup

namespace Registry

/-- Puts a grant in the place of the one with its key, or at the end. -/
def place (grant : Grant) : List Grant → List Grant
  | [] => [grant]
  | other :: rest =>
      if other.key = grant.key then grant :: rest else other :: place grant rest

theorem keys_place (grant : Grant) (grants : List Grant) :
    (place grant grants).map Grant.key =
      if grant.key ∈ grants.map Grant.key then grants.map Grant.key
      else grants.map Grant.key ++ [grant.key] := by
  induction grants with
  | nil => rfl
  | cons other rest ih =>
      by_cases same : other.key = grant.key
      · simp [place, same]
      · simp only [place, same, if_false, List.map_cons, ih, List.mem_cons, Ne.symm same,
          false_or]
        split <;> rfl

def empty : Registry := ⟨[], List.nodup_nil⟩

/-- The registry in which a grant counts for its key. -/
def insert (registry : Registry) (grant : Grant) : Registry where
  grants := place grant registry.grants
  keys_nodup := by
    rw [keys_place]
    split
    · exact registry.keys_nodup
    · next absent =>
        refine List.nodup_append.mpr ⟨registry.keys_nodup, by simp, ?_⟩
        intro key member other single
        simp only [List.mem_singleton] at single
        rintro rfl
        exact absent (single ▸ member)

/-- The registry of a list of grants, the later ones counting. -/
def ofGrants (grants : List Grant) : Registry :=
  grants.foldl insert empty

/-- The registered grant of a key. -/
def find? (registry : Registry) (entityType : EntityType) (role : Role) : Option Grant :=
  registry.grants.find? fun grant => grant.key == (entityType, role)

/-- The registered grant of a key, or the grant of nothing. -/
def get (registry : Registry) (entityType : EntityType) (role : Role) : Grant :=
  (registry.find? entityType role).getD (.none entityType role)

/-- The registered grants of an entity type for the listed roles, in the order of the list. -/
def grantsFor (registry : Registry) (entityType : EntityType) (roles : List Role) :
    List Grant :=
  roles.filterMap (registry.find? entityType)

/-- All registered grants of an entity type, in the order of their roles. -/
def grantsOf (registry : Registry) (entityType : EntityType) : List Grant :=
  registry.grantsFor entityType Role.all

/-- All registered grants, by entity type and then by role. -/
def toList (registry : Registry) : List Grant :=
  EntityType.all.flatMap registry.grantsOf

def size (registry : Registry) : Nat := registry.grants.length

def isEmpty (registry : Registry) : Bool := registry.grants.isEmpty

/-- Builds the registry of a table and records its size. -/
def ofTable (table : Table) : Logged Registry :=
  let registry := ofGrants table.grants
  ⟨registry, [.registryBuilt table.size registry.size]⟩

theorem find?_place (grant : Grant) (grants : List Grant) (key : EntityType × Role) :
    (place grant grants).find? (·.key == key) =
      if grant.key = key then some grant else grants.find? (·.key == key) := by
  induction grants with
  | nil =>
      by_cases same : grant.key = key <;> simp [place, same]
  | cons other rest ih =>
      by_cases replaced : other.key = grant.key
      · by_cases same : grant.key = key <;> simp [place, replaced, same]
      · by_cases same : grant.key = key
        · subst same
          simp [place, replaced, ih]
        · simp only [place, replaced, if_false, List.find?_cons, ih, same]

theorem find?_insert (registry : Registry) (grant : Grant) (entityType : EntityType)
    (role : Role) :
    (registry.insert grant).find? entityType role =
      if grant.key = (entityType, role) then some grant
      else registry.find? entityType role :=
  find?_place grant registry.grants (entityType, role)

/-- Of the grants with one key the last one counts. -/
theorem find?_ofGrants (grants : List Grant) (entityType : EntityType) (role : Role) :
    (ofGrants grants).find? entityType role =
      grants.reverse.find? (fun grant => grant.key == (entityType, role)) := by
  have general : ∀ registry : Registry,
      (grants.foldl insert registry).find? entityType role =
        (grants.reverse.find? (fun grant => grant.key == (entityType, role))).or
          (registry.find? entityType role) := by
    induction grants with
    | nil => intro registry; rfl
    | cons grant rest ih =>
        intro registry
        rw [List.foldl_cons, ih, find?_insert, List.reverse_cons, List.find?_append,
          Option.or_assoc]
        congr 1
        by_cases same : grant.key = (entityType, role) <;> simp [same]
  simpa [ofGrants, find?, empty] using general empty

/-- A grant is registered under its own key. -/
theorem key_of_find? {registry : Registry} {entityType : EntityType} {role : Role}
    {grant : Grant} (found : registry.find? entityType role = some grant) :
    grant.key = (entityType, role) :=
  eq_of_beq (List.find?_some (p := fun grant : Grant => grant.key == (entityType, role)) found)

end Registry

end ExamGrants
