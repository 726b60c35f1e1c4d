import ExamGrants.Named

namespace ExamGrants

/-! The roles of authenticated users.

A user may hold several roles and is granted whatever any of them is granted.
-/

/-- A role that a user may hold. -/
inductive Role where
  /-- Administrator of the whole server. -/
  | sebServerAdmin
  /-- Administrator of one institution. -/
  | institutionalAdmin
  /-- Sets up and runs the exams of an institution. -/
  | examAdmin
  /-- Supports the exams assigned to them. -/
  | examSupporter
  /-- Reaches their own exams through a learning management system. -/
  | teacher
deriving DecidableEq, Repr

namespace Role

def name : Role → String
  | .sebServerAdmin => "seb_server_admin"
  | .institutionalAdmin => "institutional_admin"
  | .examAdmin => "exam_admin"
  | .examSupporter => "exam_supporter"
  | .teacher => "teacher"

def all : List Role :=
  [.sebServerAdmin, .institutionalAdmin, .examAdmin, .examSupporter, .teacher]

theorem mem_all (role : Role) : role ∈ all := by
  cases role <;> decide

theorem name_injective {first second : Role} (same : first.name = second.name) :
    first = second := by
  have distinct : ∀ a ∈ all, ∀ b ∈ all, a.name = b.name → a = b := by decide
  exact distinct first (mem_all first) second (mem_all second) same

instance : Named Role where
  kind := "user role"
  all := all
  name := name
  mem_all := mem_all
  name_injective := name_injective

end Role

/-- A set of roles, known by its members. -/
@[ext] structure RoleSet where
  has : Role → Bool

namespace RoleSet

/-- The set of the roles in a list, whatever their order and number. -/
def ofList (roles : List Role) : RoleSet :=
  ⟨fun role => decide (role ∈ roles)⟩

/-- The members in declaration order, each once. -/
def toList (roles : RoleSet) : List Role :=
  Role.all.filter roles.has

@[simp] theorem has_ofList {roles : List Role} {role : Role} :
    (ofList roles).has role = true ↔ role ∈ roles := by
  simp [ofList]

@[simp] theorem mem_toList {roles : RoleSet} {role : Role} :
    role ∈ roles.toList ↔ roles.has role = true := by
  simp [toList, Role.mem_all]

@[simp] theorem ofList_toList (roles : RoleSet) : ofList roles.toList = roles := by
  ext role
  rw [Bool.eq_iff_iff]
  simp

theorem toList_injective {first second : RoleSet} (same : first.toList = second.toList) :
    first = second := by
  rw [← ofList_toList first, same, ofList_toList]

instance : DecidableEq RoleSet := fun first second =>
  decidable_of_iff (first.toList = second.toList)
    ⟨toList_injective, congrArg toList⟩

end RoleSet

end ExamGrants
