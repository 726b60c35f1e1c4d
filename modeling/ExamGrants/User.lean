import ExamGrants.Role
import ExamGrants.UserId

namespace ExamGrants

/-! Who acts: users and the institutions they belong to. -/

/-- An institution, by the number it is stored under. -/
@[ext] structure InstitutionId where
  number : UInt64
deriving DecidableEq, Repr

/-- The decimal text of an institution's number. -/
def InstitutionId.toText (institution : InstitutionId) : String :=
  toString institution.number.toNat

/-- The identity that a decision is made for. -/
@[ext] structure User where
  id : UserId
  /-- The login name, which diagnoses show and decisions ignore. -/
  username : String
  institution : InstitutionId
  roles : RoleSet
deriving DecidableEq

def User.hasRole (user : User) (role : Role) : Bool :=
  user.roles.has role

end ExamGrants
