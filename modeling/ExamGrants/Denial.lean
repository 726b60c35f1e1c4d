import ExamGrants.EntityType
import ExamGrants.Level
import ExamGrants.User

namespace ExamGrants

/-! Why a check was not passed. -/

/-- The outcome of a check that was not passed. -/
inductive Denial where
  /-- No role of the user grants the request. -/
  | notPermitted (entityType : EntityType) (requested : Level) (user : UserId)
  /-- Nobody is signed in, so there was nobody to check for. -/
  | noUser
deriving DecidableEq, Repr

namespace Denial

/-- Whether the program is at fault, and not the user. -/
def isInternal : Denial → Bool
  | .notPermitted .. => false
  | .noUser => true

def message : Denial → String
  | .notPermitted entityType requested user =>
      "permission denied: user '" ++ user.toText ++ "' has no " ++ requested.name ++
        " grant on " ++ entityType.name
  | .noUser => "no authenticated user identity available for grant check"

end Denial

end ExamGrants
