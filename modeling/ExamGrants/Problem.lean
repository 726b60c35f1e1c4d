import ExamGrants.Denial
import ExamGrants.Json.Fault

namespace ExamGrants

/-! What can go wrong, by cause, and the wording of it.

Every problem belongs to a category; its message is the label of the category
followed by the detail.
-/

/-- The broad kind of a problem. -/
inductive Category where
  /-- The input is not acceptable. -/
  | validation
  /-- Something asked for does not exist. -/
  | notFound
  /-- A change contradicts what is there. -/
  | conflict
  /-- The user is not known well enough. -/
  | unauthorized
  /-- The user is known and may not. -/
  | forbidden
  /-- The program is at fault. -/
  | internal
deriving DecidableEq, Repr

namespace Category

def name : Category → String
  | .validation => "Validation"
  | .notFound => "NotFound"
  | .conflict => "Conflict"
  | .unauthorized => "Unauthorized"
  | .forbidden => "Forbidden"
  | .internal => "Internal"

def all : List Category :=
  [.validation, .notFound, .conflict, .unauthorized, .forbidden, .internal]

def ofName? (text : String) : Option Category :=
  all.find? fun category => category.name == text

/-- What a message of this category begins with. -/
def label : Category → String
  | .validation => "validation error"
  | .notFound => "not found"
  | .conflict => "conflict"
  | .unauthorized => "unauthorized"
  | .forbidden => "forbidden"
  | .internal => "internal error"

end Category

/-- Why the content of a file could not be had as text. -/
inductive Unreadable where
  /-- Nothing has this name. -/
  | missing
  /-- The path leads through something that is no directory. -/
  | notDirectory
  /-- The path names a directory. -/
  | isDirectory
  /-- The bytes of the file are not UTF-8. -/
  | notText
  /-- The system gave another reason. -/
  | other (reason : String)
deriving DecidableEq, Repr

def Unreadable.message : Unreadable → String
  | .missing => "No such file or directory (os error 2)"
  | .notDirectory => "Not a directory (os error 20)"
  | .isDirectory => "Is a directory (os error 21)"
  | .notText => "stream did not contain valid UTF-8"
  | .other reason => reason

/-- A failure of an operation, by its cause. -/
inductive Problem where
  /-- The text is no name of this kind of thing. -/
  | unknownName (kind text : String)
  /-- The text spells no user id. -/
  | badUserId (text : String)
  /-- The entity type has a rule already. -/
  | ruleTaken (entityType : EntityType)
  /-- The text is no grant table. -/
  | invalidTable (fault : Json.Fault)
  /-- The file of a grant table cannot be read. -/
  | unreadableTable (path : String) (reason : Unreadable)
  /-- A list of roles holds none. -/
  | noRoles
  /-- The text names no output format. -/
  | badFormat (text : String)
  | denied (denial : Denial)
  /-- A custom rule raised this problem itself. -/
  | raised (category : Category) (detail : String)
deriving DecidableEq, Repr

namespace Problem

def category : Problem → Category
  | .unknownName .. | .badUserId _ | .invalidTable _ | .noRoles | .badFormat _ => .validation
  | .unreadableTable .. => .notFound
  | .ruleTaken _ => .conflict
  | .denied denial => if denial.isInternal then .internal else .forbidden
  | .raised category _ => category

/-- The wording of the problem, without its category. -/
def detail : Problem → String
  | .unknownName kind text => "unknown " ++ kind ++ " '" ++ text ++ "'"
  | .badUserId text =>
      "invalid user id '" ++ text ++ "': " ++ Json.Fault.badUserId.message
  | .ruleTaken entityType =>
      "a custom grant rule is already registered for '" ++ entityType.name ++ "'"
  | .invalidTable fault => "invalid grant table: " ++ fault.message
  | .unreadableTable path reason =>
      "failed to read grant table '" ++ path ++ "': " ++ reason.message
  | .noRoles => "PRIVILEGES_ROLES must name at least one role"
  | .badFormat text =>
      "PRIVILEGES_FORMAT must be either 'text' or 'json', got '" ++ text ++ "'"
  | .denied denial => denial.message
  | .raised _ detail => detail

/-- The full wording of the problem. -/
def message (problem : Problem) : String :=
  problem.category.label ++ ": " ++ problem.detail

end Problem

end ExamGrants
