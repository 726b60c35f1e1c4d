import ExamGrants.Parse
import ExamGrants.Text.Split

namespace ExamGrants

/-! What the report is to show, as set in the environment.

Blank paths and lists of roles count as not set; a blank format does not.
-/

/-- The variables that the report looks at. -/
inductive Variable where
  | tablePath
  | roles
  | format
deriving DecidableEq, Repr

def Variable.name : Variable → String
  | .tablePath => "GRANT_TABLE_PATH"
  | .roles => "PRIVILEGES_ROLES"
  | .format => "PRIVILEGES_FORMAT"

/-- The texts that the variables are set to, once those of a `.env` file have been added. -/
abbrev Environment := Variable → Option String

/-- The environment of variables set to bytes.  Bytes that are not UTF-8 count as not set. -/
def Environment.ofBytes (bytes : Variable → Option ByteArray) : Environment :=
  fun variableName => (bytes variableName).bind String.fromUTF8?

/-- The text of a variable that is not blank. -/
def Environment.filled? (environment : Environment) (variableName : Variable) : Option String :=
  (environment variableName).filter fun text => !Text.isAllBlank text

inductive ReportFormat where
  | text
  | json
deriving DecidableEq, Repr

namespace ReportFormat

def name : ReportFormat → String
  | .text => "text"
  | .json => "json"

/-- The format that a text names, blanks around it not counting. -/
def parse (text : String) : Except Problem ReportFormat :=
  let trimmed := Text.trim text
  if trimmed = name .text then .ok .text
  else if trimmed = name .json then .ok .json
  else .error (.badFormat trimmed)

end ReportFormat

/-- The roles that a text lists between commas, blank places not counting. -/
def Role.parseList (text : String) : Except Problem (List Role) := do
  let pieces := (Text.split ',' text).filter fun piece => !Text.isAllBlank piece
  let roles ← pieces.mapM Named.parse
  if roles.isEmpty then throw .noRoles else pure roles

/-- What the report is to show. -/
structure Settings where
  /-- The file of the grant table, where it is not the built-in one. -/
  tablePath : Option String
  /-- The roles to report on together, where it is not each role on its own. -/
  roles : Option (List Role)
  format : ReportFormat
deriving DecidableEq, Repr

/-- The settings of an environment.  Roles are looked at before the format. -/
def Settings.ofEnvironment (environment : Environment) : Except Problem Settings := do
  let roles ←
    match environment.filled? .roles with
    | none => pure none
    | some text => some <$> Role.parseList text
  let format ←
    match environment .format with
    | none => pure .text
    | some text => ReportFormat.parse text
  pure ⟨environment.filled? .tablePath, roles, format⟩

end ExamGrants
