import ExamGrants.Problem

namespace ExamGrants

/-! The audit trail: what is recorded about decisions, and how each entry reads. -/

/-- How much an entry of the audit trail matters. -/
inductive Severity where
  | debug
  | info
  | warn
  | error
deriving DecidableEq, Repr

def Severity.name : Severity → String
  | .debug => "DEBUG"
  | .info => "INFO"
  | .warn => "WARN"
  | .error => "ERROR"

/-- One entry of the audit trail. -/
inductive Event where
  /-- A registry was built from a table with `declared` rows. -/
  | registryBuilt (declared registered : Nat)
  /-- A grant of this role permitted the request; under the supporter rule it is said
  whether the user is a supporter. -/
  | permitted (entityType : EntityType) (role : Role) (requested : Level) (user : UserId)
      (supporter : Option Bool)
  | denied (entityType : EntityType) (requested : Level) (user : UserId) (username : String)
  /-- A custom rule raised a problem and the request was denied for it. -/
  | ruleFailed (entityType : EntityType) (user : UserId) (requested : Level)
      (problem : Problem)
  /-- A custom rule broke off and the request was denied for it. -/
  | rulePanicked (entityType : EntityType) (user : UserId) (requested : Level)
  /-- Something was asked that needs a user, and nobody is signed in. -/
  | noUser
  /-- A grant table was read from a file. -/
  | tableLoaded (path : String) (rows : Nat)
deriving DecidableEq, Repr

namespace Event

def severity : Event → Severity
  | .registryBuilt .. | .permitted .. => .debug
  | .tableLoaded .. => .info
  | .denied .. => .warn
  | .ruleFailed .. | .rulePanicked .. | .noUser => .error

def message : Event → String
  | .registryBuilt .. => "grant registry built"
  | .permitted .. => "grant permitted by role"
  | .denied .. => "permission denied"
  | .ruleFailed .. => "custom grant rule failed, denying"
  | .rulePanicked .. => "custom grant rule panicked, denying"
  | .noUser => "grant check issued without an authenticated user"
  | .tableLoaded .. => "grant table loaded"

/-- What the entry says it about: names and values. -/
def fields : Event → List (String × String)
  | .registryBuilt declared registered =>
      [("declared_rows", toString declared), ("registered_grants", toString registered)]
  | .permitted entityType role requested user supporter =>
      [("entity_type", entityType.name), ("role", role.name), ("requested", requested.name),
        ("user_id", user.toText)] ++
      match supporter with
      | none => []
      | some supports => [("supporter", if supports then "true" else "false")]
  | .denied entityType requested user username =>
      [("entity_type", entityType.name), ("requested", requested.name),
        ("user_id", user.toText), ("username", username)]
  | .ruleFailed entityType user requested problem =>
      [("entity_type", entityType.name), ("user_id", user.toText),
        ("requested", requested.name), ("error", problem.message)]
  | .rulePanicked entityType user requested =>
      [("entity_type", entityType.name), ("user_id", user.toText),
        ("requested", requested.name)]
  | .noUser => []
  | .tableLoaded path rows => [("path", path), ("rows", toString rows)]

/-- An entry says one thing under each name. -/
theorem fields_nodup (event : Event) : (event.fields.map Prod.fst).Nodup := by
  cases event with
  | permitted _ _ _ _ supporter => cases supporter <;> simp [fields]
  | _ => simp [fields]

end Event

end ExamGrants
