import ExamGrants.Access
import ExamGrants.Report
import ExamGrants.Settings
import ExamGrants.Table.Text
import ExamGrants.Text.Quoted

namespace ExamGrants

/-! The command: prints what each role, or a set of roles, may do.

What it prints depends on the environment and on the file of the grant table alone.
A problem ends it before anything is printed but the problem itself.
-/

/-- How a run of the command ends.  What it logs is left out. -/
structure Outcome where
  exit : Nat
  stdout : String
  /-- The problem that ended the run. -/
  problem? : Option Problem
deriving DecidableEq, Repr

/-- What is written to standard error beside the log. -/
def Outcome.stderr (outcome : Outcome) : String :=
  match outcome.problem? with
  | none => ""
  | some problem =>
      "Error: " ++ problem.category.name ++ "(" ++ Text.quoted problem.detail ++ ")\n"

namespace Command

/-- The user that a report on some roles is made for. -/
def reportUser (roles : List Role) : User where
  id := ⟨0⟩
  username := "privileges-report"
  institution := ⟨0⟩
  roles := .ofList roles

/-- The table that the settings ask for. -/
def loadTable (settings : Settings) (files : FileReader) : Logged (Except Problem Table) :=
  match settings.tablePath with
  | some path => Table.load files path
  | none => pure (.ok .builtin)

/-- The policy of the table that the settings ask for. -/
def loadPolicy (settings : Settings) (files : FileReader) :
    Logged (Except Problem Policy) := do
  match ← loadTable settings files with
  | .error problem => pure (.error problem)
  | .ok table => do
      let registry ← Registry.ofTable table
      pure (Policy.withExamSupporters registry)

/-- The sets of roles to report on: the ones asked for together, or each role alone. -/
def roleSets (settings : Settings) : List (List Role) :=
  match settings.roles with
  | some roles => [roles]
  | none => Role.all.map fun role => [role]

def report (policy : Policy) (roles : List Role) : Logged (Except Problem Report) := do
  match ← Access.privileges ⟨policy, some (reportUser roles)⟩ with
  | .ok privileges => pure (.ok ⟨roles, privileges⟩)
  | .error denial => pure (.error (.denied denial))

/-- The reports on several sets of roles, unless one of them fails. -/
def reports (policy : Policy) : List (List Role) → Logged (Except Problem (List Report))
  | [] => pure (.ok [])
  | roles :: rest => do
      match ← report policy roles with
      | .error problem => pure (.error problem)
      | .ok first => Except.map (first :: ·) <$> reports policy rest

/-- What the settings ask to be printed. -/
def print (settings : Settings) (files : FileReader) : Logged (Except Problem String) := do
  match ← loadPolicy settings files with
  | .error problem => pure (.error problem)
  | .ok policy => do
      let made ← reports policy (roleSets settings)
      pure (made.map fun reports =>
        match settings.format with
        | .text => Report.textOf reports
        | .json => Report.jsonOf reports)

/-- The end of a run that met a problem. -/
def failure (problem : Problem) : Outcome where
  exit := 1
  stdout := ""
  problem? := some problem

def run (environment : Environment) (files : FileReader) : Outcome :=
  match Settings.ofEnvironment environment with
  | .error problem => failure problem
  | .ok settings =>
      match (print settings files).value with
      | .error problem => failure problem
      | .ok output => ⟨0, output, none⟩

end Command

end ExamGrants
