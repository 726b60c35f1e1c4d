import ExamGrants.Command

namespace ExamGrants.Command

/-! The command line: hands the environment and the file of the grant table to the command
and prints what it makes of them. -/

/-- Why the system could not read a file. -/
def unreadable (error : IO.Error) : Unreadable :=
  match error with
  | .noFileOrDirectory .. => .missing
  | .inappropriateType _ code _ =>
      if code = 20 then .notDirectory else .isDirectory
  | _ => .other (toString error)

/-- The texts that the variables of the process are set to.  No `.env` file is looked for: what
one sets has to be among the variables already. -/
def processEnvironment : IO Environment := do
  let tablePath ← IO.getEnv Variable.tablePath.name
  let roles ← IO.getEnv Variable.roles.name
  let format ← IO.getEnv Variable.format.name
  pure fun
    | .tablePath => tablePath
    | .roles => roles
    | .format => format

/-- The file at a path, read once. -/
def readOnce (path : String) : IO FileReader := do
  try
    let content ← IO.FS.readBinFile path
    pure fun _ => .ok content
  catch error =>
    pure fun _ => .error (unreadable error)

/-- The file that the environment names, where it names one. -/
def processFiles (environment : Environment) : IO FileReader :=
  match Settings.ofEnvironment environment with
  | .ok { tablePath := some path, .. } => readOnce path
  | _ => pure fun _ => .error .missing

end ExamGrants.Command

def main : IO UInt32 := do
  let environment ← ExamGrants.Command.processEnvironment
  let files ← ExamGrants.Command.processFiles environment
  let outcome := ExamGrants.Command.run environment files
  IO.print outcome.stdout
  IO.eprint outcome.stderr
  pure (UInt32.ofNat outcome.exit)
