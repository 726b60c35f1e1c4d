import ExamGrants.Format.Effective
import ExamGrants.Json.Write

namespace ExamGrants

/-! Reports: what sets of roles may do, for people and for programs. -/

/-- The effective privileges of some roles taken together. -/
@[ext] structure Report where
  roles : List Role
  privileges : List Effective
deriving DecidableEq, Repr

namespace Report

/-- A text filled up with spaces to a width. -/
def pad (width : Nat) (text : String) : String :=
  String.ofList (text.toList.rightpad width ' ')

def line (entry : Effective) : String :=
  "  " ++ pad 26 entry.entityType.name ++
    " base=" ++ pad 9 entry.tiers.base.name ++
    " institutional=" ++ pad 9 entry.tiers.institutional.name ++
    " owner=" ++ entry.tiers.owner.name ++ "\n"

/-- The report for people: a line of roles, then a line for each entry. -/
def toText (report : Report) : String :=
  "[" ++ String.intercalate ", " (report.roles.map Role.name) ++ "]\n" ++
    (if report.privileges.isEmpty then "  (no privileges)\n" else "") ++
    String.join (report.privileges.map line)

/-- The report for programs. -/
def toTree (report : Report) : Json.Tree :=
  .object
    [(some "roles", (Json.Codec.list Json.Codec.named).encode report.roles),
      (some "privileges", (Json.Codec.list Format.effective).encode report.privileges)] true

/-- The text of several reports in a row. -/
def textOf (reports : List Report) : String :=
  String.join (reports.map toText)

/-- Several reports as one JSON text over lines. -/
def jsonOf (reports : List Report) : String :=
  (Json.Tree.array (reports.map toTree) true).pretty ++ "\n"

end Report

end ExamGrants
