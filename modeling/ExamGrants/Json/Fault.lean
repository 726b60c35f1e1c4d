import ExamGrants.Text.Quoted

namespace ExamGrants.Json

/-! What can be wrong with a JSON text that should hold a certain value. -/

/-- What kind of value stands where another was expected. -/
inductive Found where
  | null
  | boolean (value : Bool)
  | integer (value : Int)
  /-- A number that is no integer of 64 bits. -/
  | floating
  | text (content : String)
  | sequence
  | map
deriving DecidableEq, Repr

/-- What was expected where another kind of value stands. -/
inductive Expected where
  | record (title : String)
  | sequence
  | text
  | natural64
  | userId
  | unit
deriving DecidableEq, Repr

/-- The first problem met in a JSON text, read from left to right. -/
inductive Fault where
  /-- The text breaks the grammar of JSON at this place, or no value may stand there. -/
  | malformed
  | unknownName (given : String) (known : List String)
  | unknownField (given : String) (known : List String)
  | missingField (name : String)
  | duplicateField (name : String)
  /-- An array that ends before all fields of the record have a value. -/
  | wrongLength (count : Nat) (title : String) (size : Nat)
  | wrongKind (found : Found) (expected : Expected)
  /-- An integer below zero where a natural number was expected. -/
  | negative (value : Int)
  | badUserId
deriving DecidableEq, Repr

def Found.message : Found → String
  | .null => "null"
  | .boolean value => "boolean `" ++ (if value then "true" else "false") ++ "`"
  | .integer value => "integer `" ++ toString value ++ "`"
  | .floating => "floating point"
  | .text content => "string " ++ Text.quoted content
  | .sequence => "sequence"
  | .map => "map"

def Expected.message : Expected → String
  | .record title => "struct " ++ title
  | .sequence => "a sequence"
  | .text => "a string"
  | .natural64 => "u64"
  | .userId => "a formatted UUID string"
  | .unit => "unit"

def choice (names : List String) : String :=
  "expected one of " ++ String.intercalate ", " (names.map fun name => "`" ++ name ++ "`")

namespace Fault

def message : Fault → String
  | .malformed => "syntax error"
  | .unknownName given known => "unknown variant `" ++ given ++ "`, " ++ choice known
  | .unknownField given known => "unknown field `" ++ given ++ "`, " ++ choice known
  | .missingField name => "missing field `" ++ name ++ "`"
  | .duplicateField name => "duplicate field `" ++ name ++ "`"
  | .wrongLength count title size =>
      "invalid length " ++ toString count ++ ", expected struct " ++ title ++ " with " ++
        toString size ++ " elements"
  | .wrongKind found expected =>
      "invalid type: " ++ found.message ++ ", expected " ++ expected.message
  | .negative value =>
      "invalid value: integer `" ++ toString value ++ "`, expected " ++
        Expected.natural64.message
  | .badUserId => "bad uuid"

/-- What is wrong with a name, and the name itself. -/
inductive Heading : Fault → String → Prop where
  | unknownName (given : String) (known : List String) :
      Heading (.unknownName given known) ("unknown variant `" ++ given ++ "`")
  | unknownField (given : String) (known : List String) :
      Heading (.unknownField given known) ("unknown field `" ++ given ++ "`")
  | missingField (name : String) :
      Heading (.missingField name) ("missing field `" ++ name ++ "`")
  | duplicateField (name : String) :
      Heading (.duplicateField name) ("duplicate field `" ++ name ++ "`")

/-- A message about a name says first what is wrong with which name. -/
theorem Heading.begins_message {fault : Fault} {heading : String}
    (headed : fault.Heading heading) : ∃ rest, fault.message = heading ++ rest := by
  have closed : ∀ before after : String,
      before ++ "`, " ++ after = before ++ "`" ++ (", " ++ after) := by
    intro before after
    simp [← String.toList_inj]
  cases headed with
  | unknownName _ known | unknownField _ known => exact ⟨", " ++ choice known, closed _ _⟩
  | missingField | duplicateField => exact ⟨"", String.append_empty.symm⟩

end Fault

end ExamGrants.Json
