import ExamGrants.Format.Grant
import ExamGrants.Logged
import ExamGrants.Table

namespace ExamGrants

/-! Grant tables as texts and files.

The text of a table is a JSON array of grants.  It is taken as a whole or not at all.
-/

/-- What a file gives when it is read: its bytes, or why there are none. -/
abbrev FileReader := String → Except Unreadable ByteArray

def Table.parse (text : String) : Except Problem Table :=
  match Format.grants.read text with
  | .ok grants => .ok (.ofGrants grants)
  | .error fault => .error (.invalidTable fault)

def readText (files : FileReader) (path : String) : Except Unreadable String := do
  let bytes ← files path
  match String.fromUTF8? bytes with
  | some text => pure text
  | none => throw .notText

/-- The table that a file holds; its loading is recorded. -/
def Table.load (files : FileReader) (path : String) : Logged (Except Problem Table) :=
  match readText files path with
  | .error reason => pure (.error (.unreadableTable path reason))
  | .ok text =>
      match Table.parse text with
      | .error problem => pure (.error problem)
      | .ok table => ⟨.ok table, [.tableLoaded path table.size]⟩

end ExamGrants
