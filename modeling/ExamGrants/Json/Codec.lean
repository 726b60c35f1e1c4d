import ExamGrants.Json.Tree
import ExamGrants.Named

namespace ExamGrants.Json

/-! How values are written as JSON and read back.

A codec reads from a tree and writes to one.  Reading reports the first problem from
left to right; a tree that is not whole is a problem where the reader reaches the place
at which it ends.
-/

/-- The two directions between values and JSON. -/
structure Codec (α : Type) where
  decode : Tree → Except Fault α
  encode : α → Tree

/-- The fault of a tree that stands where something else was expected. -/
def Tree.unexpected (tree : Tree) (expected : Expected) : Fault :=
  match tree with
  | .null => .wrongKind .null expected
  | .boolean value => .wrongKind (.boolean value) expected
  | .number numeral =>
      match numeral.found? with
      | some found => .wrongKind found expected
      | none => .malformed
  | .text (some content) => .wrongKind (.text content) expected
  | .text none => .malformed
  | .array .. => .wrongKind .sequence expected
  | .object .. => .wrongKind .map expected
  | .broken => .malformed

/-- Accepts a value read from the inside of an array or object if its end was reached. -/
def ifClosed {α : Type} (closed : Bool) (value : α) : Except Fault α :=
  if closed then .ok value else .error .malformed

namespace Codec

def text : Codec String where
  decode
    | .text (some content) => .ok content
    | tree => .error (tree.unexpected .text)
  encode content := .text (some content)

/-- Values that may be missing, as `null` where they are. -/
def optional {α : Type} (codec : Codec α) : Codec (Option α) where
  decode
    | .null => .ok none
    | tree => (codec.decode tree).map some
  encode
    | none => .null
    | some value => codec.encode value

def list {α : Type} (codec : Codec α) : Codec (List α) where
  decode
    | .array items closed => do
        let values ← items.mapM codec.decode
        ifClosed closed values
    | tree => .error (tree.unexpected .sequence)
  encode values := .array (values.map codec.encode) true

def decodeName {α : Type} [Named α] (name : String) : Except Fault α :=
  match Named.ofName? name with
  | some member => .ok member
  | none => .error (.unknownName name (Named.names α))

/-- Things known by their names: the name as a text, or as the only key of an object in
which it has the value `null`. -/
def named {α : Type} [Named α] : Codec α where
  decode
    | .text (some name) => decodeName name
    | .object ((some name, value) :: rest) closed => do
        let member ← decodeName name
        match value, rest with
        | .null, [] => ifClosed closed member
        | .null, _ => .error .malformed
        | tree, _ => .error (tree.unexpected .unit)
    | _ => .error .malformed
  encode member := .text (some (Named.name member))

/-- Reads a text that holds one value. -/
def read {α : Type} (codec : Codec α) (text : String) : Except Fault α := do
  let document := Document.ofText text
  let value ← codec.decode document.tree
  ifClosed document.complete value

end Codec

end ExamGrants.Json
