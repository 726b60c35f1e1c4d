import ExamGrants.Json.Codec

namespace ExamGrants.Json

/-! How trees are written as text: compact, or laid out over lines.

Both forms spell the same tokens; the second puts white space between them.
-/

/-- One character inside a string. -/
def escapeChar (c : Char) : List Char :=
  if c = '"' then ['\\', '"']
  else if c = '\\' then ['\\', '\\']
  else if c = '\x08' then ['\\', 'b']
  else if c = '\x0c' then ['\\', 'f']
  else if c = '\n' then ['\\', 'n']
  else if c = '\r' then ['\\', 'r']
  else if c = '\t' then ['\\', 't']
  else if c.toNat < 0x20 then '\\' :: 'u' :: Text.toHex 4 c.toNat
  else [c]

/-- The characters of a token.  What cannot be read is spelled by nothing. -/
def Token.spelling : Token → List Char
  | .openArray => ['[']
  | .closeArray => [']']
  | .openObject => ['\x7b']
  | .closeObject => ['\x7d']
  | .comma => [',']
  | .colon => [':']
  | .null => ['n', 'u', 'l', 'l']
  | .boolean true => ['t', 'r', 'u', 'e']
  | .boolean false => ['f', 'a', 'l', 's', 'e']
  | .number numeral => numeral.spelling
  | .text content =>
      '"' :: (content.getD "").toList.flatMap escapeChar ++ ['"']
  | .junk => []

def spell (tokens : List Token) : List Char :=
  tokens.flatMap Token.spelling

/-- The start of a line at the given depth, two spaces for each step. -/
def newLine (depth : Nat) : List Char :=
  '\n' :: List.replicate (2 * depth) ' '

/-- The tokens with every item and member on a line of its own. -/
def layout : (depth : Nat) → List Token → List Char
  | _, [] => []
  | depth, .openArray :: .closeArray :: rest => '[' :: ']' :: layout depth rest
  | depth, .openObject :: .closeObject :: rest => '\x7b' :: '\x7d' :: layout depth rest
  | depth, .openArray :: rest => '[' :: newLine (depth + 1) ++ layout (depth + 1) rest
  | depth, .openObject :: rest => '\x7b' :: newLine (depth + 1) ++ layout (depth + 1) rest
  | depth, .closeArray :: rest => newLine (depth - 1) ++ ']' :: layout (depth - 1) rest
  | depth, .closeObject :: rest => newLine (depth - 1) ++ '\x7d' :: layout (depth - 1) rest
  | depth, .comma :: rest => ',' :: newLine depth ++ layout depth rest
  | depth, .colon :: rest => ':' :: ' ' :: layout depth rest
  | depth, token :: rest => token.spelling ++ layout depth rest

/-- The tree on one line without spaces. -/
def Tree.compact (tree : Tree) : String :=
  String.ofList (spell tree.tokens)

/-- The tree laid out over lines. -/
def Tree.pretty (tree : Tree) : String :=
  String.ofList (layout 0 tree.tokens)

/-- A value written as a compact text. -/
def Codec.write {α : Type} (codec : Codec α) (value : α) : String :=
  (codec.encode value).compact

end ExamGrants.Json
