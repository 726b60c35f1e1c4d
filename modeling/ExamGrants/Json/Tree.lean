import ExamGrants.Json.Token

namespace ExamGrants.Json

/-! JSON texts as trees, as far as they can be read.

A text that breaks off or breaks the grammar still has a tree: the arrays and objects
around the bad place hold what stands before it and are not closed.  So a reader that
walks the tree from left to right meets the first problem of the text first, be it in
the grammar or in the meaning.
-/

/-- A JSON value as far as it can be read. -/
inductive Tree where
  | null
  | boolean (value : Bool)
  | number (numeral : Numeral)
  /-- A string; one that holds half a surrogate pair has no content. -/
  | text (content : Option String)
  /-- An array, and whether its end was reached. -/
  | array (items : List Tree) (closed : Bool)
  /-- An object with its keys and values in order, and whether its end was reached. -/
  | object (members : List (Option String × Tree)) (closed : Bool)
  /-- No value stands where one should. -/
  | broken

abbrev Member := Option String × Tree

/-- A whole text: its value, and whether nothing but white space is around it. -/
structure Document where
  /-- The value that the text begins with. -/
  tree : Tree
  /-- Whether the value is whole and the text ends with it. -/
  complete : Bool

/-! ## Reading -/

/-- An array or object that has not ended yet, with its latest content first. -/
inductive Frame where
  | array (items : List Tree)
  /-- An object in which the value of this key is being read. -/
  | object (members : List Member) (key : Option String)

/-- How far a text has been read.  The frames are the open arrays and objects, the
innermost first. -/
inductive Reading where
  | awaitValue (frames : List Frame)
  /-- An array has just begun: a value or its end must follow. -/
  | awaitItem (frames : List Frame)
  /-- A key must follow, or the end of an object that has just begun. -/
  | awaitKey (members : List Member) (begun : Bool) (frames : List Frame)
  | awaitColon (members : List Member) (key : Option String) (frames : List Frame)
  | done (tree : Tree) (frames : List Frame)
  | stuck (tree : Tree)

/-- The tree of a text that breaks off after the given value. -/
def enclose : Tree → List Frame → Tree
  | tree, [] => tree
  | tree, .array items :: frames => enclose (.array (tree :: items).reverse false) frames
  | tree, .object members key :: frames =>
      enclose (.object ((key, tree) :: members).reverse false) frames

namespace Reading

/-- Reads a value by its first token. -/
def begin (frames : List Frame) : Token → Reading
  | .null => .done .null frames
  | .boolean value => .done (.boolean value) frames
  | .number numeral => .done (.number numeral) frames
  | .text content => .done (.text content) frames
  | .openArray => .awaitItem frames
  | .openObject => .awaitKey [] true frames
  | _ => .stuck (enclose .broken frames)

def step : Reading → Token → Reading
  | .awaitValue frames, token => begin frames token
  | .awaitItem frames, .closeArray => .done (.array [] true) frames
  | .awaitItem frames, token => begin (.array [] :: frames) token
  | .awaitKey members _ frames, .text content => .awaitColon members content frames
  | .awaitKey members true frames, .closeObject => .done (.object members.reverse true) frames
  | .awaitKey members _ frames, _ => .stuck (enclose (.object members.reverse false) frames)
  | .awaitColon members key frames, .colon => .awaitValue (.object members key :: frames)
  | .awaitColon members key frames, _ => .stuck (enclose .broken (.object members key :: frames))
  | .done tree (.array items :: frames), .comma => .awaitValue (.array (tree :: items) :: frames)
  | .done tree (.array items :: frames), .closeArray =>
      .done (.array (tree :: items).reverse true) frames
  | .done tree (.object members key :: frames), .comma =>
      .awaitKey ((key, tree) :: members) false frames
  | .done tree (.object members key :: frames), .closeObject =>
      .done (.object ((key, tree) :: members).reverse true) frames
  | .done tree frames, _ => .stuck (enclose tree frames)
  | .stuck tree, _ => .stuck tree

/-- The document of a text that ends here. -/
def finish : Reading → Document
  | .awaitValue frames => ⟨enclose .broken frames, false⟩
  | .awaitItem frames => ⟨enclose (.array [] false) frames, false⟩
  | .awaitKey members _ frames => ⟨enclose (.object members.reverse false) frames, false⟩
  | .awaitColon members key frames => ⟨enclose .broken (.object members key :: frames), false⟩
  | .done tree [] => ⟨tree, true⟩
  | .done tree frames => ⟨enclose tree frames, false⟩
  | .stuck tree => ⟨tree, false⟩

end Reading

/-- The document that a list of tokens makes up. -/
def Document.ofTokens (tokens : List Token) : Document :=
  (tokens.foldl Reading.step (.awaitValue [])).finish

def Document.ofText (text : String) : Document :=
  .ofTokens (tokenize text.toList)

/-! ## Writing -/

mutual

def Tree.tokens : Tree → List Token
  | .null => [.null]
  | .boolean value => [.boolean value]
  | .number numeral => [.number numeral]
  | .text content => [.text content]
  | .array items closed =>
      .openArray :: (itemTokens true items ++ [if closed then .closeArray else .junk])
  | .object members closed =>
      .openObject :: (memberTokens true members ++ [if closed then .closeObject else .junk])
  | .broken => [.junk]

/-- The tokens of the items of an array, a comma in front of all but the first. -/
def itemTokens (first : Bool) : List Tree → List Token
  | [] => []
  | tree :: rest =>
      (if first then [] else [.comma]) ++ tree.tokens ++ itemTokens false rest

/-- The tokens of the members of an object, a comma in front of all but the first. -/
def memberTokens (first : Bool) : List (Option String × Tree) → List Token
  | [] => []
  | (key, tree) :: rest =>
      (if first then [] else [.comma]) ++ .text key :: .colon :: tree.tokens ++
        memberTokens false rest

end

end ExamGrants.Json
