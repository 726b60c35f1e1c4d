import ExamGrants.Json.Lossless

namespace ExamGrants.Json

/-! The grammar of JSON texts.

Which characters spell a number, a string or another token is said here rule by rule,
without regard to how a text is scanned.  A tree is spelled by its tokens one after the
other, with white space wherever a token begins or ends.
-/

/-! ## Numbers -/

/-- One decimal digit or more. -/
def AreDigits (cs : List Char) : Prop :=
  cs ≠ [] ∧ ∀ c ∈ cs, c.isDigit = true

namespace Numeral

/-- A single zero, or digits that do not begin with one. -/
def IsWhole (cs : List Char) : Prop :=
  AreDigits cs ∧ (cs.head? = some '0' → cs = ['0'])

inductive FractionSpelledBy : Option (List Char) → List Char → Prop where
  | absent : FractionSpelledBy none []
  | present {digits : List Char} (areDigits : AreDigits digits) :
      FractionSpelledBy (some digits) ('.' :: digits)

/-- The sign of an exponent: whether it is below zero, and what may stand for that. -/
inductive SignSpelledBy : Bool → List Char → Prop where
  | absent : SignSpelledBy false []
  | plus : SignSpelledBy false ['+']
  | minus : SignSpelledBy true ['-']

inductive ExponentSpelledBy : Option (Bool × List Char) → List Char → Prop where
  | absent : ExponentSpelledBy none []
  | present {letter : Char} {below : Bool} {sign digits : List Char}
      (isLetter : letter = 'e' ∨ letter = 'E') (signed : SignSpelledBy below sign)
      (areDigits : AreDigits digits) :
      ExponentSpelledBy (some (below, digits)) (letter :: (sign ++ digits))

def SpelledBy (numeral : Numeral) (cs : List Char) : Prop :=
  ∃ fraction exponent, IsWhole numeral.whole ∧
    FractionSpelledBy numeral.fraction fraction ∧
    ExponentSpelledBy numeral.exponent exponent ∧
    cs = (if numeral.negative then ['-'] else []) ++
      (numeral.whole ++ (fraction ++ exponent))

end Numeral

/-! ## Strings -/

/-- The ways to write one place of a string. -/
inductive Piece.SpelledBy : Piece → List Char → Prop where
  | plain {c : Char} (visible : 0x20 ≤ c.toNat) (notQuote : c ≠ '"') (notEscape : c ≠ '\\') :
      SpelledBy (.char c) [c]
  | short {mark c : Char} (known : unescape? mark = some c) :
      SpelledBy (.char c) ['\\', mark]
  | unit {a b c d : Char} {value : Nat} (hex : Text.ofHex? [a, b, c, d] = some value) :
      SpelledBy (.unit value) ['\\', 'u', a, b, c, d]

inductive PiecesSpelledBy : List Piece → List Char → Prop where
  | nil : PiecesSpelledBy [] []
  | cons {piece : Piece} {pieces : List Piece} {spelling rest : List Char}
      (first : piece.SpelledBy spelling) (others : PiecesSpelledBy pieces rest) :
      PiecesSpelledBy (piece :: pieces) (spelling ++ rest)

/-- The characters that places of a string stand for.  Half a surrogate pair stands for
none. -/
inductive PiecesDenote : List Piece → List Char → Prop where
  | nil : PiecesDenote [] []
  | char {c : Char} {pieces : List Piece} {content : List Char}
      (others : PiecesDenote pieces content) : PiecesDenote (.char c :: pieces) (c :: content)
  | unit {value : Nat} {pieces : List Piece} {content : List Char}
      (notHigh : isHighSurrogate value = false) (notLow : isLowSurrogate value = false)
      (others : PiecesDenote pieces content) :
      PiecesDenote (.unit value :: pieces) (Char.ofNat value :: content)
  | pair {high low : Nat} {pieces : List Piece} {content : List Char}
      (isHigh : isHighSurrogate high = true) (isLow : isLowSurrogate low = true)
      (others : PiecesDenote pieces content) :
      PiecesDenote (.unit high :: .unit low :: pieces) (ofSurrogates high low :: content)

/-! ## Tokens and trees -/

/-- The ways to write a token.  What cannot be read is not written in any way. -/
inductive Token.SpelledBy : Token → List Char → Prop where
  | openArray : SpelledBy .openArray ['[']
  | closeArray : SpelledBy .closeArray [']']
  | openObject : SpelledBy .openObject ['\x7b']
  | closeObject : SpelledBy .closeObject ['\x7d']
  | comma : SpelledBy .comma [',']
  | colon : SpelledBy .colon [':']
  | null : SpelledBy .null ['n', 'u', 'l', 'l']
  | booleanTrue : SpelledBy (.boolean true) ['t', 'r', 'u', 'e']
  | booleanFalse : SpelledBy (.boolean false) ['f', 'a', 'l', 's', 'e']
  | number {numeral : Numeral} {cs : List Char} (spelled : numeral.SpelledBy cs) :
      SpelledBy (.number numeral) cs
  | text {pieces : List Piece} {body content : List Char}
      (spelled : PiecesSpelledBy pieces body) (denotes : PiecesDenote pieces content) :
      SpelledBy (.text (some (String.ofList content))) ('"' :: (body ++ ['"']))
  | brokenText {pieces : List Piece} {body : List Char}
      (spelled : PiecesSpelledBy pieces body) (broken : ∀ content, ¬ PiecesDenote pieces content) :
      SpelledBy (.text none) ('"' :: (body ++ ['"']))

/-- The tokens in order, with any white space before, between and after them. -/
inductive TokensSpelledBy : List Token → List Char → Prop where
  | nil : TokensSpelledBy [] []
  | space {c : Char} {tokens : List Token} {cs : List Char} (white : isSpace c = true)
      (spelled : TokensSpelledBy tokens cs) : TokensSpelledBy tokens (c :: cs)
  | token {token : Token} {tokens : List Token} {spelling cs : List Char}
      (first : token.SpelledBy spelling) (others : TokensSpelledBy tokens cs) :
      TokensSpelledBy (token :: tokens) (spelling ++ cs)

/-- The text is a JSON text of the value that the tree stands for. -/
def Tree.SpelledBy (tree : Tree) (cs : List Char) : Prop :=
  tree.isWhole = true ∧ TokensSpelledBy tree.tokens cs

end ExamGrants.Json
