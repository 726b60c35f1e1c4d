import ExamGrants.Json.Numeral
import ExamGrants.Text.Hex

namespace ExamGrants.Json

/-! The tokens of a JSON text.

A text is cut into tokens from left to right.  Where no token can be cut the token
`junk` ends the list, so that a reader meets all problems in the order in which they
stand in the text.
-/

/-- The smallest parts of a JSON text that mean something. -/
inductive Token where
  | openArray
  | closeArray
  | openObject
  | closeObject
  | comma
  | colon
  | null
  | boolean (value : Bool)
  | number (numeral : Numeral)
  /-- A string; one that holds half a surrogate pair has no content. -/
  | text (content : Option String)
  /-- The rest of the text begins with no token. -/
  | junk
deriving DecidableEq, Repr

/-- The white space that JSON allows between tokens. -/
def isSpace (c : Char) : Bool :=
  c == ' ' || c == '\t' || c == '\n' || c == '\r'

/-! ## Strings -/

/-- What one place in a string stands for. -/
inductive Piece where
  /-- A character, written out or by a short escape. -/
  | char (c : Char)
  /-- A code unit of 16 bits, written by four hexadecimal digits. -/
  | unit (value : Nat)
deriving DecidableEq, Repr

/-- The character of a short escape. -/
def unescape? : Char → Option Char
  | '"' => some '"'
  | '\\' => some '\\'
  | '/' => some '/'
  | 'b' => some '\x08'
  | 'f' => some '\x0c'
  | 'n' => some '\n'
  | 'r' => some '\r'
  | 't' => some '\t'
  | _ => none

/-- The places of a string up to its closing quote, and what follows the quote. -/
def scanPieces : List Char → Option (List Piece × List Char)
  | [] => none
  | '"' :: rest => some ([], rest)
  | '\\' :: 'u' :: a :: b :: c :: d :: rest =>
      match Text.ofHex? [a, b, c, d], scanPieces rest with
      | some value, some (pieces, after) => some (.unit value :: pieces, after)
      | _, _ => none
  | '\\' :: mark :: rest =>
      match unescape? mark, scanPieces rest with
      | some c, some (pieces, after) => some (.char c :: pieces, after)
      | _, _ => none
  | c :: rest =>
      if c.toNat < 0x20 then none
      else match scanPieces rest with
        | some (pieces, after) => some (.char c :: pieces, after)
        | none => none

/-- Whether a code unit is the first half of a surrogate pair. -/
def isHighSurrogate (value : Nat) : Bool := 0xD800 ≤ value && value < 0xDC00

/-- Whether a code unit is the second half of a surrogate pair. -/
def isLowSurrogate (value : Nat) : Bool := 0xDC00 ≤ value && value < 0xE000

/-- The character of a surrogate pair. -/
def ofSurrogates (high low : Nat) : Char :=
  Char.ofNat (0x10000 + (high - 0xD800) * 0x400 + (low - 0xDC00))

/-- The characters that the places of a string stand for, unless a surrogate stands alone. -/
def joinPieces : List Piece → Option (List Char)
  | [] => some []
  | .char c :: rest => (joinPieces rest).map (c :: ·)
  | .unit high :: .unit low :: rest =>
      if isHighSurrogate high && isLowSurrogate low then
        (joinPieces rest).map (ofSurrogates high low :: ·)
      else if isHighSurrogate high || isLowSurrogate high then none
      else (joinPieces (.unit low :: rest)).map (Char.ofNat high :: ·)
  | .unit value :: rest =>
      if isHighSurrogate value || isLowSurrogate value then none
      else (joinPieces rest).map (Char.ofNat value :: ·)

/-! ## Numbers -/

/-- One digit or more, as many as there are. -/
def scanDigits (cs : List Char) : Option (List Char × List Char) :=
  match cs.takeWhile Char.isDigit with
  | [] => none
  | digits => some (digits, cs.dropWhile Char.isDigit)

/-- The digits before the point: a single zero, or digits that do not start with one. -/
def scanWhole (cs : List Char) : Option (List Char × List Char) :=
  match scanDigits cs with
  | some ('0' :: _ :: _, _) => none
  | scanned => scanned

/-- A point and digits, or nothing. -/
def scanFraction : List Char → Option (Option (List Char) × List Char)
  | '.' :: rest => (scanDigits rest).map fun (digits, after) => (some digits, after)
  | cs => some (none, cs)

/-- The sign of an exponent: whether it is a minus. -/
def scanSign : List Char → Bool × List Char
  | '+' :: rest => (false, rest)
  | '-' :: rest => (true, rest)
  | cs => (false, cs)

/-- The letter of an exponent, its sign and its digits, or nothing. -/
def scanExponent (cs : List Char) : Option (Option (Bool × List Char) × List Char) :=
  match cs with
  | c :: rest =>
      if c = 'e' ∨ c = 'E' then
        let (below, unsigned) := scanSign rest
        (scanDigits unsigned).map fun (digits, after) => (some (below, digits), after)
      else some (none, cs)
  | [] => some (none, [])

def scanUnsigned (negative : Bool) (cs : List Char) : Option (Numeral × List Char) := do
  let (whole, afterWhole) ← scanWhole cs
  let (fraction, afterFraction) ← scanFraction afterWhole
  let (exponent, after) ← scanExponent afterFraction
  pure ({ negative, whole, fraction, exponent }, after)

def scanNumeral : List Char → Option (Numeral × List Char)
  | '-' :: rest => scanUnsigned true rest
  | cs => scanUnsigned false cs

/-! ## Tokens -/

/-- The token at the very beginning of a text, and what follows it. -/
def scanToken (cs : List Char) : Option (Token × List Char) :=
  match cs with
  | '[' :: rest => some (.openArray, rest)
  | ']' :: rest => some (.closeArray, rest)
  | '\x7b' :: rest => some (.openObject, rest)
  | '\x7d' :: rest => some (.closeObject, rest)
  | ',' :: rest => some (.comma, rest)
  | ':' :: rest => some (.colon, rest)
  | '"' :: rest => (scanPieces rest).map fun (pieces, after) =>
      (.text ((joinPieces pieces).map String.ofList), after)
  | 'n' :: 'u' :: 'l' :: 'l' :: rest => some (.null, rest)
  | 't' :: 'r' :: 'u' :: 'e' :: rest => some (.boolean true, rest)
  | 'f' :: 'a' :: 'l' :: 's' :: 'e' :: rest => some (.boolean false, rest)
  | cs => (scanNumeral cs).map fun (numeral, after) => (.number numeral, after)

/-! Every scan leaves less than it was given, so cutting a text into tokens ends. -/

theorem length_of_scanPieces {cs after : List Char} {pieces : List Piece}
    (scanned : scanPieces cs = some (pieces, after)) : after.length < cs.length := by
  fun_induction scanPieces cs generalizing pieces after with
  | case1 | case4 | case6 | case7 | case9 => cases scanned
  | case2 rest => cases scanned; simp
  | case3 a b c d rest value pieces left shorter _ ih
  | case5 mark rest _ c pieces left shorter _ ih
  | case8 c rest _ _ _ _ pieces left shorter ih =>
      cases scanned
      have := ih shorter
      simp only [List.length_cons]
      omega

theorem length_of_scanDigits {cs digits after : List Char}
    (scanned : scanDigits cs = some (digits, after)) : after.length < cs.length := by
  have parts := congrArg List.length (List.takeWhile_append_dropWhile (p := Char.isDigit) (l := cs))
  rw [List.length_append] at parts
  unfold scanDigits at scanned
  split at scanned
  · cases scanned
  · next nonempty =>
      cases scanned
      have := List.length_pos_iff.mpr nonempty
      omega

theorem length_of_scanWhole {cs digits after : List Char}
    (scanned : scanWhole cs = some (digits, after)) : after.length < cs.length := by
  unfold scanWhole at scanned
  split at scanned
  · cases scanned
  · exact length_of_scanDigits scanned

theorem length_of_scanFraction {cs after : List Char} {fraction : Option (List Char)}
    (scanned : scanFraction cs = some (fraction, after)) : after.length ≤ cs.length := by
  unfold scanFraction at scanned
  split at scanned
  · next rest =>
      obtain ⟨⟨digits, left⟩, found, same⟩ := Option.map_eq_some_iff.mp scanned
      cases same
      have := length_of_scanDigits found
      simp only [List.length_cons]
      omega
  · cases scanned
    exact Nat.le_refl _

theorem length_of_scanSign (cs : List Char) : (scanSign cs).2.length ≤ cs.length := by
  unfold scanSign
  split <;> simp

theorem length_of_scanExponent {cs after : List Char} {exponent : Option (Bool × List Char)}
    (scanned : scanExponent cs = some (exponent, after)) : after.length ≤ cs.length := by
  unfold scanExponent at scanned
  split at scanned
  · next c rest =>
      split at scanned
      · obtain ⟨⟨digits, left⟩, found, same⟩ := Option.map_eq_some_iff.mp scanned
        cases same
        have shorter := length_of_scanDigits found
        have signed : ((scanSign rest).2).length ≤ rest.length := length_of_scanSign rest
        exact Nat.le_of_lt (Nat.lt_of_lt_of_le shorter (Nat.le_succ_of_le signed))
      · cases scanned
        exact Nat.le_refl _
  · cases scanned
    exact Nat.le_refl _

theorem length_of_scanUnsigned {negative : Bool} {cs after : List Char} {numeral : Numeral}
    (scanned : scanUnsigned negative cs = some (numeral, after)) :
    after.length < cs.length := by
  simp only [scanUnsigned, Option.bind_eq_bind, Option.bind_eq_some_iff] at scanned
  obtain ⟨⟨whole, _⟩, first, ⟨fraction, _⟩, second, ⟨exponent, _⟩, third, same⟩ := scanned
  cases same
  exact Nat.lt_of_le_of_lt (length_of_scanExponent third)
    (Nat.lt_of_le_of_lt (length_of_scanFraction second) (length_of_scanWhole first))

theorem length_of_scanNumeral {cs after : List Char} {numeral : Numeral}
    (scanned : scanNumeral cs = some (numeral, after)) : after.length < cs.length := by
  unfold scanNumeral at scanned
  split at scanned
  · have := length_of_scanUnsigned scanned
    simp only [List.length_cons]
    omega
  · exact length_of_scanUnsigned scanned

theorem length_of_scanToken {cs after : List Char} {token : Token}
    (scanned : scanToken cs = some (token, after)) : after.length < cs.length := by
  unfold scanToken at scanned
  split at scanned
  case h_7 rest =>
    obtain ⟨⟨pieces, left⟩, found, same⟩ := Option.map_eq_some_iff.mp scanned
    cases same
    have := length_of_scanPieces found
    simp only [List.length_cons]
    omega
  case h_11 =>
    obtain ⟨⟨numeral, left⟩, found, same⟩ := Option.map_eq_some_iff.mp scanned
    cases same
    exact length_of_scanNumeral found
  all_goals
    cases scanned
    simp only [List.length_cons]
    omega

/-- The tokens of a text, ending in `junk` where it cannot be cut further. -/
def tokenize (cs : List Char) : List Token :=
  match cs with
  | [] => []
  | c :: rest =>
      if isSpace c then tokenize rest
      else match _scanned : scanToken (c :: rest) with
        | none => [.junk]
        | some (token, after) => token :: tokenize after
termination_by cs.length
decreasing_by
  · simp
  · exact length_of_scanToken _scanned

end ExamGrants.Json
