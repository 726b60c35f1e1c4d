import ExamGrants.Text.Hex

namespace ExamGrants

/-! User ids and their spellings.

An id is a number of 128 bits.  It is written as 32 lower-case hexadecimal digits in
groups of 8, 4, 4, 4 and 12 joined by hyphens.  It is read in either case, also
without hyphens, in braces, or after `urn:uuid:`.
-/

/-- The identity of a user account. -/
@[ext] structure UserId where
  bits : BitVec 128
deriving DecidableEq, Repr

namespace UserId

/-- The lengths of the groups of digits that hyphens join. -/
def groups : List Nat := [8, 4, 4, 4, 12]

/-- Digits cut into groups of the given lengths, joined by hyphens. -/
def hyphenate : List Nat → List Char → List Char
  | size :: next :: sizes, digits =>
      digits.take size ++ '-' :: hyphenate (next :: sizes) (digits.drop size)
  | _, digits => digits

/-- Undoes `hyphenate`: every group but the last must end at a hyphen. -/
def dehyphenate? : List Nat → List Char → Option (List Char)
  | size :: next :: sizes, text =>
      match text.drop size with
      | '-' :: rest => (dehyphenate? (next :: sizes) rest).map (text.take size ++ ·)
      | _ => none
  | _, text => some text

def digits (id : UserId) : List Char :=
  Text.toHex 32 id.bits.toNat

def toText (id : UserId) : String :=
  String.ofList (hyphenate groups id.digits)

/-- The id written by exactly 32 hexadecimal digits. -/
def ofDigits? (text : List Char) : Option UserId :=
  if text.length = 32 then (Text.ofHex? text).map fun number => ⟨BitVec.ofNat 128 number⟩
  else none

/-- The id written with hyphens between its groups. -/
def ofHyphenated? (text : List Char) : Option UserId :=
  if text.length = 36 then (dehyphenate? groups text).bind ofDigits? else none

/-- The hyphenated id between braces. -/
def ofBraced? : List Char → Option UserId
  | '\x7b' :: rest =>
      if rest.getLast? = some '\x7d' then ofHyphenated? rest.dropLast else none
  | _ => none

/-- What introduces an id as a resource name. -/
def resourceMark : List Char := "urn:uuid:".toList

/-- The hyphenated id after its resource mark, which may be in either case. -/
def ofResource? (text : List Char) : Option UserId :=
  if (text.take resourceMark.length).map Char.toLower = resourceMark then
    ofHyphenated? (text.drop resourceMark.length)
  else none

/-- The id that a text spells, in any of the four forms and without blanks around it. -/
def ofText? (text : String) : Option UserId :=
  let spelling := text.toList
  ofDigits? spelling <|> ofHyphenated? spelling <|> ofBraced? spelling <|> ofResource? spelling

end UserId

end ExamGrants
