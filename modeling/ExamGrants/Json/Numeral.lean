import ExamGrants.Json.Fault

namespace ExamGrants.Json

/-! Numbers as JSON writes them, and what they are read as.

A number without fraction and exponent that fits 64 bits is an integer; any other is
a floating-point number.  A floating-point number beyond the largest double cannot be
read at all.
-/

/-- The parts of a written number. -/
structure Numeral where
  /-- Whether a minus sign stands in front. -/
  negative : Bool := false
  /-- The digits before the point. -/
  whole : List Char
  /-- The digits after the point, where there is one. -/
  fraction : Option (List Char) := none
  /-- Whether the exponent is below zero, and its digits, where there is one. -/
  exponent : Option (Bool × List Char) := none
deriving DecidableEq, Repr

namespace Numeral

def digitValue (digit : Char) : Nat := digit.toNat - '0'.toNat

/-- The number that decimal digits write. -/
def value (digits : List Char) : Nat :=
  Nat.ofDigitChars 10 digits 0

def ofNat (number : Nat) : Numeral where
  whole := Nat.toDigits 10 number

theorem value_whole_ofNat (number : Nat) : value (ofNat number).whole = number :=
  Nat.ofDigitChars_toDigits (by decide) (by decide)

def spelling (numeral : Numeral) : List Char :=
  (if numeral.negative then ['-'] else []) ++ numeral.whole ++
    (match numeral.fraction with
      | none => []
      | some digits => '.' :: digits) ++
    (match numeral.exponent with
      | none => []
      | some (below, digits) => 'e' :: (if below then '-' :: digits else digits))

/-- The largest number that a significand may reach. -/
def significandLimit : Nat := Nat.pow 2 64 - 1

/-- Appends digits to a significand as long as it stays within its limit, and tells how many
digits were left over. -/
def extend : (significand : Nat) → (digits : List Char) → Nat × Nat
  | significand, [] => (significand, 0)
  | significand, digit :: rest =>
      let next := significand * 10 + digitValue digit
      if next ≤ significandLimit then extend next rest
      else (significand, rest.length + 1)

/-- Significand and decimal exponent of the floating-point number.  Digits that do not fit
the significand count by their place only. -/
def scientific (numeral : Numeral) : Nat × Int :=
  let (whole, wholeLeft) := extend 0 numeral.whole
  let fraction := numeral.fraction.getD []
  let (significand, fractionLeft) := extend whole fraction
  let written : Int :=
    match numeral.exponent with
    | none => 0
    | some (below, digits) => if below then -(value digits : Int) else value digits
  (significand, wholeLeft - (fraction.length - fractionLeft : Nat) + written)

/-- The nearest number with at most 53 significant bits, a half going to the even one. -/
def toDouble (number : Nat) : Nat :=
  let unit := Nat.pow 2 (number.log2 + 1 - 53)
  let quotient := number / unit
  let double := 2 * (number % unit)
  let rounded :=
    if double > unit || (double == unit && quotient % 2 == 1) then quotient + 1 else quotient
  rounded * unit

/-- The first number that is rounded up to infinity. -/
def infinityBound : Nat := Nat.pow 2 1024 - Nat.pow 2 970

/-- Whether a double holds the product of a significand and a power of ten, both rounded to
doubles first.  Powers above `10 ^ 308` are none. -/
def isFinite (significand : Nat) (exponent : Int) : Bool :=
  match exponent with
  | .negSucc _ => true
  | .ofNat power =>
      significand == 0 ||
        (power ≤ 308 && toDouble significand * toDouble (Nat.pow 10 power) < infinityBound)

/-- The integer that the numeral writes, where it is one of 64 bits.  A zero with a minus
sign is none. -/
def integer? (numeral : Numeral) : Option Int :=
  if numeral.fraction.isSome || numeral.exponent.isSome then none
  else
    let number := value numeral.whole
    if numeral.negative then
      if number = 0 ∨ Nat.pow 2 63 < number then none else some (-(number : Int))
    else if number < Nat.pow 2 64 then some number
    else none

theorem integer?_ofNat {number : Nat} (small : number < Nat.pow 2 64) :
    (ofNat number).integer? = some (number : Int) := by
  simp only [integer?, value_whole_ofNat]
  exact if_pos small

/-- What the numeral is read as; nothing where it is beyond the largest double. -/
def found? (numeral : Numeral) : Option Found :=
  match numeral.integer? with
  | some number => some (.integer number)
  | none =>
      let (significand, exponent) := numeral.scientific
      if isFinite significand exponent then some .floating else none

end Numeral

end ExamGrants.Json
