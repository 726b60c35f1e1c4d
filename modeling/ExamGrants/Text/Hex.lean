namespace ExamGrants.Text

/-! Hexadecimal digits: read in either case, written in lower case. -/

/-- The value of a hexadecimal digit of either case. -/
def hexValue? (c : Char) : Option Nat :=
  if '0' ≤ c ∧ c ≤ '9' then some (c.toNat - '0'.toNat)
  else if 'a' ≤ c ∧ c ≤ 'f' then some (c.toNat - 'a'.toNat + 10)
  else if 'A' ≤ c ∧ c ≤ 'F' then some (c.toNat - 'A'.toNat + 10)
  else none

/-- The number written by hexadecimal digits, the most significant first. -/
def ofHex? (digits : List Char) : Option Nat :=
  (digits.mapM hexValue?).map (·.foldl (fun number value => number * 16 + value) 0)

/-- The lowest `count` hexadecimal digits of a number, the most significant first. -/
def toHex : (count number : Nat) → List Char
  | 0, _ => []
  | count + 1, number => toHex count (number / 16) ++ [Nat.digitChar (number % 16)]

/-- All hexadecimal digits of a number, none in front that could be left out. -/
def hexText (number : Nat) : String :=
  String.ofList (Nat.toDigits 16 number)

theorem hexValue?_digitChar :
    ∀ value, value < 16 → hexValue? (Nat.digitChar value) = some value := by
  decide

@[simp] theorem length_toHex (count number : Nat) : (toHex count number).length = count := by
  induction count generalizing number with
  | zero => rfl
  | succ count ih => simp [toHex, ih]

theorem ofHex?_append_digit (digits : List Char) (digit : Char) :
    ofHex? (digits ++ [digit]) =
      (ofHex? digits).bind fun number =>
        (hexValue? digit).map fun value => number * 16 + value := by
  simp only [ofHex?, List.mapM_append, List.mapM_cons, List.mapM_nil]
  cases digits.mapM hexValue? with
  | none => rfl
  | some values =>
      cases hexValue? digit with
      | none => rfl
      | some value => simp [List.foldl_append]

/-- The digits written of a number read as what remains of it after cutting to their count. -/
theorem ofHex?_toHex (count number : Nat) :
    ofHex? (toHex count number) = some (number % Nat.pow 16 count) := by
  induction count generalizing number with
  | zero => exact congrArg some (Nat.mod_one number).symm
  | succ count ih =>
      have digit : hexValue? (Nat.digitChar (number % 16)) = some (number % 16) :=
        hexValue?_digitChar _ (Nat.mod_lt _ (by decide))
      have cut : number / 16 % Nat.pow 16 count * 16 + number % 16 =
          number % Nat.pow 16 (count + 1) := by
        have front : Nat.pow 16 (count + 1) = 16 * Nat.pow 16 count := Nat.pow_succ'
        rw [front, Nat.mod_mul]
        omega
      rw [toHex, ofHex?_append_digit, ih, digit, Option.bind_some, Option.map_some, cut]

end ExamGrants.Text
