import ExamGrants.Proofs.Delimiting
import ExamGrants.Proofs.OpenRecords
import ExamGrants.Proofs.RecordText

namespace ExamGrants

/-! The numbers of institutions as texts.

An institution is read from the decimal digits of its number, with white space around them, and
from no other text: digits whose value does not fit 64 bits are refused as a whole, and so are a
zero in front, a sign, a fraction, an exponent and a string
(`InstitutionId.read_from_decimal_digits`).
-/

namespace Json

/-- Nothing but the white space between tokens. -/
def AreSpaces (cs : List Char) : Prop :=
  ∀ c ∈ cs, isSpace c = true

instance (cs : List Char) : Decidable (AreSpaces cs) :=
  decidable_of_iff (cs.all isSpace = true) List.all_eq_true

/-- The text is the core with white space around it. -/
def IsSpacingOf (text core : String) : Prop :=
  ∃ before after, AreSpaces before ∧ AreSpaces after ∧
    text.toList = before ++ (core.toList ++ after)

theorem tokensSpelledBy_nil_iff {cs : List Char} : TokensSpelledBy [] cs ↔ AreSpaces cs := by
  constructor
  · intro spelled
    generalize none : ([] : List Token) = tokens at spelled
    induction spelled with
    | nil => exact List.forall_mem_nil _
    | space white _ ih => exact List.forall_mem_cons.mpr ⟨white, ih none⟩
    | token => cases none
  · intro white
    have spelled := TokensSpelledBy.nil.spaces white
    rwa [List.append_nil] at spelled

theorem tokensSpelledBy_singleton_iff {token : Token} {cs : List Char} :
    TokensSpelledBy [token] cs ↔ ∃ before spelling after, AreSpaces before ∧ AreSpaces after ∧
      token.SpelledBy spelling ∧ cs = before ++ (spelling ++ after) := by
  constructor
  · intro spelled
    generalize one : [token] = tokens at spelled
    induction spelled with
    | nil => cases one
    | @space c _ _ white _ ih =>
        obtain ⟨before, spelling, after, beforeWhite, afterWhite, first, rfl⟩ := ih one
        exact ⟨c :: before, spelling, after, List.forall_mem_cons.mpr ⟨white, beforeWhite⟩,
          afterWhite, first, rfl⟩
    | @token _ _ spelling after first others =>
        cases one
        exact ⟨[], spelling, after, List.forall_mem_nil _, tokensSpelledBy_nil_iff.mp others,
          first, rfl⟩
  · intro parts
    obtain ⟨before, spelling, after, beforeWhite, afterWhite, first, rfl⟩ := parts
    exact (TokensSpelledBy.token first (tokensSpelledBy_nil_iff.mpr afterWhite)).spaces beforeWhite

namespace Numeral

/-! ## Decimal digits -/

theorem spelledBy_whole_iff {digits cs : List Char} :
    SpelledBy { whole := digits } cs ↔ IsWhole digits ∧ cs = digits := by
  constructor
  · intro spelled
    obtain ⟨_, _, isWhole, ⟨⟩, ⟨⟩, rfl⟩ := spelled
    exact ⟨isWhole, by simp⟩
  · intro written
    obtain ⟨isWhole, rfl⟩ := written
    exact ⟨[], [], isWhole, .absent, .absent, by simp⟩

theorem digitChar_digitValue {c : Char} (isDigit : c.isDigit = true) :
    digitValue c < 10 ∧ Nat.digitChar (digitValue c) = c := by
  obtain ⟨low, high⟩ := Bool.and_eq_true_iff.mp isDigit
  have lower : 48 ≤ c.toNat := of_decide_eq_true low
  have upper : c.toNat ≤ 57 := of_decide_eq_true high
  have amount : digitValue c = c.toNat - 48 := rfl
  have small : digitValue c < 10 := by omega
  refine ⟨small, Char.toNat_inj.mp ?_⟩
  rw [Nat.toNat_digitChar_of_lt_ten small]
  omega

theorem value_append_digit (digits : List Char) (last : Char) :
    value (digits ++ [last]) = 10 * value digits + digitValue last := by
  rw [value, Nat.ofDigitChars_append, Nat.ofDigitChars_cons, Nat.ofDigitChars_nil]
  rfl

/-- Digits without a zero in front are the ones that their value is written with. -/
theorem toDigits_value {digits : List Char} (isWhole : IsWhole digits) :
    Nat.toDigits 10 (value digits) = digits := by
  -- A number is written by the digits of its tenth and then its last digit.
  induction digits using List.reverseRecOn with
  | nil => exact absurd rfl isWhole.1.1
  | append_singleton front last ih =>
      obtain ⟨⟨_, areDigits⟩, leading⟩ := isWhole
      obtain ⟨frontDigits, lastDigit⟩ := List.forall_mem_append.mp areDigits
      obtain ⟨small, same⟩ := digitChar_digitValue (lastDigit last (List.mem_singleton_self last))
      have lastWritten : Nat.toDigits 10 (digitValue last) = [last] := by
        rw [Nat.toDigits_of_lt_base small, same]
      rw [value_append_digit]
      cases front with
      | nil =>
          have alone : 10 * value [] + digitValue last = digitValue last := Nat.zero_add _
          rw [alone, lastWritten, List.nil_append]
      | cons c more =>
          have noZero : c ≠ '0' := by
            rintro rfl
            have short := leading rfl
            simp at short
          have written := ih ⟨⟨List.cons_ne_nil c more, frontDigits⟩,
            fun zero => absurd (Option.some.inj zero) noZero⟩
          have positive : 0 < value (c :: more) := by
            apply Nat.pos_of_ne_zero
            intro zero
            rw [zero, Nat.toDigits_zero] at written
            exact noZero (List.cons.inj written).1.symm
          rw [← Nat.toDigits_append_toDigits (by decide) positive small, written, lastWritten]

theorem isWhole_value_iff {digits : List Char} {number : Nat} :
    IsWhole digits ∧ value digits = number ↔ digits = (toString number).toList := by
  rw [Nat.toString_eq_ofList_toDigits, String.toList_ofList]
  constructor
  · intro written
    obtain ⟨isWhole, rfl⟩ := written
    exact (toDigits_value isWhole).symm
  · intro same
    subst same
    exact ⟨isWhole_toDigits number, value_whole_ofNat number⟩

theorem isWhole_toString (number : Nat) : IsWhole (toString number).toList :=
  (isWhole_value_iff.mpr rfl).1

theorem value_toString (number : Nat) : value (toString number).toList = number :=
  (isWhole_value_iff.mpr rfl).2

end Numeral

/-! ## White space around digits -/

theorem not_isSpace_of_isDigit {c : Char} (isDigit : c.isDigit = true) : isSpace c = false := by
  rw [← Bool.not_eq_true]
  intro white
  simp only [isSpace, Bool.or_eq_true, beq_iff_eq] at white
  rcases white with ((rfl | rfl) | rfl) | rfl <;> cases isDigit

theorem startsOutside_isSpace_of_areDigits {digits : List Char} (areDigits : AreDigits digits)
    (rest : List Char) : Text.StartsOutside isSpace (digits ++ rest) := by
  obtain ⟨nonempty, each⟩ := areDigits
  obtain ⟨c, more, rfl⟩ := List.exists_cons_of_ne_nil nonempty
  exact Text.startsOutside_cons (not_isSpace_of_isDigit (each c List.mem_cons_self)) _

theorem startsOutside_isDigit_of_areSpaces {cs : List Char} (white : AreSpaces cs) :
    Text.StartsOutside Char.isDigit cs := by
  intro c starts
  rw [← Bool.not_eq_true]
  intro isDigit
  have space := white c (List.mem_of_mem_head? starts)
  rw [not_isSpace_of_isDigit isDigit] at space
  cases space

namespace IsSpacingOf

variable {text : String} {number : Nat}

/-- What follows the white space in front of the digits begins with them. -/
theorem eq_digits_append (spaced : IsSpacingOf text (toString number)) {before rest : List Char}
    (white : AreSpaces before) (visible : Text.StartsOutside isSpace rest)
    (parts : text.toList = before ++ rest) :
    ∃ after, AreSpaces after ∧ rest = (toString number).toList ++ after := by
  obtain ⟨front, after, frontWhite, afterWhite, written⟩ := spaced
  have digits := startsOutside_isSpace_of_areDigits (Numeral.isWhole_toString number).1 after
  obtain ⟨_, same⟩ := Text.append_inj_of_startsOutside white frontWhite visible digits
    (parts.symm.trans written)
  exact ⟨after, afterWhite, same⟩

theorem number_unique (spaced : IsSpacingOf text (toString number)) {other : Nat}
    (otherSpaced : IsSpacingOf text (toString other)) : number = other := by
  obtain ⟨before, behind, beforeWhite, behindWhite, parts⟩ := otherSpaced
  have visible := startsOutside_isSpace_of_areDigits (Numeral.isWhole_toString other).1 behind
  obtain ⟨after, afterWhite, same⟩ := spaced.eq_digits_append beforeWhite visible parts
  obtain ⟨digits, _⟩ := Text.append_inj_of_startsOutside (Numeral.isWhole_toString other).1.2
    (Numeral.isWhole_toString number).1.2 (startsOutside_isDigit_of_areSpaces behindWhite)
    (startsOutside_isDigit_of_areSpaces afterWhite) same
  calc
    number = Numeral.value (toString number).toList := (Numeral.value_toString number).symm
    _ = Numeral.value (toString other).toList := by rw [digits]
    _ = other := Numeral.value_toString other

end IsSpacingOf

/-- The beginnings of other numbers and of strings. -/
inductive BeginsOtherwise : List Char → Prop where
  | negative {rest : List Char} : BeginsOtherwise ('-' :: rest)
  | leadingZero {digit : Char} {rest : List Char} (isDigit : digit.isDigit = true) :
      BeginsOtherwise ('0' :: digit :: rest)
  | fraction {digits rest : List Char} (areDigits : AreDigits digits) :
      BeginsOtherwise (digits ++ '.' :: rest)
  | exponent {letter : Char} {digits rest : List Char} (areDigits : AreDigits digits)
      (isLetter : letter = 'e' ∨ letter = 'E') : BeginsOtherwise (digits ++ letter :: rest)
  | string {rest : List Char} : BeginsOtherwise ('"' :: rest)

namespace BeginsOtherwise

variable {cs : List Char}

theorem startsOutside (begins : BeginsOtherwise cs) : Text.StartsOutside isSpace cs := by
  cases begins with
  | fraction areDigits | exponent areDigits => exact startsOutside_isSpace_of_areDigits areDigits _
  | _ => exact Text.startsOutside_cons rfl _

/-- No decimal number with nothing but white space behind it begins so. -/
theorem ne_digits_append (begins : BeginsOtherwise cs) {number : Nat} {after : List Char}
    (white : AreSpaces after) : cs ≠ (toString number).toList ++ after := by
  obtain ⟨⟨nonempty, areDigits⟩, leading⟩ := Numeral.isWhole_toString number
  intro same
  have each : ∀ c ∈ cs, c.isDigit = true ∨ isSpace c = true := by
    intro c member
    rw [same] at member
    exact (List.mem_append.mp member).imp (areDigits c) (white c)
  cases begins with
  | negative => simpa [isSpace] using each '-' List.mem_cons_self
  | string => simpa [isSpace] using each '"' List.mem_cons_self
  | fraction => simpa [isSpace] using each '.' (by simp)
  | exponent _ isLetter =>
      obtain rfl | rfl := isLetter
      · simpa [isSpace] using each 'e' (by simp)
      · simpa [isSpace] using each 'E' (by simp)
  | @leadingZero digit rest isDigit =>
      obtain ⟨c, more, written⟩ := List.exists_cons_of_ne_nil nonempty
      rw [written] at same leading
      obtain ⟨rfl, following⟩ := List.cons.inj same
      obtain ⟨_, rfl⟩ := List.cons.inj (leading rfl)
      have listed : after = digit :: rest := following.symm
      have space := white digit (by rw [listed]; exact List.mem_cons_self)
      rw [not_isSpace_of_isDigit isDigit] at space
      cases space

end BeginsOtherwise

end Json

namespace InstitutionId

open Json

variable {text : String} {institution : InstitutionId}

/-- An institution is read from the digits of its number. -/
theorem read_eq_ok_iff_isSpacingOf :
    Format.institution.read text = .ok institution ↔
      IsSpacingOf text (toString institution.number.toNat) := by
  simp only [Codec.read_eq_ok_iff, Format.institution_decode_eq_ok_iff]
  constructor
  · intro read
    obtain ⟨_, spelled, ⟨same⟩⟩ := read
    obtain ⟨before, _, after, beforeWhite, afterWhite, written, parts⟩ :=
      tokensSpelledBy_singleton_iff.mp spelled.2
    cases written with
    | number written =>
        obtain ⟨isWhole, rfl⟩ := Numeral.spelledBy_whole_iff.mp written
        rw [Numeral.isWhole_value_iff.mp ⟨isWhole, same⟩] at parts
        exact ⟨before, after, beforeWhite, afterWhite, parts⟩
  · intro spaced
    obtain ⟨before, after, beforeWhite, afterWhite, parts⟩ := spaced
    let digits := (toString institution.number.toNat).toList
    have written : (Token.number { whole := digits }).SpelledBy digits :=
      .number (Numeral.spelledBy_whole_iff.mpr ⟨Numeral.isWhole_toString _, rfl⟩)
    refine ⟨.number { whole := digits }, ⟨rfl, ?_⟩, .number (Numeral.value_toString _)⟩
    exact tokensSpelledBy_singleton_iff.mpr
      ⟨before, digits, after, beforeWhite, afterWhite, written, parts⟩

theorem read_of_small {number : Nat} (spaced : IsSpacingOf text (toString number))
    (small : number < 2 ^ 64) :
    ∃ institution, Format.institution.read text = .ok institution ∧
      institution.number.toNat = number := by
  have same : (UInt64.ofNat number).toNat = number := UInt64.toNat_ofNat_of_lt' small
  refine ⟨⟨UInt64.ofNat number⟩, read_eq_ok_iff_isSpacingOf.mpr ?_, same⟩
  rw [same]
  exact spaced

theorem read_eq_error_of_forall_ne
    (unread : ∀ institution, Format.institution.read text ≠ .ok institution) :
    ∃ fault, Format.institution.read text = .error fault := by
  cases read : Format.institution.read text with
  | error fault => exact ⟨fault, rfl⟩
  | ok institution => exact absurd read (unread institution)

theorem read_of_large {number : Nat} (spaced : IsSpacingOf text (toString number))
    (large : 2 ^ 64 ≤ number) : ∃ fault, Format.institution.read text = .error fault := by
  apply read_eq_error_of_forall_ne
  intro institution read
  have same := spaced.number_unique (read_eq_ok_iff_isSpacingOf.mp read)
  have small : institution.number.toNat < 2 ^ 64 := institution.number.toNat_lt
  omega

theorem read_of_beginsOtherwise {before rest : List Char} (white : AreSpaces before)
    (begins : BeginsOtherwise rest) (parts : text.toList = before ++ rest) :
    ∃ fault, Format.institution.read text = .error fault := by
  apply read_eq_error_of_forall_ne
  intro institution read
  have spaced := read_eq_ok_iff_isSpacingOf.mp read
  obtain ⟨after, afterWhite, same⟩ := spaced.eq_digits_append white begins.startsOutside parts
  exact begins.ne_digits_append afterWhite same

theorem write_eq_toString (institution : InstitutionId) :
    Format.institution.write institution = toString institution.number.toNat := by
  rw [Nat.toString_eq_ofList_toDigits]
  simp [Codec.write, Format.institution, Tree.compact, Tree.tokens, spell, Token.spelling,
    Numeral.spelling, Numeral.ofNat]

theorem toText_injective : Function.Injective toText := by
  intro first second same
  have digits : (toString first.number.toNat).toList = (toString second.number.toNat).toList :=
    congrArg String.toList same
  apply InstitutionId.ext
  apply UInt64.toNat_inj.mp
  rw [← Numeral.value_toString first.number.toNat, digits, Numeral.value_toString]

/-- Institutions are read from the decimal digits of their number and written with them.  Larger
numbers are refused, and so is what begins in another way. -/
theorem read_from_decimal_digits :
    (∀ number text, IsSpacingOf text (toString number) →
      (number < 2 ^ 64 → ∃ institution, Format.institution.read text = .ok institution ∧
        institution.number.toNat = number) ∧
      (2 ^ 64 ≤ number → ∃ fault, Format.institution.read text = .error fault)) ∧
    (∀ text institution, Format.institution.read text = .ok institution ↔
      IsSpacingOf text (toString institution.number.toNat)) ∧
    (∀ text before rest, AreSpaces before → BeginsOtherwise rest → text.toList = before ++ rest →
      ∃ fault, Format.institution.read text = .error fault) ∧
    ∀ institution : InstitutionId, institution.toText = toString institution.number.toNat ∧
      Format.institution.write institution = institution.toText ∧
      ∀ other : InstitutionId, other.toText = institution.toText → other = institution := by
  refine ⟨fun number text spaced => ⟨read_of_small spaced, read_of_large spaced⟩,
    fun text institution => read_eq_ok_iff_isSpacingOf,
    fun text before rest => read_of_beginsOtherwise, fun institution => ?_⟩
  exact ⟨rfl, write_eq_toString institution, fun other same => toText_injective same⟩

/-- The largest number, the number above it, and a zero with a sign in front, with another zero, with
a fraction and with an exponent. -/
theorem read_from_decimal_digits_at_bound :
    (18446744073709551615 < 2 ^ 64 ∧
      IsSpacingOf " 18446744073709551615\n" (toString 18446744073709551615) ∧
      ∃ institution, Format.institution.read " 18446744073709551615\n" = .ok institution ∧
        institution.number.toNat = 18446744073709551615) ∧
    (2 ^ 64 ≤ 18446744073709551616 ∧
      IsSpacingOf "18446744073709551616" (toString 18446744073709551616) ∧
      ∃ fault, Format.institution.read "18446744073709551616" = .error fault) ∧
    ∀ rest ∈ ["-0", "00", "0.0", "0e0"], BeginsOtherwise rest.toList ∧
      ∃ fault, Format.institution.read ("\t" ++ rest) = .error fault := by
  obtain ⟨numbers, _, others, _⟩ := read_from_decimal_digits
  have largest : IsSpacingOf " 18446744073709551615\n" (toString 18446744073709551615) :=
    ⟨[' '], ['\n'], by decide, by decide, by decide +kernel⟩
  have above : IsSpacingOf "18446744073709551616" (toString 18446744073709551616) :=
    ⟨[], [], by decide, by decide, by decide +kernel⟩
  refine ⟨⟨by decide, largest, (numbers _ _ largest).1 (by decide)⟩,
    ⟨by decide, above, (numbers _ _ above).2 (by decide)⟩, ?_⟩
  have zero : AreDigits ['0'] := ⟨List.cons_ne_nil _ _, List.forall_mem_singleton.mpr rfl⟩
  have otherwise : ∀ rest ∈ ["-0", "00", "0.0", "0e0"], BeginsOtherwise rest.toList := by
    simp only [List.forall_mem_cons]
    exact ⟨.negative, .leadingZero rfl, .fraction zero, .exponent zero (.inl rfl),
      List.forall_mem_nil _⟩
  intro rest listed
  have begins := otherwise rest listed
  exact ⟨begins, others _ ['\t'] _ (by decide) begins String.toList_append⟩

end InstitutionId

end ExamGrants
