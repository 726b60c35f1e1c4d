import Mathlib.Algebra.Ring.Nat
import ExamGrants.UserId

namespace ExamGrants.UserId

/-! The text of a user id spells that id.

It has 36 characters, so it is read as groups of digits joined by hyphens and in no other
form.  Without the hyphens it is the 32 digits of the number.
-/

theorem length_hyphenate {sizes : List Nat} {digits : List Char}
    (enough : sizes.sum ≤ digits.length) :
    (hyphenate sizes digits).length = digits.length + (sizes.length - 1) := by
  fun_induction hyphenate sizes digits with
  | case1 size next sizes digits ih =>
      simp only [List.sum_cons] at enough ih
      have following := ih (by simp only [List.length_drop]; omega)
      simp only [List.length_append, List.length_cons, List.length_take, following,
        List.length_drop]
      omega
  | case2 sizes digits short =>
      match sizes, short with
      | [], _ | [_], _ => rfl
      | size :: next :: sizes, short => exact absurd rfl (short size next sizes)

theorem dehyphenate?_hyphenate {sizes : List Nat} {digits : List Char}
    (enough : sizes.sum ≤ digits.length) :
    dehyphenate? sizes (hyphenate sizes digits) = some digits := by
  fun_induction hyphenate sizes digits with
  | case1 size next sizes digits ih =>
      simp only [List.sum_cons] at enough ih
      have following := ih (by simp only [List.length_drop]; omega)
      have group : (digits.take size).length = size := by
        rw [List.length_take]
        omega
      rw [dehyphenate?, List.drop_left' group, List.take_left' group]
      simp only [following, Option.map_some, List.take_append_drop]
  | case2 sizes digits short => exact dehyphenate?.eq_2 sizes digits short

theorem length_digits (id : UserId) : id.digits.length = 32 :=
  Text.length_toHex 32 _

theorem sum_groups_le (id : UserId) : groups.sum ≤ id.digits.length := by
  rw [length_digits]
  decide

theorem toList_toText (id : UserId) : id.toText.toList = hyphenate groups id.digits :=
  String.toList_ofList

theorem length_toText (id : UserId) : id.toText.toList.length = 36 := by
  rw [toList_toText, length_hyphenate id.sum_groups_le, length_digits]
  rfl

theorem ofDigits?_digits (id : UserId) : ofDigits? id.digits = some id := by
  have small : id.bits.toNat % Nat.pow 16 32 = id.bits.toNat :=
    Nat.mod_eq_of_lt (Nat.lt_of_lt_of_le id.bits.isLt (by decide))
  rw [ofDigits?, if_pos id.length_digits, digits, Text.ofHex?_toHex, small, Option.map_some]
  simp

/-- The text written for an id is read as the id. -/
theorem ofText?_toText (id : UserId) : ofText? id.toText = some id := by
  have notDigits : ofDigits? id.toText.toList = none := by
    rw [ofDigits?, length_toText]
    rfl
  have hyphenated : ofHyphenated? id.toText.toList = some id := by
    rw [ofHyphenated?, if_pos id.length_toText, toList_toText,
      dehyphenate?_hyphenate id.sum_groups_le, Option.bind_some, ofDigits?_digits]
  simp only [ofText?, notDigits, hyphenated]
  rfl

theorem toText_injective : Function.Injective toText := by
  intro first second same
  have read := first.ofText?_toText
  rw [same, ofText?_toText] at read
  exact (Option.some.inj read).symm

end ExamGrants.UserId
