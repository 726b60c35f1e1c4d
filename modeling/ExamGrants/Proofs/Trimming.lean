import Mathlib.Data.List.TakeWhile
import ExamGrants.Text.Blank

namespace ExamGrants.Text

/-! What trimming leaves of a text.

A text is a padding of another one when it is that text with blanks around it.  Of all the
texts that it is a padding of, the trimmed one is the one with no blank at its ends
(`trim_eq_iff`).
-/

/-- Nothing but blanks. -/
def AreBlank (cs : List Char) : Prop :=
  ∀ c ∈ cs, isBlank c = true

instance (cs : List Char) : Decidable (AreBlank cs) :=
  decidable_of_iff (cs.all isBlank = true) List.all_eq_true

/-- The text is the core with any blanks before and after it. -/
def IsPaddingOf (text core : String) : Prop :=
  ∃ before after, AreBlank before ∧ AreBlank after ∧
    text.toList = before ++ (core.toList ++ after)

/-- Neither the first nor the last of the characters is a blank. -/
structure HaveBareEnds (cs : List Char) : Prop where
  first : ∀ c, cs.head? = some c → isBlank c = false
  last : ∀ c, cs.getLast? = some c → isBlank c = false

/-- The text has no blank at its ends. -/
def IsBare (text : String) : Prop :=
  HaveBareEnds text.toList

/-- The characters of ASCII that leave ink. -/
def isPrinted (c : Char) : Bool :=
  0x21 ≤ c.toNat && c.toNat ≤ 0x7E

theorem isAllBlank_iff {text : String} : isAllBlank text = true ↔ AreBlank text.toList := by
  simp [isAllBlank, AreBlank]

theorem AreBlank.reverse {cs : List Char} (blank : AreBlank cs) : AreBlank cs.reverse :=
  fun c member => blank c (List.mem_reverse.mp member)

theorem haveBareEnds_of_forall_not_isBlank {cs : List Char}
    (bare : ∀ c ∈ cs, isBlank c = false) : HaveBareEnds cs where
  first c starts := bare c (List.mem_of_head? starts)
  last c ends := bare c (List.mem_of_getLast? ends)

theorem isPrinted_iff {c : Char} : isPrinted c = true ↔ 0x21 ≤ c.toNat ∧ c.toNat ≤ 0x7E := by
  simp [isPrinted]

theorem not_isBlank_of_isPrinted {c : Char} (printed : isPrinted c = true) :
    isBlank c = false := by
  rw [isPrinted_iff] at printed
  simp only [isBlank, Bool.or_eq_false_iff, Bool.and_eq_false_iff, decide_eq_false_iff_not,
    beq_eq_false_iff_ne]
  omega

theorem dropWhile_isBlank_append {before : List Char} (blank : AreBlank before)
    {rest : List Char} (bare : ∀ c, rest.head? = some c → isBlank c = false) :
    (before ++ rest).dropWhile isBlank = rest := by
  rw [List.dropWhile_append_of_pos blank]
  cases rest with
  | nil => rfl
  | cons c rest => simp [bare c rfl]

theorem exists_blank_append_dropWhile (cs : List Char) :
    ∃ before, AreBlank before ∧ cs = before ++ cs.dropWhile isBlank :=
  ⟨cs.takeWhile isBlank, List.all_eq_true.mp List.all_takeWhile,
    List.takeWhile_append_dropWhile.symm⟩

theorem not_isBlank_head_dropWhile {cs : List Char} {c : Char}
    (starts : (cs.dropWhile isBlank).head? = some c) : isBlank c = false := by
  have stopped := List.head?_dropWhile_not isBlank cs
  rw [starts] at stopped
  simpa using stopped

/-- What is left after the leading blanks ends in the trailing ones. -/
theorem exists_dropWhile_eq_trimChars_append (cs : List Char) :
    ∃ after, AreBlank after ∧ cs.dropWhile isBlank = trimChars cs ++ after := by
  obtain ⟨blanks, blank, parts⟩ := exists_blank_append_dropWhile (cs.dropWhile isBlank).reverse
  refine ⟨blanks.reverse, blank.reverse, ?_⟩
  rw [← List.reverse_inj, parts, trimChars, List.reverse_append, List.reverse_reverse,
    List.reverse_reverse]

theorem haveBareEnds_trimChars (cs : List Char) : HaveBareEnds (trimChars cs) := by
  refine ⟨fun c starts => ?_, fun c ends => ?_⟩
  · obtain ⟨after, _, rest⟩ := exists_dropWhile_eq_trimChars_append cs
    have front : (cs.dropWhile isBlank).head? = some c := by
      rw [rest, List.head?_append, starts]
      rfl
    exact not_isBlank_head_dropWhile front
  · rw [trimChars, List.getLast?_reverse] at ends
    exact not_isBlank_head_dropWhile ends

theorem exists_blanks_trimChars (cs : List Char) :
    ∃ before after, AreBlank before ∧ AreBlank after ∧
      cs = before ++ (trimChars cs ++ after) := by
  obtain ⟨before, beforeBlank, front⟩ := exists_blank_append_dropWhile cs
  obtain ⟨after, afterBlank, rest⟩ := exists_dropWhile_eq_trimChars_append cs
  refine ⟨before, after, beforeBlank, afterBlank, ?_⟩
  rw [← rest]
  exact front

theorem trimChars_of_blanks {before core after : List Char} (beforeBlank : AreBlank before)
    (afterBlank : AreBlank after) (bare : HaveBareEnds core) :
    trimChars (before ++ (core ++ after)) = core := by
  cases core with
  | nil =>
      have blank : AreBlank (before ++ after) := List.forall_mem_append.mpr
        ⟨beforeBlank, afterBlank⟩
      have dropped : (before ++ after).dropWhile isBlank = [] :=
        List.dropWhile_eq_nil_iff.mpr blank
      simp [trimChars, dropped]
  | cons c rest =>
      have front : (before ++ (c :: rest ++ after)).dropWhile isBlank = c :: rest ++ after :=
        dropWhile_isBlank_append beforeBlank fun first starts => bare.first first starts
      have back : (after.reverse ++ (c :: rest).reverse).dropWhile isBlank =
          (c :: rest).reverse :=
        dropWhile_isBlank_append afterBlank.reverse fun last starts =>
          bare.last last (List.head?_reverse ▸ starts)
      rw [trimChars, front, List.reverse_append, back, List.reverse_reverse]

/-- The text between the blanks is the one with bare ends. -/
theorem trim_eq_iff {text core : String} :
    trim text = core ↔ IsBare core ∧ IsPaddingOf text core := by
  constructor
  · intro trimmed
    subst trimmed
    have written : (trim text).toList = trimChars text.toList := String.toList_ofList
    rw [IsBare, IsPaddingOf, written]
    exact ⟨haveBareEnds_trimChars _, exists_blanks_trimChars _⟩
  · intro padded
    obtain ⟨bare, before, after, beforeBlank, afterBlank, parts⟩ := padded
    rw [trim, parts, trimChars_of_blanks beforeBlank afterBlank bare, String.ofList_toList]

theorem trim_eq_self_iff {text : String} : trim text = text ↔ IsBare text := by
  rw [trim_eq_iff]
  refine ⟨And.left, fun bare => ⟨bare, [], [], ?_⟩⟩
  simp [AreBlank]

/-- The first blanks and the last ones go, the one inside stays. -/
example : trim "\u2003a\u00a0b\n" = "a\u00a0b" := by decide +kernel

end ExamGrants.Text
