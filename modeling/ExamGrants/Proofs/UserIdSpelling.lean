import Mathlib.Data.Char
import Mathlib.Tactic.SplitIfs
import ExamGrants.Format.Identity
import ExamGrants.Parse
import ExamGrants.Proofs.Json.Decoding
import ExamGrants.Proofs.Trimming
import ExamGrants.Proofs.UserIdText

namespace ExamGrants

/-! The texts that spell a user id.

An id has four lower-case forms, and a text spells it when its letters in lower case are one of
them (`UserId.IsSpelledBy`).  People may type blanks around such a text, JSON may not hold any;
apart from that both read an id from exactly its spellings (`UserId.spellings_determine_ids`).
-/

open Json

namespace Text

/-! ## Digits -/

theorem toNat_toLower (c : Char) :
    c.toLower.toNat = if 65 ≤ c.toNat ∧ c.toNat ≤ 90 then c.toNat + 32 else c.toNat := by
  unfold Char.toLower
  split
  · next capital =>
      have lower : 65 ≤ c.toNat := capital.1
      have upper : c.toNat ≤ 90 := capital.2
      rw [if_pos ⟨lower, upper⟩]
      change (c.val + 32).toNat = c.val.toNat + 32
      rw [UInt32.toNat_add]
      change (c.toNat + 32) % 2 ^ 32 = c.toNat + 32
      omega
  · next other => exact (if_neg other).symm

/-- Only capitals are changed, and into letters. -/
theorem toLower_eq_iff {c other : Char} (noLetter : other.toNat < 97 ∨ 122 < other.toNat)
    (noCapital : other.toNat < 65 ∨ 90 < other.toNat) : c.toLower = other ↔ c = other := by
  rw [← Char.toNat_inj, ← Char.toNat_inj, toNat_toLower]
  grind

theorem toNat_digitChar :
    ∀ value, value < 16 →
      (Nat.digitChar value).toNat = if value < 10 then 48 + value else 87 + value := by
  decide

theorem hexValue?_eq_some_iff {c : Char} {value : Nat} :
    hexValue? c = some value ↔ value < 16 ∧ c.toLower = Nat.digitChar value := by
  have between : ∀ low high : Char,
      low ≤ c ∧ c ≤ high ↔ low.toNat ≤ c.toNat ∧ c.toNat ≤ high.toNat := fun _ _ => Iff.rfl
  rw [← Char.toNat_inj, toNat_toLower]
  simp only [hexValue?, between, Char.reduceToNat]
  constructor
  · intro read
    have small : value < 16 := by
      split_ifs at read <;> grind
    rw [toNat_digitChar value small]
    grind
  · intro same
    obtain ⟨small, same⟩ := same
    rw [toNat_digitChar value small] at same
    grind

/-- Digits are read as the number that is written by as many digits, in either case. -/
theorem ofHex?_eq_some_iff {cs : List Char} {number : Nat} :
    ofHex? cs = some number ↔
      number < Nat.pow 16 cs.length ∧ cs.map Char.toLower = toHex cs.length number := by
  -- Digits are written and read from the last one on.
  induction cs using List.reverseRecOn generalizing number with
  | nil =>
      change some 0 = some number ↔ number < 1 ∧ [] = []
      simp [eq_comm]
  | append_singleton cs c ih =>
      have power : Nat.pow 16 (cs.length + 1) = Nat.pow 16 cs.length * 16 := rfl
      simp only [ofHex?_append_digit, Option.bind_eq_some_iff, Option.map_eq_some_iff, ih,
        hexValue?_eq_some_iff, List.map_append, List.map_cons, List.map_nil, List.length_append,
        List.length_singleton, toHex, power]
      constructor
      · intro read
        obtain ⟨front, ⟨bound, digits⟩, value, ⟨small, digit⟩, rfl⟩ := read
        have quotient : (front * 16 + value) / 16 = front := by omega
        have remainder : (front * 16 + value) % 16 = value := by omega
        rw [quotient, remainder, digits, digit]
        exact ⟨by omega, rfl⟩
      · intro written
        obtain ⟨bound, same⟩ := written
        obtain ⟨digits, digit⟩ := List.append_inj' same rfl
        refine ⟨number / 16, ⟨by omega, digits⟩, number % 16, ⟨by omega, ?_⟩, by omega⟩
        exact List.singleton_inj.mp digit

theorem mem_toHex {count number : Nat} {c : Char} (member : c ∈ toHex count number) :
    ∃ value, value < 16 ∧ c = Nat.digitChar value := by
  induction count generalizing number with
  | zero => cases member
  | succ count ih =>
      rw [toHex, List.mem_append, List.mem_singleton] at member
      obtain front | rfl := member
      · exact ih front
      · exact ⟨_, Nat.mod_lt _ (by decide), rfl⟩

end Text

namespace UserId

/-! ## Forms -/

/-- The ways to arrange the digits of an id. -/
inductive Form where
  | plain
  | hyphenated
  | braced
  | resource

/-- The id written in a form, in lower case. -/
def inForm (id : UserId) : Form → List Char
  | .plain => id.digits
  | .hyphenated => hyphenate groups id.digits
  | .braced => '\x7b' :: (hyphenate groups id.digits ++ ['\x7d'])
  | .resource => "urn:uuid:".toList ++ hyphenate groups id.digits

/-- The text is one of the forms of the id, each letter in either case. -/
def IsSpelledBy (id : UserId) (text : String) : Prop :=
  ∃ form, text.toList.map Char.toLower = id.inForm form

def ofForm? : Form → List Char → Option UserId
  | .plain => ofDigits?
  | .hyphenated => ofHyphenated?
  | .braced => ofBraced?
  | .resource => ofResource?

theorem ofDigits?_eq_some_iff {cs : List Char} {id : UserId} :
    ofDigits? cs = some id ↔ cs.map Char.toLower = id.digits := by
  constructor
  · intro read
    unfold ofDigits? at read
    split at read
    · next size =>
        obtain ⟨number, digits, rfl⟩ := Option.map_eq_some_iff.mp read
        obtain ⟨bound, same⟩ := Text.ofHex?_eq_some_iff.mp digits
        rw [size] at bound same
        have small : number < 2 ^ 128 := Nat.lt_of_lt_of_le bound (by decide)
        rw [same, UserId.digits, BitVec.toNat_ofNat, Nat.mod_eq_of_lt small]
    · cases read
  · intro same
    have size : cs.length = 32 := by
      rw [← id.length_digits, ← same, List.length_map]
    have bound : id.bits.toNat < Nat.pow 16 32 := Nat.lt_of_lt_of_le id.bits.isLt (by decide)
    have read : Text.ofHex? cs = some id.bits.toNat := by
      rw [Text.ofHex?_eq_some_iff, size]
      exact ⟨bound, same⟩
    rw [ofDigits?, if_pos size, read, Option.map_some]
    simp

theorem map_toLower_hyphenate (sizes : List Nat) (digits : List Char) :
    (hyphenate sizes digits).map Char.toLower = hyphenate sizes (digits.map Char.toLower) := by
  fun_induction hyphenate sizes digits with
  | case1 size next sizes digits ih =>
      rw [List.map_append, List.map_cons, ih, hyphenate, List.map_take, List.map_drop]
      rfl
  | case2 sizes digits short => exact (hyphenate.eq_2 sizes _ short).symm

theorem dehyphenate?_map_toLower (sizes : List Nat) (text : List Char) :
    dehyphenate? sizes (text.map Char.toLower) =
      (dehyphenate? sizes text).map (List.map Char.toLower) := by
  fun_induction dehyphenate? sizes text with
  | case1 size next sizes text rest hyphen ih =>
      have lower : (text.map Char.toLower).drop size = '-' :: rest.map Char.toLower := by
        rw [← List.map_drop, hyphen]
        rfl
      simp only [dehyphenate?, lower, ih, Option.map_map, ← List.map_take]
      congr 1
      funext others
      simp
  | case2 size next sizes text unhyphenated =>
      rw [dehyphenate?]
      split
      · next rest lower =>
          -- Nothing but a hyphen is a hyphen in lower case.
          rw [← List.map_drop] at lower
          obtain ⟨c, others, parts, hyphen, _⟩ := List.map_eq_cons_iff.mp lower
          rw [Text.toLower_eq_iff (by decide) (by decide)] at hyphen
          exact absurd (hyphen ▸ parts) (unhyphenated others)
      · rfl
  | case3 sizes text short => exact dehyphenate?.eq_2 sizes _ short

/-- Hyphens are taken out where they are put in. -/
theorem hyphenate_of_dehyphenate? {sizes : List Nat} {text digits : List Char}
    (read : dehyphenate? sizes text = some digits) : hyphenate sizes digits = text := by
  fun_induction dehyphenate? sizes text generalizing digits with
  | case1 size next sizes text rest hyphen ih =>
      obtain ⟨others, found, rfl⟩ := Option.map_eq_some_iff.mp read
      have follows := congrArg List.length hyphen
      have group : (text.take size).length = size := by
        rw [List.length_drop, List.length_cons] at follows
        rw [List.length_take]
        omega
      rw [hyphenate, List.take_left' group, List.drop_left' group, ih found, ← hyphen,
        List.take_append_drop]
  | case2 => cases read
  | case3 sizes text short =>
      cases read
      exact hyphenate.eq_2 sizes _ short

theorem ofHyphenated?_eq_some_iff {cs : List Char} {id : UserId} :
    ofHyphenated? cs = some id ↔ cs.map Char.toLower = hyphenate groups id.digits := by
  constructor
  · intro read
    unfold ofHyphenated? at read
    split at read
    · obtain ⟨digits, found, read⟩ := Option.bind_eq_some_iff.mp read
      rw [← hyphenate_of_dehyphenate? found, map_toLower_hyphenate,
        ofDigits?_eq_some_iff.mp read]
    · cases read
  · intro same
    have size : cs.length = 36 := by
      rw [← id.length_toText, toList_toText, ← same, List.length_map]
    have lower : dehyphenate? groups (cs.map Char.toLower) = some id.digits := by
      rw [same, dehyphenate?_hyphenate id.sum_groups_le]
    rw [dehyphenate?_map_toLower] at lower
    obtain ⟨digits, found, lower⟩ := Option.map_eq_some_iff.mp lower
    rw [ofHyphenated?, if_pos size, found, Option.bind_some, ofDigits?_eq_some_iff]
    exact lower

theorem ofBraced?_eq_some_iff {cs : List Char} {id : UserId} :
    ofBraced? cs = some id ↔
      cs.map Char.toLower = '\x7b' :: (hyphenate groups id.digits ++ ['\x7d']) := by
  constructor
  · intro read
    unfold ofBraced? at read
    split at read
    · next rest =>
        split at read
        · next ends =>
            have parts : rest.dropLast ++ ['\x7d'] = rest := List.dropLast_append_getLast? _ ends
            rw [List.map_cons, ← parts, List.map_append, ofHyphenated?_eq_some_iff.mp read]
            rfl
        · cases read
    · cases read
  · intro same
    obtain ⟨opening, rest, rfl, opens, same⟩ := List.map_eq_cons_iff.mp same
    obtain ⟨inner, ending, rfl, spelled, ends⟩ := List.map_eq_append_iff.mp same
    obtain ⟨closing, none, rfl, closes, empty⟩ := List.map_eq_cons_iff.mp ends
    obtain rfl := List.map_eq_nil_iff.mp empty
    rw [Text.toLower_eq_iff (by decide) (by decide)] at opens closes
    subst opens closes
    simp [ofBraced?, ofHyphenated?_eq_some_iff.mpr spelled]

theorem ofResource?_eq_some_iff {cs : List Char} {id : UserId} :
    ofResource? cs = some id ↔
      cs.map Char.toLower = resourceMark ++ hyphenate groups id.digits := by
  constructor
  · intro read
    unfold ofResource? at read
    split at read
    · next marked =>
        rw [← List.take_append_drop resourceMark.length cs, List.map_append, marked,
          ofHyphenated?_eq_some_iff.mp read]
    · cases read
  · intro same
    obtain ⟨front, rest, rfl, marked, spelled⟩ := List.map_eq_append_iff.mp same
    have size : front.length = resourceMark.length := by
      rw [← marked, List.length_map]
    rw [ofResource?, List.take_left' size, List.drop_left' size, if_pos marked,
      ofHyphenated?_eq_some_iff]
    exact spelled

theorem ofForm?_eq_some_iff {form : Form} {cs : List Char} {id : UserId} :
    ofForm? form cs = some id ↔ cs.map Char.toLower = id.inForm form := by
  cases form with
  | plain => exact ofDigits?_eq_some_iff
  | hyphenated => exact ofHyphenated?_eq_some_iff
  | braced => exact ofBraced?_eq_some_iff
  | resource => exact ofResource?_eq_some_iff

/-! ## Texts -/

def Form.length : Form → Nat
  | .plain => 32
  | .hyphenated => 36
  | .braced => 38
  | .resource => 45

theorem length_inForm (id : UserId) (form : Form) : (id.inForm form).length = form.length := by
  have hyphenated : (hyphenate groups id.digits).length = 36 := by
    rw [← toList_toText, length_toText]
  unfold inForm Form.length
  cases form with
  | plain => exact id.length_digits
  | hyphenated => exact hyphenated
  | braced =>
      change (hyphenate groups id.digits ++ ['\x7d']).length + 1 = 38
      rw [List.length_append, hyphenated, List.length_singleton]
  | resource =>
      have mark : "urn:uuid:".toList.length = 9 := by decide
      change ("urn:uuid:".toList ++ hyphenate groups id.digits).length = 45
      rw [List.length_append, hyphenated, mark]

theorem form_unique {first second : Form} {cs : List Char} {id other : UserId}
    (read : ofForm? first cs = some id) (readAlso : ofForm? second cs = some other) :
    first = second := by
  have same := congrArg List.length
    ((ofForm?_eq_some_iff.mp read).symm.trans (ofForm?_eq_some_iff.mp readAlso))
  rw [length_inForm, length_inForm] at same
  cases first <;> cases second <;> first | rfl | cases same

def allForms : List Form := [.plain, .hyphenated, .braced, .resource]

theorem mem_allForms (form : Form) : form ∈ allForms := by
  cases form <;> simp [allForms]

theorem ofText?_eq_findSome? (text : String) :
    ofText? text = allForms.findSome? fun form => ofForm? form text.toList := by
  simp only [ofText?, allForms, List.findSome?_cons, List.findSome?_nil, ofForm?]
  cases ofDigits? text.toList <;> cases ofHyphenated? text.toList <;>
    cases ofBraced? text.toList <;> cases ofResource? text.toList <;> rfl

/-- A text without blanks around it is read as the id that it spells. -/
theorem ofText?_eq_some_iff {text : String} {id : UserId} :
    ofText? text = some id ↔ id.IsSpelledBy text := by
  rw [ofText?_eq_findSome?]
  constructor
  · intro read
    obtain ⟨form, _, read⟩ := List.exists_of_findSome?_eq_some read
    exact ⟨form, ofForm?_eq_some_iff.mp read⟩
  · intro spelled
    obtain ⟨form, same⟩ := spelled
    have read := ofForm?_eq_some_iff.mpr same
    cases found : allForms.findSome? fun form => ofForm? form text.toList with
    | none =>
        rw [List.findSome?_eq_none_iff.mp found form (mem_allForms form)] at read
        cases read
    | some other =>
        -- An earlier form would do as well, but no text has two.
        obtain ⟨another, _, readAlso⟩ := List.exists_of_findSome?_eq_some found
        obtain rfl := form_unique read readAlso
        exact readAlso.symm.trans read

theorem mem_hyphenate {sizes : List Nat} {digits : List Char} {c : Char}
    (member : c ∈ hyphenate sizes digits) : c = '-' ∨ c ∈ digits := by
  fun_induction hyphenate sizes digits with
  | case1 size next sizes digits ih =>
      obtain early | rfl | late := by simpa using member
      · exact .inr (List.mem_of_mem_take early)
      · exact .inl rfl
      · exact (ih late).imp_right List.mem_of_mem_drop
  | case2 => exact .inr member

theorem isPrinted_of_mem_inForm {id : UserId} {form : Form} {c : Char}
    (member : c ∈ id.inForm form) : Text.isPrinted c = true := by
  have digit : ∀ d ∈ id.digits, Text.isPrinted d = true := by
    intro d listed
    obtain ⟨value, small, rfl⟩ := Text.mem_toHex listed
    rw [Text.isPrinted_iff, Text.toNat_digitChar value small]
    split <;> omega
  have hyphenated : ∀ d ∈ hyphenate groups id.digits, Text.isPrinted d = true := by
    intro d listed
    obtain rfl | inside := mem_hyphenate listed
    · rfl
    · exact digit d inside
  unfold inForm at member
  cases form with
  | plain => exact digit c member
  | hyphenated => exact hyphenated c member
  | braced =>
      obtain rfl | inside := List.mem_cons.mp member
      · rfl
      · obtain inside | closing := List.mem_append.mp inside
        · exact hyphenated c inside
        · obtain rfl := List.mem_singleton.mp closing
          rfl
  | resource =>
      have mark : "urn:uuid:".toList.all Text.isPrinted = true := by decide
      obtain marked | inside := List.mem_append.mp member
      · exact List.all_eq_true.mp mark c marked
      · exact hyphenated c inside

theorem IsSpelledBy.isBare {id : UserId} {text : String} (spelled : id.IsSpelledBy text) :
    Text.IsBare text := by
  obtain ⟨form, same⟩ := spelled
  refine Text.haveBareEnds_of_forall_not_isBlank fun c member => ?_
  have lower : c.toLower ∈ id.inForm form := by
    rw [← same]
    exact List.mem_map_of_mem member
  have printed := isPrinted_of_mem_inForm lower
  rw [Text.isPrinted_iff, Text.toNat_toLower] at printed
  refine Text.not_isBlank_of_isPrinted (Text.isPrinted_iff.mpr ?_)
  split at printed <;> omega

/-! ## The two readers -/

theorem parse_eq_ok_iff_trim {text : String} {id : UserId} :
    UserId.parse text = .ok id ↔ id.IsSpelledBy (Text.trim text) := by
  rw [← ofText?_eq_some_iff, UserId.parse]
  cases ofText? (Text.trim text) <;> simp

theorem parse_eq_ok_iff_of_isBare {text : String} (bare : Text.IsBare text) {id : UserId} :
    UserId.parse text = .ok id ↔ id.IsSpelledBy text := by
  rw [parse_eq_ok_iff_trim, Text.trim_eq_self_iff.mpr bare]

/-- People may type blanks around a spelling. -/
theorem parse_eq_ok_iff {text : String} {id : UserId} :
    UserId.parse text = .ok id ↔ ∃ core, Text.IsPaddingOf text core ∧ id.IsSpelledBy core := by
  rw [parse_eq_ok_iff_trim]
  constructor
  · intro spelled
    exact ⟨_, (Text.trim_eq_iff.mp rfl).2, spelled⟩
  · intro padded
    obtain ⟨core, padding, spelled⟩ := padded
    rw [Text.trim_eq_iff.mpr ⟨spelled.isBare, padding⟩]
    exact spelled

/-- A text that is no spelling is quoted as it was typed. -/
theorem parse_eq_error {text : String} (unread : ∀ id, UserId.parse text ≠ .ok id) :
    UserId.parse text = .error (.badUserId text) := by
  unfold UserId.parse at unread ⊢
  cases found : ofText? (Text.trim text) with
  | none => rfl
  | some id => exact absurd (by rw [found]) (unread id)

theorem decode_text_eq_ok_iff {string : String} {id : UserId} :
    Format.userId.decode (.text (some string)) = .ok id ↔ id.IsSpelledBy string := by
  rw [← ofText?_eq_some_iff]
  simp only [Format.userId]
  cases ofText? string <;> simp

theorem isSpelledBy_toText (id : UserId) : id.IsSpelledBy id.toText :=
  ofText?_eq_some_iff.mp id.ofText?_toText

theorem parse_toText (id : UserId) : UserId.parse id.toText = .ok id :=
  (parse_eq_ok_iff_of_isBare id.isSpelledBy_toText.isBare).mpr id.isSpelledBy_toText

theorem map_toLower_digits (id : UserId) : id.digits.map Char.toLower = id.digits :=
  ofDigits?_eq_some_iff.mp id.ofDigits?_digits

/-- Texts and ids correspond one to one up to spelling: people's texts and JSON strings are read
as the ids that they spell, and an id is written in one way, which is read as that id. -/
theorem spellings_determine_ids :
    (∀ text id, UserId.parse text = .ok id ↔
      ∃ core, Text.IsPaddingOf text core ∧ id.IsSpelledBy core) ∧
    (∀ text, (¬ ∃ (id : UserId) (core : String), Text.IsPaddingOf text core ∧
        id.IsSpelledBy core) →
      ∃ problem reason, UserId.parse text = .error problem ∧ problem.category = .validation ∧
        problem.detail = "invalid user id '" ++ text ++ "': " ++ reason) ∧
    (∀ id : UserId, id.toText.toList = id.inForm .hyphenated ∧
      id.toText.toList.map Char.toLower = id.toText.toList ∧ UserId.parse id.toText = .ok id) ∧
    Function.Injective toText ∧
    ∀ string text, (Tree.text (some string)).SpelledBy text.toList →
      (Text.IsBare string → ∀ id, Format.userId.read text = .ok id ↔
        UserId.parse string = .ok id) ∧
      (¬ Text.IsBare string → ∃ fault, Format.userId.read text = .error fault) := by
  refine ⟨fun text id => parse_eq_ok_iff, fun text unspelled => ?_, fun id => ?_,
    toText_injective, fun string text spelled => ?_⟩
  · refine ⟨.badUserId text, Fault.badUserId.message, parse_eq_error fun id parsed => ?_, rfl, rfl⟩
    exact unspelled ⟨id, parse_eq_ok_iff.mp parsed⟩
  · refine ⟨id.toList_toText, ?_, id.parse_toText⟩
    rw [toList_toText, map_toLower_hyphenate, map_toLower_digits]
  · have read : ∀ id, Format.userId.read text = .ok id ↔ id.IsSpelledBy string := by
      intro id
      rw [Codec.read_eq_decode spelled, decode_text_eq_ok_iff]
    refine ⟨fun bare id => ?_, fun padded => ?_⟩
    · rw [read, parse_eq_ok_iff_of_isBare bare]
    · cases result : Format.userId.read text with
      | ok id => exact absurd ((read id).mp result).isBare padded
      | error fault => exact ⟨fault, rfl⟩

/-- The resource mark in capitals, too few digits, and a blank that people may type and JSON may
not hold. -/
theorem spellings_determine_ids_resource :
    UserId.parse "\u3000URN:UUID:67E55044-10b1-426f-9247-bb680e5fe0c8\n" =
        .ok ⟨0x67e5504410b1426f9247bb680e5fe0c8⟩ ∧
      (∃ problem reason, UserId.parse "67e55044" = .error problem ∧
        problem.category = .validation ∧
        problem.detail = "invalid user id '" ++ "67e55044" ++ "': " ++ reason) ∧
      ∃ fault, Format.userId.read "\"67e5504410b1426f9247bb680e5fe0c8 \"" = .error fault := by
  obtain ⟨typed, refused, _, _, decoded⟩ := spellings_determine_ids
  refine ⟨(typed _ _).mpr ?_, refused _ ?_, ?_⟩
  · refine ⟨"URN:UUID:67E55044-10b1-426f-9247-bb680e5fe0c8", ?_, .resource, by decide +kernel⟩
    exact ⟨['\u3000'], ['\n'], by decide, by decide, by decide⟩
  · intro spelled
    obtain ⟨id, spelled⟩ := spelled
    have parsed := (typed _ id).mpr spelled
    have unread : UserId.ofText? (Text.trim "67e55044") = none := by decide +kernel
    rw [UserId.parse, unread] at parsed
    cases parsed
  · have spelled : (Tree.text (some "67e5504410b1426f9247bb680e5fe0c8 ")).SpelledBy
        "\"67e5504410b1426f9247bb680e5fe0c8 \"".toList := ofText_eq_iff.mp (by with_unfolding_all rfl)
    refine (decoded _ _ spelled).2 fun bare => ?_
    have blank := bare.last ' ' (by decide)
    cases blank

end UserId

end ExamGrants
