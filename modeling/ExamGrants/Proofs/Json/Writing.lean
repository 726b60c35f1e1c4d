import ExamGrants.Json.Write
import ExamGrants.Proofs.Json.Reading

namespace ExamGrants.Json

/-! Writing follows the grammar.

A tree can be written when it is whole, its strings have content and its numbers are spelled as
JSON spells them.  The text of such a tree, compact or laid out over lines, is a spelling of
the tree (`Tree.Writable.compact_spelledBy`, `Tree.Writable.pretty_spelledBy`), whatever
characters its strings hold.
-/

/-! ## Numbers -/

theorem eq_zero_of_leading_zero {number : Nat}
    (leading : (Nat.toDigits 10 number).head? = some '0') : number = 0 := by
  induction number using Nat.strongRecOn with
  | ind number ih =>
      rw [Nat.toDigits_eq_if (by decide)] at leading
      split at leading
      · next small =>
          have digits : ∀ digit, digit < 10 → Nat.digitChar digit = '0' → digit = 0 := by decide
          exact digits number small (Option.some.inj leading)
      · next large =>
          rw [List.head?_append_of_ne_nil _ Nat.toDigits_ne_nil] at leading
          have front := ih (number / 10) (by omega) leading
          omega

theorem Numeral.isWhole_toDigits (number : Nat) : IsWhole (Nat.toDigits 10 number) := by
  have areDigits : AreDigits (Nat.toDigits 10 number) :=
    ⟨Nat.toDigits_ne_nil, fun c => Nat.isDigit_of_mem_toDigits (by decide) (by decide)⟩
  refine ⟨areDigits, ?_⟩
  intro leading
  rw [eq_zero_of_leading_zero leading]
  rfl

theorem Numeral.ofNat_spelledBy (number : Nat) : (ofNat number).SpelledBy (ofNat number).spelling :=
  ⟨[], [], isWhole_toDigits number, .absent, .absent, by simp [spelling, ofNat]⟩

/-! ## Strings -/

theorem unit_spelledBy_toHex {code : Nat} (bound : code < 0x10000) :
    (Piece.unit code).SpelledBy ('\\' :: 'u' :: Text.toHex 4 code) := by
  apply Piece.SpelledBy.unit
  exact (Text.ofHex?_toHex 4 code).trans (congrArg some (Nat.mod_eq_of_lt bound))

/-- What is written for a character stands for it, in whatever string. -/
theorem escapeChar_spells (c : Char) : ∃ piece : Piece, piece.SpelledBy (escapeChar c) ∧
    ∀ pieces content, PiecesDenote pieces content →
      PiecesDenote (piece :: pieces) (c :: content) := by
  have short : ∀ mark, unescape? mark = some c →
      ∃ piece : Piece, piece.SpelledBy ['\\', mark] ∧ ∀ pieces content,
        PiecesDenote pieces content → PiecesDenote (piece :: pieces) (c :: content) := by
    intro mark known
    exact ⟨.char c, .short known, fun _ _ others => .char others⟩
  unfold escapeChar
  split
  · next same => exact short '"' (by rw [same]; rfl)
  split
  · next same => exact short '\\' (by rw [same]; rfl)
  split
  · next same => exact short 'b' (by rw [same]; rfl)
  split
  · next same => exact short 'f' (by rw [same]; rfl)
  split
  · next same => exact short 'n' (by rw [same]; rfl)
  split
  · next same => exact short 'r' (by rw [same]; rfl)
  split
  · next same => exact short 't' (by rw [same]; rfl)
  split
  · next control =>
      refine ⟨.unit c.toNat, unit_spelledBy_toHex (by omega), ?_⟩
      intro pieces content others
      have notHigh : isHighSurrogate c.toNat = false := by
        simp only [isHighSurrogate, Bool.and_eq_false_iff, decide_eq_false_iff_not]
        omega
      have notLow : isLowSurrogate c.toNat = false := by
        simp only [isLowSurrogate, Bool.and_eq_false_iff, decide_eq_false_iff_not]
        omega
      have unit := PiecesDenote.unit notHigh notLow others
      rwa [Char.ofNat_toNat] at unit
  · next notQuote notEscape _ _ _ _ _ visible =>
      exact ⟨.char c, .plain (Nat.not_lt.mp visible) notQuote notEscape,
        fun _ _ others => .char others⟩

theorem escaped_spelledBy (content : List Char) :
    ∃ pieces, PiecesSpelledBy pieces (content.flatMap escapeChar) ∧
      PiecesDenote pieces content := by
  induction content with
  | nil => exact ⟨[], .nil, .nil⟩
  | cons c rest ih =>
      obtain ⟨piece, spelled, denotes⟩ := escapeChar_spells c
      obtain ⟨pieces, others, following⟩ := ih
      exact ⟨piece :: pieces, .cons spelled others, denotes pieces rest following⟩

theorem Token.text_spelledBy (content : String) :
    (Token.text (some content)).SpelledBy (Token.text (some content)).spelling := by
  obtain ⟨pieces, spelled, denotes⟩ := escaped_spelledBy content.toList
  have written := Token.SpelledBy.text spelled denotes
  rwa [String.ofList_toList] at written

/-! ## Trees -/

/-- The tree can be written so that it is read back. -/
inductive Tree.Writable : Tree → Prop where
  | null : Writable .null
  | boolean (value : Bool) : Writable (.boolean value)
  | number {numeral : Numeral} (spelled : numeral.SpelledBy numeral.spelling) :
      Writable (.number numeral)
  | text (content : String) : Writable (.text (some content))
  | array {items : List Tree} (each : ∀ tree ∈ items, Writable tree) :
      Writable (.array items true)
  | object {members : List Member} (named : ∀ member ∈ members, ∃ key, member.1 = some key)
      (each : ∀ member ∈ members, Writable member.2) : Writable (.object members true)

theorem Tree.Writable.isWhole {tree : Tree} (writable : tree.Writable) :
    tree.isWhole = true := by
  induction writable with
  | null | boolean | number | text => rfl
  | array _ ih =>
      rw [Tree.isWhole, areWhole_iff.mpr ih]
      rfl
  | object _ _ ih =>
      rw [Tree.isWhole, haveWhole_iff.mpr ih]
      rfl

section Tokens

variable {property : Token → Prop}

theorem of_mem_separator {first : Bool} {token : Token} (comma : property .comma)
    (member : token ∈ if first then [] else [Token.comma]) : property token := by
  cases first with
  | true => cases member
  | false =>
      rw [List.mem_singleton.mp member]
      exact comma

theorem forall_mem_itemTokens {items : List Tree} (comma : property .comma)
    (each : ∀ tree ∈ items, ∀ token ∈ tree.tokens, property token) (first : Bool) :
    ∀ token ∈ itemTokens first items, property token := by
  induction items generalizing first with
  | nil => exact List.forall_mem_nil _
  | cons tree rest ih =>
      obtain ⟨own, others⟩ := List.forall_mem_cons.mp each
      intro token member
      simp only [itemTokens, List.mem_append] at member
      rcases member with (separator | inTree) | following
      · exact of_mem_separator comma separator
      · exact own token inTree
      · exact ih others false token following

theorem forall_mem_memberTokens {members : List Member} (comma : property .comma)
    (colon : property .colon) (named : ∀ member ∈ members, property (.text member.1))
    (each : ∀ member ∈ members, ∀ token ∈ member.2.tokens, property token) (first : Bool) :
    ∀ token ∈ memberTokens first members, property token := by
  induction members generalizing first with
  | nil => exact List.forall_mem_nil _
  | cons member rest ih =>
      obtain ⟨own, others⟩ := List.forall_mem_cons.mp each
      obtain ⟨key, keys⟩ := List.forall_mem_cons.mp named
      intro token found
      simp only [memberTokens, List.mem_append, List.mem_cons] at found
      rcases found with (separator | rfl | rfl | inTree) | following
      · exact of_mem_separator comma separator
      · exact key
      · exact colon
      · exact own token inTree
      · exact ih keys others false token following

end Tokens

/-- Every token of a writable tree is spelled by what is written for it. -/
theorem Tree.Writable.tokens_spelledBy {tree : Tree} (writable : tree.Writable) :
    ∀ token ∈ tree.tokens, token.SpelledBy token.spelling := by
  induction writable with
  | null => exact List.forall_mem_singleton.mpr .null
  | boolean value =>
      cases value with
      | true => exact List.forall_mem_singleton.mpr .booleanTrue
      | false => exact List.forall_mem_singleton.mpr .booleanFalse
  | number spelled => exact List.forall_mem_singleton.mpr (.number spelled)
  | text content => exact List.forall_mem_singleton.mpr (Token.text_spelledBy content)
  | array _ ih =>
      have items := forall_mem_itemTokens .comma ih true
      simp only [Tree.tokens, if_true, List.forall_mem_cons, List.forall_mem_append]
      exact ⟨.openArray, items, .closeArray, List.forall_mem_nil _⟩
  | object named _ ih =>
      have members := forall_mem_memberTokens .comma .colon (fun member listed => by
        obtain ⟨key, same⟩ := named member listed
        rw [same]
        exact Token.text_spelledBy key) ih true
      simp only [Tree.tokens, if_true, List.forall_mem_cons, List.forall_mem_append]
      exact ⟨.openObject, members, .closeObject, List.forall_mem_nil _⟩

/-! ## Texts -/

theorem spell_spelledBy {tokens : List Token}
    (each : ∀ token ∈ tokens, token.SpelledBy token.spelling) :
    TokensSpelledBy tokens (spell tokens) := by
  induction tokens with
  | nil => exact .nil
  | cons token rest ih =>
      obtain ⟨spelled, others⟩ := List.forall_mem_cons.mp each
      exact .token spelled (ih others)

theorem TokensSpelledBy.spaces {tokens : List Token} {spaces cs : List Char}
    (white : ∀ c ∈ spaces, isSpace c = true) (spelled : TokensSpelledBy tokens cs) :
    TokensSpelledBy tokens (spaces ++ cs) := by
  induction spaces with
  | nil => exact spelled
  | cons c rest ih =>
      obtain ⟨blank, others⟩ := List.forall_mem_cons.mp white
      exact .space blank (ih others)

theorem TokensSpelledBy.append_spaces {tokens : List Token} {spaces cs : List Char}
    (white : ∀ c ∈ spaces, isSpace c = true) (spelled : TokensSpelledBy tokens cs) :
    TokensSpelledBy tokens (cs ++ spaces) := by
  induction spelled with
  | nil =>
      have blank := nil.spaces white
      rwa [List.append_nil] at blank
  | space blank _ ih => exact .space blank ih
  | token first _ ih =>
      rw [List.append_assoc]
      exact .token first ih

theorem isSpace_of_mem_newLine {depth : Nat} {c : Char} (member : c ∈ newLine depth) :
    isSpace c = true := by
  rcases List.mem_cons.mp member with rfl | indent
  · rfl
  · rw [List.eq_of_mem_replicate indent]
    rfl

theorem TokensSpelledBy.newLine {tokens : List Token} {cs : List Char} (depth : Nat)
    (spelled : TokensSpelledBy tokens cs) : TokensSpelledBy tokens (newLine depth ++ cs) :=
  spelled.spaces fun _ => isSpace_of_mem_newLine

theorem layout_spelledBy (depth : Nat) {tokens : List Token}
    (each : ∀ token ∈ tokens, token.SpelledBy token.spelling) :
    TokensSpelledBy tokens (layout depth tokens) := by
  fun_induction layout depth tokens with
  | case1 => exact .nil
  | case2 depth rest ih =>
      simp only [List.forall_mem_cons] at each
      exact .token .openArray (.token .closeArray (ih each.2.2))
  | case3 depth rest ih =>
      simp only [List.forall_mem_cons] at each
      exact .token .openObject (.token .closeObject (ih each.2.2))
  | case4 depth rest _ ih =>
      have others := ih (List.forall_mem_cons.mp each).2
      rw [List.cons_append]
      exact .token .openArray (others.newLine _)
  | case5 depth rest _ ih =>
      have others := ih (List.forall_mem_cons.mp each).2
      rw [List.cons_append]
      exact .token .openObject (others.newLine _)
  | case6 depth rest ih =>
      have others := ih (List.forall_mem_cons.mp each).2
      exact TokensSpelledBy.newLine _ (.token .closeArray others)
  | case7 depth rest ih =>
      have others := ih (List.forall_mem_cons.mp each).2
      exact TokensSpelledBy.newLine _ (.token .closeObject others)
  | case8 depth rest ih =>
      have others := ih (List.forall_mem_cons.mp each).2
      rw [List.cons_append]
      exact .token .comma (others.newLine _)
  | case9 depth rest ih =>
      have others := ih (List.forall_mem_cons.mp each).2
      exact .token .colon (.space rfl others)
  | case10 =>
      rename_i ih
      obtain ⟨spelled, others⟩ := List.forall_mem_cons.mp each
      exact .token spelled (ih others)

namespace Tree.Writable

variable {tree : Tree}

theorem compact_spelledBy (writable : tree.Writable) : tree.SpelledBy tree.compact.toList := by
  rw [Tree.compact, String.toList_ofList]
  exact ⟨writable.isWhole, spell_spelledBy writable.tokens_spelledBy⟩

theorem pretty_spelledBy (writable : tree.Writable) : tree.SpelledBy tree.pretty.toList := by
  rw [Tree.pretty, String.toList_ofList]
  exact ⟨writable.isWhole, layout_spelledBy 0 writable.tokens_spelledBy⟩

end Tree.Writable

end ExamGrants.Json
