import Mathlib.Data.List.Chain
import ExamGrants.Proofs.Json.Grammar

namespace ExamGrants.Json

/-! Scanning follows the grammar.

Every scanner is met from both sides: what it takes off a text is a spelling
(`_sound`), and a spelling is what it takes (`_complete`).  Where a token could go on,
completeness needs that the rest of the text does not let it (`Token.Meets`).
-/

/-! ## Strings -/

theorem scanPieces_sound {cs after : List Char} {pieces : List Piece}
    (scanned : scanPieces cs = some (pieces, after)) :
    ∃ body, PiecesSpelledBy pieces body ∧ cs = body ++ '"' :: after := by
  fun_induction scanPieces cs generalizing pieces after with
  | case1 | case4 | case6 | case7 | case9 => cases scanned
  | case2 rest =>
      cases scanned
      exact ⟨[], .nil, rfl⟩
  | case3 a b c d rest value pieces left shorter hex ih =>
      cases scanned
      obtain ⟨body, spelled, rfl⟩ := ih shorter
      exact ⟨_, .cons (.unit hex) spelled, rfl⟩
  | case5 mark rest _ c pieces left shorter known ih =>
      cases scanned
      obtain ⟨body, spelled, rfl⟩ := ih shorter
      exact ⟨_, .cons (.short known) spelled, rfl⟩
  | case8 c rest notQuote notUnit notShort visible pieces left shorter ih =>
      cases scanned
      have notEscape : c ≠ '\\' := by
        rintro rfl
        cases rest with
        | nil => cases shorter
        | cons mark others => exact notShort mark others rfl rfl
      obtain ⟨body, spelled, rfl⟩ := ih shorter
      exact ⟨_, .cons (.plain (Nat.not_lt.mp visible) notQuote notEscape) spelled, rfl⟩

theorem scanPieces_complete {pieces : List Piece} {body : List Char}
    (spelled : PiecesSpelledBy pieces body) (after : List Char) :
    scanPieces (body ++ '"' :: after) = some (pieces, after) := by
  induction spelled with
  | nil => rfl
  | cons first others ih =>
      cases first with
      | plain visible notQuote notEscape =>
          simp [scanPieces, notEscape, ih, Nat.not_lt.mpr visible]
      | @short mark c known =>
          have notUnit : mark ≠ 'u' := by
            rintro rfl
            cases known
          simp [scanPieces, notUnit, known, ih]
      | unit hex => simp [scanPieces, hex, ih]

theorem joinPieces_eq_some_iff {pieces : List Piece} {content : List Char} :
    joinPieces pieces = some content ↔ PiecesDenote pieces content := by
  constructor
  · intro joined
    fun_induction joinPieces pieces generalizing content with
    | case1 => cases joined; exact .nil
    | case2 c rest ih =>
        obtain ⟨others, found, rfl⟩ := Option.map_eq_some_iff.mp joined
        exact .char (ih found)
    | case3 high low rest both ih =>
        obtain ⟨others, found, rfl⟩ := Option.map_eq_some_iff.mp joined
        simp only [Bool.and_eq_true] at both
        exact .pair both.1 both.2 (ih found)
    | case4 => cases joined
    | case5 high low rest _ alone ih =>
        obtain ⟨others, found, rfl⟩ := Option.map_eq_some_iff.mp joined
        simp only [Bool.or_eq_true, not_or, Bool.not_eq_true] at alone
        exact .unit alone.1 alone.2 (ih found)
    | case6 => cases joined
    | case7 value rest _ alone ih =>
        obtain ⟨others, found, rfl⟩ := Option.map_eq_some_iff.mp joined
        simp only [Bool.or_eq_true, not_or, Bool.not_eq_true] at alone
        exact .unit alone.1 alone.2 (ih found)
  · intro denotes
    induction denotes with
    | nil => rfl
    | char others ih => simp [joinPieces, ih]
    | @unit value pieces content notHigh notLow others ih =>
        cases others with
        | nil => simp [joinPieces, notHigh, notLow]
        | char => simpa [joinPieces, notHigh, notLow] using ih
        | unit => simp [joinPieces, notHigh, notLow, ← ih]
        | pair => simp [joinPieces, notHigh, notLow, ← ih]
    | pair isHigh isLow others ih => simp [joinPieces, isHigh, isLow, ih]

/-! ## Numbers -/

/-- The text does not begin with a decimal digit. -/
def StartsWithoutDigit (cs : List Char) : Prop :=
  ∀ c, cs.head? = some c → c.isDigit = false

/-- The text does not begin with anything that could continue a number. -/
def EndsNumeral (cs : List Char) : Prop :=
  ∀ c, cs.head? = some c → c.isDigit = false ∧ c ≠ '.' ∧ c ≠ 'e' ∧ c ≠ 'E'

theorem scanDigits_sound {cs digits after : List Char}
    (scanned : scanDigits cs = some (digits, after)) :
    AreDigits digits ∧ cs = digits ++ after := by
  have parts := List.takeWhile_append_dropWhile (p := Char.isDigit) (l := cs)
  unfold scanDigits at scanned
  split at scanned
  · cases scanned
  · next nonempty =>
      cases scanned
      exact ⟨⟨nonempty, List.all_eq_true.mp List.all_takeWhile⟩, parts.symm⟩

theorem scanDigits_complete {digits after : List Char} (areDigits : AreDigits digits)
    (ends : StartsWithoutDigit after) :
    scanDigits (digits ++ after) = some (digits, after) := by
  have taken : (digits ++ after).takeWhile Char.isDigit = digits := by
    rw [List.takeWhile_append_of_pos areDigits.2]
    cases after with
    | nil => simp
    | cons c rest => simp [ends c rfl]
  have dropped : (digits ++ after).dropWhile Char.isDigit = after := by
    rw [List.dropWhile_append_of_pos areDigits.2]
    cases after with
    | nil => rfl
    | cons c rest => simp [ends c rfl]
  unfold scanDigits
  rw [taken, dropped]
  cases digits with
  | nil => exact absurd rfl areDigits.1
  | cons c rest => rfl

theorem scanWhole_sound {cs digits after : List Char}
    (scanned : scanWhole cs = some (digits, after)) :
    Numeral.IsWhole digits ∧ cs = digits ++ after := by
  unfold scanWhole at scanned
  split at scanned
  · cases scanned
  · next notLong =>
      obtain ⟨areDigits, parts⟩ := scanDigits_sound scanned
      refine ⟨⟨areDigits, ?_⟩, parts⟩
      intro zero
      cases digits with
      | nil => exact absurd rfl areDigits.1
      | cons c rest =>
          obtain rfl : c = '0' := Option.some.inj zero
          cases rest with
          | nil => rfl
          | cons next rest => exact absurd scanned (notLong next rest after)

theorem scanWhole_complete {digits after : List Char} (whole : Numeral.IsWhole digits)
    (ends : StartsWithoutDigit after) :
    scanWhole (digits ++ after) = some (digits, after) := by
  unfold scanWhole
  rw [scanDigits_complete whole.1 ends]
  split
  · next c rest after' same =>
      cases same
      cases whole.2 rfl
  · rfl

theorem scanFraction_sound {cs after : List Char} {fraction : Option (List Char)}
    (scanned : scanFraction cs = some (fraction, after)) :
    ∃ spelling, Numeral.FractionSpelledBy fraction spelling ∧ cs = spelling ++ after := by
  unfold scanFraction at scanned
  split at scanned
  · obtain ⟨⟨digits, left⟩, found, same⟩ := Option.map_eq_some_iff.mp scanned
    cases same
    obtain ⟨areDigits, rfl⟩ := scanDigits_sound found
    exact ⟨_, .present areDigits, rfl⟩
  · cases scanned
    exact ⟨[], .absent, rfl⟩

theorem scanFraction_complete {fraction : Option (List Char)} {spelling after : List Char}
    (spelled : Numeral.FractionSpelledBy fraction spelling) (ends : StartsWithoutDigit after)
    (noPoint : after.head? ≠ some '.') :
    scanFraction (spelling ++ after) = some (fraction, after) := by
  cases spelled with
  | absent =>
      unfold scanFraction
      split
      · next rest same =>
          have starts : after.head? = some '.' := congrArg List.head? same
          exact absurd starts noPoint
      · rfl
  | present areDigits => simp [scanFraction, scanDigits_complete areDigits ends]

theorem scanSign_sound (cs : List Char) :
    ∃ spelling, Numeral.SignSpelledBy (scanSign cs).1 spelling ∧
      cs = spelling ++ (scanSign cs).2 := by
  unfold scanSign
  split
  · exact ⟨_, .plus, rfl⟩
  · exact ⟨_, .minus, rfl⟩
  · exact ⟨_, .absent, rfl⟩

theorem scanSign_complete {below : Bool} {spelling digits : List Char}
    (spelled : Numeral.SignSpelledBy below spelling) (areDigits : AreDigits digits)
    (after : List Char) :
    scanSign (spelling ++ (digits ++ after)) = (below, digits ++ after) := by
  cases spelled with
  | plus => rfl
  | minus => rfl
  | absent =>
      obtain ⟨nonempty, each⟩ := areDigits
      cases digits with
      | nil => exact absurd rfl nonempty
      | cons c rest =>
          have digit := each c (by simp)
          unfold scanSign
          split
          · next same => cases same; cases digit
          · next same => cases same; cases digit
          · rfl

theorem scanExponent_sound {cs after : List Char} {exponent : Option (Bool × List Char)}
    (scanned : scanExponent cs = some (exponent, after)) :
    ∃ spelling, Numeral.ExponentSpelledBy exponent spelling ∧ cs = spelling ++ after := by
  unfold scanExponent at scanned
  split at scanned
  · next c rest =>
      split at scanned
      · next isLetter =>
          obtain ⟨⟨digits, left⟩, found, same⟩ := Option.map_eq_some_iff.mp scanned
          cases same
          have scannedDigits : scanDigits (scanSign rest).2 = some (digits, after) := found
          obtain ⟨sign, signed, parts⟩ := scanSign_sound rest
          obtain ⟨areDigits, unsigned⟩ := scanDigits_sound scannedDigits
          refine ⟨_, .present isLetter signed areDigits, ?_⟩
          rw [parts, unsigned]
          simp
      · cases scanned
        exact ⟨[], .absent, rfl⟩
  · cases scanned
    exact ⟨[], .absent, rfl⟩

theorem scanExponent_complete {exponent : Option (Bool × List Char)} {spelling after : List Char}
    (spelled : Numeral.ExponentSpelledBy exponent spelling) (ends : EndsNumeral after) :
    scanExponent (spelling ++ after) = some (exponent, after) := by
  cases spelled with
  | absent =>
      cases after with
      | nil => rfl
      | cons c rest =>
          have notLetter := (ends c rfl).2.2
          simp [scanExponent, notLetter]
  | present isLetter signed areDigits =>
      have digitsEnd : StartsWithoutDigit after := fun c starts => (ends c starts).1
      simp [scanExponent, isLetter, scanSign_complete signed areDigits,
        scanDigits_complete areDigits digitsEnd]

theorem scanUnsigned_sound {negative : Bool} {cs after : List Char} {numeral : Numeral}
    (scanned : scanUnsigned negative cs = some (numeral, after)) :
    ∃ spelling, numeral.SpelledBy ((if negative then ['-'] else []) ++ spelling) ∧
      cs = spelling ++ after := by
  simp only [scanUnsigned, Option.bind_eq_bind, Option.bind_eq_some_iff] at scanned
  obtain ⟨⟨whole, _⟩, first, ⟨fraction, _⟩, second, ⟨exponent, _⟩, third, same⟩ := scanned
  cases same
  obtain ⟨isWhole, rfl⟩ := scanWhole_sound first
  obtain ⟨point, fractionSpelled, rfl⟩ := scanFraction_sound second
  obtain ⟨letter, exponentSpelled, rfl⟩ := scanExponent_sound third
  refine ⟨whole ++ (point ++ letter), ⟨_, _, isWhole, fractionSpelled, exponentSpelled, rfl⟩, ?_⟩
  simp

theorem scanNumeral_sound {cs after : List Char} {numeral : Numeral}
    (scanned : scanNumeral cs = some (numeral, after)) :
    ∃ spelling, numeral.SpelledBy spelling ∧ cs = spelling ++ after := by
  unfold scanNumeral at scanned
  split at scanned
  · obtain ⟨spelling, spelled, rfl⟩ := scanUnsigned_sound scanned
    exact ⟨_, spelled, rfl⟩
  · obtain ⟨spelling, spelled, rfl⟩ := scanUnsigned_sound scanned
    exact ⟨_, spelled, rfl⟩

theorem scanUnsigned_complete (negative : Bool) {whole point letter after : List Char}
    {fraction : Option (List Char)} {exponent : Option (Bool × List Char)}
    (isWhole : Numeral.IsWhole whole) (fractionSpelled : Numeral.FractionSpelledBy fraction point)
    (exponentSpelled : Numeral.ExponentSpelledBy exponent letter) (ends : EndsNumeral after) :
    scanUnsigned negative (whole ++ (point ++ (letter ++ after))) =
      some ({ negative, whole, fraction, exponent }, after) := by
  have letterStarts : ∀ c, (letter ++ after).head? = some c → c.isDigit = false ∧ c ≠ '.' := by
    intro c starts
    cases exponentSpelled with
    | absent => exact ⟨(ends c starts).1, (ends c starts).2.1⟩
    | present isLetter =>
        obtain rfl := Option.some.inj starts
        rcases isLetter with rfl | rfl <;> decide
  have pointStarts : StartsWithoutDigit (point ++ (letter ++ after)) := by
    intro c starts
    cases fractionSpelled with
    | absent => exact (letterStarts c starts).1
    | present =>
        obtain rfl := Option.some.inj starts
        rfl
  have noPoint : (letter ++ after).head? ≠ some '.' := fun starts =>
    (letterStarts '.' starts).2 rfl
  simp [scanUnsigned, scanWhole_complete isWhole pointStarts,
    scanFraction_complete fractionSpelled (fun c starts => (letterStarts c starts).1) noPoint,
    scanExponent_complete exponentSpelled ends]

theorem scanNumeral_of_digits {digits : List Char} (areDigits : AreDigits digits)
    (after : List Char) :
    scanNumeral (digits ++ after) = scanUnsigned false (digits ++ after) := by
  cases digits with
  | nil => exact absurd rfl areDigits.1
  | cons c rest =>
      have digit := areDigits.2 c (by simp)
      unfold scanNumeral
      split
      · next same =>
          cases same
          cases digit
      · rfl

theorem scanNumeral_complete {numeral : Numeral} {spelling after : List Char}
    (spelled : numeral.SpelledBy spelling) (ends : EndsNumeral after) :
    scanNumeral (spelling ++ after) = some (numeral, after) := by
  obtain ⟨negative, whole, fraction, exponent⟩ := numeral
  obtain ⟨point, letter, isWhole, fractionSpelled, exponentSpelled, rfl⟩ := spelled
  have unsigned := scanUnsigned_complete negative isWhole fractionSpelled exponentSpelled ends
  cases negative with
  | true => simpa [scanNumeral] using unsigned
  | false => simpa [scanNumeral_of_digits isWhole.1] using unsigned

/-! ## Tokens -/

theorem Numeral.SpelledBy.starts {numeral : Numeral} {spelling : List Char}
    (spelled : numeral.SpelledBy spelling) :
    ∃ c rest, spelling = c :: rest ∧ (c = '-' ∨ c.isDigit = true) := by
  obtain ⟨point, letter, isWhole, _, _, rfl⟩ := spelled
  cases numeral.negative with
  | true => exact ⟨'-', _, rfl, .inl rfl⟩
  | false =>
      cases whole : numeral.whole with
      | nil => exact absurd whole isWhole.1.1
      | cons c rest =>
          refine ⟨c, _, rfl, .inr (isWhole.1.2 c ?_)⟩
          rw [whole]
          exact List.mem_cons_self

theorem Token.SpelledBy.starts {token : Token} {spelling : List Char}
    (spelled : token.SpelledBy spelling) :
    ∃ c rest, spelling = c :: rest ∧ isSpace c = false := by
  cases spelled with
  | number spelled =>
      obtain ⟨c, rest, rfl, minus | digit⟩ := spelled.starts
      · exact ⟨c, rest, rfl, by subst minus; rfl⟩
      · refine ⟨c, rest, rfl, ?_⟩
        rw [← Bool.not_eq_true]
        intro white
        simp only [isSpace, Bool.or_eq_true, beq_iff_eq] at white
        rcases white with ((rfl | rfl) | rfl) | rfl <;> cases digit
  | _ => exact ⟨_, _, rfl, rfl⟩

theorem scanToken_of_numeral {c : Char} (starts : c = '-' ∨ c.isDigit = true)
    (rest : List Char) :
    scanToken (c :: rest) =
      (scanNumeral (c :: rest)).map fun (numeral, after) => (.number numeral, after) := by
  unfold scanToken
  split
  case h_11 => rfl
  all_goals
    next same =>
      cases same
      rcases starts with minus | digit
      · cases minus
      · cases digit

theorem scanToken_sound {cs after : List Char} {token : Token}
    (scanned : scanToken cs = some (token, after)) :
    ∃ spelling, token.SpelledBy spelling ∧ cs = spelling ++ after := by
  unfold scanToken at scanned
  split at scanned
  case h_7 rest =>
    obtain ⟨⟨pieces, left⟩, found, same⟩ := Option.map_eq_some_iff.mp scanned
    cases same
    obtain ⟨body, spelled, rfl⟩ := scanPieces_sound found
    cases joined : joinPieces pieces with
    | some content =>
        exact ⟨_, .text spelled (joinPieces_eq_some_iff.mp joined), by simp⟩
    | none =>
        refine ⟨_, .brokenText spelled ?_, by simp⟩
        intro content denotes
        rw [joinPieces_eq_some_iff.mpr denotes] at joined
        cases joined
  case h_11 =>
    obtain ⟨⟨numeral, left⟩, found, same⟩ := Option.map_eq_some_iff.mp scanned
    cases same
    obtain ⟨spelling, spelled, rfl⟩ := scanNumeral_sound found
    exact ⟨_, .number spelled, rfl⟩
  all_goals
    cases scanned
    exact ⟨_, by constructor, rfl⟩

theorem scanToken_complete {token : Token} {spelling : List Char}
    (spelled : token.SpelledBy spelling) {after : List Char}
    (ends : ∀ numeral, token = .number numeral → EndsNumeral after) :
    scanToken (spelling ++ after) = some (token, after) := by
  cases spelled with
  | number spelled =>
      have scanned := scanNumeral_complete spelled (ends _ rfl)
      obtain ⟨c, rest, rfl, starts⟩ := spelled.starts
      rw [List.cons_append] at scanned ⊢
      rw [scanToken_of_numeral starts, scanned]
      rfl
  | text spelled denotes =>
      simp [scanToken, scanPieces_complete spelled, joinPieces_eq_some_iff.mpr denotes]
  | @brokenText pieces body spelled broken =>
      have unjoined : joinPieces pieces = none := by
        cases joined : joinPieces pieces with
        | none => rfl
        | some content => exact absurd (joinPieces_eq_some_iff.mp joined) (broken content)
      simp [scanToken, scanPieces_complete spelled, unjoined]
  | _ => rfl

/-! ## Texts -/

/-- The brackets and separators of JSON. -/
def Token.isStructural : Token → Bool
  | .openArray | .closeArray | .openObject | .closeObject | .comma | .colon => true
  | _ => false

/-- Whether one token may follow another without white space between them. -/
def Token.Meets (first second : Token) : Prop :=
  first.isStructural = true ∨ second.isStructural = true

theorem tokenize_space {c : Char} (white : isSpace c = true) (rest : List Char) :
    tokenize (c :: rest) = tokenize rest := by
  rw [tokenize]
  simp [white]

theorem tokenize_token {token : Token} {spelling after : List Char}
    (spelled : token.SpelledBy spelling)
    (scanned : scanToken (spelling ++ after) = some (token, after)) :
    tokenize (spelling ++ after) = token :: tokenize after := by
  obtain ⟨c, rest, rfl, visible⟩ := spelled.starts
  rw [List.cons_append] at scanned ⊢
  rw [tokenize]
  simp only [visible, Bool.false_eq_true, if_false]
  split
  · next missed =>
      rw [scanned] at missed
      cases missed
  · next found =>
      rw [scanned] at found
      cases found
      rfl

/-- A text that is cut up to its end is spelled by its tokens. -/
theorem tokenize_sound (cs : List Char) (readable : Token.junk ∉ tokenize cs) :
    TokensSpelledBy (tokenize cs) cs := by
  fun_induction tokenize cs with
  | case1 => exact .nil
  | case2 c rest white ih => exact .space white (ih readable)
  | case3 => simp at readable
  | case4 c rest _ token after scanned ih =>
      obtain ⟨spelling, spelled, parts⟩ := scanToken_sound scanned
      rw [parts]
      exact .token spelled (ih (fun member => readable (List.mem_cons_of_mem _ member)))

theorem endsNumeral_of_space {c : Char} (white : isSpace c = true) (rest : List Char) :
    EndsNumeral (c :: rest) := by
  intro other starts
  obtain rfl := Option.some.inj starts
  simp only [isSpace, Bool.or_eq_true, beq_iff_eq] at white
  rcases white with ((rfl | rfl) | rfl) | rfl <;> decide

theorem endsNumeral_of_structural {token : Token} {spelling : List Char}
    (spelled : token.SpelledBy spelling) (structural : token.isStructural = true)
    (rest : List Char) : EndsNumeral (spelling ++ rest) := by
  intro c starts
  cases spelled <;> first
    | (obtain rfl := Option.some.inj starts; decide)
    | cases structural

/-- A text is cut into the tokens that spell it, also at the beginning of a longer text. -/
theorem tokenize_append {tokens : List Token} {cs rest : List Char}
    (spelled : TokensSpelledBy tokens cs) (separated : tokens.IsChain Token.Meets)
    (ends : ∀ numeral, tokens.getLast? = some (.number numeral) → EndsNumeral rest) :
    tokenize (cs ++ rest) = tokens ++ tokenize rest := by
  induction spelled with
  | nil => rfl
  | space white _ ih =>
      rw [List.cons_append, tokenize_space white]
      exact ih separated ends
  | @token token tokens spelling cs first others ih =>
      have numeralEnds : ∀ numeral, token = .number numeral → EndsNumeral (cs ++ rest) := by
        rintro numeral rfl
        cases others with
        | nil => exact ends numeral rfl
        | space white => exact endsNumeral_of_space white _
        | token next =>
            rcases separated.rel with number | structural
            · cases number
            · rw [List.append_assoc]
              exact endsNumeral_of_structural next structural _
      have scanned := scanToken_complete first numeralEnds
      rw [List.append_assoc, tokenize_token first scanned, ih separated.tail ?_]
      · rfl
      · intro numeral last
        cases tokens with
        | nil => cases last
        | cons next tokens => exact ends numeral (by simpa using last)

theorem tokenize_complete {tokens : List Token} {cs : List Char}
    (spelled : TokensSpelledBy tokens cs) (separated : tokens.IsChain Token.Meets) :
    tokenize cs = tokens := by
  have nothingFollows : EndsNumeral [] := fun c starts => by cases starts
  have cut : tokenize (cs ++ []) = tokens ++ tokenize [] :=
    tokenize_append spelled separated fun _ _ => nothingFollows
  simpa [tokenize] using cut

end ExamGrants.Json
