import ExamGrants.EntityType
import ExamGrants.Level
import ExamGrants.Parse
import ExamGrants.Role
import ExamGrants.Proofs.Json.Decoding
import ExamGrants.Proofs.Json.Writing
import ExamGrants.Proofs.Trimming

namespace ExamGrants

/-! The names of entity types, roles and levels.

The members of these kinds are named in three places: by their storage names, by the words that
people type for them, and by their identifiers, of which their JSON names are made.  The three
tables agree on every text (`NameTables.agree_for_all_kinds`): what people type may have blanks
around it, what JSON holds may not.
-/

open Json

/-- An identifier in lower case, with an underscore before every capital but its initial. -/
def snakeCase (identifier : String) : String :=
  match identifier.toList with
  | [] => ""
  | initial :: rest =>
      String.ofList (initial.toLower :: rest.flatMap fun c =>
        if c.isUpper then ['_', c.toLower] else [c.toLower])

/-- The characters that storage names are made of. -/
def isNameChar (c : Char) : Bool :=
  c.isLower || c == '_'

theorem toNat_of_isNameChar {c : Char} (named : isNameChar c = true) :
    95 ≤ c.toNat ∧ c.toNat ≤ 122 := by
  obtain letter | underscore := Bool.or_eq_true_iff.mp named
  · obtain ⟨low, high⟩ := Bool.and_eq_true_iff.mp letter
    have lower : 97 ≤ c.toNat := of_decide_eq_true low
    have upper : c.toNat ≤ 122 := of_decide_eq_true high
    omega
  · obtain rfl := eq_of_beq underscore
    decide

theorem not_isBlank_of_isNameChar {c : Char} (named : isNameChar c = true) :
    Text.isBlank c = false := by
  have bounds := toNat_of_isNameChar named
  exact Text.not_isBlank_of_isPrinted (Text.isPrinted_iff.mpr (by omega))

theorem escapeChar_of_isNameChar {c : Char} (named : isNameChar c = true) :
    escapeChar c = [c] := by
  have bounds := toNat_of_isNameChar named
  have differs : ∀ other : Char, other.toNat < 95 → c ≠ other := by
    intro other low same
    rw [same] at bounds
    omega
  have printed : ¬ c.toNat < 0x20 := by omega
  simp [escapeChar, differs, printed]

/-- How the members of a kind of things are called beside their storage names. -/
structure NameTables (α : Type) where
  identifier : α → String
  /-- The member that a word without blanks around it stands for. -/
  ofWord? : String → Option α

namespace NameTables

/-! ## The tables -/

/-- Entity types are looked up among all of them. -/
def entityTypes : NameTables EntityType where
  identifier
    | .institution => "Institution"
    | .lmsSetup => "LmsSetup"
    | .sebClientConfiguration => "SebClientConfiguration"
    | .exam => "Exam"
    | .examTemplate => "ExamTemplate"
    | .indicator => "Indicator"
    | .examConfigurationMap => "ExamConfigurationMap"
    | .configurationNode => "ConfigurationNode"
    | .configuration => "Configuration"
    | .clientConnection => "ClientConnection"
    | .clientEvent => "ClientEvent"
    | .user => "User"
    | .userActivityLog => "UserActivityLog"
    | .certificate => "Certificate"
  ofWord? word := EntityType.all.find? fun entityType => entityType.name == word

def roles : NameTables Role where
  identifier
    | .sebServerAdmin => "SebServerAdmin"
    | .institutionalAdmin => "InstitutionalAdmin"
    | .examAdmin => "ExamAdmin"
    | .examSupporter => "ExamSupporter"
    | .teacher => "Teacher"
  ofWord?
    | "seb_server_admin" => some .sebServerAdmin
    | "institutional_admin" => some .institutionalAdmin
    | "exam_admin" => some .examAdmin
    | "exam_supporter" => some .examSupporter
    | "teacher" => some .teacher
    | _ => none

def levels : NameTables Level where
  identifier
    | .none => "None"
    | .readOnly => "ReadOnly"
    | .modify => "Modify"
    | .write => "Write"
  ofWord?
    | "none" => some .none
    | "read_only" => some .readOnly
    | "modify" => some .modify
    | "write" => some .write
    | _ => none

/-! ## What is the same in every kind -/

variable {α : Type} [Named α] {tables : NameTables α}

/-- What the tables of a kind must have in common, member by member. -/
structure Match (tables : NameTables α) : Prop where
  spelled : ∀ member, snakeCase (tables.identifier member) = Named.name member
  word : ∀ word member, tables.ofWord? word = some member ↔ word = Named.name member
  plain : ∀ member : α, ∀ c ∈ (Named.name member).toList, isNameChar c = true
  /-- A diagnosis shows members by their identifiers. -/
  titled : ∀ member, Named.title member = tables.identifier member

/-- The tables give the same answers to every text. -/
structure Agree (tables : NameTables α) : Prop where
  distinct : Function.Injective (Named.name : α → String)
  /-- People's texts are looked up as words, blanks around them not counting. -/
  words : ∀ text, (Named.parse text : Except Problem α) =
    match tables.ofWord? (Text.trim text) with
    | some member => .ok member
    | none => .error (.unknownName (Named.kind α) text)
  typed : ∀ text (member : α),
    Named.parse text = .ok member ↔ Text.IsPaddingOf text (Named.name member)
  refused : ∀ text, (∀ member : α, ¬ Text.IsPaddingOf text (Named.name member)) →
    ∃ problem, (Named.parse text : Except Problem α) = .error problem ∧
      problem.category = .validation ∧
      problem.detail = "unknown " ++ Named.kind α ++ " '" ++ text ++ "'"
  /-- JSON strings are names as they stand, and identifiers in snake case. -/
  decoded : ∀ string text, (Tree.text (some string)).SpelledBy text.toList → ∀ member,
    (Codec.named.read text = .ok member ↔ string = Named.name member) ∧
      (Codec.named.read text = .ok member ↔ string = snakeCase (tables.identifier member)) ∧
      (Codec.named.read text = .ok member → Named.parse string = .ok member)
  trimmed : ∀ string text, (Tree.text (some (Text.trim string))).SpelledBy text.toList →
    ((∃ member : α, Named.parse string = .ok member) ↔
      ∃ member : α, Codec.named.read text = .ok member)
  written : ∀ member : α, Codec.named.write member = "\"" ++ Named.name member ++ "\""

namespace Match

theorem isBare_name (tablesMatch : tables.Match) (member : α) :
    Text.IsBare (Named.name member) :=
  Text.haveBareEnds_of_forall_not_isBlank fun c listed =>
    not_isBlank_of_isNameChar (tablesMatch.plain member c listed)

theorem write_eq (tablesMatch : tables.Match) (member : α) :
    Codec.named.write member = "\"" ++ Named.name member ++ "\"" := by
  have unescaped : (Named.name member).toList.flatMap escapeChar = (Named.name member).toList := by
    rw [List.flatMap_congr fun c listed =>
      escapeChar_of_isNameChar (tablesMatch.plain member c listed)]
    simp
  rw [← String.toList_inj]
  simp [Codec.write, Codec.named, Tree.compact, Tree.tokens, spell, Token.spelling, unescaped]

theorem parse_eq_ok_iff_isPaddingOf (tablesMatch : tables.Match) {text : String} {member : α} :
    Named.parse text = .ok member ↔ Text.IsPaddingOf text (Named.name member) := by
  rw [Named.parse_eq_ok_iff, Text.trim_eq_iff]
  exact and_iff_right (tablesMatch.isBare_name member)

theorem ofWord?_eq_ofName? (tablesMatch : tables.Match) (word : String) :
    tables.ofWord? word = Named.ofName? word := by
  apply Option.ext
  intro member
  rw [tablesMatch.word, Named.ofName?_eq_some_iff]

theorem read_eq_ok_iff_name {string text : String}
    (spelled : (Tree.text (some string)).SpelledBy text.toList) {member : α} :
    Codec.named.read text = .ok member ↔ string = Named.name member := by
  rw [Codec.read_eq_decode spelled]
  exact Codec.decodeName_eq_ok_iff

theorem agree (tablesMatch : tables.Match) : tables.Agree where
  distinct _ _ same := Named.name_injective same
  words text := by
    rw [tablesMatch.ofWord?_eq_ofName?]
    rfl
  typed _ _ := tablesMatch.parse_eq_ok_iff_isPaddingOf
  refused text unnamed := by
    refine ⟨.unknownName (Named.kind α) text, ?_, rfl, rfl⟩
    refine Named.parse_eq_error_iff.mpr ⟨fun member named => ?_, rfl⟩
    exact unnamed member (tablesMatch.parse_eq_ok_iff_isPaddingOf.mp
      (Named.parse_eq_ok_iff.mpr named))
  decoded string text spelled member := by
    have read : Codec.named.read text = .ok member ↔ string = Named.name member :=
      read_eq_ok_iff_name spelled
    refine ⟨read, ?_, fun accepted => ?_⟩
    · rw [tablesMatch.spelled]
      exact read
    · have bare : Text.trim string = string := by
        rw [read.mp accepted]
        exact Text.trim_eq_self_iff.mpr (tablesMatch.isBare_name member)
      rw [Named.parse_eq_ok_iff, bare]
      exact read.mp accepted
  trimmed string text spelled := by
    simp only [Named.parse_eq_ok_iff, read_eq_ok_iff_name spelled]
  written := tablesMatch.write_eq

end Match

theorem entityTypes_match : entityTypes.Match where
  spelled member := by cases member <;> decide +kernel
  word word member := Named.ofName?_eq_some_iff
  plain member := List.all_eq_true.mp (by cases member <;> decide +kernel)
  titled member := by cases member <;> decide +kernel

theorem roles_match : roles.Match where
  spelled member := by cases member <;> decide +kernel
  word word member := by
    constructor
    · intro found
      simp only [roles] at found
      split at found <;> cases found <;> rfl
    · intro named
      subst named
      cases member <;> rfl
  plain member := List.all_eq_true.mp (by cases member <;> decide +kernel)
  titled member := by cases member <;> decide +kernel

theorem levels_match : levels.Match where
  spelled member := by cases member <;> decide +kernel
  word word member := by
    constructor
    · intro found
      simp only [levels] at found
      split at found <;> cases found <;> rfl
    · intro named
      subst named
      cases member <;> rfl
  plain member := List.all_eq_true.mp (by cases member <;> decide +kernel)
  titled member := by cases member <;> decide +kernel

/-- Entity types, roles and levels are named alike in all places. -/
theorem agree_for_all_kinds : entityTypes.Agree ∧ roles.Agree ∧ levels.Agree :=
  ⟨entityTypes_match.agree, roles_match.agree, levels_match.agree⟩

/-- A name with an escape is read from JSON, one with blanks around it from people only. -/
example : Codec.named.read " \"read\\u005fonly\" " = .ok Level.readOnly ∧
    Codec.named.read "\" read_only\"" = (.error (.unknownName " read_only" (Named.names Level)) :
      Except Fault Level) ∧
    Named.parse "\u2003read_only\n" = .ok Level.readOnly := by
  decide +kernel

end NameTables

end ExamGrants
