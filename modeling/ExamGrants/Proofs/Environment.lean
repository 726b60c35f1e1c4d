import ExamGrants.Settings
import ExamGrants.Table.Builtin
import ExamGrants.Proofs.TableText

namespace ExamGrants

/-! What the environment asks for.

Each variable is described by two relations: what a value of it stands for, and how it can be
at fault.  Reading the variable gives a result exactly when it stands for it, and a problem
exactly when it is at fault in that way.
-/

open Json

variable {environment : Environment} {files : FileReader} {problem : Problem}

/-- What a text is read to, or the default where there is none. -/
def readOr {α : Type} (text? : Option String) (default : α) (read : String → Except Problem α) :
    Except Problem α :=
  match text? with
  | none => .ok default
  | some text => read text

section ReadOr

variable {α : Type} {text? : Option String} {default : α} {read : String → Except Problem α}

end ReadOr

namespace Environment

/-- The variable is set to the text, and the text is not blank. -/
def Fills (environment : Environment) (variableName : Variable) (text : String) : Prop :=
  environment variableName = some text ∧ Text.isAllBlank text = false

end Environment

/-! ## Roles -/

namespace Role

/-- The places of a list between commas, without the blank ones. -/
def places (text : String) : List String :=
  (Text.split ',' text).filter fun place => !Text.isAllBlank place

def IsNamedBy (role : Role) (place : String) : Prop :=
  Text.trim place = role.name

theorem parseList_eq (text : String) :
    parseList text = (places text).mapM Named.parse >>= fun roles =>
      if roles.isEmpty then .error .noRoles else .ok roles := rfl

theorem parseList_eq_ok_iff {text : String} {roles : List Role} :
    parseList text = .ok roles ↔ places text ≠ [] ∧
      List.Forall₂ (fun place role => IsNamedBy role place) (places text) roles := by
  simp only [parseList_eq, bind_eq_ok_iff, Codec.mapM_eq_ok_iff, Named.parse_eq_ok_iff]
  generalize places text = found
  refine ⟨?_, ?_⟩
  · intro read
    obtain ⟨others, named, taken⟩ := read
    cases named with
    | nil => cases taken
    | cons first rest =>
        cases taken
        exact ⟨List.cons_ne_nil _ _, .cons first rest⟩
  · intro read
    obtain ⟨nonempty, named⟩ := read
    refine ⟨roles, named, ?_⟩
    cases named with
    | nil => exact absurd rfl nonempty
    | cons => rfl

theorem parseList_eq_error_iff {text : String} :
    parseList text = .error problem ↔
      (∃ before place after, places text = before ++ place :: after ∧
        (∀ earlier ∈ before, ∃ role, IsNamedBy role earlier) ∧
        (∀ role, ¬ IsNamedBy role place) ∧ problem = .unknownName "user role" place) ∨
      places text = [] ∧ problem = .noRoles := by
  simp only [parseList_eq, bind_eq_error_iff, Codec.mapM_eq_error_iff, Codec.mapM_eq_ok_iff,
    Named.parse_eq_ok_iff, Named.parse_eq_error_iff]
  generalize places text = found
  -- With an unknown name reading the places fails; without one it gives as many roles.
  refine or_congr Iff.rfl ⟨?_, ?_⟩
  · intro refused
    obtain ⟨roles, named, taken⟩ := refused
    cases named with
    | nil =>
        cases taken
        exact ⟨rfl, rfl⟩
    | cons => cases taken
  · intro refused
    obtain ⟨rfl, rfl⟩ := refused
    exact ⟨[], .nil, rfl⟩

end Role

namespace Environment

/-- The sets of roles to report on: each role alone, or the listed ones together. -/
inductive AsksFor (environment : Environment) : List (List Role) → Prop where
  | eachRole (blank : ∀ text, ¬ environment.Fills .roles text) :
      AsksFor environment (Role.all.map fun role => [role])
  | listed {text : String} {roles : List Role} (filled : environment.Fills .roles text)
      (nonempty : Role.places text ≠ [])
      (named : List.Forall₂ (fun place role => Role.IsNamedBy role place)
        (Role.places text) roles) :
      AsksFor environment [roles]

/-- The list of roles is at fault: its first unknown name, or that it names none. -/
inductive Misnames (environment : Environment) : Problem → Prop where
  | unknown {text place : String} {before after : List String}
      (filled : environment.Fills .roles text)
      (places : Role.places text = before ++ place :: after)
      (known : ∀ earlier ∈ before, ∃ role, Role.IsNamedBy role earlier)
      (unknown : ∀ role, ¬ Role.IsNamedBy role place) :
      Misnames environment (.unknownName "user role" place)
  | noName {text : String} (filled : environment.Fills .roles text)
      (empty : Role.places text = []) : Misnames environment .noRoles

def roleSets (environment : Environment) : Except Problem (List (List Role)) :=
  readOr (environment.filled? .roles) (Role.all.map fun role => [role]) fun text =>
    Role.parseList text >>= fun roles => .ok [roles]

end Environment

/-! ## Format -/

namespace ReportFormat

theorem parse_eq_ok_iff {text : String} {format : ReportFormat} :
    parse text = .ok format ↔ Text.trim text = name format := by
  -- The names are tried one after the other, which finds the right one as they differ.
  have distinct : name .text ≠ name .json := by decide
  simp only [parse]
  split
  · next asText => cases format <;> simp [asText, distinct]
  · next notText =>
      split
      · next asJson => cases format <;> simp [asJson, distinct.symm]
      · next notJson => cases format <;> simp [notText, notJson]

theorem parse_eq_error_iff {text : String} :
    parse text = .error problem ↔
      (∀ format, Text.trim text ≠ name format) ∧ problem = .badFormat (Text.trim text) := by
  cases parsed : parse text with
  | ok format =>
      refine ⟨nofun, fun refused => ?_⟩
      exact absurd (parse_eq_ok_iff.mp parsed) (refused.1 format)
  | error other =>
      have unnamed : ∀ format, Text.trim text ≠ name format := by
        intro format named
        cases parsed.symm.trans (parse_eq_ok_iff.mpr named)
      have diagnosed : parse text = .error (.badFormat (Text.trim text)) := by
        simp only [parse, if_neg (unnamed _)]
      cases parsed.symm.trans diagnosed
      simp only [unnamed, Except.error.injEq, eq_comm (a := problem), ne_eq, not_false_eq_true,
        implies_true, true_and]

end ReportFormat

namespace Environment

inductive Chooses (environment : Environment) : ReportFormat → Prop where
  | unset (absent : environment .format = none) : Chooses environment .text
  | named {text : String} {format : ReportFormat} (set : environment .format = some text)
      (named : Text.trim text = format.name) : Chooses environment format

/-- The format is set, if only to blanks, and to no name. -/
inductive Misformats (environment : Environment) : Problem → Prop where
  | unnamed {text : String} (set : environment .format = some text)
      (unnamed : ∀ format, Text.trim text ≠ ReportFormat.name format) :
      Misformats environment (.badFormat (Text.trim text))

def reportFormat (environment : Environment) : Except Problem ReportFormat :=
  readOr (environment .format) .text ReportFormat.parse

end Environment

/-! ## Table -/

namespace FileReader

def Holds (files : FileReader) (path text : String) : Prop :=
  files path = .ok text.toUTF8

/-- The file cannot be read, or its bytes are the bytes of no text. -/
inductive Withholds (files : FileReader) (path : String) : Unreadable → Prop where
  | failed {reason : Unreadable} (failed : files path = .error reason) :
      Withholds files path reason
  | notText {bytes : ByteArray} (read : files path = .ok bytes)
      (notText : ∀ text : String, bytes ≠ text.toUTF8) : Withholds files path .notText

end FileReader

namespace Table

theorem parse_eq_error_iff {text : String} :
    parse text = .error problem ↔
      (∀ table : Table, ¬ table.WrittenAs text) ∧
        ∃ fault, Format.grants.read text = .error fault ∧ problem = .invalidTable fault := by
  simp only [← parse_eq_ok_iff]
  unfold parse
  cases Format.grants.read text <;> simp [eq_comm]

end Table

namespace Environment

/-- A file is named that holds no text. -/
inductive Misplaces (environment : Environment) (files : FileReader) : Problem → Prop where
  | unreadable {path : String} {reason : Unreadable}
      (filled : environment.Fills .tablePath path) (withholds : files.Withholds path reason) :
      Misplaces environment files (.unreadableTable path reason)

/-- A file is named whose text is the text of no table. -/
inductive Miswrites (environment : Environment) (files : FileReader) : Problem → Prop where
  | invalid {path text : String} {fault : Fault} (filled : environment.Fills .tablePath path)
      (holds : files.Holds path text) (notWritten : ∀ table : Table, ¬ table.WrittenAs text)
      (diagnosed : Format.grants.read text = .error fault) :
      Miswrites environment files (.invalidTable fault)

def table (environment : Environment) (files : FileReader) : Except Problem Table :=
  readOr (environment.filled? .tablePath) .builtin fun path => (Table.load files path).value

end Environment

end ExamGrants
