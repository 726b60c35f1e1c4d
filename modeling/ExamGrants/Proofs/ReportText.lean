import ExamGrants.Proofs.Delimiting
import ExamGrants.Proofs.RecordText
import ExamGrants.Proofs.StorageNames
import ExamGrants.Report

namespace ExamGrants

/-! What the text of reports tells.

Names end where neither a letter nor an underscore follows, whatever the width of their column; the
roles of a report end at a bracket, its lines where no space begins another line.  So the text of
several reports tells as much as their JSON (`Report.textOf_tells_reports`).
-/

open Json Text

/-! ## Names and columns -/

namespace NameTables.Match

variable {α : Type} [Named α] {tables : NameTables α}

theorem delimits_name (tablesMatch : tables.Match) :
    Delimits (fun member : α => (Named.name member).toList) isNameChar := by
  refine delimits_of_forall_mem (fun first second same => ?_) tablesMatch.plain
  exact Named.name_injective (String.toList_inj.mp same)

theorem name_begins (tablesMatch : tables.Match) {member : α} (named : Named.name member ≠ "") :
    ∃ c rest, (Named.name member).toList = c :: rest ∧ isNameChar c = true := by
  cases letters : (Named.name member).toList with
  | nil => exact absurd (String.toList_eq_nil_iff.mp letters) named
  | cons c rest =>
      refine ⟨c, rest, rfl, tablesMatch.plain member c ?_⟩
      rw [letters]
      exact List.mem_cons_self

/-- The width of a column does not matter, since a name holds no space. -/
theorem delimits_pad (tablesMatch : tables.Match) (width : Nat) :
    Delimits (fun member : α => (Report.pad width (Named.name member)).toList) isNameChar := by
  intro first second rest others ends otherEnds same
  have padded : ∀ (count : Nat) {cs : List Char}, StartsOutside isNameChar cs →
      StartsOutside isNameChar (List.replicate count ' ' ++ cs) := by
    intro count cs outside
    cases count with
    | zero => exact outside
    | succ count => exact startsOutside_cons rfl _
  simp only [Report.pad, String.toList_ofList, List.rightpad, List.append_assoc] at same
  obtain ⟨rfl, spaces⟩ := tablesMatch.delimits_name (padded _ ends) (padded _ otherEnds) same
  exact ⟨rfl, List.append_cancel_left spaces⟩

end NameTables.Match

namespace Report

open NameTables

/-! ## Lines -/

theorem delimits_line : Delimits (fun entry => (line entry).toList) fun _ => false := by
  intro first second rest others _ _ same
  have base : ∀ cs, StartsOutside isNameChar (" base=".toList ++ cs) :=
    startsOutside_mark (by decide)
  have institutional : ∀ cs, StartsOutside isNameChar (" institutional=".toList ++ cs) :=
    startsOutside_mark (by decide)
  have owner : ∀ cs, StartsOutside isNameChar (" owner=".toList ++ cs) :=
    startsOutside_mark (by decide)
  have newLine : ∀ cs, StartsOutside isNameChar ("\n".toList ++ cs) :=
    startsOutside_mark (by decide)
  simp only [line, String.toList_append, List.append_assoc] at same
  obtain ⟨entityType, same⟩ :=
    entityTypes_match.delimits_pad 26 (base _) (base _) (List.append_cancel_left same)
  obtain ⟨base, same⟩ := levels_match.delimits_pad 9 (institutional _) (institutional _)
    (List.append_cancel_left same)
  obtain ⟨institutional, same⟩ :=
    levels_match.delimits_pad 9 (owner _) (owner _) (List.append_cancel_left same)
  obtain ⟨owner, same⟩ :=
    levels_match.delimits_name (newLine _) (newLine _) (List.append_cancel_left same)
  exact ⟨Effective.ext entityType (Tiers.ext base institutional owner),
    List.append_cancel_left same⟩

theorem line_begins (entry : Effective) :
    ∃ c rest, (line entry).toList = ' ' :: ' ' :: c :: rest ∧ isNameChar c = true := by
  have named : Named.name entry.entityType ≠ "" := by cases entry.entityType <;> decide
  obtain ⟨c, rest, letters, isLetter⟩ := entityTypes_match.name_begins named
  have spaces : "  ".toList = [' ', ' '] := rfl
  have written : entry.entityType.name.toList = c :: rest := letters
  simp only [line, String.toList_append, spaces, pad, String.toList_ofList, List.rightpad, written,
    List.cons_append, List.nil_append]
  exact ⟨c, _, rfl, isLetter⟩

/-- The lines below the roles, of which there is at least one. -/
def bodyOf (privileges : List Effective) : List Char :=
  (if privileges.isEmpty then "  (no privileges)\n" else "").toList ++
    privileges.flatMap fun entry => (line entry).toList

theorem bodyOf_nil : bodyOf [] = "  (no privileges)\n".toList := by
  simp [bodyOf]

theorem bodyOf_cons (entry : Effective) (entries : List Effective) :
    bodyOf (entry :: entries) = (entry :: entries).flatMap fun entry => (line entry).toList := by
  simp [bodyOf]

theorem placeholder_append_ne {entry : Effective} {rest others : List Char} :
    "  (no privileges)\n".toList ++ rest ≠ (line entry).toList ++ others := by
  intro same
  obtain ⟨c, more, written, isLetter⟩ := line_begins entry
  rw [written] at same
  obtain rfl : '(' = c := Option.some.inj (congrArg (fun cs => cs[2]?) same)
  cases isLetter

theorem delimits_bodyOf : Delimits bodyOf fun c => c == ' ' := by
  have space : Begins (fun entry => (line entry).toList) (fun _ => false) fun c => c == ' ' := by
    intro entry
    obtain ⟨c, rest, written, _⟩ := line_begins entry
    exact ⟨_, _, written, rfl, rfl⟩
  have lines : Delimits (List.flatMap fun entry => (line entry).toList) fun c => c == ' ' :=
    delimits_line.list space
  intro first second rest others ends otherEnds same
  cases first with
  | nil =>
      cases second with
      | nil => exact ⟨rfl, List.append_cancel_left same⟩
      | cons entry entries =>
          rw [bodyOf_nil, bodyOf_cons, List.flatMap_cons, List.append_assoc] at same
          exact absurd same placeholder_append_ne
  | cons entry entries =>
      cases second with
      | nil =>
          rw [bodyOf_nil, bodyOf_cons, List.flatMap_cons, List.append_assoc] at same
          exact absurd same.symm placeholder_append_ne
      | cons other more =>
          rw [bodyOf_cons, bodyOf_cons] at same
          exact lines ends otherEnds same

/-! ## Roles -/

/-- The roles without their brackets. -/
def namesOf (roles : List Role) : String :=
  String.intercalate ", " (roles.map Role.name)

theorem namesOf_cons (role : Role) (roles : List Role) :
    (namesOf (role :: roles)).toList =
      role.name.toList ++ roles.flatMap fun other => ", ".toList ++ other.name.toList := by
  induction roles generalizing role with
  | nil => simp [namesOf]
  | cons next roles ih =>
      have joined : namesOf (role :: next :: roles) = role.name ++ ", " ++ namesOf (next :: roles) :=
        String.intercalate_cons_cons
      simp only [joined, String.toList_append, ih, List.flatMap_cons, List.append_assoc]

theorem namesOf_ne {role : Role} {roles : List Role} {rest others : List Char}
    (ends : StartsOutside (fun c => isNameChar c || c == ',') rest) :
    rest ≠ (namesOf (role :: roles)).toList ++ others := by
  intro same
  have named : Named.name role ≠ "" := by cases role <;> decide
  obtain ⟨c, more, letters, isLetter⟩ := roles_match.name_begins named
  have written : role.name.toList = c :: more := letters
  have free := ends c (by rw [same, namesOf_cons, written]; rfl)
  rw [(Bool.or_eq_false_iff.mp free).1] at isLetter
  cases isLetter

theorem delimits_namesOf : Delimits (fun roles => (namesOf roles).toList)
    fun c => isNameChar c || c == ',' := by
  have name : Delimits (fun role : Role => role.name.toList) isNameChar :=
    roles_match.delimits_name
  have commas : Begins (fun role : Role => ", ".toList ++ role.name.toList) isNameChar
      fun c => c == ',' := fun role => ⟨',', _, rfl, rfl, rfl⟩
  have others := (name.after ", ".toList).list commas
  intro first second rest more ends moreEnds same
  cases first with
  | nil =>
      cases second with
      | nil => exact ⟨rfl, same⟩
      | cons role roles => exact absurd same (namesOf_ne ends)
  | cons role roles =>
      cases second with
      | nil => exact absurd same.symm (namesOf_ne moreEnds)
      | cons other further =>
          simp only [namesOf_cons, List.append_assoc] at same
          obtain ⟨rfl, following⟩ := name (commas.startsOutside_flatMap roles ends)
            (commas.startsOutside_flatMap further moreEnds) same
          obtain ⟨rfl, afterwards⟩ := others ends moreEnds following
          exact ⟨rfl, afterwards⟩

/-- The line of the roles. -/
def headOf (roles : List Role) : List Char :=
  "[".toList ++ ((namesOf roles).toList ++ "]\n".toList)

theorem delimits_headOf : Delimits headOf fun _ => false := by
  intro first second rest others _ _ same
  have ended : ∀ cs, StartsOutside (fun c => isNameChar c || c == ',') ("]\n".toList ++ cs) :=
    startsOutside_mark (by decide)
  simp only [headOf, List.append_assoc] at same
  obtain ⟨roles, same⟩ := delimits_namesOf (ended _) (ended _) (List.append_cancel_left same)
  exact ⟨roles, List.append_cancel_left same⟩

/-! ## Reports -/

theorem toList_toText (report : Report) :
    report.toText.toList = headOf report.roles ++ bodyOf report.privileges := by
  simp only [toText, headOf, bodyOf, namesOf, String.toList_append, String.toList_join,
    List.flatMap_map, List.append_assoc]

theorem delimits_toText : Delimits (fun report : Report => report.toText.toList)
    fun c => c == ' ' := by
  intro first second rest others ends otherEnds same
  have free : ∀ cs, StartsOutside (fun _ => false) cs := fun _ _ _ => rfl
  simp only [toList_toText, List.append_assoc] at same
  obtain ⟨roles, same⟩ := delimits_headOf (free _) (free _) same
  obtain ⟨privileges, same⟩ := delimits_bodyOf ends otherEnds same
  exact ⟨Report.ext roles privileges, same⟩

theorem textOf_injective : Function.Injective textOf := by
  intro first second same
  have bracket : Begins (fun report : Report => report.toText.toList) (fun c => c == ' ')
      fun c => c == '[' := fun report => ⟨'[', _, toList_toText report, rfl, rfl⟩
  have written : ∀ reports : List Report,
      (textOf reports).toList = reports.flatMap (fun report => report.toText.toList) ++ [] := by
    intro reports
    rw [textOf, String.toList_join, List.flatMap_map, List.append_nil]
  have texts := congrArg String.toList same
  rw [written, written] at texts
  exact (delimits_toText.list bracket startsOutside_nil startsOutside_nil texts).1

/-! ## The same as JSON -/

theorem toTree_writable (report : Report) : report.toTree.Writable := by
  apply Tree.Writable.object
  · intro member listed
    rcases List.mem_pair.mp listed with rfl | rfl
    · exact ⟨_, rfl⟩
    · exact ⟨_, rfl⟩
  · intro member listed
    rcases List.mem_pair.mp listed with rfl | rfl
    · exact (Codec.list_isLossless Codec.named_isLossless).writable report.roles
    · exact (Codec.list_isLossless Format.effective_isLossless).writable report.privileges

theorem jsonOf_spelledBy (reports : List Report) :
    (Tree.array (reports.map toTree) true).SpelledBy (jsonOf reports).toList := by
  have writable : (Tree.array (reports.map toTree) true).Writable := by
    apply Tree.Writable.array
    intro tree member
    obtain ⟨report, _, rfl⟩ := List.mem_map.mp member
    exact report.toTree_writable
  obtain ⟨whole, spelled⟩ := writable.pretty_spelledBy
  have newLine : ∀ c ∈ ['\n'], isSpace c = true := List.forall_mem_singleton.mpr rfl
  rw [jsonOf, String.toList_append]
  exact ⟨whole, spelled.append_spaces newLine⟩

theorem toTree_injective : Function.Injective toTree := by
  intro first second same
  simp only [toTree, Tree.object.injEq, List.cons.injEq, Prod.mk.injEq, true_and, and_true] at same
  obtain ⟨roles, privileges⟩ := same
  exact Report.ext ((Codec.list_isLossless Codec.named_isLossless).encode_injective roles)
    ((Codec.list_isLossless Format.effective_isLossless).encode_injective privileges)

theorem jsonOf_injective : Function.Injective jsonOf := by
  intro first second same
  have read := ofText_eq_iff.mpr (jsonOf_spelledBy first)
  rw [same, ofText_eq_iff.mpr (jsonOf_spelledBy second)] at read
  injection read with tree _
  injection tree with items _
  exact (List.map_injective_iff.mpr toTree_injective items).symm

/-- The text of reports tells which reports they are, and in what order, as their JSON does. -/
theorem textOf_tells_reports (first second : List Report) :
    (textOf first = textOf second ↔ first = second) ∧
      (textOf first = textOf second ↔ jsonOf first = jsonOf second) := by
  refine ⟨textOf_injective.eq_iff, ?_⟩
  rw [textOf_injective.eq_iff, jsonOf_injective.eq_iff]

/-- A report on two roles that may do nothing, and one on no roles. -/
example :
    textOf [⟨[.examAdmin, .teacher], []⟩,
        ⟨[], [⟨.sebClientConfiguration, ⟨.readOnly, .none, .write⟩⟩]⟩] =
      "[exam_admin, teacher]\n" ++
        "  (no privileges)\n" ++
        "[]\n" ++
        "  seb_client_configuration   base=read_only institutional=none      owner=write\n" := by
  decide +kernel

end Report

end ExamGrants
