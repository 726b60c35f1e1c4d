import ExamGrants.Proofs.Environment
import ExamGrants.Proofs.StorageNames

namespace ExamGrants

/-! Lists of roles as they are set in the environment.

Of the pieces between the commas the blank ones do not count.  The other ones are names of
roles, with any blanks around them, and the first that is not is reported as it stands
(`Role.parseList_reads_pieces`).  So names that are joined by commas are read back, however they
are spaced out.
-/

namespace Text

theorem not_mem_of_areBlank {c : Char} (visible : isBlank c = false) {cs : List Char}
    (blank : AreBlank cs) : c ∉ cs := by
  intro member
  rw [blank c member] at visible
  cases visible

end Text

namespace Role

/-- What the places of a list that are not blank are read as. -/
inductive Reads : List String → Except Problem (List Role) → Prop where
  | unknown {before after : List String} {place : String}
      (known : ∀ earlier ∈ before, ∃ role, IsNamedBy role earlier)
      (unknown : ∀ role, ¬ IsNamedBy role place) :
      Reads (before ++ place :: after) (.error (.unknownName "user role" place))
  | nothing : Reads [] (.error .noRoles)
  | named {places : List String} {roles : List Role} (nonempty : places ≠ [])
      (named : List.Forall₂ (fun place role => IsNamedBy role place) places roles) :
      Reads places (.ok roles)

/-- The pieces hold the names of the roles in their order, with blanks around them, and blank
pieces between them. -/
inductive ListedIn : List Role → List String → Prop where
  | nil : ListedIn [] []
  | blank {roles : List Role} {piece : String} {pieces : List String}
      (blank : Text.isAllBlank piece = true) (others : ListedIn roles pieces) :
      ListedIn roles (piece :: pieces)
  | name {role : Role} {roles : List Role} {piece : String} {pieces : List String}
      (padded : Text.IsPaddingOf piece role.name) (others : ListedIn roles pieces) :
      ListedIn (role :: roles) (piece :: pieces)

theorem parseList_eq_iff_reads {text : String} {result : Except Problem (List Role)} :
    parseList text = result ↔ Reads (places text) result := by
  cases result with
  | ok roles =>
      rw [parseList_eq_ok_iff]
      generalize places text = found
      refine ⟨fun read => .named read.1 read.2, fun reads => ?_⟩
      cases reads with
      | named nonempty named => exact ⟨nonempty, named⟩
  | error problem =>
      rw [parseList_eq_error_iff]
      generalize places text = found
      refine ⟨fun refused => ?_, fun reads => ?_⟩
      · obtain ⟨before, place, after, rfl, known, unknown, rfl⟩ | ⟨rfl, rfl⟩ := refused
        · exact .unknown known unknown
        · exact .nothing
      · cases reads with
        | unknown known unknown => exact .inl ⟨_, _, _, rfl, known, unknown, rfl⟩
        | nothing => exact .inr ⟨rfl, rfl⟩

/-! ## Names joined by commas -/

theorem isNameChar_of_mem_name {role : Role} {c : Char} (member : c ∈ role.name.toList) :
    isNameChar c = true :=
  NameTables.roles_match.plain role c member

theorem name_nonempty (role : Role) : ∃ c, c ∈ role.name.toList := by
  cases role <;> exact ⟨_, List.mem_cons_self⟩

theorem isNamedBy_of_padded {role : Role} {piece : String}
    (padded : Text.IsPaddingOf piece role.name) : IsNamedBy role piece := by
  exact Text.trim_eq_iff.mpr ⟨NameTables.roles_match.isBare_name role, padded⟩

theorem not_isAllBlank_of_padded {role : Role} {piece : String}
    (padded : Text.IsPaddingOf piece role.name) : Text.isAllBlank piece = false := by
  obtain ⟨before, after, _, _, parts⟩ := padded
  obtain ⟨c, member⟩ := role.name_nonempty
  rw [← Bool.not_eq_true, Text.isAllBlank_iff, parts]
  intro blank
  have listed : c ∈ before ++ (role.name.toList ++ after) := by simp [member]
  have visible := not_isBlank_of_isNameChar (isNameChar_of_mem_name member)
  exact Bool.false_ne_true (visible.symm.trans (blank c listed))

theorem comma_not_mem_of_padded {role : Role} {piece : String}
    (padded : Text.IsPaddingOf piece role.name) : ',' ∉ piece.toList := by
  obtain ⟨before, after, beforeBlank, afterBlank, parts⟩ := padded
  have unnamed : ',' ∉ role.name.toList := fun member =>
    absurd (isNameChar_of_mem_name member) (by decide)
  rw [parts]
  simp only [List.mem_append, not_or]
  exact ⟨Text.not_mem_of_areBlank rfl beforeBlank, unnamed,
    Text.not_mem_of_areBlank rfl afterBlank⟩

namespace ListedIn

variable {roles : List Role} {pieces : List String}

theorem comma_not_mem (listed : ListedIn roles pieces) : ∀ piece ∈ pieces, ',' ∉ piece.toList := by
  induction listed with
  | nil => exact List.forall_mem_nil _
  | blank blank _ ih =>
      refine List.forall_mem_cons.mpr ⟨?_, ih⟩
      exact Text.not_mem_of_areBlank rfl (Text.isAllBlank_iff.mp blank)
  | name padded _ ih => exact List.forall_mem_cons.mpr ⟨comma_not_mem_of_padded padded, ih⟩

/-- The pieces that are not blank are the names. -/
theorem named (listed : ListedIn roles pieces) :
    List.Forall₂ (fun place role => IsNamedBy role place)
      (pieces.filter fun piece => !Text.isAllBlank piece) roles := by
  induction listed with
  | nil => exact .nil
  | blank blank _ ih => simpa [blank] using ih
  | name padded _ ih =>
      simpa [not_isAllBlank_of_padded padded] using ⟨isNamedBy_of_padded padded, ih⟩

theorem parseList_intercalate (listed : ListedIn roles pieces) (nonempty : roles ≠ []) :
    parseList (String.intercalate "," pieces) = .ok roles := by
  have named := listed.named
  have cut : pieces ≠ [] := by
    intro empty
    subst empty
    cases listed
    exact nonempty rfl
  have pieced : Text.Cuts ',' (String.intercalate "," pieces) pieces :=
    ⟨cut, listed.comma_not_mem, rfl⟩
  rw [parseList_eq_ok_iff, places, pieced.split_eq]
  refine ⟨fun none => ?_, named⟩
  rw [none] at named
  cases named
  exact nonempty rfl

end ListedIn

/-- A list is read piece by piece, up to the first that is no name, and a list of names with
blanks and blank pieces added is read back. -/
theorem parseList_reads_pieces :
    (∀ text, Text.Cuts ',' text (Text.split ',' text) ∧
      places text = (Text.split ',' text).filter fun piece => !Text.isAllBlank piece) ∧
      (∀ text result, parseList text = result ↔ Reads (places text) result) ∧
      (∀ place, (Problem.unknownName "user role" place).category = .validation ∧
        (Problem.unknownName "user role" place).detail = "unknown user role '" ++ place ++ "'") ∧
      (Problem.noRoles.category = .validation ∧
        Problem.noRoles.detail = "PRIVILEGES_ROLES must name at least one role") ∧
      ∀ roles pieces, roles ≠ [] → ListedIn roles pieces →
        parseList (String.intercalate "," pieces) = .ok roles :=
  ⟨fun text => ⟨Text.cuts_split ',' text, rfl⟩, fun _ _ => parseList_eq_iff_reads,
    fun _ => ⟨rfl, rfl⟩, ⟨rfl, rfl⟩,
    fun _ _ nonempty listed => listed.parseList_intercalate nonempty⟩

/-- A name that comes twice, white space of other scripts, and places with nothing in them. -/
theorem parseList_reads_pieces_spaced_out :
    [examAdmin, teacher, examAdmin] ≠ [] ∧
      ListedIn [examAdmin, teacher, examAdmin]
        [" exam_admin", "", "\u3000teacher\t", "exam_admin", "\u2003"] ∧
      parseList " exam_admin,,\u3000teacher\t,exam_admin,\u2003" =
        .ok [examAdmin, teacher, examAdmin] := by
  have listed : ListedIn [examAdmin, teacher, examAdmin]
      [" exam_admin", "", "\u3000teacher\t", "exam_admin", "\u2003"] :=
    .name ⟨[' '], [], by decide, by decide, by decide⟩ (.blank (by decide)
      (.name ⟨['\u3000'], ['\t'], by decide, by decide, by decide⟩
        (.name ⟨[], [], by decide, by decide, by decide⟩ (.blank (by decide) .nil))))
  have nonempty : [examAdmin, teacher, examAdmin] ≠ [] := List.cons_ne_nil _ _
  have read := parseList_reads_pieces.2.2.2.2 _ _ nonempty listed
  have joined : String.intercalate ","
      [" exam_admin", "", "\u3000teacher\t", "exam_admin", "\u2003"] =
        " exam_admin,,\u3000teacher\t,exam_admin,\u2003" := by decide +kernel
  rw [joined] at read
  exact ⟨nonempty, listed, read⟩

end Role

end ExamGrants
