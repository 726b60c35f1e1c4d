namespace ExamGrants.Text

/-! A text cut at every occurrence of a separator. -/

/-- The parts of a text between the separators, one more than there are separators. -/
def split (separator : Char) (text : String) : List String :=
  (text.toList.splitOn separator).map String.ofList

/-- The pieces between all places at which the separator stands in the text. -/
structure Cuts (separator : Char) (text : String) (pieces : List String) : Prop where
  nonempty : pieces ≠ []
  apart : ∀ piece ∈ pieces, separator ∉ piece.toList
  joined : String.intercalate (String.singleton separator) pieces = text

theorem not_mem_of_mem_splitOn {separator : Char} {cs part : List Char}
    (cut : part ∈ cs.splitOn separator) : separator ∉ part := by
  induction cs generalizing part with
  | nil =>
      obtain rfl : part = [] := by simpa using cut
      exact List.not_mem_nil
  | cons c cs ih =>
      rw [List.splitOn_cons_eq_if_modifyHead] at cut
      split at cut
      · rcases List.mem_cons.mp cut with rfl | later
        · exact List.not_mem_nil
        · exact ih later
      · next other =>
          have differs : separator ≠ c := fun same => other (beq_iff_eq.mpr same.symm)
          cases parts : cs.splitOn separator with
          | nil => exact absurd parts (List.splitOn_ne_nil separator cs)
          | cons first rest =>
              rw [parts] at ih cut
              rcases List.mem_cons.mp cut with rfl | later
              · exact List.not_mem_cons_of_ne_of_not_mem differs (ih List.mem_cons_self)
              · exact ih (List.mem_cons_of_mem _ later)

theorem cuts_split (separator : Char) (text : String) :
    Cuts separator text (split separator text) where
  nonempty := by simp [split, List.splitOn_ne_nil]
  apart piece cut := by
    obtain ⟨part, listed, rfl⟩ := List.mem_map.mp cut
    rw [String.toList_ofList]
    exact not_mem_of_mem_splitOn listed
  joined := by
    rw [← String.toList_inj]
    simp [split, String.toList_intercalate, Function.comp_def, List.intercalate_splitOn]

theorem Cuts.split_eq {separator : Char} {text : String} {pieces : List String}
    (cuts : Cuts separator text pieces) : split separator text = pieces := by
  have apart : ∀ part ∈ pieces.map String.toList, separator ∉ part := by
    simpa using cuts.apart
  have parts : List.splitOn separator ([separator].intercalate (pieces.map String.toList)) =
      pieces.map String.toList :=
    List.splitOn_intercalate separator apart (by simpa using cuts.nonempty)
  rw [← cuts.joined, split, String.toList_intercalate, String.toList_singleton, parts,
    List.map_map]
  simp [Function.comp_def]

end ExamGrants.Text
