import ExamGrants.Json.Tree
namespace ExamGrants.Json

/-! Reading undoes writing.

A tree is whole when no array or object in it breaks off.  Main statement: the document
of the tokens of a whole tree is that tree, complete (`ofTokens_tokens`).
-/

mutual

/-- Whether the tree has no place at which its text breaks off. -/
def Tree.isWhole : Tree → Bool
  | .null | .boolean _ | .number _ | .text _ => true
  | .array items closed => closed && areWhole items
  | .object members closed => closed && haveWhole members
  | .broken => false

def areWhole : List Tree → Bool
  | [] => true
  | tree :: rest => tree.isWhole && areWhole rest

def haveWhole : List (Option String × Tree) → Bool
  | [] => true
  | (_, tree) :: rest => tree.isWhole && haveWhole rest

end

theorem step_awaitValue (frames : List Frame) (token : Token) :
    Reading.step (.awaitValue frames) token = Reading.begin frames token := by
  cases token <;> rfl

theorem step_awaitItem (frames : List Frame) {token : Token} (opens : token ≠ .closeArray) :
    Reading.step (.awaitItem frames) token = Reading.begin (.array [] :: frames) token := by
  cases token <;> first | rfl | exact absurd rfl opens

mutual

/-- Reading the tokens of a whole tree, where a value may begin, completes that tree. -/
theorem read_tokens (tree : Tree) (frames : List Frame) (whole : tree.isWhole = true) :
    ∃ first rest, tree.tokens = first :: rest ∧ first ≠ .closeArray ∧
      rest.foldl Reading.step (Reading.begin frames first) = .done tree frames := by
  match tree, whole with
  | .null, _ => exact ⟨_, _, rfl, by simp, rfl⟩
  | .boolean _, _ => exact ⟨_, _, rfl, by simp, rfl⟩
  | .number _, _ => exact ⟨_, _, rfl, by simp, rfl⟩
  | .text _, _ => exact ⟨_, _, rfl, by simp, rfl⟩
  | .array [] closed, whole =>
      simp only [Tree.isWhole, Bool.and_eq_true] at whole
      obtain ⟨rfl, _⟩ := whole
      exact ⟨_, _, rfl, by simp, rfl⟩
  | .array (item :: items) closed, whole =>
      simp only [Tree.isWhole, areWhole, Bool.and_eq_true] at whole
      obtain ⟨rfl, itemWhole, itemsWhole⟩ := whole
      refine ⟨_, _, rfl, by simp, ?_⟩
      obtain ⟨first, rest, tokens, opens, reads⟩ :=
        read_tokens item (.array [] :: frames) itemWhole
      have others := read_itemTokens items item [] frames itemsWhole
      change List.foldl Reading.step (.awaitItem frames) _ = _
      simpa only [itemTokens, tokens, if_true, List.nil_append, List.cons_append,
        List.foldl_cons, step_awaitItem frames opens, List.append_assoc, List.foldl_append,
        reads, List.reverse_singleton, List.singleton_append] using others
  | .object [] closed, whole =>
      simp only [Tree.isWhole, Bool.and_eq_true] at whole
      obtain ⟨rfl, _⟩ := whole
      exact ⟨_, _, rfl, by simp, rfl⟩
  | .object ((key, value) :: members) closed, whole =>
      simp only [Tree.isWhole, haveWhole, Bool.and_eq_true] at whole
      obtain ⟨rfl, valueWhole, membersWhole⟩ := whole
      refine ⟨_, _, rfl, by simp, ?_⟩
      obtain ⟨first, rest, tokens, _, reads⟩ :=
        read_tokens value (.object [] key :: frames) valueWhole
      have others := read_memberTokens members key value [] frames membersWhole
      change List.foldl Reading.step (.awaitKey [] true frames) _ = _
      simpa only [memberTokens, tokens, if_true, List.nil_append, List.cons_append,
        List.foldl_cons, Reading.step, List.append_assoc, List.foldl_append, reads,
        List.reverse_singleton, List.singleton_append] using others

/-- Reading the items that follow one, with their commas, and the end completes the array. -/
theorem read_itemTokens (items : List Tree) (item : Tree) (before : List Tree)
    (frames : List Frame) (whole : areWhole items = true) :
    (itemTokens false items ++ [Token.closeArray]).foldl Reading.step
        (.done item (.array before :: frames)) =
      .done (.array ((item :: before).reverse ++ items) true) frames := by
  match items, whole with
  | [], _ => simp [itemTokens, Reading.step]
  | next :: rest, whole =>
      simp only [areWhole, Bool.and_eq_true] at whole
      obtain ⟨first, others, tokens, _, reads⟩ :=
        read_tokens next (.array (item :: before) :: frames) whole.1
      have following := read_itemTokens rest next (item :: before) frames whole.2
      rw [List.foldl_append] at following
      have comma : Reading.step (.done item (.array before :: frames)) .comma =
          .awaitValue (.array (item :: before) :: frames) := rfl
      simp only [itemTokens, Bool.false_eq_true, if_false, tokens, List.cons_append,
        List.nil_append, List.foldl_cons, comma, step_awaitValue, List.append_assoc,
        List.foldl_append, reads, following]
      simp

/-- Reading the members that follow one, with their commas, and the end completes the object. -/
theorem read_memberTokens (members : List Member) (key : Option String)
    (value : Tree) (before : List Member) (frames : List Frame)
    (whole : haveWhole members = true) :
    (memberTokens false members ++ [Token.closeObject]).foldl Reading.step
        (.done value (.object before key :: frames)) =
      .done (.object (((key, value) :: before).reverse ++ members) true) frames := by
  match members, whole with
  | [], _ => simp [memberTokens, Reading.step]
  | (nextKey, next) :: rest, whole =>
      simp only [haveWhole, Bool.and_eq_true] at whole
      obtain ⟨first, others, tokens, _, reads⟩ :=
        read_tokens next (.object ((key, value) :: before) nextKey :: frames) whole.1
      have following :=
        read_memberTokens rest nextKey next ((key, value) :: before) frames whole.2
      rw [List.foldl_append] at following
      have comma : Reading.step (.done value (.object before key :: frames)) .comma =
          .awaitKey ((key, value) :: before) false frames := rfl
      have named : Reading.step (.awaitKey ((key, value) :: before) false frames)
          (.text nextKey) = .awaitColon ((key, value) :: before) nextKey frames := rfl
      have colon : Reading.step (.awaitColon ((key, value) :: before) nextKey frames) .colon =
          .awaitValue (.object ((key, value) :: before) nextKey :: frames) := rfl
      simp only [memberTokens, Bool.false_eq_true, if_false, tokens, List.cons_append,
        List.nil_append, List.foldl_cons, comma, named, colon, step_awaitValue,
        List.append_assoc, List.foldl_append, reads, following]
      simp

end

/-- The document of the tokens of a whole tree is that tree. -/
theorem ofTokens_tokens (tree : Tree) (whole : tree.isWhole = true) :
    Document.ofTokens tree.tokens = ⟨tree, true⟩ := by
  obtain ⟨first, rest, tokens, _, reads⟩ := read_tokens tree [] whole
  simp only [Document.ofTokens, tokens, List.foldl_cons, step_awaitValue, reads, Reading.finish]

end ExamGrants.Json
