import ExamGrants.Proofs.Json.Reading

namespace ExamGrants.Json

/-! Texts that go on.

When more of a text is read, its tree changes only at the place where it broke off
(`Reading.goesOn_step`).  The beginning of an array or object is read to what stands in it
(`foldl_step_items`, `foldl_step_members`), and its tokens may stand in one text
(`isChain_items`, `isChain_members`).
-/

/-- The second list begins as the first one does, up to the last element of the first one,
which may have gone on. -/
inductive ListGoesOn {α : Type} (GoesOn : α → α → Prop) : List α → List α → Prop where
  | more (rest : List α) : ListGoesOn GoesOn [] rest
  | last {item later : α} (inside : GoesOn item later) (rest : List α) :
      ListGoesOn GoesOn [item] (later :: rest)
  | next (item : α) {items later : List α} (others : ListGoesOn GoesOn items later) :
      ListGoesOn GoesOn (item :: items) (item :: later)

namespace ListGoesOn

variable {α : Type} {GoesOn : α → α → Prop}

theorem append_left (before : List α) {items later : List α}
    (goesOn : ListGoesOn GoesOn items later) :
    ListGoesOn GoesOn (before ++ items) (before ++ later) := by
  induction before with
  | nil => exact goesOn
  | cons item rest ih => exact .next item ih

theorem longer (items rest : List α) : ListGoesOn GoesOn items (items ++ rest) := by
  simpa using append_left items (.more rest)

theorem refl (items : List α) : ListGoesOn GoesOn items items := by
  simpa using longer items []

theorem nextReversed (items : List α) (item : α) :
    ListGoesOn GoesOn items.reverse (item :: items).reverse := by
  simpa using longer items.reverse [item]

theorem lastReversed (items : List α) {item later : α} (inside : GoesOn item later) :
    ListGoesOn GoesOn (item :: items).reverse (later :: items).reverse := by
  simpa using append_left items.reverse (.last inside [])

end ListGoesOn

/-- The value under a key goes on. -/
inductive MemberGoesOn (GoesOn : Tree → Tree → Prop) : Member → Member → Prop where
  | value (key : Option String) {tree later : Tree} (inside : GoesOn tree later) :
      MemberGoesOn GoesOn (key, tree) (key, later)

/-- The tree of a text, and the tree of a longer text that begins with it. -/
inductive Tree.GoesOn : Tree → Tree → Prop where
  | same (tree : Tree) : GoesOn tree tree
  | begun (tree : Tree) : GoesOn .broken tree
  | array {items later : List Tree} (inside : ListGoesOn GoesOn items later) (closed : Bool) :
      GoesOn (.array items false) (.array later closed)
  | object {members later : List Member}
      (inside : ListGoesOn (MemberGoesOn GoesOn) members later) (closed : Bool) :
      GoesOn (.object members false) (.object later closed)

theorem Tree.GoesOn.enclose {tree later : Tree} (goesOn : tree.GoesOn later)
    (frames : List Frame) : (enclose tree frames).GoesOn (enclose later frames) := by
  induction frames generalizing tree later with
  | nil => exact goesOn
  | cons frame frames ih =>
      cases frame with
      | array items => exact ih (.array (.lastReversed items goesOn) false)
      | object members key => exact ih (.object (.lastReversed members (.value key goesOn)) false)

theorem enclose_object_reverse (members : List Member) (key : Option String) (tree : Tree)
    (frames : List Frame) :
    enclose tree (.object members.reverse key :: frames) =
      enclose (.object (members ++ [(key, tree)]) false) frames := by
  rw [enclose, List.reverse_cons, List.reverse_reverse]

namespace Reading

theorem finish_done (tree : Tree) (frames : List Frame) :
    (finish (.done tree frames)).tree = enclose tree frames := by
  cases frames <;> rfl

/-- A value that begins stands where it was awaited. -/
theorem finish_begin (frames : List Frame) (token : Token) :
    ∃ tree, (begin frames token).finish.tree = enclose tree frames := by
  cases token with
  | openArray => exact ⟨.array [] false, rfl⟩
  | openObject => exact ⟨.object [] false, rfl⟩
  | null | boolean | number | text => exact ⟨_, finish_done _ frames⟩
  | closeArray | closeObject | comma | colon | junk => exact ⟨.broken, rfl⟩

theorem goesOn_done {tree later : Tree} (goesOn : tree.GoesOn later) (frames : List Frame) :
    (enclose tree frames).GoesOn (finish (.done later frames)).tree := by
  rw [finish_done]
  exact goesOn.enclose frames

/-- Reading one more token changes the tree at its end only. -/
theorem goesOn_step (reading : Reading) (token : Token) :
    reading.finish.tree.GoesOn (reading.step token).finish.tree := by
  cases reading with
  | awaitValue frames =>
      obtain ⟨tree, begins⟩ := finish_begin frames token
      rw [step_awaitValue, begins]
      exact (Tree.GoesOn.begun tree).enclose frames
  | awaitItem frames =>
      by_cases closes : token = .closeArray
      · subst closes
        exact goesOn_done (.array (.refl []) true) frames
      · obtain ⟨tree, begins⟩ := finish_begin (.array [] :: frames) token
        rw [step_awaitItem frames closes, begins]
        exact (Tree.GoesOn.array (.more [tree]) false).enclose frames
  | awaitKey members begun frames =>
      cases token with
      | text content =>
          have keyed : (Tree.object members.reverse false).GoesOn
              (.object ((content, .broken) :: members).reverse false) :=
            .object (.nextReversed members _) false
          exact keyed.enclose frames
      | closeObject =>
          cases begun with
          | false => exact .same _
          | true => exact goesOn_done (.object (.refl _) true) frames
      | _ => cases begun <;> exact .same _
  | awaitColon members key frames => cases token <;> exact .same _
  | done tree frames =>
      cases frames with
      | nil => exact .same tree
      | cons frame frames =>
          cases frame with
          | array items =>
              cases token with
              | comma =>
                  have next : (Tree.array (tree :: items).reverse false).GoesOn
                      (.array (.broken :: tree :: items).reverse false) :=
                    .array (.nextReversed (tree :: items) _) false
                  exact next.enclose frames
              | closeArray => exact goesOn_done (.array (.refl _) true) frames
              | _ => exact .same _
          | object members key =>
              cases token with
              | closeObject => exact goesOn_done (.object (.refl _) true) frames
              | _ => exact .same _
  | stuck tree => exact .same tree

/-! ## Arrays and objects up to some place -/

theorem foldl_step_tokens {tree : Tree} (whole : tree.isWhole = true) (frames : List Frame) :
    tree.tokens.foldl step (.awaitValue frames) = .done tree frames := by
  obtain ⟨first, rest, tokens, _, reads⟩ := read_tokens tree frames whole
  rw [tokens, List.foldl_cons, step_awaitValue, reads]

/-- Each item that a comma follows is one more item of the open array. -/
theorem foldl_step_items (items before : List Tree) (frames : List Frame)
    (whole : ∀ tree ∈ items, tree.isWhole = true) :
    (items.flatMap itemThenComma).foldl step (.awaitValue (.array before :: frames)) =
      .awaitValue (.array (items.reverse ++ before) :: frames) := by
  induction items generalizing before with
  | nil => rfl
  | cons tree rest ih =>
      obtain ⟨treeWhole, restWhole⟩ := List.forall_mem_cons.mp whole
      have comma : step (.done tree (.array before :: frames)) .comma =
          .awaitValue (.array (tree :: before) :: frames) := rfl
      rw [List.flatMap_cons, List.foldl_append, itemThenComma, List.foldl_append,
        foldl_step_tokens treeWhole, List.foldl_cons, List.foldl_nil, comma, ih _ restWhole]
      simp

theorem foldl_step_awaitItem (frames : List Frame) {first : Token} (opens : first ≠ .closeArray)
    (rest : List Token) :
    (first :: rest).foldl step (.awaitItem frames) =
      (first :: rest).foldl step (.awaitValue (.array [] :: frames)) := by
  rw [List.foldl_cons, List.foldl_cons, step_awaitItem frames opens, step_awaitValue]

/-- After the items of an array and their commas the next item is awaited. -/
theorem foldl_step_begunArray (items : List Tree) (frames : List Frame)
    (whole : ∀ tree ∈ items, tree.isWhole = true) {first : Token} (opens : first ≠ .closeArray)
    (rest : List Token) :
    (items.flatMap itemThenComma ++ first :: rest).foldl step (.awaitItem frames) =
      (first :: rest).foldl step (.awaitValue (.array items.reverse :: frames)) := by
  have entered : (items.flatMap itemThenComma ++ first :: rest).foldl step (.awaitItem frames) =
      (items.flatMap itemThenComma ++ first :: rest).foldl step
        (.awaitValue (.array [] :: frames)) := by
    cases items with
    | nil => exact foldl_step_awaitItem frames opens rest
    | cons tree others =>
        obtain ⟨head, tail, tokens, headOpens, _⟩ :=
          read_tokens tree frames (whole tree List.mem_cons_self)
        rw [List.flatMap_cons, itemThenComma, tokens]
        exact foldl_step_awaitItem frames headOpens _
  rw [entered, List.foldl_append, foldl_step_items items [] frames whole, List.append_nil]

/-- Each member that a comma follows is one more member of the open object. -/
theorem foldl_step_members (members before : List Member) (begun : Bool) (frames : List Frame)
    (whole : ∀ member ∈ members, member.2.isWhole = true) :
    (members.flatMap memberThenComma).foldl step (.awaitKey before begun frames) =
      .awaitKey (members.reverse ++ before) (begun && members.isEmpty) frames := by
  induction members generalizing before begun with
  | nil => simp
  | cons member rest ih =>
      obtain ⟨treeWhole, restWhole⟩ := List.forall_mem_cons.mp whole
      have opened : step (step (.awaitKey before begun frames) (.text member.1)) .colon =
          .awaitValue (.object before member.1 :: frames) := rfl
      have comma : step (.done member.2 (.object before member.1 :: frames)) .comma =
          .awaitKey (member :: before) false frames := rfl
      rw [List.flatMap_cons, List.foldl_append, memberThenComma, List.foldl_cons,
        List.foldl_cons, opened, List.foldl_append, foldl_step_tokens treeWhole,
        List.foldl_cons, List.foldl_nil, comma, ih _ _ restWhole]
      simp

/-- After the members of an object and their commas the next key is awaited. -/
theorem foldl_step_begunObject (members : List Member) (frames : List Frame)
    (whole : ∀ member ∈ members, member.2.isWhole = true) (rest : List Token) :
    (.openObject :: (members.flatMap memberThenComma ++ rest)).foldl step (.awaitValue frames) =
      rest.foldl step (.awaitKey members.reverse members.isEmpty frames) := by
  have opened : step (.awaitValue frames) .openObject = .awaitKey [] true frames := rfl
  rw [List.foldl_cons, opened, List.foldl_append, foldl_step_members members [] true frames whole,
    List.append_nil, Bool.true_and]

end Reading

/-! ## Their tokens in a text -/

theorem isChain_tokens_comma {tree : Tree} (whole : tree.isWhole = true) {more : List Token}
    (chain : more.IsChain Token.Meets) : (tree.tokens ++ .comma :: more).IsChain Token.Meets := by
  have following : (Token.comma :: more).IsChain Token.Meets :=
    List.isChain_cons.mpr ⟨fun _ _ => .inl rfl, chain⟩
  refine List.isChain_append.mpr ⟨isChain_tokens tree whole, following, ?_⟩
  intro last _ head begins
  cases begins
  exact .inr rfl

theorem isChain_items {items : List Tree} (whole : ∀ tree ∈ items, tree.isWhole = true)
    {more : List Token} (chain : more.IsChain Token.Meets) :
    (items.flatMap itemThenComma ++ more).IsChain Token.Meets := by
  induction items with
  | nil => exact chain
  | cons tree rest ih =>
      obtain ⟨treeWhole, restWhole⟩ := List.forall_mem_cons.mp whole
      simpa [itemThenComma] using isChain_tokens_comma treeWhole (ih restWhole)

theorem isChain_members {members : List Member}
    (whole : ∀ member ∈ members, member.2.isWhole = true)
    {more : List Token} (chain : more.IsChain Token.Meets) :
    (members.flatMap memberThenComma ++ more).IsChain Token.Meets := by
  induction members with
  | nil => exact chain
  | cons member rest ih =>
      obtain ⟨treeWhole, restWhole⟩ := List.forall_mem_cons.mp whole
      have valued := isChain_tokens_comma treeWhole (ih restWhole)
      have keyed : (.text member.1 :: .colon ::
          (member.2.tokens ++ .comma :: (rest.flatMap memberThenComma ++ more))).IsChain
          Token.Meets :=
        .cons_cons (.inr rfl) (List.isChain_cons.mpr ⟨fun _ _ => .inl rfl, valued⟩)
      simpa [memberThenComma] using keyed

theorem isChain_begunObject {members : List Member}
    (whole : ∀ member ∈ members, member.2.isWhole = true) {more : List Token}
    (chain : more.IsChain Token.Meets) :
    (.openObject :: (members.flatMap memberThenComma ++ more)).IsChain Token.Meets :=
  List.isChain_cons.mpr ⟨fun _ _ => .inl rfl, isChain_members whole chain⟩

end ExamGrants.Json
