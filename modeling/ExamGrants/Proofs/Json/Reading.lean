import ExamGrants.Proofs.Json.Scanning

namespace ExamGrants.Json

/-! Reading follows the grammar.

At any time the frames and the value at hand of a reading hold exactly the tokens that have
been read (`Reading.Holds`), unless the text was found to be broken.  So a text that is read
to a complete document is spelled by its tree, and a text that a tree spells is read to it
(`ofText_eq_iff`).
-/

theorem areWhole_iff {items : List Tree} :
    areWhole items = true ↔ ∀ tree ∈ items, tree.isWhole = true := by
  induction items with
  | nil => simp [areWhole]
  | cons tree rest ih => simp [areWhole, ih]

theorem haveWhole_iff {members : List Member} :
    haveWhole members = true ↔ ∀ member ∈ members, member.2.isWhole = true := by
  induction members with
  | nil => simp [haveWhole]
  | cons member rest ih => simp [haveWhole, ih]

/-! ## What a reading holds -/

/-- The tokens of an item that another one follows. -/
def itemThenComma (tree : Tree) : List Token :=
  tree.tokens ++ [.comma]

/-- The tokens of a member that another one follows. -/
def memberThenComma (member : Member) : List Token :=
  .text member.1 :: .colon :: (member.2.tokens ++ [.comma])

theorem itemTokens_append (items : List Tree) (tree : Tree) (first : Bool) :
    itemTokens first (items ++ [tree]) =
      (if first then [] else [.comma]) ++ items.flatMap itemThenComma ++ tree.tokens := by
  induction items generalizing first with
  | nil => simp [itemTokens]
  | cons item rest ih => simp [itemTokens, itemThenComma, ih]

theorem memberTokens_append (members : List Member) (key : Option String) (tree : Tree)
    (first : Bool) :
    memberTokens first (members ++ [(key, tree)]) =
      (if first then [] else [.comma]) ++ members.flatMap memberThenComma ++
        .text key :: .colon :: tree.tokens := by
  induction members generalizing first with
  | nil => simp [memberTokens]
  | cons member rest ih => simp [memberTokens, memberThenComma, ih]

/-- The tokens of an open array or object up to the value that is being read. -/
def Frame.tokens : Frame → List Token
  | .array items => .openArray :: items.reverse.flatMap itemThenComma
  | .object members key =>
      .openObject :: (members.reverse.flatMap memberThenComma ++ [.text key, .colon])

def Frame.IsWhole : Frame → Prop
  | .array items => ∀ tree ∈ items, tree.isWhole = true
  | .object members _ => ∀ member ∈ members, member.2.isWhole = true

/-- The tokens of all open arrays and objects, the outermost first. -/
def openTokens (frames : List Frame) : List Token :=
  frames.reverse.flatMap Frame.tokens

def HoldWhole (frames : List Frame) : Prop :=
  ∀ frame ∈ frames, frame.IsWhole

@[simp] theorem openTokens_cons (frame : Frame) (frames : List Frame) :
    openTokens (frame :: frames) = openTokens frames ++ frame.tokens := by
  simp [openTokens]

@[simp] theorem holdWhole_cons {frame : Frame} {frames : List Frame} :
    HoldWhole (frame :: frames) ↔ frame.IsWhole ∧ HoldWhole frames := by
  simp [HoldWhole]

/-- The reading holds whole values only, and their tokens are the ones read so far. -/
def Reading.Holds (tokens : List Token) : Reading → Prop
  | .awaitValue frames => HoldWhole frames ∧ tokens = openTokens frames
  | .awaitItem frames => HoldWhole frames ∧ tokens = openTokens frames ++ [.openArray]
  | .awaitKey members begun frames =>
      HoldWhole frames ∧ (∀ member ∈ members, member.2.isWhole = true) ∧
        (begun = true → members = []) ∧
        tokens = openTokens frames ++ .openObject :: members.reverse.flatMap memberThenComma
  | .awaitColon members key frames =>
      HoldWhole frames ∧ (∀ member ∈ members, member.2.isWhole = true) ∧
        tokens = openTokens frames ++
          .openObject :: (members.reverse.flatMap memberThenComma ++ [.text key])
  | .done tree frames =>
      HoldWhole frames ∧ tree.isWhole = true ∧ tokens = openTokens frames ++ tree.tokens
  | .stuck _ => True

namespace Reading

variable {tokens : List Token} {frames : List Frame}

theorem holds_begin (whole : HoldWhole frames) (read : tokens = openTokens frames)
    (token : Token) : (begin frames token).Holds (tokens ++ [token]) := by
  subst read
  cases token <;> simp [begin, Holds, whole, Tree.isWhole, Tree.tokens]

theorem holds_closeArray {tree : Tree} {items : List Tree}
    (whole : HoldWhole (.array items :: frames)) (treeWhole : tree.isWhole = true)
    (read : tokens = openTokens (.array items :: frames) ++ tree.tokens) :
    Holds (tokens ++ [.closeArray]) (.done (.array (tree :: items).reverse true) frames) := by
  obtain ⟨itemsWhole, framesWhole⟩ := holdWhole_cons.mp whole
  refine ⟨framesWhole, ?_, ?_⟩
  · simp only [Tree.isWhole, Bool.true_and, areWhole_iff, List.mem_reverse]
    exact List.forall_mem_cons.mpr ⟨treeWhole, itemsWhole⟩
  · subst read
    simp [Frame.tokens, Tree.tokens, itemTokens_append]

theorem holds_closeObject {tree : Tree} {members : List Member} {key : Option String}
    (whole : HoldWhole (.object members key :: frames)) (treeWhole : tree.isWhole = true)
    (read : tokens = openTokens (.object members key :: frames) ++ tree.tokens) :
    Holds (tokens ++ [.closeObject])
      (.done (.object ((key, tree) :: members).reverse true) frames) := by
  obtain ⟨membersWhole, framesWhole⟩ := holdWhole_cons.mp whole
  refine ⟨framesWhole, ?_, ?_⟩
  · simp only [Tree.isWhole, Bool.true_and, haveWhole_iff, List.mem_reverse]
    exact List.forall_mem_cons.mpr ⟨treeWhole, membersWhole⟩
  · subst read
    simp [Frame.tokens, Tree.tokens, memberTokens_append]

/-- Reading a token adds it to what is held. -/
theorem holds_step {reading : Reading} (holds : reading.Holds tokens) (token : Token) :
    (reading.step token).Holds (tokens ++ [token]) := by
  cases reading with
  | awaitValue frames =>
      rw [step_awaitValue]
      exact holds_begin holds.1 holds.2 token
  | awaitItem frames =>
      obtain ⟨whole, rfl⟩ := holds
      by_cases closes : token = .closeArray
      · subst closes
        simp [step, Holds, whole, Tree.isWhole, areWhole, Tree.tokens, itemTokens]
      · rw [step_awaitItem frames closes]
        exact holds_begin (by simp [whole, Frame.IsWhole]) (by simp [Frame.tokens]) token
  | awaitKey members begun frames =>
      obtain ⟨whole, membersWhole, fresh, rfl⟩ := holds
      cases token with
      | text content =>
          refine ⟨whole, membersWhole, ?_⟩
          simp
      | closeObject =>
          cases begun with
          | false => trivial
          | true =>
              obtain rfl := fresh rfl
              refine ⟨whole, rfl, ?_⟩
              simp [Tree.tokens, memberTokens]
      | _ => cases begun <;> trivial
  | awaitColon members key frames =>
      obtain ⟨whole, membersWhole, rfl⟩ := holds
      cases token with
      | colon =>
          refine ⟨holdWhole_cons.mpr ⟨membersWhole, whole⟩, ?_⟩
          simp [Frame.tokens]
      | _ => trivial
  | done tree frames =>
      obtain ⟨whole, treeWhole, read⟩ := holds
      cases frames with
      | nil => trivial
      | cons frame frames =>
          cases frame with
          | array items =>
              cases token with
              | comma =>
                  obtain ⟨itemsWhole, framesWhole⟩ := holdWhole_cons.mp whole
                  have nextWhole : (Frame.array (tree :: items)).IsWhole :=
                    List.forall_mem_cons.mpr ⟨treeWhole, itemsWhole⟩
                  refine ⟨holdWhole_cons.mpr ⟨nextWhole, framesWhole⟩, ?_⟩
                  subst read
                  simp [Frame.tokens, itemThenComma]
              | closeArray => exact holds_closeArray whole treeWhole read
              | _ => trivial
          | object members key =>
              cases token with
              | comma =>
                  obtain ⟨membersWhole, framesWhole⟩ := holdWhole_cons.mp whole
                  refine ⟨framesWhole, List.forall_mem_cons.mpr ⟨treeWhole, membersWhole⟩,
                    by simp, ?_⟩
                  subst read
                  simp [Frame.tokens, memberThenComma]
              | closeObject => exact holds_closeObject whole treeWhole read
              | _ => trivial
  | stuck tree => trivial

theorem holds_foldl {reading : Reading} (holds : reading.Holds tokens) (more : List Token) :
    (more.foldl step reading).Holds (tokens ++ more) := by
  induction more generalizing tokens reading with
  | nil => simpa using holds
  | cons token rest ih =>
      have next := ih (holds_step holds token)
      rwa [List.append_assoc] at next

theorem foldl_step_stuck (tree : Tree) (tokens : List Token) :
    tokens.foldl step (.stuck tree) = .stuck tree := by
  induction tokens with
  | nil => rfl
  | cons token rest ih => exact ih

theorem step_junk (reading : Reading) : ∃ tree, reading.step .junk = .stuck tree := by
  cases reading with
  | awaitKey members begun frames => cases begun <;> exact ⟨_, rfl⟩
  | done tree frames =>
      cases frames with
      | nil => exact ⟨_, rfl⟩
      | cons frame frames => cases frame <;> exact ⟨_, rfl⟩
  | _ => exact ⟨_, rfl⟩

/-- Nothing is read past a place at which no token begins. -/
theorem foldl_step_of_junk (reading : Reading) (junk : Token.junk ∈ tokens) :
    ∃ tree, tokens.foldl step reading = .stuck tree := by
  obtain ⟨before, after, rfl⟩ := List.append_of_mem junk
  obtain ⟨tree, stuck⟩ := step_junk (before.foldl step reading)
  refine ⟨tree, ?_⟩
  rw [List.foldl_append, List.foldl_cons, stuck, foldl_step_stuck]

theorem done_of_complete {reading : Reading} (complete : reading.finish.complete = true) :
    reading = .done reading.finish.tree [] := by
  cases reading with
  | done tree frames =>
      cases frames with
      | nil => rfl
      | cons => cases complete
  | _ => cases complete

end Reading

/-! ## Tokens of a tree -/

theorem isStructural_head_itemTokens {items : List Tree} {token : Token}
    (begins : token ∈ (itemTokens false items).head?) : token.isStructural = true := by
  cases items with
  | nil => cases begins
  | cons => cases begins; rfl

theorem isStructural_head_memberTokens {members : List Member} {token : Token}
    (begins : token ∈ (memberTokens false members).head?) : token.isStructural = true := by
  cases members with
  | nil => cases begins
  | cons => cases begins; rfl

mutual

/-- Brackets and separators stand between the values of a tree. -/
theorem isChain_tokens (tree : Tree) (whole : tree.isWhole = true) :
    tree.tokens.IsChain Token.Meets := by
  match tree, whole with
  | .null, _ | .boolean _, _ | .number _, _ | .text _, _ => exact .singleton _
  | .array items closed, whole =>
      simp only [Tree.isWhole, Bool.and_eq_true] at whole
      obtain ⟨rfl, itemsWhole⟩ := whole
      have chain := isChain_itemTokens items true itemsWhole
      refine List.isChain_cons.mpr ⟨fun _ _ => .inl rfl, ?_⟩
      refine List.isChain_append.mpr ⟨chain, .singleton _, ?_⟩
      rintro last _ close ⟨⟩
      exact .inr rfl
  | .object members closed, whole =>
      simp only [Tree.isWhole, Bool.and_eq_true] at whole
      obtain ⟨rfl, membersWhole⟩ := whole
      have chain := isChain_memberTokens members true membersWhole
      refine List.isChain_cons.mpr ⟨fun _ _ => .inl rfl, ?_⟩
      refine List.isChain_append.mpr ⟨chain, .singleton _, ?_⟩
      rintro last _ close ⟨⟩
      exact .inr rfl

theorem isChain_itemTokens (items : List Tree) (first : Bool) (whole : areWhole items = true) :
    (itemTokens first items).IsChain Token.Meets := by
  match items, whole with
  | [], _ => exact .nil
  | tree :: rest, whole =>
      simp only [areWhole, Bool.and_eq_true] at whole
      have treeChain := isChain_tokens tree whole.1
      have restChain := isChain_itemTokens rest false whole.2
      have joined : (tree.tokens ++ itemTokens false rest).IsChain Token.Meets :=
        List.isChain_append.mpr ⟨treeChain, restChain,
          fun _ _ _ begins => .inr (isStructural_head_itemTokens begins)⟩
      cases first with
      | true => simpa [itemTokens] using joined
      | false =>
          simpa [itemTokens] using List.isChain_cons.mpr ⟨fun _ _ => .inl rfl, joined⟩

theorem isChain_memberTokens (members : List Member) (first : Bool)
    (whole : haveWhole members = true) :
    (memberTokens first members).IsChain Token.Meets := by
  match members, whole with
  | [], _ => exact .nil
  | (key, tree) :: rest, whole =>
      simp only [haveWhole, Bool.and_eq_true] at whole
      have treeChain := isChain_tokens tree whole.1
      have restChain := isChain_memberTokens rest false whole.2
      have joined : (tree.tokens ++ memberTokens false rest).IsChain Token.Meets :=
        List.isChain_append.mpr ⟨treeChain, restChain,
          fun _ _ _ begins => .inr (isStructural_head_memberTokens begins)⟩
      have named : (.text key :: .colon :: (tree.tokens ++ memberTokens false rest)).IsChain
          Token.Meets :=
        .cons_cons (.inr rfl) (List.isChain_cons.mpr ⟨fun _ _ => .inl rfl, joined⟩)
      cases first with
      | true => simpa [memberTokens] using named
      | false =>
          simpa [memberTokens] using List.isChain_cons.mpr ⟨fun _ _ => .inl rfl, named⟩

end

/-! ## Documents -/

/-- A document is complete exactly when its tokens are those of its tree. -/
theorem ofTokens_eq_iff {tokens : List Token} {tree : Tree} :
    Document.ofTokens tokens = ⟨tree, true⟩ ↔ tree.isWhole = true ∧ tokens = tree.tokens := by
  constructor
  · intro read
    have atStart : Reading.Holds [] (.awaitValue []) :=
      ⟨fun _ member => absurd member List.not_mem_nil, rfl⟩
    have held := Reading.holds_foldl atStart tokens
    rw [Reading.done_of_complete (congrArg Document.complete read)] at held
    obtain ⟨_, whole, consumed⟩ := held
    rw [show Reading.finish _ = _ from read] at whole consumed
    exact ⟨whole, consumed⟩
  · rintro ⟨whole, rfl⟩
    exact ofTokens_tokens tree whole

/-- The document of a text is a complete tree exactly when the tree spells the text. -/
theorem ofText_eq_iff {text : String} {tree : Tree} :
    Document.ofText text = ⟨tree, true⟩ ↔ tree.SpelledBy text.toList := by
  rw [Document.ofText, ofTokens_eq_iff]
  constructor
  · rintro ⟨whole, cut⟩
    have readable : Token.junk ∉ tokenize text.toList := by
      intro junk
      obtain ⟨stuck, broken⟩ := Reading.foldl_step_of_junk (.awaitValue []) junk
      have complete := ofTokens_tokens tree whole
      rw [← cut, Document.ofTokens, broken] at complete
      cases complete
    exact ⟨whole, cut ▸ tokenize_sound text.toList readable⟩
  · rintro ⟨whole, spelled⟩
    exact ⟨whole, tokenize_complete spelled (isChain_tokens tree whole)⟩

end ExamGrants.Json
