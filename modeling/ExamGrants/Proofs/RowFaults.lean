import ExamGrants.Proofs.Json.ObjectFaults
import ExamGrants.Proofs.TableText

namespace ExamGrants

/-! Where the text of a grant table goes wrong.

A row object goes wrong at a key that is no field or that it has already, at a name that its
field does not know, and at its end while its entity type or role is missing
(`Format.GoesWrong`).  The first row that goes wrong is what the text is refused for, whatever
follows that place (`Table.parse_refuses_first_fault`).
-/

open Json

namespace Format

/-- The names that a value of the field can have. -/
def GrantField.valueNames : GrantField → List String
  | .entityType => Named.names EntityType
  | .role => Named.names Role
  | .base | .institutional | .owner => Named.names Level

/-- The members are fields of the grant under their names, each at most once and in any
order. -/
structure BeginsObjectOf (grant : Grant) (members : List Member) : Prop where
  known : ∀ member ∈ members, ∃ field : GrantField, member.1 = some field.name
  distinct : (members.map Prod.fst).Nodup
  held : ∀ (field : GrantField) (tree : Tree),
    (some field.name, tree) ∈ members → field.Holds grant tree

/-- The tokens of a row object up to the place at which it goes wrong, and what is wrong
there. -/
inductive GoesWrong : List Token → Fault → Prop where
  | unknownField {grant : Grant} {members : List Member} (begins : BeginsObjectOf grant members)
      {key : String} (unknown : ∀ field : GrantField, key ≠ field.name) :
      GoesWrong (.openObject :: (members.flatMap memberThenComma ++ [.text (some key)]))
        (.unknownField key (Named.names GrantField))
  | duplicateField {grant : Grant} {members : List Member}
      (begins : BeginsObjectOf grant members) {field : GrantField}
      (present : some field.name ∈ members.map Prod.fst) :
      GoesWrong (.openObject :: (members.flatMap memberThenComma ++ [.text (some field.name)]))
        (.duplicateField field.name)
  /-- A name stands alone or as the key of an object. -/
  | unknownName {grant : Grant} {members : List Member} (begins : BeginsObjectOf grant members)
      {field : GrantField} (absent : some field.name ∉ members.map Prod.fst) {name : String}
      (unknown : name ∉ field.valueNames) {opening : List Token}
      (stands : opening = [] ∨ opening = [.openObject]) :
      GoesWrong
        (.openObject :: (members.flatMap memberThenComma ++
          .text (some field.name) :: .colon :: (opening ++ [.text (some name)])))
        (.unknownName name field.valueNames)
  /-- The entity type comes first. -/
  | missingField {grant : Grant} {members : List Member} (begins : BeginsObjectOf grant members)
      {field : GrantField} (needed : field = .entityType ∨ field = .role)
      (absent : some field.name ∉ members.map Prod.fst)
      (first : field = .role → some GrantField.entityType.name ∈ members.map Prod.fst) :
      GoesWrong (Tree.object members true).tokens (.missingField field.name)

/-! ## What stands before that place -/

theorem isWhole_of_isNameOf {α : Type} [Named α] {member : α} {tree : Tree}
    (named : Codec.IsNameOf member tree) : tree.isWhole = true := by
  cases named <;> rfl

theorem GrantField.Holds.isWhole {grant : Grant} {field : GrantField} {tree : Tree}
    (holds : field.Holds grant tree) : tree.isWhole = true := by
  cases field with
  | entityType => exact isWhole_of_isNameOf (α := EntityType) holds
  | role => exact isWhole_of_isNameOf (α := Role) holds
  | base | institutional | owner => exact isWhole_of_isNameOf (α := Level) holds

theorem GrantField.exists_position {place : Nat} (fits : place < 5) :
    ∃ field : GrantField, Named.position field = place := by
  match place, fits with
  | 0, _ => exact ⟨.entityType, rfl⟩
  | 1, _ => exact ⟨.role, rfl⟩
  | 2, _ => exact ⟨.base, rfl⟩
  | 3, _ => exact ⟨.institutional, rfl⟩
  | 4, _ => exact ⟨.owner, rfl⟩

theorem IsObjectOf.begins {grant : Grant} {members : List Member}
    (listed : IsObjectOf grant members) : BeginsObjectOf grant members :=
  ⟨listed.known, listed.distinct, listed.held⟩

namespace BeginsObjectOf

variable {grant : Grant} {members : List Member}

theorem isWhole (begins : BeginsObjectOf grant members) :
    ∀ member ∈ members, member.2.isWhole = true := by
  intro member listed
  obtain ⟨field, named⟩ := begins.known member listed
  obtain ⟨key, tree⟩ := member
  subst named
  exact (begins.held field tree listed).isWhole

theorem object_isWhole (begins : BeginsObjectOf grant members) :
    (Tree.object members true).isWhole = true := by
  simpa [Tree.isWhole, haveWhole_iff] using begins.isWhole

theorem toRecord (begins : BeginsObjectOf grant members) :
    grantRecord.Begins grant members :=
  ⟨begins.known, begins.distinct,
    fun field tree listed => GrantField.decode_eq_ok_iff.mpr (begins.held field tree listed)⟩

end BeginsObjectOf

theorem IsGrant.isWhole {tree : Tree} {grant : Grant} (written : IsGrant tree grant) :
    tree.isWhole = true := by
  cases written with
  | object listed => exact listed.begins.object_isWhole
  | array listed =>
      simp only [Tree.isWhole, Bool.true_and, areWhole_iff]
      intro tree member
      obtain ⟨place, stands⟩ := List.mem_iff_getElem?.mp member
      have inside := (List.getElem?_eq_some_iff.mp stands).1
      obtain ⟨field, rfl⟩ := GrantField.exists_position (inside.trans_le listed.fits)
      exact (listed.held field tree stands).isWhole

theorem isWhole_of_areGrants {rows : List Tree}
    (acceptable : ∀ tree ∈ rows, ∃ grant, IsGrant tree grant) :
    ∀ tree ∈ rows, tree.isWhole = true := by
  intro tree listed
  obtain ⟨grant, written⟩ := acceptable tree listed
  exact written.isWhole

theorem GrantField.decode_unknownName {field : GrantField} {name : String} {tree : Tree}
    (unknown : name ∉ field.valueNames)
    (shows : tree = .text (some name) ∨ tree = .object [(some name, .broken)] false) :
    (grantRecord.codec field).decode tree = .error (.unknownName name field.valueNames) := by
  cases field with
  | entityType => exact Codec.named_decode_unknownName (α := EntityType) unknown shows
  | role => exact Codec.named_decode_unknownName (α := Role) unknown shows
  | base | institutional | owner =>
      exact Codec.named_decode_unknownName (α := Level) unknown shows

/-! ## The row that goes wrong -/

/-- A row is read as far as it goes, and what is read of it shows what is wrong. -/
theorem GoesWrong.shows {tokens : List Token} {fault : Fault} (wrong : GoesWrong tokens fault) :
    ∃ tree, grantRecord.decode tree = .error fault ∧ ∀ frames,
      (tokens.foldl Reading.step (.awaitValue frames)).finish.tree = enclose tree frames := by
  cases wrong with
  | @unknownField grant members begins key unknown =>
      refine ⟨_, begins.toRecord.decode_unknownField rfl unknown .broken false, fun frames => ?_⟩
      rw [Reading.foldl_step_begunObject members frames begins.isWhole]
      exact enclose_object_reverse members (some key) .broken frames
  | @duplicateField grant members begins field present =>
      refine ⟨_, begins.toRecord.decode_duplicateField present .broken false, fun frames => ?_⟩
      rw [Reading.foldl_step_begunObject members frames begins.isWhole]
      exact enclose_object_reverse members (some field.name) .broken frames
  | @unknownName grant members begins field absent name unknown opening stands =>
      obtain rfl | rfl := stands
      · have refused := GrantField.decode_unknownName unknown (.inl rfl)
        refine ⟨_, begins.toRecord.decode_badField absent refused false, fun frames => ?_⟩
        rw [Reading.foldl_step_begunObject members frames begins.isWhole]
        exact enclose_object_reverse members (some field.name) _ frames
      · have refused := GrantField.decode_unknownName unknown (.inr rfl)
        refine ⟨_, begins.toRecord.decode_badField absent refused false, fun frames => ?_⟩
        rw [Reading.foldl_step_begunObject members frames begins.isWhole]
        exact enclose_object_reverse members (some field.name) _ frames
  | @missingField grant members begins field needed absent first =>
      refine ⟨.object members true, ?_, fun frames => ?_⟩
      · obtain rfl | rfl := needed
        · have order : (Named.all : List GrantField) =
              [] ++ .entityType :: [.role, .base, .institutional, .owner] := rfl
          exact begins.toRecord.decode_missingField order (List.forall_mem_nil _) absent rfl
        · have order : (Named.all : List GrantField) =
              [.entityType] ++ .role :: [.base, .institutional, .owner] := rfl
          exact begins.toRecord.decode_missingField order
            (List.forall_mem_singleton.mpr (.inl (first rfl))) absent rfl
      · rw [Reading.foldl_step_tokens begins.object_isWhole, Reading.finish_done]

theorem GoesWrong.ne_malformed {tokens : List Token} {fault : Fault}
    (wrong : GoesWrong tokens fault) : fault ≠ .malformed := by
  cases wrong <;> exact Fault.noConfusion

theorem GoesWrong.heading {tokens : List Token} {fault : Fault}
    (wrong : GoesWrong tokens fault) : ∃ heading, fault.Heading heading := by
  cases wrong with
  | unknownField => exact ⟨_, .unknownField ..⟩
  | duplicateField => exact ⟨_, .duplicateField ..⟩
  | unknownName => exact ⟨_, .unknownName ..⟩
  | missingField => exact ⟨_, .missingField ..⟩

theorem GoesWrong.eq_openObject_cons {tokens : List Token} {fault : Fault}
    (wrong : GoesWrong tokens fault) : ∃ rest, tokens = .openObject :: rest := by
  cases wrong <;> exact ⟨_, rfl⟩

theorem GoesWrong.getLast?_ne_number {tokens : List Token} {fault : Fault}
    (wrong : GoesWrong tokens fault) (numeral : Numeral) :
    tokens.getLast? ≠ some (.number numeral) := by
  cases wrong with
  | unknownField | duplicateField | missingField => simp [List.getLast?_cons, Tree.tokens]
  | unknownName => simp [List.getLast?_cons, List.getLast?_append]

theorem GoesWrong.isChain {tokens : List Token} {fault : Fault} (wrong : GoesWrong tokens fault) :
    tokens.IsChain Token.Meets := by
  cases wrong with
  | unknownField begins => exact isChain_begunObject begins.isWhole (.singleton _)
  | duplicateField begins => exact isChain_begunObject begins.isWhole (.singleton _)
  | unknownName begins _ _ stands =>
      refine isChain_begunObject begins.isWhole ?_
      obtain rfl | rfl := stands
      · exact .cons_cons (.inr rfl) (.cons_cons (.inl rfl) (.singleton _))
      · exact .cons_cons (.inr rfl) (.cons_cons (.inl rfl) (.cons_cons (.inl rfl) (.singleton _)))
  | missingField begins => exact isChain_tokens _ begins.object_isWhole

theorem grants_keepsFaults : Format.grants.KeepsFaults := by
  refine Codec.keepsFaults_list (RecordFormat.keepsFaults_toCodec fun field => ?_)
  cases field with
  | entityType => exact Codec.keepsFaults_named (α := EntityType)
  | role => exact Codec.keepsFaults_named (α := Role)
  | base | institutional | owner => exact Codec.keepsFaults_named (α := Level)

/-- The first row that goes wrong is wrong with the table, after rows that are all right. -/
theorem decode_grants_eq_error {rows : List Tree} {tokens : List Token} {fault : Fault}
    (acceptable : ∀ tree ∈ rows, ∃ grant, IsGrant tree grant) (wrong : GoesWrong tokens fault) :
    Format.grants.decode
        (Document.ofTokens (.openArray :: (rows.flatMap itemThenComma ++ tokens))).tree =
      .error fault := by
  have whole := isWhole_of_areGrants acceptable
  have decoded : ∀ tree ∈ rows, ∃ grant, Format.grant.decode tree = .ok grant := by
    intro tree listed
    obtain ⟨grant, written⟩ := acceptable tree listed
    exact ⟨grant, grant_decode_eq_ok_iff.mpr written⟩
  obtain ⟨row, refused, read⟩ := wrong.shows
  -- The row stands last in an array that has not ended.
  have table : (Document.ofTokens (.openArray :: (rows.flatMap itemThenComma ++ tokens))).tree =
      .array (rows ++ [row]) false := by
    obtain ⟨rest, rfl⟩ := wrong.eq_openObject_cons
    have opened : Reading.step (.awaitValue []) .openArray = .awaitItem [] := rfl
    rw [Document.ofTokens, List.foldl_cons, opened,
      Reading.foldl_step_begunArray rows [] whole (by simp) rest, read]
    simp [enclose]
  rw [table]
  refine bind_eq_error_iff.mpr (.inl (Codec.mapM_eq_error_iff.mpr ?_))
  exact ⟨rows, row, [], rfl, decoded, refused⟩

end Format

/-- A text is refused for the first problem of the first row that goes wrong, whatever follows
the place at which it shows.  What is said of it begins with the problem and the name. -/
theorem Table.parse_refuses_first_fault {rows : List Tree} {tokens : List Token} {fault : Fault}
    {text : String} {before after : List Char}
    (acceptable : ∀ tree ∈ rows, ∃ grant, Format.IsGrant tree grant)
    (wrong : Format.GoesWrong tokens fault) (parts : text.toList = before ++ after)
    (spelled : TokensSpelledBy (.openArray :: (rows.flatMap itemThenComma ++ tokens)) before) :
    Table.parse text = .error (.invalidTable fault) ∧
      (Problem.invalidTable fault).category = .validation ∧
      ∃ heading rest, fault.Heading heading ∧
        (Problem.invalidTable fault).detail = "invalid grant table: " ++ heading ++ rest := by
  have whole := Format.isWhole_of_areGrants acceptable
  have separated : (.openArray :: (rows.flatMap itemThenComma ++ tokens)).IsChain Token.Meets :=
    List.isChain_cons.mpr ⟨fun _ _ => .inl rfl, isChain_items whole wrong.isChain⟩
  have ends : ∀ numeral, (Token.openArray :: (rows.flatMap itemThenComma ++ tokens)).getLast? ≠
      some (.number numeral) := by
    intro numeral
    obtain ⟨rest, rfl⟩ := wrong.eq_openObject_cons
    simpa [List.getLast?_cons, List.getLast?_append] using wrong.getLast?_ne_number numeral
  have refused := Codec.read_eq_error_of_beginning Format.grants_keepsFaults wrong.ne_malformed
    parts spelled separated ends (Format.decode_grants_eq_error acceptable wrong)
  obtain ⟨heading, headed⟩ := wrong.heading
  obtain ⟨rest, begins⟩ := headed.begins_message
  refine ⟨?_, rfl, heading, rest, headed, ?_⟩
  · rw [Table.parse, refused]
  · have said : (Problem.invalidTable fault).detail = "invalid grant table: " ++ fault.message := rfl
    rw [said, begins, String.append_assoc]

/-- A misspelt key after a good row, in a text that breaks the grammar soon after. -/
theorem Table.parse_refuses_first_fault_misspelt :
    (∃ grant, Format.IsGrant (.array [.text (some "exam"), .text (some "teacher")] true) grant) ∧
      Format.GoesWrong [.openObject, .text (some "role"), .colon, .text (some "teacher"), .comma,
        .text (some "bass")] (.unknownField "bass" (Named.names Format.GrantField)) ∧
      ∃ problem rest,
        Table.parse "[[\"exam\", \"teacher\"], \x7b\"role\": \"teacher\", \"bass\" 7,, [" =
          .error problem ∧ problem.category = .validation ∧
        problem.detail = "invalid grant table: unknown field `bass`" ++ rest := by
  let row : Tree := .array [.text (some "exam"), .text (some "teacher")] true
  let members : List Member := [(some "role", .text (some "teacher"))]
  have acceptable : ∃ grant, Format.IsGrant row grant :=
    ⟨⟨.exam, .teacher, .none⟩, Format.grant_decode_eq_ok_iff.mp rfl⟩
  have begins : Format.BeginsObjectOf ⟨.exam, .teacher, .none⟩ members := by
    refine ⟨?_, by decide, ?_⟩
    · exact List.forall_mem_singleton.mpr ⟨.role, rfl⟩
    · intro field tree listed
      obtain ⟨key, rfl⟩ := Prod.mk.inj (List.mem_singleton.mp listed)
      cases field with
      | role => exact .text
      | _ => exact absurd key (by decide)
  have wrong : Format.GoesWrong [.openObject, .text (some "role"), .colon,
      .text (some "teacher"), .comma, .text (some "bass")]
      (.unknownField "bass" (Named.names Format.GrantField)) :=
    .unknownField begins fun field => by cases field <;> decide
  have cut : tokenize "[[\"exam\", \"teacher\"], \x7b\"role\": \"teacher\", \"bass\"".toList =
      [.openArray, .openArray, .text (some "exam"), .comma, .text (some "teacher"), .closeArray,
        .comma, .openObject, .text (some "role"), .colon, .text (some "teacher"), .comma,
        .text (some "bass")] := by
    decide +kernel
  have spelled := tokenize_sound _ (by rw [cut]; decide)
  rw [cut] at spelled
  have parts : "[[\"exam\", \"teacher\"], \x7b\"role\": \"teacher\", \"bass\" 7,, [".toList =
      "[[\"exam\", \"teacher\"], \x7b\"role\": \"teacher\", \"bass\"".toList ++ " 7,, [".toList := by
    decide +kernel
  have rows : ∀ tree ∈ [row], ∃ grant, Format.IsGrant tree grant :=
    List.forall_mem_singleton.mpr acceptable
  obtain ⟨refused, category, heading, rest, headed, detail⟩ :=
    Table.parse_refuses_first_fault rows wrong parts spelled
  refine ⟨acceptable, wrong, _, rest, refused, category, ?_⟩
  cases headed
  rw [detail]
  congr 1

end ExamGrants
