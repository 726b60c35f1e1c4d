import ExamGrants.Proofs.Json.Prefixes
import ExamGrants.Proofs.Json.Records

namespace ExamGrants.Json

/-! The first fault of a text is its only one.

A codec keeps its faults when what it finds wrong in the tree of a text it also finds wrong
in the tree of any longer text (`Codec.KeepsFaults`); only the fault that the text breaks off
can go away.  Names, lists and records keep theirs, so a text is refused for a fault that
shows at some place in it whatever follows there (`Codec.read_eq_error_of_beginning`).
-/

theorem error_malformed_ne {α : Type} {fault : Fault} (found : fault ≠ .malformed) :
    (.error .malformed : Except Fault α) ≠ .error fault :=
  fun same => found (Except.error.inj same).symm

namespace Codec

variable {α : Type}

/-- What the codec finds wrong in a tree stays wrong when the text goes on. -/
def KeepsFaults (codec : Codec α) : Prop :=
  ∀ {tree later : Tree} {fault : Fault}, tree.GoesOn later → fault ≠ .malformed →
    codec.decode tree = .error fault → codec.decode later = .error fault

/-! ## Names -/

/-- What is wrong with the object form of a name shows in its first member. -/
theorem named_keepsFirst [Named α] {name : String} {tree later : Tree} {fault : Fault}
    {rest others : List Member} {closed : Bool} (goesOn : tree.GoesOn later)
    (found : fault ≠ .malformed)
    (failed : (named : Codec α).decode (.object ((some name, tree) :: rest) false) =
      .error fault) :
    (named : Codec α).decode (.object ((some name, later) :: others) closed) = .error fault := by
  -- An unknown name is refused before its value is looked at.
  cases known : (decodeName name : Except Fault α) with
  | error reason =>
      simp only [named, known] at failed ⊢
      exact failed
  | ok member =>
      simp only [named, known, ok_bind] at failed ⊢
      cases goesOn with
      | same tree =>
          cases tree with
          | null => cases rest <;> exact absurd failed (error_malformed_ne found)
          | broken => exact absurd failed (error_malformed_ne found)
          | _ => exact failed
      | begun => exact absurd failed (error_malformed_ne found)
      | array | object => exact failed

theorem keepsFaults_named [Named α] : (named : Codec α).KeepsFaults := by
  intro tree later fault goesOn found failed
  cases goesOn with
  | same => exact failed
  | begun | array => exact absurd failed (error_malformed_ne found)
  | object inside closed =>
      cases inside with
      | more => exact absurd failed (error_malformed_ne found)
      | last inside rest =>
          cases inside with
          | value key inside =>
              cases key with
              | none => exact absurd failed (error_malformed_ne found)
              | some name => exact named_keepsFirst inside found failed
      | next member others =>
          obtain ⟨key, tree⟩ := member
          cases key with
          | none => exact absurd failed (error_malformed_ne found)
          | some name => exact named_keepsFirst (.same tree) found failed

theorem decodeName_eq_error [Named α] {name : String} (unknown : name ∉ Named.names α) :
    (decodeName name : Except Fault α) = .error (.unknownName name (Named.names α)) := by
  have unnamed : (Named.ofName? name : Option α) = none := by
    refine Option.eq_none_iff_forall_ne_some.mpr fun member found => unknown ?_
    rw [Named.ofName?_eq_some_iff.mp found]
    exact List.mem_map_of_mem (Named.mem_all member)
  simp only [decodeName, unnamed]

/-- A name that is not known is refused when it has been read, before what may follow it. -/
theorem named_decode_unknownName [Named α] {name : String} {tree : Tree}
    (unknown : name ∉ Named.names α)
    (shows : tree = .text (some name) ∨ tree = .object [(some name, .broken)] false) :
    (named : Codec α).decode tree = .error (.unknownName name (Named.names α)) := by
  obtain rfl | rfl := shows
  · exact decodeName_eq_error unknown
  · simp only [named, decodeName_eq_error unknown]
    rfl

/-! ## Lists -/

theorem mapM_keepsFaults {codec : Codec α} (keeps : codec.KeepsFaults) {items later : List Tree}
    {fault : Fault} (goesOn : ListGoesOn Tree.GoesOn items later) (found : fault ≠ .malformed)
    (failed : items.mapM codec.decode = .error fault) :
    later.mapM codec.decode = .error fault := by
  induction goesOn with
  | more => cases failed
  | last inside rest =>
      rw [List.mapM_cons, bind_eq_error_iff] at failed ⊢
      obtain first | ⟨_, _, others⟩ := failed
      · exact .inl (keeps inside found first)
      · cases others
  | next item others ih =>
      rw [List.mapM_cons, bind_eq_error_iff] at failed ⊢
      obtain first | ⟨value, read, following⟩ := failed
      · exact .inl first
      · obtain failed | ⟨_, _, built⟩ := bind_eq_error_iff.mp following
        · exact .inr ⟨value, read, bind_eq_error_iff.mpr (.inl (ih failed))⟩
        · cases built

theorem keepsFaults_list {codec : Codec α} (keeps : codec.KeepsFaults) :
    (list codec).KeepsFaults := by
  intro tree later fault goesOn found failed
  cases goesOn with
  | same => exact failed
  | begun => exact absurd failed (error_malformed_ne found)
  | array inside closed =>
      obtain failed | ⟨_, _, unclosed⟩ := bind_eq_error_iff.mp failed
      · exact bind_eq_error_iff.mpr (.inl (mapM_keepsFaults keeps inside found failed))
      · exact absurd unclosed (error_malformed_ne found)
  | object => exact failed

end Codec

/-! ## Records -/

namespace RecordFormat

variable {α Field : Type} [Named Field] [DecidableEq Field] {format : RecordFormat α Field}

theorem decodeMembers_append (slots : format.Slots) (members rest : List Member) :
    format.decodeMembers slots (members ++ rest) =
      format.decodeMembers slots members >>= fun read => format.decodeMembers read rest := by
  induction members generalizing slots with
  | nil => rfl
  | cons member members ih =>
      obtain ⟨key, tree⟩ := member
      cases key with
      | none => rfl
      | some key =>
          simp only [List.cons_append, decodeMembers, ih]
          split
          · split <;> rfl
          · next field _ =>
              split
              · rfl
              · rw [bind_assoc]

theorem decodeMember_keepsFaults (keeps : ∀ field, (format.codec field).KeepsFaults)
    {slots : format.Slots} {key : Option String} {tree later : Tree} {fault : Fault}
    (goesOn : tree.GoesOn later) (found : fault ≠ .malformed)
    (failed : format.decodeMembers slots [(key, tree)] = .error fault) :
    format.decodeMembers slots [(key, later)] = .error fault := by
  cases key with
  | none => exact failed
  | some key =>
      simp only [decodeMembers] at failed ⊢
      split at failed
      · exact failed
      · next field _ =>
          split at failed
          · exact failed
          · obtain refused | ⟨_, _, others⟩ := bind_eq_error_iff.mp failed
            · exact bind_eq_error_iff.mpr (.inl (keeps field goesOn found refused))
            · cases others

theorem decodeMembers_keepsFaults (keeps : ∀ field, (format.codec field).KeepsFaults)
    {members later : List Member} {fault : Fault}
    (goesOn : ListGoesOn (MemberGoesOn Tree.GoesOn) members later) (found : fault ≠ .malformed)
    {slots : format.Slots} (failed : format.decodeMembers slots members = .error fault) :
    format.decodeMembers slots later = .error fault := by
  -- Members are read one by one, and only the last one can have gone on.
  induction goesOn generalizing slots with
  | more => cases failed
  | last inside rest =>
      cases inside with
      | value key inside =>
          have refused := decodeMember_keepsFaults keeps inside found failed
          rw [← List.singleton_append, decodeMembers_append, refused]
          rfl
  | next member others ih =>
      rw [← List.singleton_append, decodeMembers_append, bind_eq_error_iff] at failed ⊢
      obtain first | ⟨read, known, following⟩ := failed
      · exact .inl first
      · exact .inr ⟨read, known, ih following⟩

theorem decodeInOrder_keepsFaults (keeps : ∀ field, (format.codec field).KeepsFaults)
    {items later : List Tree} {fault : Fault} (goesOn : ListGoesOn Tree.GoesOn items later)
    (found : fault ≠ .malformed) {slots : format.Slots} {fields : List Field}
    (failed : format.decodeInOrder slots fields items = .error fault) :
    format.decodeInOrder slots fields later = .error fault := by
  induction goesOn generalizing slots fields with
  | more => simp [decodeInOrder] at failed
  | last inside rest =>
      cases fields with
      | nil => exact failed
      | cons field fields =>
          obtain first | ⟨_, _, others⟩ := bind_eq_error_iff.mp failed
          · exact bind_eq_error_iff.mpr (.inl (keeps field inside found first))
          · simp [decodeInOrder] at others
  | next item others ih =>
      cases fields with
      | nil => exact failed
      | cons field fields =>
          obtain first | ⟨value, read, following⟩ := bind_eq_error_iff.mp failed
          · exact bind_eq_error_iff.mpr (.inl first)
          · exact bind_eq_error_iff.mpr (.inr ⟨value, read, ih following⟩)

theorem keepsFaults_toCodec (keeps : ∀ field, (format.codec field).KeepsFaults) :
    format.toCodec.KeepsFaults := by
  intro tree later fault goesOn found failed
  cases goesOn with
  | same => exact failed
  | begun => exact absurd failed (error_malformed_ne found)
  | array inside closed =>
      obtain failed | ⟨_, _, following⟩ := bind_eq_error_iff.mp failed
      · exact bind_eq_error_iff.mpr (.inl (decodeInOrder_keepsFaults keeps inside found failed))
      · exact absurd following (error_malformed_ne found)
  | object inside closed =>
      obtain failed | ⟨_, _, following⟩ := bind_eq_error_iff.mp failed
      · exact bind_eq_error_iff.mpr (.inl (decodeMembers_keepsFaults keeps inside found failed))
      · exact absurd following (error_malformed_ne found)

end RecordFormat

/-! ## Texts -/

namespace Codec

variable {α : Type} {codec : Codec α} {fault : Fault}

theorem decode_foldl_step (keeps : codec.KeepsFaults) (found : fault ≠ .malformed)
    {reading : Reading} (failed : codec.decode reading.finish.tree = .error fault)
    (more : List Token) :
    codec.decode (more.foldl Reading.step reading).finish.tree = .error fault := by
  induction more generalizing reading with
  | nil => exact failed
  | cons token rest ih => exact ih (keeps (reading.goesOn_step token) found failed)

/-- A fault that shows in the beginning of a text is what the text is refused for. -/
theorem read_eq_error_of_beginning (keeps : codec.KeepsFaults) (found : fault ≠ .malformed)
    {text : String} {before after : List Char} (parts : text.toList = before ++ after)
    {tokens : List Token} (spelled : TokensSpelledBy tokens before)
    (separated : tokens.IsChain Token.Meets)
    (ends : ∀ numeral, tokens.getLast? ≠ some (.number numeral))
    (failed : codec.decode (Document.ofTokens tokens).tree = .error fault) :
    codec.read text = .error fault := by
  have cut : tokenize text.toList = tokens ++ tokenize after := by
    rw [parts]
    exact tokenize_append spelled separated fun numeral last => absurd last (ends numeral)
  refine bind_eq_error_iff.mpr (.inl ?_)
  rw [Document.ofText, cut, Document.ofTokens, List.foldl_append]
  exact decode_foldl_step keeps found failed _

end Codec

end ExamGrants.Json
