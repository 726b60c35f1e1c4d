import Mathlib.Data.List.Forall2
import ExamGrants.Json.Codec
import ExamGrants.Proofs.Json.Reading

namespace ExamGrants.Json

/-! What codecs accept.

A text is read to a value exactly when it spells a tree that decodes to the value
(`read_eq_ok_iff`), and what a codec decodes is said tree by tree.
-/

theorem ifClosed_eq_ok_iff {α : Type} {closed : Bool} {given value : α} :
    ifClosed closed given = .ok value ↔ closed = true ∧ given = value := by
  cases closed <;> simp [ifClosed]

theorem ok_bind {ε α β : Type} (value : α) (next : α → Except ε β) :
    (.ok value >>= next) = next value := rfl

theorem bind_eq_ok_iff {ε α β : Type} {first : Except ε α} {next : α → Except ε β}
    {result : β} :
    (first >>= next) = .ok result ↔ ∃ value, first = .ok value ∧ next value = .ok result := by
  cases first <;> simp [bind, Except.bind]

theorem bind_eq_error_iff {ε α β : Type} {first : Except ε α} {next : α → Except ε β}
    {reason : ε} :
    (first >>= next) = .error reason ↔
      first = .error reason ∨ ∃ value, first = .ok value ∧ next value = .error reason := by
  cases first <;> simp [bind, Except.bind]

namespace Codec

variable {α : Type}

/-- A text is read to a value when it spells a tree that decodes to the value. -/
theorem read_eq_ok_iff {codec : Codec α} {text : String} {value : α} :
    codec.read text = .ok value ↔
      ∃ tree : Tree, tree.SpelledBy text.toList ∧ codec.decode tree = .ok value := by
  simp only [read, bind_eq_ok_iff, ifClosed_eq_ok_iff]
  constructor
  · rintro ⟨_, decoded, complete, rfl⟩
    refine ⟨(Document.ofText text).tree, ofText_eq_iff.mp ?_, decoded⟩
    rw [← complete]
  · rintro ⟨tree, spelled, decoded⟩
    rw [ofText_eq_iff.mpr spelled]
    exact ⟨value, decoded, rfl, rfl⟩

/-- A text is read as the tree that it spells is decoded. -/
theorem read_eq_decode {codec : Codec α} {tree : Tree} {text : String}
    (spelled : tree.SpelledBy text.toList) : codec.read text = codec.decode tree := by
  have document : Document.ofText text = ⟨tree, true⟩ := ofText_eq_iff.mpr spelled
  simp only [read, document]
  cases codec.decode tree <;> rfl

theorem mapM_eq_ok_iff {β ε : Type} {f : α → Except ε β} {items : List α} {values : List β} :
    items.mapM f = .ok values ↔
      List.Forall₂ (fun item value => f item = .ok value) items values := by
  induction items generalizing values with
  | nil => cases values <;> simp [pure, Except.pure]
  | cons item rest ih =>
      rw [List.mapM_cons]
      simp only [bind_eq_ok_iff, List.forall₂_cons_left_iff, ih]
      constructor
      · rintro ⟨value, first, others, following, ⟨⟩⟩
        exact ⟨value, others, first, following, rfl⟩
      · rintro ⟨value, others, first, following, rfl⟩
        exact ⟨value, first, others, following, rfl⟩

/-- The first item that cannot be read is the one that is reported. -/
theorem mapM_eq_error_iff {β ε : Type} {f : α → Except ε β} {items : List α} {reason : ε} :
    items.mapM f = .error reason ↔ ∃ before item after, items = before ++ item :: after ∧
      (∀ earlier ∈ before, ∃ value, f earlier = .ok value) ∧ f item = .error reason := by
  induction items with
  | nil => simp [pure, Except.pure]
  | cons item rest ih =>
      rw [List.mapM_cons]
      simp only [bind_eq_error_iff, ih]
      constructor
      · rintro (failed | ⟨value, read, ⟨before, later, after, rfl, known, failed⟩ | impossible⟩)
        · exact ⟨[], item, rest, rfl, List.forall_mem_nil _, failed⟩
        · exact ⟨item :: before, later, after, rfl,
            List.forall_mem_cons.mpr ⟨⟨value, read⟩, known⟩, failed⟩
        · obtain ⟨_, _, ⟨⟩⟩ := impossible
      · rintro ⟨before, later, after, same, known, failed⟩
        cases before with
        | nil =>
            obtain ⟨rfl, rfl⟩ := List.cons.inj same
            exact .inl failed
        | cons first others =>
            obtain ⟨rfl, rfl⟩ := List.cons.inj same
            obtain ⟨⟨value, read⟩, known⟩ := List.forall_mem_cons.mp known
            exact .inr ⟨value, read, .inl ⟨others, later, after, rfl, known, failed⟩⟩

theorem list_decode_eq_ok_iff {codec : Codec α} {tree : Tree} {values : List α} :
    (list codec).decode tree = .ok values ↔
      ∃ items, tree = .array items true ∧
        List.Forall₂ (fun item value => codec.decode item = .ok value) items values := by
  cases tree with
  | array items closed =>
      simp only [list, bind_eq_ok_iff, ifClosed_eq_ok_iff, mapM_eq_ok_iff]
      constructor
      · rintro ⟨_, each, rfl, rfl⟩
        exact ⟨items, rfl, each⟩
      · rintro ⟨_, ⟨⟩, each⟩
        exact ⟨values, each, rfl, rfl⟩
  | _ => simp [list]

theorem decodeName_eq_ok_iff [Named α] {name : String} {member : α} :
    decodeName name = .ok member ↔ name = Named.name member := by
  rw [← Named.ofName?_eq_some_iff]
  unfold decodeName
  cases Named.ofName? (α := α) name <;> simp

/-- The two ways to write something by its name: the name alone, or as the one key of an
object, with the value null. -/
inductive IsNameOf [Named α] (member : α) : Tree → Prop where
  | text : IsNameOf member (.text (some (Named.name member)))
  | key : IsNameOf member (.object [(some (Named.name member), .null)] true)

theorem named_decode_eq_ok_iff [Named α] {tree : Tree} {member : α} :
    named.decode tree = .ok member ↔ IsNameOf member tree := by
  constructor
  · intro decoded
    simp only [named] at decoded
    split at decoded
    · rw [decodeName_eq_ok_iff] at decoded
      subst decoded
      exact .text
    · obtain ⟨found, named, rest⟩ := bind_eq_ok_iff.mp decoded
      rw [decodeName_eq_ok_iff] at named
      subst named
      split at rest
      · obtain ⟨rfl, rfl⟩ := ifClosed_eq_ok_iff.mp rest
        exact .key
      · cases rest
      · cases rest
    · cases decoded
  · intro written
    cases written with
    | text => exact decodeName_eq_ok_iff.mpr rfl
    | key =>
        simp [named, decodeName_eq_ok_iff.mpr (rfl : Named.name member = _), bind, Except.bind,
          ifClosed]

end Codec

end ExamGrants.Json
