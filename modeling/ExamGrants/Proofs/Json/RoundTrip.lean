import ExamGrants.Proofs.Json.Records
import ExamGrants.Proofs.Json.Writing

namespace ExamGrants.Json

/-! What is written is read back.

A codec is lossless when every value is encoded to a tree that can be written, and that tree
is decoded to the value.  Lists, optional values and records are lossless when their parts
are, and a lossless codec reads the value from either text that is written for it.
-/

namespace Codec

variable {α : Type} {codec : Codec α}

/-- Encoding loses nothing that decoding does not find again. -/
structure IsLossless (codec : Codec α) : Prop where
  writable : ∀ value, (codec.encode value).Writable
  decode_encode : ∀ value, codec.decode (codec.encode value) = .ok value

/-- Reading gives back what was written, and a text that was read and written anew keeps its
value from then on, and its wording. -/
structure RoundTrips (codec : Codec α) : Prop where
  read_write : ∀ value, codec.read (codec.write value) = .ok value
  read_pretty : ∀ value, codec.read (codec.encode value).pretty = .ok value
  rewrite : ∀ text value, codec.read text = .ok value →
    ∃ again, codec.read (codec.write value) = .ok again ∧ again = value ∧
      codec.write again = codec.write value

namespace IsLossless

theorem read_write (lossless : codec.IsLossless) (value : α) :
    codec.read (codec.write value) = .ok value := by
  have spelled := (lossless.writable value).compact_spelledBy
  exact read_eq_ok_iff.mpr ⟨_, spelled, lossless.decode_encode value⟩

theorem read_pretty (lossless : codec.IsLossless) (value : α) :
    codec.read (codec.encode value).pretty = .ok value := by
  have spelled := (lossless.writable value).pretty_spelledBy
  exact read_eq_ok_iff.mpr ⟨_, spelled, lossless.decode_encode value⟩

theorem encode_injective (lossless : codec.IsLossless) : Function.Injective codec.encode := by
  intro first second same
  have decoded := lossless.decode_encode first
  rw [same, lossless.decode_encode] at decoded
  exact (Except.ok.inj decoded).symm

theorem roundTrips (lossless : codec.IsLossless) : codec.RoundTrips where
  read_write := lossless.read_write
  read_pretty := lossless.read_pretty
  rewrite _ value _ := ⟨value, lossless.read_write value, rfl, rfl⟩

end IsLossless

theorem text_isLossless : text.IsLossless where
  writable content := .text content
  decode_encode _ := rfl

theorem named_isLossless [Named α] : (named : Codec α).IsLossless where
  writable member := .text (Named.name member)
  decode_encode _ := decodeName_eq_ok_iff.mpr rfl

theorem optional_isLossless (lossless : codec.IsLossless)
    (present : ∀ value, codec.encode value ≠ .null) : (optional codec).IsLossless where
  writable value := by
    cases value with
    | none => exact .null
    | some value => exact lossless.writable value
  decode_encode value := by
    cases value with
    | none => rfl
    | some value =>
        have decoded := lossless.decode_encode value
        simp only [optional]
        split
        · next absent => exact absurd absent (present value)
        · rw [decoded]
          rfl

theorem list_isLossless (lossless : codec.IsLossless) : (list codec).IsLossless where
  writable values := by
    apply Tree.Writable.array
    intro tree member
    obtain ⟨value, _, rfl⟩ := List.mem_map.mp member
    exact lossless.writable value
  decode_encode values := by
    apply list_decode_eq_ok_iff.mpr
    refine ⟨values.map codec.encode, rfl, ?_⟩
    apply List.forall₂_map_left_iff.mpr
    exact List.forall₂_same.mpr fun value _ => lossless.decode_encode value

end Codec

namespace RecordFormat

variable {α Field : Type} [Named Field] [DecidableEq Field] {format : RecordFormat α Field}

omit [DecidableEq Field] in
theorem inOrder_map (fields : List Field) (tree : Field → Tree) :
    inOrder fields (fields.map tree) =
      fields.map fun field => (some (Named.name field), tree field) := by
  rw [inOrder, ← List.map_prod_left_eq_zip, List.map_map]
  rfl

/-- Every field stands in a written record once. -/
theorem treesOf_map_all (distinct : (Named.all : List Field).Nodup) (tree : Field → Tree)
    (field : Field) :
    treesOf field (Named.all.map fun field => (some (Named.name field), tree field)) =
      [tree field] := by
  have listed := Named.mem_all field
  rw [← inOrder_map, treesOf_inOrder distinct listed, List.getElem?_map,
    List.getElem?_idxOf listed]
  rfl

theorem isLossless (distinct : (Named.all : List Field).Nodup)
    (each : ∀ field, (format.codec field).IsLossless) : format.toCodec.IsLossless where
  writable value := by
    apply Tree.Writable.object
    · intro member listed
      obtain ⟨field, _, rfl⟩ := List.mem_map.mp listed
      exact ⟨_, rfl⟩
    · intro member listed
      obtain ⟨field, _, rfl⟩ := List.mem_map.mp listed
      exact (each field).writable (format.get value field)
  decode_encode value := by
    apply decode_object_eq_ok_iff.mpr
    refine ⟨rfl, ?_, ?_⟩
    · intro member listed
      rw [← inOrder_map] at listed
      exact keyAccepted_of_mem_inOrder listed
    · intro field
      rw [treesOf_map_all distinct]
      exact (each field).decode_encode (format.get value field)

end RecordFormat

end ExamGrants.Json
