import ExamGrants.Json.Codec

namespace ExamGrants.Json

/-! Records: values with named fields, written as objects and read in two forms.

In the object form the fields stand in any order under their names.  In the array form
their values stand in declaration order.  Some fields may be left out, of the object
or at the end of the array.
-/

/-- How the values of a type are taken apart into named fields. -/
structure RecordFormat (α Field : Type) [Named Field] where
  /-- What a diagnosis calls the record. -/
  title : String
  /-- Whether an object may hold no other keys than the names of the fields. -/
  strict : Bool
  Value : Field → Type
  /-- How a field is read and written. -/
  codec : (field : Field) → Codec (Value field)
  /-- What a field holds that is left out of an object, if it may be. -/
  whenAbsent : (field : Field) → Option (Value field)
  /-- What a field holds that is left out at the end of an array, if it may be. -/
  whenCut : (field : Field) → Option (Value field)
  get : α → (field : Field) → Value field
  make : ((field : Field) → Value field) → α
  make_get : ∀ value, make (get value) = value
  get_make : ∀ fields, get (make fields) = fields

namespace RecordFormat

variable {α Field : Type} [Named Field] [DecidableEq Field]

/-- The fields read so far. -/
def Slots (format : RecordFormat α Field) : Type :=
  (field : Field) → Option (format.Value field)

def noSlots (format : RecordFormat α Field) : format.Slots := fun _ => none

/-- The slots in which a field holds a value. -/
def Slots.fill {format : RecordFormat α Field} (slots : format.Slots) (field : Field)
    (value : format.Value field) : format.Slots :=
  fun other => if same : field = other then some (same ▸ value) else slots other

/-- The slots in which fields not read hold what they hold when they are left out. -/
def Slots.orElse {format : RecordFormat α Field} (slots defaults : format.Slots) :
    format.Slots :=
  fun field => (slots field).or (defaults field)

/-- The first field without a value, in declaration order. -/
def Slots.firstEmpty? {format : RecordFormat α Field} (slots : format.Slots) : Option Field :=
  (Named.all : List Field).find? fun field => (slots field).isNone

/-- The value whose fields have all been read, or the first field that has not. -/
def Slots.value {format : RecordFormat α Field} (slots : format.Slots) : Except Field α :=
  match empty : slots.firstEmpty? with
  | some field => .error field
  | none => .ok (format.make fun field => (slots field).get (by
      have filled := List.find?_eq_none.mp empty field (Named.mem_all field)
      simpa [Option.isSome_iff_ne_none] using filled))

/-- Reads the members of an object into slots. -/
def decodeMembers (format : RecordFormat α Field) :
    format.Slots → List Member → Except Fault format.Slots
  | slots, [] => .ok slots
  | _, (none, _) :: _ => .error .malformed
  | slots, (some key, tree) :: rest =>
      match (Named.ofName? key : Option Field) with
      | none =>
          if format.strict then .error (.unknownField key (Named.names Field))
          else format.decodeMembers slots rest
      | some field =>
          match slots field with
          | some _ => .error (.duplicateField (Named.name field))
          | none => do
              let value ← (format.codec field).decode tree
              format.decodeMembers (slots.fill field value) rest

/-- Reads the items of an array into the slots of the listed fields. -/
def decodeInOrder (format : RecordFormat α Field) :
    format.Slots → List Field → List Tree → Except Fault format.Slots
  | slots, _, [] => .ok slots
  | _, [], _ :: _ => .error .malformed
  | slots, field :: fields, tree :: rest => do
      let value ← (format.codec field).decode tree
      format.decodeInOrder (slots.fill field value) fields rest

/-- Reads a record from an object or an array. -/
def decode (format : RecordFormat α Field) : Tree → Except Fault α
  | .object members closed => do
      let read ← format.decodeMembers format.noSlots members
      let slots ← ifClosed closed read
      match (slots.orElse format.whenAbsent).value with
      | .ok value => .ok value
      | .error field => .error (.missingField (Named.name field))
  | .array items closed => do
      let read ← format.decodeInOrder format.noSlots Named.all items
      let slots ← ifClosed closed read
      match (slots.orElse format.whenCut).value with
      | .ok value => .ok value
      | .error _ =>
          .error (.wrongLength items.length format.title (Named.all : List Field).length)
  | tree => .error (tree.unexpected (.record format.title))

/-- Writes a record as an object with all fields in declaration order. -/
def encode (format : RecordFormat α Field) (value : α) : Tree :=
  .object (Named.all.map fun field =>
    (some (Named.name field), (format.codec field).encode (format.get value field))) true

def toCodec (format : RecordFormat α Field) : Codec α where
  decode := format.decode
  encode := format.encode

end RecordFormat

end ExamGrants.Json
