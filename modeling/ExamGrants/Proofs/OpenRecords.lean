import Mathlib.Tactic.MkIffOfInductiveProp
import ExamGrants.Format.Effective
import ExamGrants.Format.Entity
import ExamGrants.Format.User
import ExamGrants.Proofs.TableText
import ExamGrants.Proofs.UserIdSpelling

namespace ExamGrants

/-! Which texts are users, entities and effective privileges.

Their objects are open: the fields stand in any order among any other keys, whose values are
passed over whatever they hold.  In arrays the place decides, as it does in grants, whose
objects are not open (`Format.records_read_among_other_keys`).
-/

namespace Json

/-- How the fields of a record are written: what may stand for a field of the value, and when
the field may be left out of an object, or at the end of an array. -/
structure Layout (α Field : Type) where
  Holds : α → Field → Tree → Prop
  LeftOut : α → Field → Prop
  CutOff : α → Field → Prop

namespace Layout

variable {α Field : Type} [Named Field]

/-- The object has the fields of the value under their names, each at most once, in any order
and among any other keys. -/
@[mk_iff] structure IsOpenObject (layout : Layout α Field) (value : α)
    (members : List Member) : Prop where
  /-- A key with half a surrogate pair is no text. -/
  readable : ∀ member ∈ members, ∃ key, member.1 = some key
  once : ∀ field : Field, (members.map Prod.fst).count (some (Named.name field)) ≤ 1
  held : ∀ (field : Field) (tree : Tree),
    (some (Named.name field), tree) ∈ members → layout.Holds value field tree
  leftOut : ∀ field : Field,
    (∀ tree, (some (Named.name field), tree) ∉ members) → layout.LeftOut value field

/-- The array has the fields of the value in declaration order. -/
structure IsArray [DecidableEq Field] (layout : Layout α Field) (value : α)
    (items : List Tree) : Prop where
  fits : items.length ≤ (Named.all : List Field).length
  held : ∀ (field : Field) (tree : Tree),
    items[Named.position field]? = some tree → layout.Holds value field tree
  cutOff : ∀ field : Field, items.length ≤ Named.position field → layout.CutOff value field

inductive IsOpenRecord [DecidableEq Field] (layout : Layout α Field) (value : α) : Tree → Prop where
  | object {members : List Member} (listed : layout.IsOpenObject value members) :
      IsOpenRecord layout value (.object members true)
  | array {items : List Tree} (listed : layout.IsArray value items) :
      IsOpenRecord layout value (.array items true)

/-- The key is a text, but not the name of a field. -/
def IsOtherKey (Field : Type) [Named Field] (member : Member) : Prop :=
  ∃ key, member.1 = some key ∧ ∀ field : Field, key ≠ Named.name field

/-- The codec reads values from the texts of open objects and of arrays.  Objects with the same
fields are read alike, whatever their order and whatever other keys are among them. -/
structure ReadsOpenly [DecidableEq Field] (codec : Codec α) (layout : Layout α Field) : Prop where
  exactly : ∀ text tree, tree.SpelledBy text.toList → ∀ value,
    codec.read text = .ok value ↔ layout.IsOpenRecord value tree
  rearranged : ∀ text other members others further,
    (Tree.object members true).SpelledBy text.toList →
    (Tree.object others true).SpelledBy other.toList →
    members.Perm (others ++ further) → (∀ member ∈ further, IsOtherKey Field member) →
    ∀ value, codec.read text = .ok value ↔ codec.read other = .ok value

/-- The fields are read as the layout says. -/
structure Describes (layout : Layout α Field) (format : RecordFormat α Field) : Prop where
  decoded : ∀ field value tree,
    (format.codec field).decode tree = .ok (format.get value field) ↔ layout.Holds value field tree
  absent : ∀ field value,
    format.whenAbsent field = some (format.get value field) ↔ layout.LeftOut value field
  cut : ∀ field value,
    format.whenCut field = some (format.get value field) ↔ layout.CutOff value field

variable {layout : Layout α Field} {format : RecordFormat α Field}

/-- Neither the order of the members nor other keys among them make a difference. -/
theorem isOpenObject_iff_of_perm {members others further : List Member}
    (same : members.Perm (others ++ further))
    (other : ∀ member ∈ further, IsOtherKey Field member) {value : α} :
    layout.IsOpenObject value members ↔ layout.IsOpenObject value others := by
  have unnamed : ∀ (field : Field) (tree : Tree), (some (Named.name field), tree) ∉ further := by
    intro field tree listed
    obtain ⟨key, read, unknown⟩ := other _ listed
    exact unknown field (Option.some.inj read).symm
  have named : ∀ (field : Field) (tree : Tree),
      (some (Named.name field), tree) ∈ members ↔ (some (Named.name field), tree) ∈ others := by
    intro field tree
    rw [same.mem_iff, List.mem_append]
    exact or_iff_left (unnamed field tree)
  have counted : ∀ field : Field, (members.map Prod.fst).count (some (Named.name field)) =
      (others.map Prod.fst).count (some (Named.name field)) := by
    intro field
    have none : (further.map Prod.fst).count (some (Named.name field)) = 0 := by
      simpa [List.count_eq_zero] using unnamed field
    rw [(same.map Prod.fst).count_eq, List.map_append, List.count_append, none, Nat.add_zero]
  have readable : (∀ member ∈ members, ∃ key, member.1 = some key) ↔
      ∀ member ∈ others, ∃ key, member.1 = some key := by
    simp only [same.mem_iff, List.forall_mem_append]
    exact and_iff_left fun member listed => (other member listed).imp fun _ => And.left
  simp only [isOpenObject_iff, readable, counted, named]

variable [DecidableEq Field]

theorem Describes.decode_object_eq_ok_iff (describes : layout.Describes format)
    (isOpen : format.strict = false) {members : List Member} {closed : Bool} {value : α} :
    format.decode (.object members closed) = .ok value ↔
      closed = true ∧ layout.IsOpenObject value members := by
  have accepted : ∀ member : Member,
      format.KeyAccepted member ↔ ∃ key, member.1 = some key := by
    simp [RecordFormat.KeyAccepted, isOpen]
  have absent : ∀ field : Field, RecordFormat.treesOf field members = [] ↔
      ∀ tree, (some (Named.name field), tree) ∉ members := by
    simp only [List.eq_nil_iff_forall_not_mem, RecordFormat.mem_treesOf, implies_true]
  refine Iff.trans RecordFormat.decode_object_eq_ok_iff (and_congr_right fun _ => ?_)
  simp only [accepted, RecordFormat.fieldHolds_iff, RecordFormat.length_treesOf, absent,
    RecordFormat.mem_treesOf, describes.decoded, describes.absent]
  constructor
  · intro read
    obtain ⟨readable, held⟩ := read
    exact ⟨readable, fun field => (held field).1, fun field => (held field).2.1,
      fun field => (held field).2.2⟩
  · intro listed
    exact ⟨listed.readable, fun field =>
      ⟨listed.once field, listed.held field, listed.leftOut field⟩⟩

theorem Describes.decode_array_eq_ok_iff (describes : layout.Describes format)
    (distinct : (Named.all : List Field).Nodup) {items : List Tree} {closed : Bool} {value : α} :
    format.decode (.array items closed) = .ok value ↔
      closed = true ∧ layout.IsArray value items := by
  refine Iff.trans (RecordFormat.decode_array_eq_ok_iff distinct) (and_congr_right fun _ => ?_)
  have placed : ∀ field : Field,
      format.FieldHolds (format.whenCut field) value items[Named.position field]?.toList ↔
        (∀ tree, items[Named.position field]? = some tree → layout.Holds value field tree) ∧
          (items.length ≤ Named.position field → layout.CutOff value field) := by
    intro field
    refine Iff.trans RecordFormat.fieldHolds_iff ?_
    simp [describes.decoded, describes.cut]
  simp only [placed]
  constructor
  · intro read
    obtain ⟨fits, held⟩ := read
    exact ⟨fits, fun field => (held field).1, fun field => (held field).2⟩
  · intro listed
    exact ⟨listed.fits, fun field => ⟨listed.held field, listed.cutOff field⟩⟩

theorem Describes.read_eq_ok_iff (describes : layout.Describes format)
    (isOpen : format.strict = false) (distinct : (Named.all : List Field).Nodup)
    {text : String} {tree : Tree} (spelled : tree.SpelledBy text.toList) {value : α} :
    format.toCodec.read text = .ok value ↔ layout.IsOpenRecord value tree := by
  rw [Codec.read_eq_decode spelled]
  constructor
  · intro decoded
    cases tree with
    | object members closed =>
        obtain ⟨rfl, listed⟩ := (describes.decode_object_eq_ok_iff isOpen).mp decoded
        exact .object listed
    | array items closed =>
        obtain ⟨rfl, listed⟩ := (describes.decode_array_eq_ok_iff distinct).mp decoded
        exact .array listed
    | _ => cases decoded
  · intro written
    cases written with
    | object listed => exact (describes.decode_object_eq_ok_iff isOpen).mpr ⟨rfl, listed⟩
    | array listed => exact (describes.decode_array_eq_ok_iff distinct).mpr ⟨rfl, listed⟩

theorem Describes.readsOpenly (describes : layout.Describes format)
    (isOpen : format.strict = false) (distinct : (Named.all : List Field).Nodup) :
    ReadsOpenly format.toCodec layout where
  exactly _ _ spelled _ := describes.read_eq_ok_iff isOpen distinct spelled
  rearranged text other members others further spelled spelledOther same unknown value := by
    rw [Codec.read_eq_decode spelled, Codec.read_eq_decode spelledOther]
    refine Iff.trans (describes.decode_object_eq_ok_iff isOpen) ?_
    rw [isOpenObject_iff_of_perm same unknown]
    exact (describes.decode_object_eq_ok_iff isOpen).symm

end Layout

end Json

namespace Format

open Json

/-! ## Fields -/

inductive SpellsId (id : UserId) : Tree → Prop where
  | text {string : String} (spelled : id.IsSpelledBy string) : SpellsId id (.text (some string))

/-- The value is the number of the institution, written by its digits alone. -/
inductive NumbersInstitution (institution : InstitutionId) : Tree → Prop where
  | number {digits : List Char} (same : Numeral.value digits = institution.number.toNat) :
      NumbersInstitution institution (.number { whole := digits })

/-- The value is an array of the names of the roles, in any order and with repetitions. -/
inductive ListsRoles (roles : RoleSet) : Tree → Prop where
  | array {items : List Tree} {listed : List Role}
      (named : List.Forall₂ (fun item role => Codec.IsNameOf role item) items listed)
      (same : ∀ role, role ∈ listed ↔ roles.has role = true) :
      ListsRoles roles (.array items true)

inductive ShowsOwner : Option UserId → Tree → Prop where
  | nobody : ShowsOwner none .null
  | user {id : UserId} {tree : Tree} (spelled : SpellsId id tree) : ShowsOwner (some id) tree

inductive ListsIds (ids : List UserId) : Tree → Prop where
  | array {items : List Tree}
      (spelled : List.Forall₂ (fun item id => SpellsId id item) items ids) :
      ListsIds ids (.array items true)

theorem userId_decode_eq_ok_iff {tree : Tree} {id : UserId} :
    userId.decode tree = .ok id ↔ SpellsId id tree := by
  constructor
  · intro decoded
    match tree with
    | .text (some string) => exact .text (UserId.decode_text_eq_ok_iff.mp decoded)
    | .text none | .null | .boolean _ | .number _ | .array .. | .object .. | .broken =>
        cases decoded
  · intro written
    obtain ⟨spelled⟩ := written
    exact UserId.decode_text_eq_ok_iff.mpr spelled

theorem integer?_eq_ofNat_iff {numeral : Numeral} {number : Nat} :
    numeral.integer? = some (.ofNat number) ↔
      (∃ digits, numeral = { whole := digits } ∧ Numeral.value digits = number) ∧
        number < Nat.pow 2 64 := by
  obtain ⟨negative, whole, fraction, exponent⟩ := numeral
  cases negative <;> cases fraction <;> cases exponent <;> grind [Numeral.integer?]

theorem institution_decode_eq_ok_iff {tree : Tree} {institution : InstitutionId} :
    Format.institution.decode tree = .ok institution ↔ NumbersInstitution institution tree := by
  constructor
  · intro decoded
    match tree with
    | .number numeral =>
        simp only [Format.institution] at decoded
        split at decoded
        · next number read =>
            obtain ⟨⟨digits, rfl, rfl⟩, small⟩ := integer?_eq_ofNat_iff.mp read
            cases decoded
            exact .number (UInt64.toNat_ofNat_of_lt' small).symm
        · cases decoded
        · cases decoded
    | .text _ | .null | .boolean _ | .array .. | .object .. | .broken => cases decoded
  · intro written
    obtain ⟨same⟩ := written
    have small : institution.number.toNat < Nat.pow 2 64 := institution.number.toNat_lt
    have read := integer?_eq_ofNat_iff.mpr ⟨⟨_, rfl, same⟩, small⟩
    simp only [Format.institution, read]
    exact congrArg Except.ok (InstitutionId.ext UInt64.ofNat_toNat)

theorem roleSet_decode_eq_ok_iff {tree : Tree} {roles : RoleSet} :
    roleSet.decode tree = .ok roles ↔ ListsRoles roles tree := by
  have mapped : roleSet.decode tree = .ok roles ↔ ∃ listed : List Role,
      (Codec.list Codec.named).decode tree = .ok listed ∧ RoleSet.ofList listed = roles := by
    simp only [roleSet]
    cases (Codec.list (Codec.named (α := Role))).decode tree <;> simp [Except.map]
  simp only [mapped, Codec.list_decode_eq_ok_iff, Codec.named_decode_eq_ok_iff]
  constructor
  · intro decoded
    obtain ⟨listed, ⟨items, rfl, named⟩, rfl⟩ := decoded
    exact .array named fun role => RoleSet.has_ofList.symm
  · intro written
    obtain @⟨items, listed, named, same⟩ := written
    refine ⟨listed, ⟨items, rfl, named⟩, RoleSet.ext (funext fun role => ?_)⟩
    rw [Bool.eq_iff_iff, RoleSet.has_ofList]
    exact same role

theorem owner_decode_eq_ok_iff {tree : Tree} {owner : Option UserId} :
    (Codec.optional userId).decode tree = .ok owner ↔ ShowsOwner owner tree := by
  have present : (userId.decode tree).map some = .ok owner ↔
      ∃ id, SpellsId id tree ∧ owner = some id := by
    simp only [← userId_decode_eq_ok_iff]
    cases userId.decode tree <;> simp [Except.map, eq_comm]
  constructor
  · intro decoded
    simp only [Codec.optional] at decoded
    split at decoded
    · cases decoded
      exact .nobody
    · obtain ⟨id, spelled, rfl⟩ := present.mp decoded
      exact .user spelled
  · intro written
    cases written with
    | nobody => rfl
    | user spelled =>
      have decoded := present.mpr ⟨_, spelled, rfl⟩
      obtain ⟨same⟩ := spelled
      exact decoded

theorem ids_decode_eq_ok_iff {tree : Tree} {ids : List UserId} :
    (Codec.list userId).decode tree = .ok ids ↔ ListsIds ids tree := by
  simp only [Codec.list_decode_eq_ok_iff, userId_decode_eq_ok_iff]
  constructor
  · intro decoded
    obtain ⟨items, rfl, spelled⟩ := decoded
    exact .array spelled
  · intro written
    obtain ⟨spelled⟩ := written
    exact ⟨_, rfl, spelled⟩

theorem text_decode_eq_ok_iff {tree : Tree} {content : String} :
    Codec.text.decode tree = .ok content ↔ tree = .text (some content) := by
  match tree with
  | .text (some string) => simp [Codec.text]
  | .text none | .null | .boolean _ | .number _ | .array .. | .object .. | .broken =>
      simp [Codec.text]

/-! ## Records -/

def userLayout : Layout User UserField where
  Holds user
    | .id => SpellsId user.id
    | .username => (· = .text (some user.username))
    | .institution => NumbersInstitution user.institution
    | .roles => ListsRoles user.roles
  LeftOut _ _ := False
  CutOff _ _ := False

/-- The owner may be left out of an object only, the supporters also of an array. -/
def entityLayout : Layout Entity EntityField where
  Holds entity
    | .entityType => Codec.IsNameOf entity.entityType
    | .institution => NumbersInstitution entity.institution
    | .owner => ShowsOwner entity.owner
    | .supporters => ListsIds entity.supporters
  LeftOut entity
    | .entityType | .institution => False
    | .owner => entity.owner = none
    | .supporters => entity.supporters = []
  CutOff entity
    | .entityType | .institution | .owner => False
    | .supporters => entity.supporters = []

def effectiveLayout : Layout Effective EffectiveField where
  Holds entry
    | .entityType => Codec.IsNameOf entry.entityType
    | .base => Codec.IsNameOf entry.tiers.base
    | .institutional => Codec.IsNameOf entry.tiers.institutional
    | .owner => Codec.IsNameOf entry.tiers.owner
  LeftOut _ _ := False
  CutOff _ _ := False

theorem userLayout_describes : userLayout.Describes userRecord where
  decoded field user tree := by
    cases field with
    | id => exact userId_decode_eq_ok_iff
    | username => exact text_decode_eq_ok_iff
    | institution => exact institution_decode_eq_ok_iff
    | roles => exact roleSet_decode_eq_ok_iff
  absent field user := by simp [userRecord, userLayout]
  cut field user := by simp [userRecord, userLayout]

theorem entityLayout_describes : entityLayout.Describes entityRecord where
  decoded field entity tree := by
    cases field with
    | entityType => exact Codec.named_decode_eq_ok_iff (α := EntityType)
    | institution => exact institution_decode_eq_ok_iff
    | owner => exact owner_decode_eq_ok_iff
    | supporters => exact ids_decode_eq_ok_iff
  absent field entity := by
    cases field <;> simp [entityRecord, entityLayout, eq_comm]
  cut field entity := by
    cases field <;> simp [entityRecord, entityLayout, eq_comm]

theorem effectiveLayout_describes : effectiveLayout.Describes effectiveRecord where
  decoded field entry tree := by
    cases field with
    | entityType => exact Codec.named_decode_eq_ok_iff (α := EntityType)
    | base | institutional | owner => exact Codec.named_decode_eq_ok_iff (α := Level)
  absent field entry := by simp [effectiveRecord, effectiveLayout]
  cut field entry := by simp [effectiveRecord, effectiveLayout]

/-- Users, entities and effective privileges are read from their fields in any order among any
other keys, or from the array of their fields.  A grant is read from no object with another key. -/
theorem records_read_among_other_keys :
    Layout.ReadsOpenly user userLayout ∧ Layout.ReadsOpenly entity entityLayout ∧
      Layout.ReadsOpenly effective effectiveLayout ∧
      ∀ text members, (Tree.object members true).SpelledBy text.toList →
        (∃ member ∈ members, ∀ field : GrantField, member.1 ≠ some field.name) →
          ∃ fault, grant.read text = .error fault := by
  refine ⟨userLayout_describes.readsOpenly rfl (by decide),
    entityLayout_describes.readsOpenly rfl (by decide),
    effectiveLayout_describes.readsOpenly rfl (by decide), fun text members spelled other => ?_⟩
  obtain ⟨member, listed, unknown⟩ := other
  rw [Codec.read_eq_decode spelled]
  cases decoded : grant.decode (.object members true) with
  | ok grant =>
      obtain ⟨field, named⟩ := (decode_object_iff_isObjectOf.mp decoded).2.known member listed
      exact absurd named (unknown field)
  | error fault => exact ⟨fault, rfl⟩

/-- Fields out of order among other keys, one of which comes twice, and a misspelt tier. -/
theorem records_read_among_other_keys_unowned_exam :
    Format.entity.read "\x7b\"x\":[\x7b\"owner_id\":5\x7d],\"institution_id\":7,\"x\":1e999,
      \"entity_type\":\"exam\"\x7d" = .ok ⟨.exam, ⟨7⟩, none, []⟩ ∧
    ∃ fault, Format.grant.read "\x7b\"entity_type\":\"exam\",\"role\":\"teacher\",
      \"bass\":\"modify\"\x7d" = .error fault := by
  obtain ⟨_, entities, _, grants⟩ := records_read_among_other_keys
  let members : List Member :=
    [(some "x", .array [.object [(some "owner_id", .number { whole := ['5'] })] true] true),
      (some "institution_id", .number { whole := ['7'] }),
      (some "x", .number { whole := ['1'], exponent := some (false, ['9', '9', '9']) }),
      (some "entity_type", .text (some "exam"))]
  have listed : entityLayout.IsOpenObject ⟨.exam, ⟨7⟩, none, []⟩ members := by
    refine ⟨by simp [members], fun field => by cases field <;> decide, ?_, ?_⟩
    · intro field tree member
      simp only [Named.name, EntityField.name, members] at member
      cases field with
      | entityType =>
          obtain rfl : tree = .text (some "exam") := by simpa using member
          exact .text
      | institution =>
          obtain rfl : tree = .number { whole := ['7'] } := by simpa using member
          exact .number (by decide)
      | owner | supporters => simp at member
    · intro field absent
      have entityType : (some "entity_type", .text (some "exam")) ∈ members := by simp [members]
      have institution : (some "institution_id", .number { whole := ['7'] }) ∈ members := by
        simp [members]
      cases field with
      | entityType => exact absurd entityType (absent _)
      | institution => exact absurd institution (absent _)
      | owner | supporters => rfl
  constructor
  · refine (entities.exactly _ (.object members true) (ofText_eq_iff.mp ?_) _).mpr (.object listed)
    with_unfolding_all rfl
  · refine grants _ [(some "entity_type", .text (some "exam")),
      (some "role", .text (some "teacher")), (some "bass", .text (some "modify"))]
      (ofText_eq_iff.mp ?_) ?_
    · with_unfolding_all rfl
    · exact ⟨(some "bass", .text (some "modify")), by simp, fun field => by cases field <;> decide⟩

end Format

end ExamGrants
