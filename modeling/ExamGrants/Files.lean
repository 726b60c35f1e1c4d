import ExamGrants.Table.Text
import ExamGrants.Text.Split

namespace ExamGrants

/-! The files of a directory, held in memory.

Paths are followed from the directory one component at a time.  Of what lies outside
it nothing is known but that the directories above it exist.  Different paths may lead
to one place; of what is put at one place the latest stays (`node?_put`).
-/

/-- What a name stands for. -/
inductive FileNode where
  | file (content : ByteArray)
  | directory

/-- The files and directories below a directory, by the components of their places. -/
structure Files where
  /-- Each place and what stands there, the latest first. -/
  entries : List (List String × FileNode) := []

namespace Files

/-- The components of a path, empty ones and references to the place itself left out. -/
def components (path : String) : List String :=
  (Text.split '/' path).filter fun component => component ≠ "" ∧ component ≠ "."

/-- Whether a path starts at the root and not at the directory. -/
def isAbsolute (path : String) : Bool :=
  path.toList.head? = some '/'

/-- The place inside one step along a path, unless the step leads out of the directory. -/
def advance (place : List String) (component : String) : Option (List String) :=
  if component = ".." then
    if place.isEmpty then none else some place.dropLast
  else some (place ++ [component])

/-- The place inside the directory that a path leads to, if it does not leave it. -/
def place? (path : String) : Option (List String) :=
  if isAbsolute path then none else (components path).foldlM advance []

/-- The files after something is put at a path, in the place of what stood there. -/
def put (files : Files) (path : String) (node : FileNode) : Files :=
  match place? path with
  | some place => ⟨(place, node) :: files.entries⟩
  | none => files

/-- The files put one after the other at the texts of their paths. -/
def ofList (entries : List (String × FileNode)) : Files :=
  entries.foldl (fun files (path, node) => files.put path node) {}

/-- Where a path has led so far. -/
inductive Place where
  /-- A directory of the files, by its place. -/
  | inside (place : List String)
  /-- A directory above them. -/
  | above
  | file (content : ByteArray)

/-- What stands at a place: an entry, or a directory that some entry is in. -/
def node? (files : Files) (place : List String) : Option FileNode :=
  match files.entries.lookup place with
  | some node => some node
  | none =>
      if place.isEmpty || files.entries.any fun (other, _) => place.isPrefixOf other then
        some .directory
      else none

/-- Follows one component of a path. -/
def follow (files : Files) : Place → String → Except Unreadable Place
  | .file _, _ => .error .notDirectory
  | .above, component => if component = ".." then .ok .above else .error .missing
  | .inside place, component =>
      match advance place component with
      | none => .ok .above
      | some next =>
          match files.node? next with
          | some (.file content) => .ok (.file content)
          | some .directory => .ok (.inside next)
          | none => .error .missing

/-- Whether a path can only lead to a directory by the way it ends. -/
def endsInDirectory (path : String) : Bool :=
  match (Text.split '/' path).getLast? with
  | some component => component == "" || component == "."
  | none => false

/-- The content of the file that a path leads to. -/
def read (files : Files) (path : String) : Except Unreadable ByteArray := do
  if path.isEmpty then throw .missing
  let start := if isAbsolute path then Place.above else .inside []
  match ← (components path).foldlM files.follow start with
  | .file content => if endsInDirectory path then throw .notDirectory else pure content
  | .inside _ | .above => throw .isDirectory

/-- What was put at a path last is what stands at its place. -/
theorem node?_put {path : String} {place : List String} (files : Files) (node : FileNode)
    (leads : place? path = some place) : (files.put path node).node? place = some node := by
  simp [put, leads, node?]

end Files

end ExamGrants
