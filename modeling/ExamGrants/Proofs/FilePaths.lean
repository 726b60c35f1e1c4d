import ExamGrants.Files
import ExamGrants.Proofs.CommandRun

namespace ExamGrants

/-! Where paths lead to.

A path that goes down at every step leads to what was put there last, unless a file stands in
its way (`Files.read_put`).  A run looks at one file at most, so on many files it does what it
does on that one (`Command.run_put`).
-/

namespace Files

variable {files : Files} {path : String} {content : ByteArray} {node : FileNode}

/-- The path goes down from the directory at every step, and may end at a file. -/
structure Descends (path : String) : Prop where
  relative : isAbsolute path = false
  down : ".." ∉ components path
  toFile : endsInDirectory path = false

/-- No file stands above the place. -/
def Free (files : Files) (place : List String) : Prop :=
  ∀ above rest, place = above ++ rest → rest ≠ [] →
    ∀ content, files.node? above ≠ some (.file content)

theorem components_ne_nil (toFile : endsInDirectory path = false) : components path ≠ [] := by
  have parts : Text.split '/' path ≠ [] := (Text.cuts_split '/' path).nonempty
  have last := List.getLast?_eq_some_getLast parts
  simp only [endsInDirectory, last, Bool.or_eq_false_iff, beq_eq_false_iff_ne] at toFile
  apply List.ne_nil_of_mem (a := (Text.split '/' path).getLast parts)
  exact List.mem_filter.mpr ⟨List.getLast_mem parts, by simpa using toFile⟩

theorem isEmpty_eq_false (toFile : endsInDirectory path = false) : path.isEmpty = false := by
  cases empty : path.isEmpty with
  | false => rfl
  | true =>
      rw [String.isEmpty_iff.mp empty] at toFile
      exact absurd toFile (by decide +kernel)

theorem advance_of_ne {place : List String} {component : String} (down : component ≠ "..") :
    advance place component = some (place ++ [component]) :=
  if_neg down

theorem foldlM_advance {steps : List String} (down : ".." ∉ steps) (place : List String) :
    steps.foldlM advance place = some (place ++ steps) := by
  induction steps generalizing place with
  | nil => simp
  | cons step steps ih =>
      obtain ⟨differs, down⟩ := not_or.mp (mt List.mem_cons.mpr down)
      rw [List.foldlM_cons, advance_of_ne (Ne.symm differs)]
      simpa using ih down (place ++ [step])

theorem Descends.place?_eq (descends : Descends path) : place? path = some (components path) := by
  rw [place?, descends.relative]
  exact foldlM_advance descends.down []

theorem node?_put_above {place above rest : List String} (leads : place? path = some place)
    (below : place = above ++ rest) (deeper : rest ≠ []) (free : files.Free place) :
    (files.put path node).node? above = some .directory := by
  have differs : above ≠ place := by
    intro same
    rw [same] at below
    exact deeper (List.self_eq_append_right.mp below)
  have inside : above.isPrefixOf place = true := by
    rw [below]
    simp
  have unfiled := free above rest below deeper
  simp only [node?] at unfiled
  simp only [put, leads, node?, List.lookup_cons, beq_false_of_ne differs, List.any_cons, inside,
    Bool.true_or, Bool.or_true, if_true]
  cases found : files.entries.lookup above with
  | none => rfl
  | some other =>
      cases other with
      | directory => rfl
      | file content => simp [found] at unfiled

theorem foldlM_follow {place done steps : List String} (leads : place? path = some place)
    (free : files.Free place) (way : place = done ++ steps) (down : ".." ∉ steps)
    (unfinished : steps ≠ []) :
    steps.foldlM (files.put path (.file content)).follow (.inside done) =
      .ok (.file content) := by
  -- On the steps that are left: all places before the last are directories.
  induction steps generalizing done with
  | nil => exact absurd rfl unfinished
  | cons step steps ih =>
      obtain ⟨differs, down⟩ := not_or.mp (mt List.mem_cons.mpr down)
      have onward : place = (done ++ [step]) ++ steps := by simpa using way
      rw [List.foldlM_cons, follow, advance_of_ne (Ne.symm differs)]
      by_cases last : steps = []
      · have arrived : done ++ [step] = place := by simp [onward, last]
        subst last
        simp only [arrived, node?_put files (.file content) leads]
        rfl
      · simp only [node?_put_above leads onward last free]
        exact ih onward down last

/-- A file that is put at a path is what the path leads to. -/
theorem read_put (descends : Descends path) (free : files.Free (components path)) :
    (files.put path (.file content)).read path = .ok content := by
  have followed : (components path).foldlM (files.put path (.file content)).follow (.inside []) =
      .ok (.file content) :=
    foldlM_follow descends.place?_eq free (List.nil_append _).symm descends.down
      (components_ne_nil descends.toFile)
  simp only [read, isEmpty_eq_false descends.toFile, descends.relative, Bool.false_eq_true,
    if_false]
  rw [followed]
  simp only [Json.ok_bind, descends.toFile, Bool.false_eq_true, if_false]
  rfl

/-- Directories need not be put before what is in them. -/
example (content : ByteArray) :
    (({} : Files).put "./tables//rows.json" (.file content)).read "./tables//rows.json" =
      .ok content :=
  read_put ⟨by decide +kernel, by decide +kernel, by decide +kernel⟩
    fun _ _ _ _ _ found => by simp [node?] at found

end Files

namespace Command

variable {environment : Environment}

/-- A run looks at no file but the one that the environment names. -/
theorem run_congr {first second : FileReader}
    (same : ∀ path, environment.filled? .tablePath = some path → first path = second path) :
    run environment first = run environment second := by
  have tables : environment.table first = environment.table second := by
    unfold Environment.table
    cases named : environment.filled? .tablePath with
    | none => rfl
    | some path => simp only [readOr, Table.load, readText, same path named]
  rw [run_eq_conclude, run_eq_conclude, output, output, tables]

/-- A run on files does what it does on the file that was put last at the path it is given. -/
theorem run_put {files : Files} {path : String} {content : ByteArray}
    (named : environment.filled? .tablePath = some path) (descends : Files.Descends path)
    (free : files.Free (Files.components path)) :
    run environment (files.put path (.file content)).read =
      run environment fun _ => .ok content := by
  apply run_congr
  intro other namedToo
  obtain rfl : path = other := Option.some.inj (named.symm.trans namedToo)
  exact Files.read_put descends free

end Command

end ExamGrants
