import Mathlib.Data.List.Dedup
import Mathlib.Data.List.Infix
import Mathlib.Data.List.Sublists

set_option autoImplicit false

/- A file system of directories and files, and what writes to it keep. -/
namespace Files

/-- The names on the way from the root. -/
abbrev Path := List String

inductive Entry (Content : Type) where
  | directory
  | file (content : Content)
  deriving DecidableEq, Repr

/-- A directory on the way to a path. -/
def Above (path other : Path) : Prop := path <+: other ∧ path ≠ other

instance (path other : Path) : Decidable (Above path other) :=
  inferInstanceAs (Decidable (_ ∧ _))

theorem not_above_self (path : Path) : ¬ Above path path := fun above => above.2 rfl

theorem above_iff {path other : Path} (below : other ≠ []) :
    Above path other ↔ path <+: other.dropLast := by
  obtain ⟨dir, name, rfl⟩ := List.eq_nil_or_concat other |>.resolve_left below
  rw [List.concat_eq_append, List.dropLast_concat]
  constructor
  · intro ⟨within, apart⟩
    rcases List.prefix_concat_iff.mp within with same | inside
    · exact absurd same apart
    · exact inside
  · intro inside
    refine ⟨inside.trans (List.prefix_append dir [name]), ?_⟩
    rintro rfl
    have long := inside.length_le
    rw [List.length_append, List.length_singleton] at long
    omega

/-- Why an operation is refused. -/
inductive Failure where
  | missing
  | notDirectory
  | isDirectory
  deriving DecidableEq, Repr

variable {Content : Type}

/-- What a list of entries has at a path; the root is a directory. -/
def entryIn (entries : List (Path × Entry Content)) (path : Path) : Option (Entry Content) :=
  if path = [] then some .directory else entries.lookup path

/-- Whatever exists is in a directory. -/
structure FileTree (Content : Type) where
  entries : List (Path × Entry Content)
  closed : ∀ path name, (entryIn entries (path ++ [name])).isSome →
    entryIn entries path = some .directory

namespace FileTree

def empty : FileTree Content where
  entries := []
  closed := by simp [entryIn]

def entry (tree : FileTree Content) (path : Path) : Option (Entry Content) :=
  entryIn tree.entries path

def isFile (tree : FileTree Content) (path : Path) : Bool :=
  match tree.entry path with
  | some (.file _) => true
  | _ => false

theorem isFile_iff {tree : FileTree Content} {path : Path} :
    tree.isFile path = true ↔ ∃ content, tree.entry path = some (.file content) := by
  unfold isFile
  split
  · rename_i content found
    simp [found]
  · rename_i other
    simp only [Bool.false_eq_true, false_iff, not_exists]
    intro content found
    exact other content found

def isDirectory (tree : FileTree Content) (path : Path) : Bool :=
  match tree.entry path with
  | some .directory => true
  | _ => false

theorem isDirectory_iff {tree : FileTree Content} {path : Path} :
    tree.isDirectory path = true ↔ tree.entry path = some .directory := by
  unfold isDirectory
  split
  · rename_i found
    simp [found]
  · rename_i other
    simp only [Bool.false_eq_true, false_iff]
    exact other

@[simp] theorem entry_root (tree : FileTree Content) : tree.entry [] = some .directory := rfl

theorem entry_parent {tree : FileTree Content} {path : Path} {name : String}
    (found : (tree.entry (path ++ [name])).isSome) : tree.entry path = some .directory :=
  tree.closed path name found

/-- Everything above an existing path is a directory. -/
theorem entry_above {tree : FileTree Content} {path rest : Path} (below : rest ≠ [])
    (found : (tree.entry (path ++ rest)).isSome) : tree.entry path = some .directory := by
  induction rest generalizing path with
  | nil => exact absurd rfl below
  | cons name rest ih =>
      have split : path ++ name :: rest = path ++ [name] ++ rest := by simp
      by_cases last : rest = []
      · subst last
        exact entry_parent found
      · rw [split] at found
        have inside := ih last found
        have below : (tree.entry (path ++ [name])).isSome := by
          rw [inside]
          rfl
        exact entry_parent below

/-- Above a file there are directories. -/
theorem entry_above_file {tree : FileTree Content} {path other : Path} {content : Content}
    (above : Above path other) (found : tree.entry other = some (.file content)) :
    tree.entry path = some .directory := by
  obtain ⟨rest, split⟩ := above.1
  have below : rest ≠ [] := by
    intro last
    apply above.2
    rw [← split, last, List.append_nil]
  apply entry_above below
  rw [split, found]
  rfl

/-- Up to a directory there are directories. -/
theorem entry_upTo {tree : FileTree Content} {path dir : Path}
    (present : tree.isDirectory dir = true) (inside : path <+: dir) :
    tree.entry path = some .directory := by
  rw [isDirectory_iff] at present
  obtain ⟨rest, split⟩ := inside
  by_cases last : rest = []
  · rw [last, List.append_nil] at split
    rw [split, present]
  · apply entry_above last
    rw [split, present]
    rfl

end FileTree

theorem lookup_append {Key Value : Type} [BEq Key] (key : Key) (first second : List (Key × Value)) :
    (first ++ second).lookup key = (first.lookup key).or (second.lookup key) := by
  induction first with
  | nil => rfl
  | cons pair rest ih =>
      obtain ⟨found, value⟩ := pair
      rw [List.cons_append, List.lookup_cons, List.lookup_cons, ih]
      cases key == found <;> rfl

theorem lookup_const (value : Entry Content) (path : Path) (paths : List Path) :
    (paths.map (·, value)).lookup path = if path ∈ paths then some value else none := by
  induction paths with
  | nil => rfl
  | cons first rest ih =>
      rw [List.map_cons, List.lookup_cons, ih]
      by_cases same : path = first
      · simp [same]
      · have other : (path == first) = false := by simpa using same
        simp [other, same]

/-- The entries with every directory down to a path. -/
def withDirs (entries : List (Path × Entry Content)) (path : Path) : List (Path × Entry Content) :=
  path.inits.map (·, .directory) ++ entries

theorem entryIn_withDirs (entries : List (Path × Entry Content)) (path other : Path) :
    entryIn (withDirs entries path) other =
      if other <+: path then some .directory else entryIn entries other := by
  unfold entryIn withDirs
  by_cases root : other = []
  · simp [root]
  · rw [if_neg root, if_neg root, lookup_append, lookup_const]
    simp only [List.mem_inits]
    by_cases above : other <+: path
    · simp [above]
    · simp [above]

theorem entryIn_cons (entries : List (Path × Entry Content)) {path : Path} (below : path ≠ [])
    (entry : Entry Content) (other : Path) :
    entryIn ((path, entry) :: entries) other =
      if other = path then some entry else entryIn entries other := by
  unfold entryIn
  rw [List.lookup_cons]
  by_cases same : other = path
  · simp [same, below]
  · have different : (other == path) = false := by simpa using same
    simp [different, same]

namespace FileTree

theorem withDirs_closed (tree : FileTree Content) (path above : Path) (name : String)
    (found : (entryIn (withDirs tree.entries path) (above ++ [name])).isSome) :
    entryIn (withDirs tree.entries path) above = some .directory := by
  rw [entryIn_withDirs] at found ⊢
  by_cases inside : above <+: path
  · exact if_pos inside
  · have outside : ¬ above ++ [name] <+: path := fun within =>
      inside ((List.prefix_append above [name]).trans within)
    rw [if_neg outside] at found
    rw [if_neg inside]
    exact tree.closed above name found

/-- `mkdir -p path`, which no file may be in the way of. -/
def makeDirs (tree : FileTree Content) (path : Path) : Except Failure (FileTree Content) :=
  if path.inits.any tree.isFile then .error .notDirectory
  else .ok { entries := withDirs tree.entries path, closed := tree.withDirs_closed path }

theorem file_closed (tree : FileTree Content) {path : Path} (content : Content)
    (undirected : ¬ tree.isDirectory path = true)
    (parent : tree.isDirectory path.dropLast = true) (above : Path) (name : String)
    (found : (entryIn ((path, .file content) :: tree.entries) (above ++ [name])).isSome) :
    entryIn ((path, .file content) :: tree.entries) above = some .directory := by
  rw [isDirectory_iff] at undirected parent
  have below : path ≠ [] := by
    rintro rfl
    exact undirected rfl
  rw [entryIn_cons _ below] at found ⊢
  have directory : entryIn tree.entries above = some .directory := by
    by_cases here : above ++ [name] = path
    · rw [← here, List.dropLast_concat] at parent
      exact parent
    · rw [if_neg here] at found
      exact tree.closed above name found
  have other : above ≠ path := by
    rintro rfl
    exact undirected directory
  rw [if_neg other]
  exact directory

/-- Create or replace a file; its directory must exist. -/
def write (tree : FileTree Content) (path : Path) (content : Content) :
    Except Failure (FileTree Content) :=
  if undirected : tree.isDirectory path = true then .error .isDirectory
  else if parent : tree.isDirectory path.dropLast = true then
    .ok {
      entries := (path, .file content) :: tree.entries
      closed := tree.file_closed content undirected parent }
  else .error .missing

/-- The names in a directory. -/
def names (tree : FileTree Content) (dir : Path) : List String :=
  (tree.entries.filterMap fun entry =>
    if entry.1.dropLast = dir then entry.1.getLast? else none).dedup

/-- `readdir` -/
def readdir (tree : FileTree Content) (dir : Path) : Except Failure (List String) :=
  match tree.entry dir with
  | some .directory => .ok (tree.names dir)
  | some (.file _) => .error .notDirectory
  | none => .error .missing

section Laws

variable {tree after : FileTree Content} {path other : Path} {content : Content}

theorem makeDirs_ok_iff :
    (∃ after, tree.makeDirs path = .ok after) ↔ ∀ above, above <+: path → tree.isFile above = false := by
  unfold makeDirs
  by_cases blocked : path.inits.any tree.isFile = true
  · rw [if_pos blocked]
    obtain ⟨above, inside, isFile⟩ := List.any_eq_true.mp blocked
    constructor
    · intro ⟨_, impossible⟩
      cases impossible
    · intro free
      rw [free above ((List.mem_inits _ _).mp inside)] at isFile
      cases isFile
  · rw [if_neg blocked]
    refine ⟨fun _ above inside => ?_, fun _ => ⟨_, rfl⟩⟩
    apply Bool.eq_false_iff.mpr
    intro isFile
    exact blocked (List.any_eq_true.mpr ⟨above, (List.mem_inits _ _).mpr inside, isFile⟩)

theorem makeDirs_error {failure : Failure} (failed : tree.makeDirs path = .error failure) :
    ∃ above, above <+: path ∧ tree.isFile above = true := by
  by_contra none
  have free : ∀ above, above <+: path → tree.isFile above = false := by
    intro above inside
    apply Bool.eq_false_iff.mpr
    intro isFile
    exact none ⟨above, inside, isFile⟩
  obtain ⟨after, made⟩ := makeDirs_ok_iff.mpr free
  rw [made] at failed
  cases failed

theorem entry_makeDirs (made : tree.makeDirs path = .ok after) :
    after.entry other = if other <+: path then some .directory else tree.entry other := by
  unfold makeDirs at made
  split at made
  · cases made
  · cases made
    exact entryIn_withDirs tree.entries path other

/-- A directory that is there is made without a change. -/
theorem makeDirs_present (present : tree.isDirectory path = true) :
    ∃ after, tree.makeDirs path = .ok after ∧ ∀ other, after.entry other = tree.entry other := by
  obtain ⟨after, made⟩ : ∃ after, tree.makeDirs path = .ok after := by
    apply makeDirs_ok_iff.mpr
    intro above inside
    rw [isFile, entry_upTo present inside]
  refine ⟨after, made, ?_⟩
  intro other
  rw [entry_makeDirs made]
  by_cases inside : other <+: path
  · rw [if_pos inside, entry_upTo present inside]
  · rw [if_neg inside]

/-- Directories that no file is in the way of leave every file as it is. -/
theorem files_of_directories (free : ∀ above, above <+: path → tree.isFile above = false)
    (entries : ∀ other, after.entry other =
      if other <+: path then some .directory else tree.entry other) :
    after.entry other = some (.file content) ↔ tree.entry other = some (.file content) := by
  rw [entries]
  by_cases inside : other <+: path
  · rw [if_pos inside]
    constructor
    · intro impossible
      cases impossible
    · intro found
      have isFile := isFile_iff.mpr ⟨content, found⟩
      rw [free other inside] at isFile
      cases isFile
  · rw [if_neg inside]

theorem files_makeDirs (made : tree.makeDirs path = .ok after) :
    after.entry other = some (.file content) ↔ tree.entry other = some (.file content) :=
  files_of_directories (makeDirs_ok_iff.mp ⟨after, made⟩) fun _ => entry_makeDirs made

theorem isFile_makeDirs (made : tree.makeDirs path = .ok after) :
    after.isFile other = tree.isFile other := by
  apply Bool.eq_iff_iff.mpr
  rw [isFile_iff, isFile_iff]
  exact exists_congr fun _ => files_makeDirs made

theorem isDirectory_makeDirs (made : tree.makeDirs path = .ok after) :
    after.isDirectory other = true ↔ other <+: path ∨ tree.isDirectory other = true := by
  rw [isDirectory_iff, isDirectory_iff, entry_makeDirs made]
  by_cases inside : other <+: path
  · simp [inside]
  · simp [inside]

theorem write_ok_iff :
    (∃ after, tree.write path content = .ok after) ↔
      tree.entry path ≠ some .directory ∧ tree.entry path.dropLast = some .directory := by
  rw [ne_eq, ← isDirectory_iff, ← isDirectory_iff]
  unfold write
  by_cases directory : tree.isDirectory path = true
  · simp [directory]
  · by_cases parent : tree.isDirectory path.dropLast = true
    · simp [directory, parent]
    · simp [directory, parent]

theorem entry_write (written : tree.write path content = .ok after) :
    after.entry other = if other = path then some (.file content) else tree.entry other := by
  unfold write at written
  split at written
  · cases written
  · rename_i undirected
    split at written
    · cases written
      apply entryIn_cons
      rintro rfl
      exact undirected (isDirectory_iff.mpr rfl)
    · cases written

theorem mem_names_iff {dir : Path} {name : String} :
    name ∈ tree.names dir ↔ (tree.entry (dir ++ [name])).isSome = true := by
  have below : dir ++ [name] ≠ [] := by simp
  rw [entry, entryIn, if_neg below, List.lookup_isSome_iff, names, List.mem_dedup,
    List.mem_filterMap]
  constructor
  · intro ⟨found, member, named⟩
    split at named
    · rename_i inside
      refine ⟨found, member, beq_iff_eq.mpr ?_⟩
      rw [← inside]
      exact List.dropLast_append_getLast? name named
    · cases named
  · intro ⟨found, member, same⟩
    refine ⟨found, member, ?_⟩
    rw [← beq_iff_eq.mp same, List.dropLast_concat, if_pos rfl, List.getLast?_concat]

end Laws

end FileTree

end Files
