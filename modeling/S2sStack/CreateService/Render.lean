import S2sStack.Errors
import S2sStack.Files.Tree
import S2sStack.Js.Text

set_option autoImplicit false

/- `render.ts` of the scaffolder: a template tree written into a target directory. -/
namespace S2s

open Files

variable {Content Data : Type}

/-- What a template directory holds. -/
inductive TemplateNode (Content : Type) where
  | file (content : Content)
  | dir (entries : List (String × TemplateNode Content))

structure TemplateFile (Content : Type) where
  /-- the path relative to the template directory -/
  rel : Path
  content : Content

mutual

/-- `walk(dir)` from what is found at a path -/
def walkNode (rel : Path) : TemplateNode Content → List (TemplateFile Content)
  | .file content => [⟨rel, content⟩]
  | .dir entries => walk rel entries

/-- `walk(dir)`: the files below a directory, in the order of `readdir` -/
def walk (rel : Path) : List (String × TemplateNode Content) → List (TemplateFile Content)
  | [] => []
  | (name, node) :: rest => walkNode (rel ++ [name]) node ++ walk rel rest

end

/-- The name of a directory entry. -/
def IsEntryName (name : String) : Prop :=
  name ≠ "" ∧ name ≠ "." ∧ name ≠ ".." ∧ '/' ∉ name.toList

/-- A template directory. -/
structure Template (Content : Type) where
  entries : List (String × TemplateNode Content)
  named : ∀ file ∈ walk [] entries, ∀ name ∈ file.rel, IsEntryName name

def Template.files (template : Template Content) : List (TemplateFile Content) :=
  walk [] template.entries

/-- `EXISTING_APP_KEEP_PREFIXES` -/
def existingAppKeepPrefixes : List String := ["terraform", "policies"]

/-- Both path separators, `/` and the backslash. -/
def isSeparator (c : Char) : Bool := c = '/' ∨ c.val = 0x5C

/-- `rel.split(/[\\/]/)[0]` -/
def topSegment (rel : Path) : String :=
  String.ofList (("/".intercalate rel).toList.takeWhile (!isSeparator ·))

/-- A file that is not skipped. -/
def isSelected (existingApp : Bool) (file : TemplateFile Content) : Bool :=
  !existingApp || existingAppKeepPrefixes.contains (topSegment file.rel)

/-- `name.endsWith('.ejs')` -/
def isEjs (name : String) : Bool := ".ejs".toList.isSuffixOf name.toList

/-- `name.slice(0, -'.ejs'.length)` -/
def withoutEjs (name : String) : String :=
  String.ofList (name.toList.take (name.toList.length - 4))

/-- The last segment of `outRel`; the others are those of `rel`. -/
def outName (rel : Path) : String :=
  let name := rel.getLastD ""
  if isEjs name then withoutEjs name else name

/-- One segment of a path that is normalized. -/
def pushSegment (path : Path) (segment : String) : Path :=
  if segment = "" ∨ segment = "." then path
  else if segment = ".." then path.dropLast
  else path ++ [segment]

/-- `join(targetDir, outRel)` -/
def outPath (target rel : Path) : Path :=
  (rel.dropLast ++ [outName rel]).foldl pushSegment target

theorem foldl_pushSegment {segments : List String} (named : ∀ name ∈ segments, IsEntryName name)
    (path : Path) : segments.foldl pushSegment path = path ++ segments := by
  induction segments generalizing path with
  | nil => simp
  | cons name rest ih =>
      obtain ⟨filled, here, parent, _⟩ := named name List.mem_cons_self
      rw [List.foldl_cons, ih fun other member => named other (List.mem_cons_of_mem _ member)]
      simp [pushSegment, filled, here, parent]

/-- An output path is in the target, or above it. -/
theorem outPath_near {target rel : Path} (named : ∀ name ∈ rel, IsEntryName name) :
    target <+: outPath target rel ∨ outPath target rel <+: target := by
  have dirs : ∀ name ∈ rel.dropLast, IsEntryName name := fun name member =>
    named name (List.mem_of_mem_dropLast member)
  rw [outPath, List.foldl_append, foldl_pushSegment dirs, List.foldl_cons, List.foldl_nil,
    pushSegment]
  split
  · exact .inl (List.prefix_append _ _)
  · split
    · cases rel.dropLast with
      | nil =>
          rw [List.append_nil]
          exact .inr (List.dropLast_prefix target)
      | cons dir rest =>
          rw [List.dropLast_append_of_ne_nil (List.cons_ne_nil dir rest)]
          exact .inl (List.prefix_append _ _)
    · rw [List.append_assoc]
      exact .inl (List.prefix_append _ _)

/-- What one file of the template comes to. -/
structure Output (Content : Type) where
  path : Path
  /-- nothing is left of the name, and the path ends in a slash -/
  nameless : Bool
  /-- the text that is copied or rendered; `ejs.render` may throw -/
  content : Except Fault Content

/-- `ejs.render(template, data, { filename })` on what was read -/
abbrev Renderer (Content Data : Type) := Content → Data → Path → Except Fault Content

def outputOf (render : Renderer Content Data) (data : Data) (target : Path)
    (file : TemplateFile Content) : Output Content where
  path := outPath target file.rel
  nameless := outName file.rel = ""
  content :=
    if isEjs (file.rel.getLastD "") then render file.content data file.rel else .ok file.content

/-- The file system, and the files that were written to it. -/
structure Disk (Content : Type) where
  tree : FileTree Content
  writes : List Path

inductive ScaffoldFault where
  /-- `RenderError` -/
  | refused (dir : Path)
  | disk (failure : Failure)
  | thrown (fault : Fault)
  deriving DecidableEq

/-- The body of the loop of `renderTemplate`. -/
def renderFile (disk : Disk Content) (out : Output Content) :
    Disk Content × Except ScaffoldFault Unit :=
  match disk.tree.makeDirs out.path.dropLast with
  | .error failure => (disk, .error (.disk failure))
  | .ok tree =>
      match out.content with
      | .error fault => ({ disk with tree := tree }, .error (.thrown fault))
      | .ok content =>
          if out.nameless then ({ disk with tree := tree }, .error (.disk .isDirectory))
          else
            match tree.write out.path content with
            | .error failure => ({ disk with tree := tree }, .error (.disk failure))
            | .ok written => ({ tree := written, writes := disk.writes ++ [out.path] }, .ok ())

def renderFiles (disk : Disk Content) : List (Output Content) →
    Disk Content × Except ScaffoldFault Unit
  | [] => (disk, .ok ())
  | out :: rest =>
      match renderFile disk out with
      | (next, .ok _) => renderFiles next rest
      | (next, .error fault) => (next, .error fault)

/-- The outputs of a template, in the order in which they are written. -/
def outputs (render : Renderer Content Data) (data : Data) (template : Template Content)
    (target : Path) (existingApp : Bool) : List (Output Content) :=
  (template.files.filter (isSelected existingApp)).map (outputOf render data target)

def renderTemplate (render : Renderer Content Data) (template : Template Content) (target : Path)
    (data : Data) (existingApp : Bool) (disk : Disk Content) :
    Disk Content × Except ScaffoldFault Unit :=
  match disk.tree.makeDirs target with
  | .error failure => (disk, .error (.disk failure))
  | .ok tree =>
      renderFiles { disk with tree := tree } (outputs render data template target existingApp)

/-- `name.startsWith('.')` -/
def isHidden (name : String) : Bool := (Js.afterWord ['.'] name.toList).isSome

def assertEmptyDir (tree : FileTree Content) (dir : Path) (force : Bool) :
    Except ScaffoldFault Unit :=
  if force then .ok ()
  else
    match tree.readdir dir with
    | .ok names => if names.any (!isHidden ·) then .error (.refused dir) else .ok ()
    | .error .missing => .ok ()
    | .error failure => .error (.disk failure)

end S2s
