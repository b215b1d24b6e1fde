import S2sStack.CreateService.Main
import S2sStack.CreateService.Writes

set_option autoImplicit false

/- When a run of the scaffolder without `--force` keeps the files that were there. -/
namespace S2s

open Files

variable {Content Data : Type}

section Trees

variable {tree next : FileTree Content} {out : Output Content}

/-- Two trees that hold the same are open to the same outputs. -/
theorem Open.congr (same : ∀ path, next.entry path = tree.entry path) (isOpen : Open tree out) :
    Open next out := by
  have files (path : Path) : next.isFile path = tree.isFile path := by
    rw [FileTree.isFile, FileTree.isFile, same]
  have directories (path : Path) : next.isDirectory path = tree.isDirectory path := by
    rw [FileTree.isDirectory, FileTree.isDirectory, same]
  refine ⟨?_, directories out.path ▸ isOpen.undirected, isOpen.named, isOpen.rendered⟩
  intro above way
  rw [files]
  exact isOpen.free above way

end Trees

/-- Wherever there is a file, what is written last is its own content. -/
def Preserves (tree : FileTree Content) (outs : List (Output Content)) : Prop :=
  ∀ path content, tree.entry path = some (.file content) →
    ∀ out, lastAt path outs = some out → out.content = .ok content

/-- The outputs can be written, and replace files with what these hold. -/
structure Rewrites (tree : FileTree Content) (outs : List (Output Content)) : Prop where
  fits : Fits tree outs
  existing : ∀ out ∈ outs, tree.isFile out.path = true
  preserves : Preserves tree outs

/-- An output cannot be written, and no directory is made for it. -/
structure Stuck (tree : FileTree Content) (out : Output Content) : Prop where
  blocked : ¬ Open tree out
  unmade : (∃ above, Above above out.path ∧ tree.isFile above = true) ∨
    tree.isDirectory out.path.dropLast = true

/-- A file is at the target or above it; or all outputs can be written, and each file keeps its
content; or the target exists, and an output is stuck before anything is changed. -/
inductive SafeOutputs (tree : FileTree Content) (target : Path) (outs : List (Output Content)) : Prop
  | unreached (above : Path) (way : above <+: target) (isFile : tree.isFile above = true)
  | complete (free : Unobstructed tree target outs) (preserves : Preserves tree outs)
  | stopped (present : tree.isDirectory target = true) (done : List (Output Content))
      (out : Output Content) (rest : List (Output Content)) (split : outs = done ++ out :: rest)
      (rewrites : Rewrites tree done) (stuck : Stuck tree out)

section Files

variable {disk mid after : Disk Content} {outs : List (Output Content)}

theorem Rewrites.congr {tree next : FileTree Content}
    (same : ∀ path, next.entry path = tree.entry path) (rewrites : Rewrites tree outs) :
    Rewrites next outs := by
  refine ⟨⟨?_, rewrites.fits.compatible⟩, ?_, ?_⟩
  · intro out member
    exact (rewrites.fits.allOpen out member).congr same
  · intro out member
    rw [FileTree.isFile, same]
    exact rewrites.existing out member
  · intro path content found
    rw [same] at found
    exact rewrites.preserves path content found

theorem Stuck.congr {tree next : FileTree Content} {out : Output Content}
    (same : ∀ path, next.entry path = tree.entry path) (stuck : Stuck tree out) :
    Stuck next out := by
  refine ⟨?_, ?_⟩
  · intro isOpen
    exact stuck.blocked (isOpen.congr fun path => (same path).symm)
  · rcases stuck.unmade with ⟨above, way, isFile⟩ | directory
    · left
      refine ⟨above, way, ?_⟩
      rw [FileTree.isFile, same]
      exact isFile
    · right
      rw [FileTree.isDirectory, same]
      exact directory

theorem exists_lastAt {out : Output Content} (member : out ∈ outs) :
    ∃ last, lastAt out.path outs = some last := by
  apply Option.ne_none_iff_exists'.mp
  intro none
  exact lastAt_eq_none_iff.mp none out member rfl

/-- Outputs that only rewrite leave the tree as it was. -/
theorem Rewrites.unchanged (rewrites : Rewrites disk.tree outs)
    (run : renderFiles disk outs = (mid, .ok ())) (path : Path) :
    mid.tree.entry path = disk.tree.entry path := by
  have rewritten (out : Output Content) (member : out ∈ outs) :
      ∃ content, disk.tree.entry out.path = some (.file content) ∧
        mid.tree.entry out.path = some (.file content) := by
    obtain ⟨content, found⟩ := FileTree.isFile_iff.mp (rewrites.existing out member)
    obtain ⟨last, written⟩ := exists_lastAt member
    obtain ⟨rendered, same, kept⟩ := renderFiles_written run written
    rw [rewrites.preserves out.path content found last written, Except.ok.injEq] at same
    exact ⟨content, found, same ▸ kept⟩
  by_cases below : ∃ out ∈ outs, path <+: out.path
  · obtain ⟨out, member, inside⟩ := below
    obtain ⟨content, found, kept⟩ := rewritten out member
    by_cases here : path = out.path
    · rw [here, found, kept]
    · have above : Above path out.path := ⟨inside, here⟩
      rw [FileTree.entry_above_file above found, FileTree.entry_above_file above kept]
  · apply renderFiles_elsewhere run
    intro out member inside
    exact below ⟨out, member, inside⟩

/-- A refused output changes nothing where it is stuck. -/
theorem Stuck.unchanged {out : Output Content} (stuck : Stuck disk.tree out)
    {result : Except ScaffoldFault Unit} (run : renderFile disk out = (after, result))
    (path : Path) : after.tree.entry path = disk.tree.entry path := by
  obtain ⟨_, _, same, _, cases⟩ := renderFile_of_not_open stuck.blocked
  rw [same, Prod.mk.injEq] at run
  rw [run.1] at cases
  rcases cases with ⟨unchanged, _⟩ | ⟨free, entries⟩
  · rw [unchanged]
  · rcases stuck.unmade with ⟨above, way, isFile⟩ | directory
    · rw [free above way] at isFile
      cases isFile
    · rw [entries]
      by_cases inside : path <+: out.path.dropLast
      · rw [if_pos inside, FileTree.entry_upTo directory inside]
      · rw [if_neg inside]

end Files

section Template

variable {disk after : Disk Content} {render : Renderer Content Data} {data : Data}
  {template : Template Content} {target : Path} {existingApp : Bool}

theorem outputs_near {out : Output Content}
    (member : out ∈ outputs render data template target existingApp) :
    target <+: out.path ∨ out.path <+: target := by
  obtain ⟨file, inside, _, rfl⟩ := mem_outputs_iff.mp member
  exact outPath_near (template.named file inside)

/-- A run that fails and leaves the target as it was met a file on the way, or a stuck output. -/
theorem safeOutputs_of_failed {fault : ScaffoldFault}
    (run : renderTemplate render template target data existingApp disk = (after, .error fault))
    (unchanged : ∀ path, target <+: path → after.tree.entry path = disk.tree.entry path) :
    SafeOutputs disk.tree target (outputs render data template target existingApp) := by
  rw [renderTemplate] at run
  split at run
  · rename_i failure made
    obtain ⟨above, way, isFile⟩ := FileTree.makeDirs_error made
    exact .unreached above way isFile
  · rename_i tree made
    have present : disk.tree.isDirectory target = true := by
      have reached : tree.entry target = some .directory := by
        rw [FileTree.entry_makeDirs made, if_pos (List.prefix_refl target)]
      rw [FileTree.isDirectory_iff, ← unchanged target (List.prefix_refl target)]
      exact renderFiles_directory run reached
    have same (path : Path) : tree.entry path = disk.tree.entry path := by
      obtain ⟨_, again, unchanged⟩ := FileTree.makeDirs_present present
      rw [made, Except.ok.injEq] at again
      rw [again, unchanged]
    obtain ⟨done, out, rest, mid, split, written, blocked, refused⟩ := renderFiles_error run
    have member (other : Output Content) (inside : other ∈ done ++ out :: rest) :
        target <+: other.path ∨ other.path <+: target := outputs_near (split ▸ inside)
    have fits : Fits tree done := renderFiles_ok_iff.mp (congrArg Prod.snd written)
    have inTarget (other : Output Content) (inside : other ∈ done) : target <+: other.path := by
      rcases member other (List.mem_append_left _ inside) with below | above
      · exact below
      · have undirected := (fits.allOpen other inside).undirected
        rw [FileTree.isDirectory, same, FileTree.entry_upTo present above] at undirected
        cases undirected
    -- What is written last to a path is found there after the run, and so was before it.
    have kept (path : Path) (last : Output Content) (there : lastAt path done = some last) :
        ∃ content, last.content = .ok content ∧ disk.tree.entry path = some (.file content) := by
      obtain ⟨content, rendered, found⟩ := renderFiles_written written there
      obtain ⟨inside, here⟩ := lastAt_mem there
      refine ⟨content, rendered, ?_⟩
      rw [← unchanged path (here ▸ inTarget last inside)]
      exact (renderFile_refused_keeps blocked refused path content).mpr found
    have rewrites : Rewrites disk.tree done := by
      refine ⟨⟨?_, fits.compatible⟩, ?_, ?_⟩
      · intro other inside
        exact (fits.allOpen other inside).congr fun path => (same path).symm
      · intro other inside
        obtain ⟨last, there⟩ := exists_lastAt inside
        obtain ⟨content, _, found⟩ := kept other.path last there
        exact FileTree.isFile_iff.mpr ⟨content, found⟩
      · intro path content found last there
        obtain ⟨other, rendered, before⟩ := kept path last there
        rw [found, Option.some.injEq, Entry.file.injEq] at before
        rw [rendered, before]
    have still (path : Path) : mid.tree.entry path = disk.tree.entry path :=
      ((rewrites.congr same).unchanged written path).trans (same path)
    refine .stopped present done out rest split rewrites ⟨?_, ?_⟩
    · intro isOpen
      exact blocked (isOpen.congr still)
    · obtain ⟨_, _, failed, _, cases⟩ := renderFile_of_not_open blocked
      rw [refused, Prod.mk.injEq] at failed
      rw [← failed.1] at cases
      rcases cases with ⟨_, above, way, isFile⟩ | ⟨_, entries⟩
      · left
        refine ⟨above, way, ?_⟩
        rw [FileTree.isFile, ← still]
        exact isFile
      · right
        apply FileTree.isDirectory_iff.mpr
        have parent := List.dropLast_prefix out.path
        rcases member out (by simp) with below | above
        · by_cases here : target = out.path
          · exact FileTree.entry_upTo present (here ▸ parent)
          · have way : Above target out.path := ⟨below, here⟩
            have filled : out.path ≠ [] := by
              intro root
              rw [root] at way
              exact way.2 (List.prefix_nil.mp way.1)
            rw [← unchanged out.path.dropLast ((above_iff filled).mp way), entries,
              if_pos (List.prefix_refl _)]
        · exact FileTree.entry_upTo present (parent.trans above)

theorem safeOutputs_of_completed
    (run : renderTemplate render template target data existingApp disk = (after, .ok ()))
    (kept : ∀ path content, disk.tree.entry path = some (.file content) →
      after.tree.entry path = some (.file content)) :
    SafeOutputs disk.tree target (outputs render data template target existingApp) := by
  refine .complete (renderTemplate_ok_iff.mp (congrArg Prod.snd run)) ?_
  intro path content found out last
  rw [renderTemplate] at run
  split at run
  · cases run
  · obtain ⟨written, rendered, there⟩ := renderFiles_written run last
    rw [kept path content found, Option.some.injEq, Entry.file.injEq] at there
    rw [rendered, there]

theorem fails_of_unreached {above : Path} (way : above <+: target)
    (isFile : disk.tree.isFile above = true) :
    ∃ fault, renderTemplate render template target data existingApp disk = (disk, .error fault) := by
  rw [renderTemplate]
  split
  · exact ⟨_, rfl⟩
  · rename_i tree made
    rw [FileTree.makeDirs_ok_iff.mp ⟨tree, made⟩ above way] at isFile
    cases isFile

theorem keeps_of_complete
    (free : Unobstructed disk.tree target (outputs render data template target existingApp))
    (preserves : Preserves disk.tree (outputs render data template target existingApp)) :
    ∃ after, renderTemplate render template target data existingApp disk = (after, .ok ()) ∧
      ∀ path content, disk.tree.entry path = some (.file content) →
        after.tree.entry path = some (.file content) := by
  obtain ⟨after, run⟩ : ∃ after,
      renderTemplate render template target data existingApp disk = (after, .ok ()) :=
    ⟨_, Prod.ext rfl (renderTemplate_ok_iff.mpr free)⟩
  refine ⟨after, run, ?_⟩
  intro path content found
  rw [renderTemplate] at run
  split at run
  · cases run
  · rename_i tree made
    cases last : lastAt path (outputs render data template target existingApp) with
    | none =>
        apply (renderFiles_keeps run (lastAt_eq_none_iff.mp last) content).mpr
        exact (FileTree.files_makeDirs made).mpr found
    | some out =>
        obtain ⟨written, rendered, there⟩ := renderFiles_written run last
        rw [preserves path content found out last, Except.ok.injEq] at rendered
        rw [rendered]
        exact there

theorem fails_of_stopped (present : disk.tree.isDirectory target = true)
    {done rest : List (Output Content)} {out : Output Content}
    (split : outputs render data template target existingApp = done ++ out :: rest)
    (rewrites : Rewrites disk.tree done) (stuck : Stuck disk.tree out) :
    ∃ after fault,
      renderTemplate render template target data existingApp disk = (after, .error fault) ∧
        ∀ path, after.tree.entry path = disk.tree.entry path := by
  obtain ⟨tree, made, same⟩ := FileTree.makeDirs_present present
  have rewritten : Rewrites tree done := rewrites.congr same
  have written : renderFiles { disk with tree := tree } done = (_, .ok ()) :=
    Prod.ext rfl (renderFiles_ok_iff.mpr rewritten.fits)
  have still (path : Path) := (rewritten.unchanged written path).trans (same path)
  have stopped := stuck.congr still
  obtain ⟨after, fault, refused, _⟩ := renderFile_of_not_open stopped.blocked
  refine ⟨after, fault, ?_, ?_⟩
  · rw [renderTemplate, made, split]
    simp only
    rw [renderFiles_append written, renderFiles, refused]
  · intro path
    exact (stopped.unchanged refused path).trans (still path)

/-- A run fails and leaves the target as it was, or completes and every file keeps its content. -/
def KeepsOrFails (target : Path) (before : FileTree Content)
    (run : Disk Content × Except ScaffoldFault Unit) : Prop :=
  (run.2 ≠ .ok () ∧ ∀ path, target <+: path → run.1.tree.entry path = before.entry path) ∨
  (run.2 = .ok () ∧ ∀ path content, before.entry path = some (.file content) →
    run.1.tree.entry path = some (.file content))

theorem renderTemplate_keepsOrFails_iff :
    KeepsOrFails target disk.tree
        (renderTemplate render template target data existingApp disk) ↔
      SafeOutputs disk.tree target (outputs render data template target existingApp) := by
  constructor
  · intro safe
    cases run : renderTemplate render template target data existingApp disk with
    | mk after result =>
        rw [run] at safe
        rcases safe with ⟨fails, unchanged⟩ | ⟨returned, kept⟩
        · cases result with
          | ok value => exact absurd rfl fails
          | error fault => exact safeOutputs_of_failed run unchanged
        · simp only at returned
          rw [returned] at run
          exact safeOutputs_of_completed run kept
  · intro safe
    have failed (fault : ScaffoldFault) : (.error fault : Except ScaffoldFault Unit) ≠ .ok () := by
      intro impossible
      cases impossible
    cases safe with
    | unreached above way isFile =>
        obtain ⟨fault, run⟩ : ∃ fault,
            renderTemplate render template target data existingApp disk = (disk, .error fault) :=
          fails_of_unreached way isFile
        rw [run]
        exact .inl ⟨failed fault, fun _ _ => rfl⟩
    | complete free preserves =>
        obtain ⟨after, run, kept⟩ := keeps_of_complete free preserves
        rw [run]
        exact .inr ⟨rfl, kept⟩
    | stopped present done out rest split rewrites stuck =>
        obtain ⟨after, fault, run, unchanged⟩ := fails_of_stopped present split rewrites stuck
        rw [run]
        exact .inl ⟨failed fault, fun path _ => unchanged path⟩

end Template

section Runs

variable {env : Scaffolder Content} {cwd : Path} {argv : List String} {disk : Disk Content}

def targetOf (cwd : Path) (argv : List String) : Path := resolve cwd (parseArgs argv).targetDir

/-- A run without `--force` gets to rendering, with these answers. -/
structure Renders (env : Scaffolder Content) (cwd : Path) (argv : List String)
    (tree : FileTree Content) (answers : PromptAnswers) : Prop where
  unhelped : (parseArgs argv).help = false
  aimed : (parseArgs argv).targetDir ≠ ""
  answered : answersOf env cwd (parseArgs argv) tree = .ok answers
  valid : validateAll answers = .ok ()
  admitted : assertEmptyDir tree (targetOf cwd argv) (parseArgs argv).existingApp = .ok ()

/-- What a run would write. -/
def plannedOutputs (env : Scaffolder Content) (cwd : Path) (argv : List String)
    (answers : PromptAnswers) : List (Output Content) :=
  outputs env.render (templateData env answers) env.template (targetOf cwd argv)
    (parseArgs argv).existingApp

/-- `main` resolves to zero. -/
def Completes (result : Except ScaffoldFault Ending) : Prop :=
  ∃ ending, result = .ok ending ∧ ending.code = 0

/-- A run fails and leaves the target as it was, or completes and every file keeps its content. -/
def NeverOverwrites (target : Path) (before : FileTree Content)
    (run : Disk Content × Except ScaffoldFault Ending) : Prop :=
  (¬ Completes run.2 ∧
    ∀ path, target <+: path → run.1.tree.entry path = before.entry path) ∨
  (Completes run.2 ∧ ∀ path content, before.entry path = some (.file content) →
    run.1.tree.entry path = some (.file content))

theorem argOf_eq_force {a : String} (same : argOf a = .force) : a = "--force" := by
  rcases argOf_cases a with is | is | ⟨given, _⟩ | ⟨_, is⟩ | ⟨_, is⟩ | is | is
  case inr.inr.inl => exact given
  all_goals
    rw [is] at same
    cases same

theorem applyArg_force (out : CliArgs) {arg : Arg} (other : arg ≠ .force) :
    (applyArg out arg).force = out.force := by
  cases arg with
  | force => exact absurd rfl other
  | option name value => cases name <;> rfl
  | positional dir =>
      rw [applyArg]
      split <;> rfl
  | _ => rfl

theorem parseFrom_force {argv : List String} (unforced : "--force" ∉ argv) (out : CliArgs) :
    (parseFrom out argv).force = out.force := by
  fun_induction parseFrom out argv with
  | case1 out => rfl
  | case2 out a =>
      apply applyArg_force out
      intro forced
      exact unforced (argOf_eq_force forced ▸ List.mem_cons_self)
  | case3 out a next rest given ih =>
      rw [ih fun inRest => unforced (List.mem_cons_of_mem _ (List.mem_cons_of_mem _ inRest))]
  | case4 out a next rest given ih =>
      rw [ih fun inRest => unforced (List.mem_cons_of_mem _ inRest)]
      apply applyArg_force out
      intro forced
      exact unforced (argOf_eq_force forced ▸ List.mem_cons_self)

theorem neverOverwrites_of_unchanged {target : Path}
    {run : Disk Content × Except ScaffoldFault Ending} (unchanged : run.1 = disk) :
    NeverOverwrites target disk.tree run := by
  by_cases completes : Completes run.2
  · refine .inr ⟨completes, ?_⟩
    rw [unchanged]
    exact fun _ _ found => found
  · refine .inl ⟨completes, ?_⟩
    rw [unchanged]
    exact fun _ _ => rfl

/-- A run that renders nothing changes nothing, and does not end as one that scaffolds. -/
theorem main_of_not_renders (unforced : (parseArgs argv).force = false)
    (not : ∀ answers, ¬ Renders env cwd argv disk.tree answers) :
    (main env cwd argv disk).1 = disk := by
  unfold main
  simp only [unforced, Bool.false_or]
  split
  · rfl
  · rename_i unhelped
    split
    · rfl
    · rename_i aimed
      split
      · rfl
      · rename_i answers answered
        split
        · rfl
        · rename_i valid
          split
          · rfl
          · rfl
          · rename_i admitted
            exact absurd ⟨Bool.eq_false_iff.mpr unhelped, aimed, answered, valid, admitted⟩
              (not answers)

/-- A run that renders overwrites nothing where `renderTemplate` does not. -/
theorem neverOverwrites_of_renders (unforced : (parseArgs argv).force = false)
    {answers : PromptAnswers} (renders : Renders env cwd argv disk.tree answers) :
    NeverOverwrites (targetOf cwd argv) disk.tree (main env cwd argv disk) ↔
      KeepsOrFails (targetOf cwd argv) disk.tree
        (renderTemplate env.render env.template (targetOf cwd argv) (templateData env answers)
          (parseArgs argv).existingApp disk) := by
  have admitted := renders.admitted
  rw [targetOf] at admitted ⊢
  unfold main
  simp only [unforced, renders.unhelped, renders.aimed, renders.answered, renders.valid, admitted,
    Bool.false_or, Bool.false_eq_true, if_false]
  split
  · rename_i after value run
    have completes : Completes (.ok .scaffolded) := ⟨.scaffolded, rfl, rfl⟩
    rw [run]
    simp [NeverOverwrites, KeepsOrFails, completes]
  · rename_i after fault run
    have fails : ¬ Completes (.error fault) := by
      intro ⟨_, impossible, _⟩
      cases impossible
    rw [run]
    simp [NeverOverwrites, KeepsOrFails, fails]

/-- A run without `--force` overwrites nothing exactly where it does not get to rendering, or its
outputs are safe. -/
theorem neverOverwrites_iff (env : Scaffolder Content) (cwd : Path) (argv : List String)
    (disk : Disk Content) (unforced : "--force" ∉ argv) :
    NeverOverwrites (targetOf cwd argv) disk.tree (main env cwd argv disk) ↔
      ∀ answers, Renders env cwd argv disk.tree answers →
        SafeOutputs disk.tree (targetOf cwd argv) (plannedOutputs env cwd argv answers) := by
  have unforced : (parseArgs argv).force = false := parseFrom_force unforced {}
  constructor
  · intro safe answers renders
    apply renderTemplate_keepsOrFails_iff.mp
    exact (neverOverwrites_of_renders unforced renders).mp safe
  · intro safe
    by_cases reaches : ∃ answers, Renders env cwd argv disk.tree answers
    · obtain ⟨answers, renders⟩ := reaches
      apply (neverOverwrites_of_renders unforced renders).mpr
      exact renderTemplate_keepsOrFails_iff.mpr (safe answers renders)
    · rw [not_exists] at reaches
      exact neverOverwrites_of_unchanged (main_of_not_renders unforced reaches)

end Runs

section Examples

theorem template_named (files : List (String × TemplateNode String))
    (named : ((walk [] files).all fun file => file.rel.all fun name =>
      name ≠ "" && name ≠ "." && name ≠ ".." && !name.toList.contains '/') = true) :
    ∀ file ∈ walk [] files, ∀ name ∈ file.rel, IsEntryName name := by
  intro file member name inside
  have holds := List.all_eq_true.mp (List.all_eq_true.mp named file member) name inside
  simpa [IsEntryName, and_assoc] using holds

/-- The scaffolder over a template whose files are copied. -/
def copying (template : Template String) : Scaffolder String where
  template := template
  render := fun content _ _ => .ok content
  text := id
  parseJson := fun _ => .error (.error none "Unexpected token")
  prompts := fun _ => .error (.error none "prompts were closed")
  cliVersion := "0.1.0"

def serviceTemplate : Template String where
  entries := [(".gitignore", .file "node_modules"),
    ("terraform", .dir [("main.tf", .file "module")])]
  named := template_named _ (by decide +kernel)

/-- A directory with one file. -/
def oneFile (name : String) (node : TemplateNode String)
    (named : ∀ file ∈ walk [] [(name, node)], ∀ name ∈ file.rel, IsEntryName name) :
    Template String where
  entries := [(name, node)]
  named := named

def scaffoldArgs : List String :=
  ["app", "--non-interactive", "--service-name=svc", "--bounded-context=lending", "--alb-path=/*"]

def existingAppArgs : List String := "--existing-app" :: scaffoldArgs

/-- What a template leaves in an empty `/home/app`. -/
def leftBy (template : Template String) : Disk String :=
  (main (copying template) ["home"] scaffoldArgs ⟨FileTree.empty, []⟩).1

def readmeDisk : Disk String :=
  leftBy (oneFile "README.md" (.file "mine") (template_named _ (by decide +kernel)))

def gitignoreDisk : Disk String :=
  leftBy (oneFile ".gitignore" (.file "secrets") (template_named _ (by decide +kernel)))

def terraformDisk : Disk String :=
  leftBy (oneFile "terraform" (.dir [("main.tf", .file "database")])
    (template_named _ (by decide +kernel)))

def moduleOutput : Output String where
  path := ["home", "app", "terraform", "main.tf"]
  nameless := false
  content := .ok "module"

theorem plannedOutputs_existingApp (answers : PromptAnswers) :
    plannedOutputs (copying serviceTemplate) ["home"] existingAppArgs answers = [moduleOutput] := by
  rfl

theorem existingApp_safe (answers : PromptAnswers) :
    SafeOutputs readmeDisk.tree (targetOf ["home"] existingAppArgs)
      (plannedOutputs (copying serviceTemplate) ["home"] existingAppArgs answers) := by
  have renders : (renderTemplate (copying serviceTemplate).render serviceTemplate
      (targetOf ["home"] existingAppArgs) (templateData (copying serviceTemplate) answers)
      (parseArgs existingAppArgs).existingApp readmeDisk).2 = .ok () := rfl
  refine .complete (renderTemplate_ok_iff.mp renders) ?_
  intro path content found out last
  rw [plannedOutputs_existingApp] at last
  obtain ⟨member, rfl⟩ := lastAt_mem last
  cases List.mem_singleton.mp member
  have absent : readmeDisk.tree.entry moduleOutput.path = none := by decide +kernel
  rw [absent] at found
  cases found

/-- A target with a file that is not hidden is left as it is. As an existing app it gets the
`terraform` files beside that file. -/
theorem readme_kept :
    ("--force" ∉ scaffoldArgs ∧
      NeverOverwrites (targetOf ["home"] scaffoldArgs) readmeDisk.tree
        (main (copying serviceTemplate) ["home"] scaffoldArgs readmeDisk)) ∧
    "--force" ∉ existingAppArgs ∧
      (main (copying serviceTemplate) ["home"] existingAppArgs readmeDisk).2 = .ok .scaffolded ∧
      NeverOverwrites (targetOf ["home"] existingAppArgs) readmeDisk.tree
        (main (copying serviceTemplate) ["home"] existingAppArgs readmeDisk) := by
  have unforced : "--force" ∉ scaffoldArgs := by decide
  have refused : ¬ assertEmptyDir readmeDisk.tree (targetOf ["home"] scaffoldArgs)
      (parseArgs scaffoldArgs).existingApp = .ok () := by decide +kernel
  have unforcedExisting : "--force" ∉ existingAppArgs := by decide
  refine ⟨⟨unforced, ?_⟩, unforcedExisting, by decide +kernel, ?_⟩
  · apply (neverOverwrites_iff (copying serviceTemplate) ["home"] scaffoldArgs readmeDisk
      unforced).mpr
    intro answers renders
    exact absurd renders.admitted refused
  · apply (neverOverwrites_iff (copying serviceTemplate) ["home"] existingAppArgs readmeDisk
      unforcedExisting).mpr
    intro answers _
    exact existingApp_safe answers

theorem not_neverOverwrites {target : Path} {before : FileTree Content}
    {run : Disk Content × Except ScaffoldFault Ending} (scaffolds : run.2 = .ok .scaffolded)
    {path : Path} {content : Content} (found : before.entry path = some (.file content))
    (lost : run.1.tree.entry path ≠ some (.file content)) :
    ¬ NeverOverwrites target before run := by
  rintro (⟨fails, _⟩ | ⟨_, kept⟩)
  · exact fails ⟨.scaffolded, scaffolds, rfl⟩
  · exact lost (kept path content found)

/-- A hidden file is lost, and in an existing app a file of `terraform` is. -/
theorem gitignore_overwritten :
    ("--force" ∉ scaffoldArgs ∧
      ¬ NeverOverwrites (targetOf ["home"] scaffoldArgs) gitignoreDisk.tree
        (main (copying serviceTemplate) ["home"] scaffoldArgs gitignoreDisk)) ∧
    ("--force" ∉ existingAppArgs ∧
      ¬ NeverOverwrites (targetOf ["home"] existingAppArgs) terraformDisk.tree
        (main (copying serviceTemplate) ["home"] existingAppArgs terraformDisk)) := by
  refine ⟨⟨by decide, ?_⟩, ⟨by decide, ?_⟩⟩
  · have found : gitignoreDisk.tree.entry ["home", "app", ".gitignore"] =
        some (.file "secrets") := by decide +kernel
    exact not_neverOverwrites (by decide +kernel) found (by decide +kernel)
  · have found : terraformDisk.tree.entry ["home", "app", "terraform", "main.tf"] =
        some (.file "database") := by decide +kernel
    exact not_neverOverwrites (by decide +kernel) found (by decide +kernel)

end Examples

end S2s
