import S2sStack.CreateService.Render

set_option autoImplicit false

/- When the outputs of a template can be written, and what writing them leaves alone. -/
namespace S2s

open Files

variable {Content Data : Type}

/-- Nothing is in the way of an output. -/
structure Open (tree : FileTree Content) (out : Output Content) : Prop where
  free : ∀ above, Above above out.path → tree.isFile above = false
  undirected : tree.isDirectory out.path = false
  named : out.nameless = false
  rendered : ∃ content, out.content = .ok content

section Step

variable {disk next : Disk Content} {out : Output Content}

theorem Open.below {tree : FileTree Content} (isOpen : Open tree out) : out.path ≠ [] := by
  intro root
  have undirected := isOpen.undirected
  rw [root] at undirected
  cases undirected

/-- An output is written exactly where it is open: its file, and the directories above it. -/
theorem renderFile_of_open (isOpen : Open disk.tree out) :
    ∃ next content, renderFile disk out = (next, .ok ()) ∧ out.content = .ok content ∧
      next.writes = disk.writes ++ [out.path] ∧
      ∀ path, next.tree.entry path =
        if path = out.path then some (.file content)
        else if Above path out.path then some .directory else disk.tree.entry path := by
  obtain ⟨content, rendered⟩ := isOpen.rendered
  have directories (path : Path) : Above path out.path ↔ path <+: out.path.dropLast :=
    above_iff isOpen.below
  obtain ⟨tree, made⟩ : ∃ tree, disk.tree.makeDirs out.path.dropLast = .ok tree := by
    apply FileTree.makeDirs_ok_iff.mpr
    intro above inside
    exact isOpen.free above ((directories above).mpr inside)
  obtain ⟨written, done⟩ : ∃ written, tree.write out.path content = .ok written := by
    apply FileTree.write_ok_iff.mpr
    constructor
    · rw [FileTree.entry_makeDirs made, if_neg fun inside => ((directories _).mpr inside).2 rfl]
      rw [ne_eq, ← FileTree.isDirectory_iff, isOpen.undirected]
      exact Bool.false_ne_true
    · rw [FileTree.entry_makeDirs made, if_pos (List.prefix_refl _)]
  refine ⟨{ tree := written, writes := disk.writes ++ [out.path] }, content, ?_, rendered, rfl, ?_⟩
  · simp [renderFile, made, rendered, isOpen.named, done]
  · intro path
    rw [FileTree.entry_write done, FileTree.entry_makeDirs made]
    simp only [directories]

/-- A refused output may leave directories behind, and nothing else. -/
theorem renderFile_of_not_open (blocked : ¬ Open disk.tree out) :
    ∃ next fault, renderFile disk out = (next, .error fault) ∧ next.writes = disk.writes ∧
      ((next = disk ∧ ∃ above, Above above out.path ∧ disk.tree.isFile above = true) ∨
        ((∀ above, Above above out.path → disk.tree.isFile above = false) ∧
          ∀ path, next.tree.entry path =
            if path <+: out.path.dropLast then some .directory else disk.tree.entry path)) := by
  cases made : disk.tree.makeDirs out.path.dropLast with
  | error failure =>
      refine ⟨disk, .disk failure, by simp [renderFile, made], rfl, .inl ⟨rfl, ?_⟩⟩
      obtain ⟨above, inside, isFile⟩ := FileTree.makeDirs_error made
      have below : out.path ≠ [] := by
        intro root
        rw [root, List.dropLast_nil, List.prefix_nil] at inside
        rw [inside] at isFile
        cases isFile
      exact ⟨above, (above_iff below).mpr inside, isFile⟩
  | ok tree =>
      have free : ∀ above, Above above out.path → disk.tree.isFile above = false := by
        intro above inside
        have below : out.path ≠ [] := by
          intro root
          rw [root] at inside
          exact inside.2 (List.prefix_nil.mp inside.1)
        exact FileTree.makeDirs_ok_iff.mp ⟨tree, made⟩ above ((above_iff below).mp inside)
      have entries (path : Path) : tree.entry path =
          if path <+: out.path.dropLast then some .directory else disk.tree.entry path :=
        FileTree.entry_makeDirs made
      cases rendered : out.content with
      | error fault =>
          exact ⟨{ disk with tree := tree }, .thrown fault, by simp [renderFile, made, rendered],
            rfl, .inr ⟨free, entries⟩⟩
      | ok content =>
          cases named : out.nameless with
          | true =>
              exact ⟨{ disk with tree := tree }, .disk .isDirectory,
                by simp [renderFile, made, rendered, named], rfl, .inr ⟨free, entries⟩⟩
          | false =>
              cases done : tree.write out.path content with
              | error failure =>
                  exact ⟨{ disk with tree := tree }, .disk failure,
                    by simp [renderFile, made, rendered, named, done], rfl, .inr ⟨free, entries⟩⟩
              | ok written =>
                  have undirected := (FileTree.write_ok_iff.mp ⟨written, done⟩).1
                  refine absurd ⟨free, ?_, named, content, rendered⟩ blocked
                  apply Bool.eq_false_iff.mpr
                  intro directory
                  apply undirected
                  rw [entries]
                  by_cases inside : out.path <+: out.path.dropLast
                  · exact if_pos inside
                  · rw [if_neg inside]
                    exact FileTree.isDirectory_iff.mp directory

/-- A refused output leaves every file as it is. -/
theorem renderFile_refused_keeps (blocked : ¬ Open disk.tree out)
    {result : Except ScaffoldFault Unit} (run : renderFile disk out = (next, result)) (path : Path)
    (content : Content) :
    next.tree.entry path = some (.file content) ↔ disk.tree.entry path = some (.file content) := by
  obtain ⟨_, _, same, _, cases⟩ := renderFile_of_not_open blocked
  rw [same, Prod.mk.injEq] at run
  rw [run.1] at cases
  rcases cases with ⟨unchanged, _⟩ | ⟨free, entries⟩
  · rw [unchanged]
  · apply FileTree.files_of_directories ?_ entries
    intro above inside
    by_cases root : out.path = []
    · rw [root, List.dropLast_nil, List.prefix_nil] at inside
      rw [inside]
      rfl
    · exact free above ((above_iff root).mpr inside)

/-- Files elsewhere keep their content, and none appears. -/
theorem renderFile_keeps {result : Except ScaffoldFault Unit}
    (run : renderFile disk out = (next, result)) {path : Path} (elsewhere : path ≠ out.path)
    (content : Content) :
    next.tree.entry path = some (.file content) ↔ disk.tree.entry path = some (.file content) := by
  by_cases isOpen : Open disk.tree out
  · obtain ⟨_, _, same, _, _, entries⟩ := renderFile_of_open isOpen
    rw [same, Prod.mk.injEq] at run
    rw [← run.1, entries, if_neg elsewhere]
    by_cases above : Above path out.path
    · have unfiled : disk.tree.entry path ≠ some (.file content) := by
        intro found
        have isFile := FileTree.isFile_iff.mpr ⟨content, found⟩
        rw [isOpen.free path above] at isFile
        cases isFile
      simp [above, unfiled]
    · rw [if_neg above]
  · exact renderFile_refused_keeps isOpen run path content

end Step

/-- Neither of two outputs is in the way of the other. -/
def Compatible (one other : Output Content) : Prop :=
  ¬ Above one.path other.path ∧ ¬ Above other.path one.path

/-- Nothing is in the way of any output, another output included. -/
structure Fits (tree : FileTree Content) (outs : List (Output Content)) : Prop where
  allOpen : ∀ out ∈ outs, Open tree out
  compatible : outs.Pairwise Compatible

section Files

variable {disk next after : Disk Content} {out : Output Content} {outs rest : List (Output Content)}
  {result : Except ScaffoldFault Unit}

/-- After an output is written, an output is open that was open and is compatible with it. -/
theorem open_after_iff (isOpen : Open disk.tree out) {content : Content}
    (entries : ∀ path, next.tree.entry path =
      if path = out.path then some (.file content)
      else if Above path out.path then some .directory else disk.tree.entry path)
    (other : Output Content) :
    Open next.tree other ↔ Open disk.tree other ∧ Compatible out other := by
  have file (path : Path) : next.tree.isFile path = true ↔
      path = out.path ∨ disk.tree.isFile path = true := by
    rw [FileTree.isFile_iff, FileTree.isFile_iff, entries]
    by_cases here : path = out.path
    · simp [here]
    · by_cases above : Above path out.path
      · have free := isOpen.free path above
        have unfiled : ¬ ∃ content, disk.tree.entry path = some (.file content) := by
          rw [← FileTree.isFile_iff, free]
          exact Bool.false_ne_true
        simp [here, above, unfiled]
      · simp [here, above]
  have directory (path : Path) : next.tree.isDirectory path = true ↔
      Above path out.path ∨ disk.tree.isDirectory path = true := by
    rw [FileTree.isDirectory_iff, FileTree.isDirectory_iff, entries]
    by_cases here : path = out.path
    · have undirected : ¬ disk.tree.entry out.path = some .directory := by
        rw [← FileTree.isDirectory_iff, isOpen.undirected]
        exact Bool.false_ne_true
      simp [here, not_above_self, undirected]
    · by_cases above : Above path out.path
      · simp [here, above]
      · simp [here, above]
  constructor
  · intro open_
    have unblocked (above : Path) (way : Above above other.path) :
        ¬ (above = out.path ∨ disk.tree.isFile above = true) := by
      rw [← file, open_.free above way]
      exact Bool.false_ne_true
    have undirected : ¬ (Above other.path out.path ∨ disk.tree.isDirectory other.path = true) := by
      rw [← directory, open_.undirected]
      exact Bool.false_ne_true
    rw [not_or] at undirected
    refine ⟨⟨?_, Bool.eq_false_iff.mpr undirected.2, open_.named, open_.rendered⟩, ?_, undirected.1⟩
    · intro above way
      exact Bool.eq_false_iff.mpr (not_or.mp (unblocked above way)).2
    · intro way
      exact (not_or.mp (unblocked out.path way)).1 rfl
  · intro ⟨open_, before, behind⟩
    refine ⟨?_, ?_, open_.named, open_.rendered⟩
    · intro above way
      apply Bool.eq_false_iff.mpr
      rw [ne_eq, file, not_or, open_.free above way]
      refine ⟨?_, Bool.false_ne_true⟩
      rintro rfl
      exact before way
    · apply Bool.eq_false_iff.mpr
      rw [ne_eq, directory, not_or, open_.undirected]
      exact ⟨behind, Bool.false_ne_true⟩

theorem fits_cons_iff (isOpen : Open disk.tree out) {content : Content}
    (entries : ∀ path, next.tree.entry path =
      if path = out.path then some (.file content)
      else if Above path out.path then some .directory else disk.tree.entry path) :
    Fits disk.tree (out :: rest) ↔ Fits next.tree rest := by
  have opens := open_after_iff isOpen entries
  constructor
  · intro fits
    obtain ⟨compatible, pairwise⟩ := List.pairwise_cons.mp fits.compatible
    refine ⟨?_, pairwise⟩
    intro other member
    exact (opens other).mpr ⟨fits.allOpen other (List.mem_cons_of_mem _ member),
      compatible other member⟩
  · intro fits
    refine ⟨?_, List.pairwise_cons.mpr ⟨?_, fits.compatible⟩⟩
    · intro other member
      rcases List.mem_cons.mp member with rfl | inRest
      · exact isOpen
      · exact ((opens other).mp (fits.allOpen other inRest)).1
    · intro other member
      exact ((opens other).mp (fits.allOpen other member)).2

/-- All outputs are written exactly where they fit. -/
theorem renderFiles_ok_iff : (renderFiles disk outs).2 = .ok () ↔ Fits disk.tree outs := by
  induction outs generalizing disk with
  | nil => simp [renderFiles, Fits.mk, List.Pairwise.nil]
  | cons out rest ih =>
      by_cases isOpen : Open disk.tree out
      · obtain ⟨next, content, same, _, _, entries⟩ := renderFile_of_open isOpen
        rw [renderFiles, same, fits_cons_iff isOpen entries]
        exact ih
      · obtain ⟨next, fault, same, _⟩ := renderFile_of_not_open isOpen
        rw [renderFiles, same]
        constructor
        · intro impossible
          cases impossible
        · intro fits
          exact absurd (fits.allOpen out List.mem_cons_self) isOpen

/-- The output that is written last to a path. -/
def lastAt (path : Path) : List (Output Content) → Option (Output Content)
  | [] => none
  | out :: rest => (lastAt path rest).or (if out.path = path then some out else none)

theorem lastAt_eq_none_iff {path : Path} :
    lastAt path outs = none ↔ ∀ out ∈ outs, out.path ≠ path := by
  induction outs with
  | nil => simp [lastAt]
  | cons out rest ih =>
      by_cases here : out.path = path
      · simp [lastAt, here]
      · simp [lastAt, here, ih]

theorem lastAt_mem {path : Path} {out : Output Content} (last : lastAt path outs = some out) :
    out ∈ outs ∧ out.path = path := by
  induction outs with
  | nil => cases last
  | cons first rest ih =>
      rw [lastAt] at last
      rcases Option.or_eq_some_iff.mp last with later | ⟨_, here⟩
      · exact ⟨List.mem_cons_of_mem _ (ih later).1, (ih later).2⟩
      · split at here
        · rename_i same
          cases here
          exact ⟨List.mem_cons_self, same⟩
        · cases here

/-- Files that no output is written to keep their content, and none appears. -/
theorem renderFiles_keeps (run : renderFiles disk outs = (after, result)) {path : Path}
    (elsewhere : ∀ out ∈ outs, out.path ≠ path) (content : Content) :
    after.tree.entry path = some (.file content) ↔
      disk.tree.entry path = some (.file content) := by
  induction outs generalizing disk with
  | nil =>
      cases run
      rfl
  | cons out rest ih =>
      have apart : path ≠ out.path := (elsewhere out List.mem_cons_self).symm
      rw [renderFiles] at run
      split at run
      · rename_i next value step
        rw [ih run fun other member => elsewhere other (List.mem_cons_of_mem _ member)]
        exact renderFile_keeps step apart content
      · rename_i next fault step
        cases run
        exact renderFile_keeps step apart content

/-- Once all outputs are written, a path has what was written to it last. -/
theorem renderFiles_written (run : renderFiles disk outs = (after, .ok ())) {path : Path}
    {out : Output Content} (last : lastAt path outs = some out) :
    ∃ content, out.content = .ok content ∧ after.tree.entry path = some (.file content) := by
  induction outs generalizing disk with
  | nil => cases last
  | cons first rest ih =>
      have isOpen : Open disk.tree first := by
        have fits := renderFiles_ok_iff.mp (congrArg Prod.snd run)
        exact fits.allOpen first List.mem_cons_self
      obtain ⟨next, content, same, rendered, _, entries⟩ := renderFile_of_open isOpen
      rw [renderFiles, same] at run
      rw [lastAt] at last
      cases later : lastAt path rest with
      | some other =>
          rw [later] at last
          cases last
          exact ih run later
      | none =>
          rw [later, Option.none_or] at last
          split at last
          · rename_i here
            cases last
            refine ⟨content, rendered, ?_⟩
            rw [renderFiles_keeps run (lastAt_eq_none_iff.mp later), entries, if_pos here.symm]
          · cases last

/-- What is written is an initial part of the outputs, all of them where nothing fails. -/
theorem renderFiles_writes (run : renderFiles disk outs = (after, result)) :
    ∃ done, after.writes = disk.writes ++ done.map Output.path ∧ done <+: outs ∧
      (result = .ok () → done = outs) := by
  induction outs generalizing disk with
  | nil =>
      cases run
      exact ⟨[], by simp, List.prefix_refl _, fun _ => rfl⟩
  | cons out rest ih =>
      by_cases isOpen : Open disk.tree out
      · obtain ⟨next, content, same, _, writes, _⟩ := renderFile_of_open isOpen
        rw [renderFiles, same] at run
        obtain ⟨done, written, inside, whole⟩ := ih run
        refine ⟨out :: done, ?_, List.cons_prefix_cons.mpr ⟨rfl, inside⟩, ?_⟩
        · rw [written, writes, List.map_cons, List.append_assoc, List.singleton_append]
        · intro returned
          rw [whole returned]
      · obtain ⟨next, fault, same, writes, _⟩ := renderFile_of_not_open isOpen
        rw [renderFiles, same] at run
        cases run
        exact ⟨[], by simp [writes], List.nil_prefix, fun impossible => nomatch impossible⟩

/-- A run that fails writes the outputs in front of one that is refused. -/
theorem renderFiles_error {fault : ScaffoldFault}
    (run : renderFiles disk outs = (after, .error fault)) :
    ∃ done out rest mid, outs = done ++ out :: rest ∧ renderFiles disk done = (mid, .ok ()) ∧
      ¬ Open mid.tree out ∧ renderFile mid out = (after, .error fault) := by
  induction outs generalizing disk with
  | nil => cases run
  | cons out rest ih =>
      by_cases isOpen : Open disk.tree out
      · obtain ⟨next, _, same, _⟩ := renderFile_of_open isOpen
        rw [renderFiles, same] at run
        obtain ⟨done, other, later, mid, split, written, blocked, refused⟩ := ih run
        refine ⟨out :: done, other, later, mid, by rw [split, List.cons_append], ?_, blocked, refused⟩
        rw [renderFiles, same]
        exact written
      · obtain ⟨next, _, same, _⟩ := renderFile_of_not_open isOpen
        refine ⟨[], out, rest, disk, rfl, rfl, isOpen, ?_⟩
        rw [renderFiles, same] at run
        rw [same]
        exact run

theorem renderFiles_append {more : List (Output Content)}
    (run : renderFiles disk outs = (after, .ok ())) :
    renderFiles disk (outs ++ more) = renderFiles after more := by
  induction outs generalizing disk with
  | nil =>
      cases run
      rfl
  | cons out rest ih =>
      rw [List.cons_append, renderFiles]
      rw [renderFiles] at run
      split at run
      · exact ih run
      · cases run

/-- Directories stay. -/
theorem renderFiles_directory (run : renderFiles disk outs = (after, result)) {path : Path}
    (directory : disk.tree.entry path = some .directory) :
    after.tree.entry path = some .directory := by
  induction outs generalizing disk with
  | nil =>
      cases run
      exact directory
  | cons out rest ih =>
      rw [renderFiles] at run
      by_cases isOpen : Open disk.tree out
      · obtain ⟨next, content, same, _, _, entries⟩ := renderFile_of_open isOpen
        rw [same] at run
        apply ih run
        have apart : path ≠ out.path := by
          intro here
          have undirected := isOpen.undirected
          rw [← here, FileTree.isDirectory_iff.mpr directory] at undirected
          cases undirected
        rw [entries, if_neg apart]
        by_cases above : Above path out.path
        · rw [if_pos above]
        · rw [if_neg above, directory]
      · obtain ⟨next, fault, same, _, cases⟩ := renderFile_of_not_open isOpen
        rw [same, Prod.mk.injEq] at run
        rw [← run.1]
        rcases cases with ⟨unchanged, _⟩ | ⟨_, entries⟩
        · rw [unchanged, directory]
        · rw [entries, directory, ite_self]

/-- Where no output is written at a path or below it, nothing changes. -/
theorem renderFiles_elsewhere (run : renderFiles disk outs = (after, .ok ())) {path : Path}
    (elsewhere : ∀ out ∈ outs, ¬ path <+: out.path) :
    after.tree.entry path = disk.tree.entry path := by
  induction outs generalizing disk with
  | nil =>
      cases run
      rfl
  | cons out rest ih =>
      have isOpen : Open disk.tree out := by
        have fits := renderFiles_ok_iff.mp (congrArg Prod.snd run)
        exact fits.allOpen out List.mem_cons_self
      obtain ⟨next, content, same, _, _, entries⟩ := renderFile_of_open isOpen
      rw [renderFiles, same] at run
      have outside := elsewhere out List.mem_cons_self
      have apart : path ≠ out.path := by
        intro here
        exact outside (here ▸ List.prefix_refl path)
      rw [ih run fun other member => elsewhere other (List.mem_cons_of_mem _ member), entries,
        if_neg apart, if_neg fun above => outside above.1]

theorem lastAt_of_nodup (once : (outs.map Output.path).Nodup) {out : Output Content}
    (member : out ∈ outs) : lastAt out.path outs = some out := by
  induction outs with
  | nil => cases member
  | cons first rest ih =>
      rw [List.map_cons, List.nodup_cons] at once
      rw [lastAt]
      rcases List.mem_cons.mp member with same | inRest
      · have last : lastAt out.path rest = none := by
          apply lastAt_eq_none_iff.mpr
          intro other inside here
          rw [← same, ← here] at once
          exact once.1 (List.mem_map_of_mem inside)
        rw [last, same, Option.none_or, if_pos rfl]
      · rw [ih once.2 inRest, Option.some_or]

/-- Each of the outputs is written once, and every other file keeps its content. -/
structure Delivers (outs : List (Output Content)) (before after : Disk Content) : Prop where
  writes : after.writes = before.writes ++ outs.map Output.path
  once : (outs.map Output.path).Nodup
  written : ∀ out ∈ outs, ∃ content, out.content = .ok content ∧
    after.tree.entry out.path = some (.file content)
  kept : ∀ path, path ∉ outs.map Output.path → ∀ content,
    after.tree.entry path = some (.file content) ↔ before.tree.entry path = some (.file content)

theorem renderFiles_delivers (once : (outs.map Output.path).Nodup)
    (run : renderFiles disk outs = (after, .ok ())) : Delivers outs disk after := by
  obtain ⟨done, writes, _, whole⟩ := renderFiles_writes run
  refine ⟨?_, once, ?_, ?_⟩
  · rw [writes, whole rfl]
  · intro out member
    exact renderFiles_written run (lastAt_of_nodup once member)
  · intro path elsewhere content
    apply renderFiles_keeps run
    intro out member here
    exact elsewhere (List.mem_map.mpr ⟨out, member, here⟩)

/-- What is delivered stays so where files are left as they are. -/
theorem Delivers.of_files (delivers : Delivers outs disk next) (writes : after.writes = next.writes)
    (files : ∀ path content,
      after.tree.entry path = some (.file content) ↔ next.tree.entry path = some (.file content)) :
    Delivers outs disk after := by
  refine ⟨writes.trans delivers.writes, delivers.once, ?_, ?_⟩
  · intro out member
    obtain ⟨content, rendered, found⟩ := delivers.written out member
    exact ⟨content, rendered, (files out.path content).mpr found⟩
  · intro path elsewhere content
    exact (files path content).trans (delivers.kept path elsewhere content)

theorem Delivers.of_files_before (delivers : Delivers outs next after)
    (writes : next.writes = disk.writes)
    (files : ∀ path content,
      next.tree.entry path = some (.file content) ↔ disk.tree.entry path = some (.file content)) :
    Delivers outs disk after := by
  refine ⟨writes ▸ delivers.writes, delivers.once, delivers.written, ?_⟩
  intro path elsewhere content
  exact (delivers.kept path elsewhere content).trans (files path content)

end Files

section Template

variable {disk after : Disk Content} {render : Renderer Content Data} {data : Data}
  {template : Template Content} {target : Path} {existingApp : Bool}

/-- The outputs can all be written once the target directory is made. -/
structure Unobstructed (tree : FileTree Content) (target : Path) (outs : List (Output Content)) :
    Prop where
  reached : ∀ above, above <+: target → tree.isFile above = false
  fits : Fits tree outs
  inside : ∀ out ∈ outs, ¬ out.path <+: target

theorem mem_outputs_iff {out : Output Content} :
    out ∈ outputs render data template target existingApp ↔
      ∃ file ∈ template.files, isSelected existingApp file = true ∧
        outputOf render data target file = out := by
  rw [outputs, List.mem_map]
  simp only [List.mem_filter, and_assoc]

theorem open_makeDirs_iff {tree next : FileTree Content} (made : tree.makeDirs target = .ok next)
    (out : Output Content) : Open next out ↔ Open tree out ∧ ¬ out.path <+: target := by
  have directory : next.isDirectory out.path = false ↔
      ¬ out.path <+: target ∧ tree.isDirectory out.path = false := by
    rw [← Bool.not_eq_true, ← Bool.not_eq_true, FileTree.isDirectory_makeDirs made, not_or]
  constructor
  · intro isOpen
    obtain ⟨apart, undirected⟩ := directory.mp isOpen.undirected
    refine ⟨⟨?_, undirected, isOpen.named, isOpen.rendered⟩, apart⟩
    intro above way
    rw [← FileTree.isFile_makeDirs made]
    exact isOpen.free above way
  · intro ⟨isOpen, apart⟩
    refine ⟨?_, directory.mpr ⟨apart, isOpen.undirected⟩, isOpen.named, isOpen.rendered⟩
    intro above way
    rw [FileTree.isFile_makeDirs made]
    exact isOpen.free above way

theorem renderTemplate_ok_iff :
    (renderTemplate render template target data existingApp disk).2 = .ok () ↔
      Unobstructed disk.tree target (outputs render data template target existingApp) := by
  rw [renderTemplate]
  cases made : disk.tree.makeDirs target with
  | error failure =>
      constructor
      · intro impossible
        cases impossible
      · intro free
        obtain ⟨tree, succeeds⟩ := FileTree.makeDirs_ok_iff.mpr free.reached
        rw [made] at succeeds
        cases succeeds
  | ok tree =>
      have reached := FileTree.makeDirs_ok_iff.mp ⟨tree, made⟩
      simp only
      rw [renderFiles_ok_iff]
      constructor
      · intro fits
        refine ⟨reached, ⟨?_, fits.compatible⟩, ?_⟩
        · intro out member
          exact ((open_makeDirs_iff made out).mp (fits.allOpen out member)).1
        · intro out member
          exact ((open_makeDirs_iff made out).mp (fits.allOpen out member)).2
      · intro free
        refine ⟨?_, free.fits.compatible⟩
        intro out member
        exact (open_makeDirs_iff made out).mpr ⟨free.fits.allOpen out member, free.inside out member⟩

/-- A run delivers its outputs, or an initial part of them where it fails. -/
theorem renderTemplate_delivers {result : Except ScaffoldFault Unit}
    (once : ((outputs render data template target existingApp).map Output.path).Nodup)
    (run : renderTemplate render template target data existingApp disk = (after, result)) :
    ∃ done, done <+: outputs render data template target existingApp ∧
      (result = .ok () → done = outputs render data template target existingApp) ∧
      Delivers done disk after := by
  rw [renderTemplate] at run
  split at run
  · rename_i failure made
    rw [Prod.mk.injEq] at run
    obtain ⟨rfl, rfl⟩ := run
    refine ⟨[], List.nil_prefix, ?_, ?_⟩
    · intro impossible
      cases impossible
    · exact ⟨by simp, List.nodup_nil, by simp, fun _ _ _ => Iff.rfl⟩
  · rename_i tree made
    have files (path : Path) (content : Content) :
        tree.entry path = some (.file content) ↔ disk.tree.entry path = some (.file content) :=
      FileTree.files_makeDirs made
    cases result with
    | ok value =>
        refine ⟨_, List.prefix_refl _, fun _ => rfl, ?_⟩
        exact (renderFiles_delivers once run).of_files_before rfl files
    | error fault =>
        obtain ⟨done, out, rest, mid, split, written, blocked, refused⟩ := renderFiles_error run
        have within : done <+: outputs render data template target existingApp :=
          ⟨out :: rest, split.symm⟩
        refine ⟨done, within, ?_, ?_⟩
        · intro impossible
          cases impossible
        · have delivered := renderFiles_delivers (once.sublist (within.map _).sublist) written
          have same : after.writes = mid.writes := by
            obtain ⟨_, _, named, writes, _⟩ := renderFile_of_not_open blocked
            rw [named, Prod.mk.injEq] at refused
            rw [← refused.1, writes]
          have kept := renderFile_refused_keeps blocked refused
          exact (delivered.of_files same kept).of_files_before rfl files

end Template

end S2s
