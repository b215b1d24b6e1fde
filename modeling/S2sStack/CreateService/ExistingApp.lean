import S2sStack.CreateService.Writes

set_option autoImplicit false

/- `--existing-app`: the files of two directories of the template are written, each once, and every
other file of the target is kept. -/
namespace S2s

open Files

variable {Content Data : Type}

/-- The first segment of a relative path, where a backslash separates segments too. -/
def firstSegment (rel : Path) : String :=
  String.ofList ((rel.headD "").toList.takeWhile fun c => c.val ≠ 0x5C)

theorem takeWhile_segment {name rest : List Char} (plain : '/' ∉ name)
    (ends : ∀ c ∈ rest.head?, isSeparator c = true) :
    (name ++ rest).takeWhile (!isSeparator ·) = name.takeWhile fun c => c.val ≠ 0x5C := by
  induction name with
  | nil =>
      cases rest with
      | nil => rfl
      | cons c rest => simp [ends c rfl]
  | cons c name ih =>
      rw [List.mem_cons, not_or] at plain
      rw [List.cons_append, List.takeWhile_cons, List.takeWhile_cons, ih plain.2]
      simp [isSeparator, Ne.symm plain.1]

theorem topSegment_eq {rel : Path} (named : ∀ name ∈ rel, IsEntryName name) :
    topSegment rel = firstSegment rel := by
  rw [topSegment, firstSegment, String.toList_intercalate]
  cases rel with
  | nil => rfl
  | cons first rest =>
      have plain := (named first List.mem_cons_self).2.2.2
      congr 1
      cases rest with
      | nil =>
          have whole : (first.toList ++ []).takeWhile (!isSeparator ·) = _ :=
            takeWhile_segment plain (by simp)
          simpa using whole
      | cons second rest =>
          rw [List.map_cons, List.map_cons, List.intercalate_cons_cons, List.append_assoc]
          apply takeWhile_segment plain
          intro c first
          cases first
          rfl

section Names

theorem isEjs_iff {name : String} : isEjs name = true ↔ ∃ stem, name = stem ++ ".ejs" := by
  rw [isEjs, List.isSuffixOf_iff_suffix]
  constructor
  · intro ⟨stem, split⟩
    refine ⟨String.ofList stem, ?_⟩
    apply String.toList_inj.mp
    rw [String.toList_append, String.toList_ofList, split]
  · intro ⟨stem, same⟩
    rw [same, String.toList_append]
    exact List.suffix_append _ _

theorem withoutEjs_append (stem : String) : withoutEjs (stem ++ ".ejs") = stem := by
  have length : (stem ++ ".ejs").toList.length - 4 = stem.toList.length := by
    rw [String.toList_append, List.length_append]
    show stem.toList.length + 4 - 4 = _
    omega
  rw [withoutEjs, length, String.toList_append, List.take_left, String.ofList_toList]

variable {render : Renderer Content Data} {data : Data} {target dir : Path} {name : String}

/-- A name that ends in `.ejs` loses the ending, and the file is rendered. -/
theorem outputOf_ejs (named : ∀ segment ∈ dir ++ [name], IsEntryName segment) (content : Content) :
    outputOf render data target ⟨dir ++ [name ++ ".ejs"], content⟩ =
      ⟨target ++ dir ++ [name], false, render content data (dir ++ [name ++ ".ejs"])⟩ := by
  have ending : isEjs (name ++ ".ejs") = true := isEjs_iff.mpr ⟨name, rfl⟩
  have filled : name ≠ "" := (named name (by simp)).1
  have outNamed : outName (dir ++ [name ++ ".ejs"]) = name := by
    simp only [outName, List.getLastD_concat, ending, if_true, withoutEjs_append]
  simp [outputOf, outPath, outNamed, ending, filled, foldl_pushSegment named]

/-- Another file is copied. -/
theorem outputOf_plain (named : ∀ segment ∈ dir ++ [name], IsEntryName segment)
    (plain : isEjs name = false) (content : Content) :
    outputOf render data target ⟨dir ++ [name], content⟩ =
      ⟨target ++ dir ++ [name], false, .ok content⟩ := by
  have filled : name ≠ "" := (named name (by simp)).1
  have outNamed : outName (dir ++ [name]) = name := by
    simp only [outName, List.getLastD_concat, plain, Bool.false_eq_true, if_false]
  simp [outputOf, outPath, outNamed, plain, filled, foldl_pushSegment named]

end Names

/-- In existing-app mode a run that nothing is in the way of writes what the files of the two
directories come to, each once, and keeps every other file; another run fails after an initial part
of these writes. -/
theorem existingApp_delivers (render : Renderer Content Data) (template : Template Content)
    (target : Path) (data : Data) (disk : Disk Content)
    (apart : (template.files.map fun file => outPath target file.rel).Nodup) :
    let outs := outputs render data template target true
    let run := renderTemplate render template target data true disk
    (∀ out, out ∈ outs ↔ ∃ file ∈ template.files,
      firstSegment file.rel ∈ existingAppKeepPrefixes ∧ outputOf render data target file = out) ∧
    (run.2 = .ok () ↔ Unobstructed disk.tree target outs) ∧
    (run.2 = .ok () → Delivers outs disk run.1) ∧
    ∃ done, done <+: outs ∧ Delivers done disk run.1 := by
  intro outs run
  have once : (outs.map Output.path).Nodup := by
    have paths : outs.map Output.path = (template.files.filter (isSelected true)).map
        fun file => outPath target file.rel := List.map_map
    rw [paths]
    exact apart.sublist (List.filter_sublist.map _)
  obtain ⟨done, within, whole, delivered⟩ := renderTemplate_delivers once (Prod.eta run).symm
  refine ⟨?_, renderTemplate_ok_iff, ?_, done, within, delivered⟩
  · intro out
    have selected (file : TemplateFile Content) (member : file ∈ template.files) :
        isSelected true file = true ↔ firstSegment file.rel ∈ existingAppKeepPrefixes := by
      rw [isSelected, Bool.not_true, Bool.false_or, List.contains_iff_mem,
        topSegment_eq (template.named file member)]
    apply mem_outputs_iff.trans
    apply exists_congr
    intro file
    apply and_congr_right
    intro member
    rw [selected file member]
  · intro returned
    rw [whole returned] at delivered
    exact delivered

section Examples

/-- A template engine that appends the service's name. -/
def signedText : Renderer String String := fun content service _ => .ok (content ++ service)

def emptyDisk : Disk String := { tree := FileTree.empty, writes := [] }

theorem lendingTemplate_named :
    ∀ file ∈ walk [] [("README.md", TemplateNode.file "readme"),
        ("terraformer", .file "tool"),
        ("terraform", .dir [("main.tf.ejs", .file "service ")]),
        ("policies", .dir [("own.cedar", .file "permit")])],
      ∀ name ∈ file.rel, IsEntryName name := by
  simp [walk, walkNode, IsEntryName]

def lendingTemplate : Template String where
  entries := _
  named := lendingTemplate_named

theorem lending_delivers :
    (renderTemplate signedText lendingTemplate ["app"] "lending" true emptyDisk).1.writes =
        [["app", "terraform", "main.tf"], ["app", "policies", "own.cedar"]] ∧
      ∃ done, done <+: outputs signedText "lending" lendingTemplate ["app"] true ∧
        Delivers done emptyDisk
          (renderTemplate signedText lendingTemplate ["app"] "lending" true emptyDisk).1 :=
  ⟨by decide +kernel, (existingApp_delivers signedText lendingTemplate ["app"] "lending" emptyDisk
    (by decide +kernel)).2.2.2⟩

theorem backslashTemplate_named :
    ∀ file ∈ walk [] [("terraform\x5Cmain.tf", TemplateNode.file "service")],
      ∀ name ∈ file.rel, IsEntryName name := by
  simp [walk, walkNode, IsEntryName]

/-- One file, in neither directory. -/
def backslashTemplate : Template String where
  entries := _
  named := backslashTemplate_named

theorem notesTemplate_named :
    ∀ file ∈ walk [] [("terraform", TemplateNode.file "notes")],
      ∀ name ∈ file.rel, IsEntryName name := by
  simp [walk, walkNode, IsEntryName]

def notesTemplate : Template String where
  entries := _
  named := notesTemplate_named

/-- A target where `terraform` is a file. -/
def notesDisk : Disk String :=
  { (renderTemplate signedText notesTemplate ["app"] "" false emptyDisk).1 with writes := [] }

/-- A file beside the two directories is written, and a file in the way stops a run. -/
theorem existingApp_not_exact :
    ((∀ file ∈ backslashTemplate.files,
        file.rel.head? ≠ some "terraform" ∧ file.rel.head? ≠ some "policies") ∧
      (backslashTemplate.files.map fun file => outPath ["app"] file.rel).Nodup ∧
      (renderTemplate signedText backslashTemplate ["app"] "" true emptyDisk).2 = .ok () ∧
      (renderTemplate signedText backslashTemplate ["app"] "" true emptyDisk).1.writes =
        [["app", "terraform\x5Cmain.tf"]]) ∧
    (lendingTemplate.files.map fun file => outPath ["app"] file.rel).Nodup ∧
      (renderTemplate signedText lendingTemplate ["app"] "" true notesDisk).2 ≠ .ok () ∧
      ["app", "terraform", "main.tf"] ∉
        (renderTemplate signedText lendingTemplate ["app"] "" true notesDisk).1.writes := by
  decide +kernel

end Examples

end S2s
