import S2sStack.CreateService.CliArgs
import S2sStack.Js.Words
import Mathlib.Data.List.Perm.Basic
import Mathlib.Data.List.Pairwise

set_option autoImplicit false

/- Where the order of the scaffolder's arguments matters. -/
namespace S2s

/-- The option that an argument is, where it is one; the target directory counts as one. -/
def Arg.name : Arg → Option String
  | help => some "--help"
  | nonInteractive => some "--non-interactive"
  | force => some "--force"
  | existingApp => some "--existing-app"
  | option name _ => some name.text
  | positional dir => if dir = "" then none else some "target-dir"
  | ignored => none

/-- Two arguments are not the same option. -/
def Different (a b : String) : Prop := (argOf a).name ≠ (argOf b).name ∨ (argOf a).name = none

instance (a b : String) : Decidable (Different a b) := inferInstanceAs (Decidable (_ ∨ _))

theorem different_symm : Std.Symm Different where
  symm a b different := by
    unfold Different at different ⊢
    by_cases free : (argOf b).name = none
    · exact .inr free
    · rcases different with apart | free'
      · exact .inl apart.symm
      · exact .inl (free' ▸ free)

/-- No option is given twice, and at most one target directory. -/
def Once (argv : List String) : Prop := argv.Pairwise Different

instance (argv : List String) : Decidable (Once argv) :=
  inferInstanceAs (Decidable (argv.Pairwise Different))

/-- A positional target. -/
def isTarget (a : String) : Bool := a ≠ "" ∧ ¬ startsWith "-" a

/-- `--existing-app` has no directory value of its own. -/
def WithoutDirectory (argv : List String) : Prop :=
  ∀ before next after, argv = before ++ "--existing-app" :: next :: after → isDirectory next = false

/-- The positional target does not directly follow `--existing-app`. -/
def TargetApart (argv : List String) : Prop :=
  ∀ before next after, argv = before ++ "--existing-app" :: next :: after → isTarget next = false

/-- Every order of the arguments gives the same result and keeps the positional target. -/
def OrderFree (argv : List String) : Prop :=
  ∀ other : List String, other.Perm argv → TargetApart other →
    parseArgs other = parseArgs argv ∧
      ∀ dir ∈ other, isTarget dir → (parseArgs other).targetDir = dir

/-- An option with a single dash, such as `-h`. -/
def isShort (a : String) : Bool := startsWith "-" a ∧ ¬ startsWith "--" a

section Words

variable {word text : List Char}

theorem afterWord_isSome_iff : (Js.afterWord word text).isSome = true ↔ word <+: text := by
  induction word generalizing text with
  | nil => simp [Js.afterWord]
  | cons w word ih =>
      cases text with
      | nil => simp [Js.afterWord]
      | cons c text =>
          by_cases same : c = w
          · simp [Js.afterWord, same, ih]
          · simp [Js.afterWord, same, List.cons_prefix_cons, Ne.symm same]

end Words

theorem applyArg_targetDir (out : CliArgs) (arg : Arg) :
    (applyArg out arg).targetDir =
      match arg with
      | .existingApp => "."
      | .positional dir => if out.targetDir = "" then dir else out.targetDir
      | _ => out.targetDir := by
  cases arg with
  | option name value => cases name <;> rfl
  | positional dir =>
      by_cases empty : out.targetDir = ""
      · simp [applyArg, empty]
      · simp [applyArg, empty]
  | _ => rfl

theorem assignOption_comm {one other : ValueOption} (out : CliArgs) (value value' : String)
    (apart : one ≠ other) :
    assignOption (assignOption out value one) value' other =
      assignOption (assignOption out value' other) value one := by
  cases one <;> cases other <;> first | exact absurd rfl apart | rfl

/-- Whatever is no positional target commutes with one that is. -/
theorem applyArg_positional (out : CliArgs) (dir : String) {arg : Arg}
    (other : ∀ dir', arg ≠ .positional dir') :
    applyArg (applyArg out (.positional dir)) arg =
      applyArg (applyArg out arg) (.positional dir) := by
  by_cases empty : out.targetDir = ""
  · cases arg with
    | positional dir' => exact absurd rfl (other dir')
    | option name value => cases name <;> simp [applyArg, assignOption, empty]
    | _ => simp [applyArg, empty]
  · cases arg with
    | positional dir' => exact absurd rfl (other dir')
    | option name value => cases name <;> simp [applyArg, assignOption, empty]
    | _ => simp [applyArg, empty]

theorem applyArg_noTarget (out : CliArgs) : applyArg out (.positional "") = out := by
  by_cases empty : out.targetDir = ""
  · rw [applyArg, if_pos empty, ← empty]
  · rw [applyArg, if_neg empty]

/-- Two arguments that are not the same option can change places. -/
theorem applyArg_comm {one other : Arg} (out : CliArgs)
    (apart : one.name ≠ other.name ∨ one.name = none) :
    applyArg (applyArg out one) other = applyArg (applyArg out other) one := by
  cases one with
  | positional dir =>
      cases other with
      | positional dir' =>
          by_cases empty : dir = ""
          · rw [empty, applyArg_noTarget, applyArg_noTarget]
          · by_cases empty' : dir' = ""
            · rw [empty', applyArg_noTarget, applyArg_noTarget]
            · simp [Arg.name, empty, empty'] at apart
      | _ => exact applyArg_positional out dir (by simp)
  | option name value =>
      cases other with
      | positional dir => exact (applyArg_positional out dir (by simp)).symm
      | option name' value' =>
          apply assignOption_comm out value value'
          intro same
          simp [Arg.name, same] at apart
      | _ => cases name <;> rfl
  | _ =>
      cases other with
      | positional dir => exact (applyArg_positional out dir (by simp)).symm
      | option name value => cases name <;> rfl
      | _ => rfl

theorem argOf_existingApp : argOf "--existing-app" = .existingApp := by decide

theorem argOf_eq_existingApp {a : String} (same : argOf a = .existingApp) :
    a = "--existing-app" := by
  rcases argOf_cases a with is | is | ⟨_, is⟩ | ⟨given, _⟩ | ⟨_, is⟩ | is | is
  case inr.inr.inr.inl => exact given
  all_goals
    rw [is] at same
    cases same

/-- What starts with no dash is no option. -/
theorem argOf_plain {a : String} (plain : startsWith "-" a = false) :
    argOf a = .positional a := by
  have dashed (word : List Char) : ('-' :: word) <+: a.toList → False := by
    intro within
    have first : "-".toList <+: a.toList := (List.prefix_append ['-'] word).trans within
    have starts : startsWith "-" a = true := afterWord_isSome_iff.mpr first
    rw [plain] at starts
    cases starts
  have other (word : List Char) (text : String) (spelled : text.toList = '-' :: word) :
      a ≠ text := by
    intro same
    have begins : ('-' :: word) <+: text.toList := ⟨[], by rw [List.append_nil, spelled]⟩
    exact dashed word (same ▸ begins)
  have valued : ValueOption.all.find? (fun name => startsWith name.text a) = none := by
    apply List.find?_eq_none.mpr
    intro name _ starts
    have begins := afterWord_isSome_iff.mp starts
    cases name <;> exact dashed _ begins
  rw [argOf, if_neg, if_neg, if_neg, if_neg, valued]
  · simp [plain]
  · exact other _ _ rfl
  · exact other _ _ rfl
  · exact other _ _ rfl
  · rintro (same | same)
    · exact other _ _ rfl same
    · exact other _ _ rfl same

section Folding

variable {argv : List String}

def applyAll (out : CliArgs) (argv : List String) : CliArgs :=
  argv.foldl (fun out a => applyArg out (argOf a)) out

theorem WithoutDirectory.tail {a : String} {rest : List String}
    (alone : WithoutDirectory (a :: rest)) : WithoutDirectory rest := by
  intro before next after split
  apply alone (a :: before) next after
  rw [split, List.cons_append]

/-- Without a directory for `--existing-app`, the loop takes the arguments one by one. -/
theorem parseFrom_eq_applyAll (alone : WithoutDirectory argv) (out : CliArgs) :
    parseFrom out argv = applyAll out argv := by
  induction argv generalizing out with
  | nil => rfl
  | cons a rest ih =>
      cases rest with
      | nil => rfl
      | cons next rest =>
          have skipped : ¬ (argOf a = .existingApp ∧ isDirectory next = true) := by
            intro ⟨existing, taken⟩
            have free := alone [] next rest (by rw [argOf_eq_existingApp existing]; rfl)
            rw [free] at taken
            cases taken
          rw [parseFrom, if_neg skipped, ih alone.tail]
          rfl

/-- A target directory that is set stays, unless `--existing-app` comes after it. -/
theorem applyAll_targetDir {out : CliArgs} {dir : String} (set : out.targetDir = dir)
    (filled : dir ≠ "") (kept : ∀ a ∈ argv, argOf a = .existingApp → dir = ".") :
    (applyAll out argv).targetDir = dir := by
  induction argv generalizing out with
  | nil => exact set
  | cons a rest ih =>
      apply ih
      · rw [applyArg_targetDir]
        cases given : argOf a with
        | existingApp => exact (kept a List.mem_cons_self given).symm
        | positional dir' =>
            dsimp only
            rw [set, if_neg filled]
        | _ => exact set
      · intro b member
        exact kept b (List.mem_cons_of_mem a member)

/-- After `--existing-app` the target directory is the current one. -/
theorem applyAll_existingApp (given : "--existing-app" ∈ argv) (out : CliArgs) :
    (applyAll out argv).targetDir = "." := by
  obtain ⟨before, after, rfl⟩ := List.append_of_mem given
  rw [applyAll, List.foldl_append, List.foldl_cons]
  apply applyAll_targetDir _ (by decide) (fun _ _ _ => rfl)
  rw [argOf_existingApp]
  rfl

/-- Options that are given once can be applied in any order. -/
theorem applyAll_perm {other : List String} (once : Once argv) (perm : other.Perm argv)
    (out : CliArgs) : applyAll out other = applyAll out argv := by
  symm
  apply perm.symm.foldl_eq'
  intro a inA b inB out
  by_cases same : a = b
  · rw [same]
  · have symmetric := different_symm
    exact applyArg_comm out (once.forall inA inB same)

theorem Once.nodup_existingApp (once : Once argv) {before after : List String}
    (split : argv = before ++ "--existing-app" :: after) :
    "--existing-app" ∉ before ∧ "--existing-app" ∉ after := by
  rw [split] at once
  obtain ⟨_, following, apart⟩ := List.pairwise_append.mp once
  have same : ¬ Different "--existing-app" "--existing-app" := by decide
  constructor
  · intro earlier
    exact same (apart _ earlier _ List.mem_cons_self)
  · intro later
    exact same ((List.pairwise_cons.mp following).1 _ later)

theorem Once.perm {other : List String} (once : Once argv) (perm : other.Perm argv) :
    Once other :=
  (perm.pairwise_iff (fun apart => different_symm.symm _ _ apart)).mpr once

end Folding

/-- `--existing-app` stands without a positional target other than `.`, and without an option of
one dash, which it would take as its directory. -/
def Harmless (argv : List String) : Prop :=
  "--existing-app" ∈ argv →
    (∀ dir ∈ argv, isTarget dir → dir = ".") ∧ ∀ a ∈ argv, isShort a = false

section Orders

variable {argv other : List String}

theorem startsWith_dash {a : String} (double : startsWith "--" a = true) :
    startsWith "-" a = true := by
  have one : "-".toList <+: "--".toList := ⟨['-'], rfl⟩
  exact afterWord_isSome_iff.mpr (one.trans (afterWord_isSome_iff.mp double))

/-- What `--existing-app` takes is a target or an option of one dash. -/
theorem isDirectory_iff {a : String} : isDirectory a = true ↔ isTarget a = true ∨ isShort a = true := by
  unfold isDirectory isTarget isShort
  simp only [decide_eq_true_eq]
  constructor
  · intro ⟨filled, single⟩
    by_cases dashed : startsWith "-" a = true
    · exact .inr ⟨dashed, single⟩
    · exact .inl ⟨filled, dashed⟩
  · rintro (⟨filled, undashed⟩ | ⟨dashed, single⟩)
    · exact ⟨filled, fun double => undashed (startsWith_dash double)⟩
    · refine ⟨?_, single⟩
      rintro rfl
      revert dashed
      decide

theorem withoutDirectory_of_harmless (harmless : Harmless argv) (perm : other.Perm argv)
    (apart : TargetApart other) : WithoutDirectory other := by
  intro before next after split
  have undirected : ¬ isDirectory next = true := by
    intro taken
    rcases isDirectory_iff.mp taken with target | short
    · rw [apart before next after split] at target
      cases target
    · have given : "--existing-app" ∈ argv := perm.subset (by simp [split])
      have unshort := (harmless given).2 next (perm.subset (by simp [split]))
      rw [unshort] at short
      cases short
  exact Bool.eq_false_iff.mpr undirected

theorem targetApart_of_withoutDirectory (alone : WithoutDirectory argv) : TargetApart argv := by
  intro before next after split
  apply Bool.eq_false_iff.mpr
  intro target
  have undirected := alone before next after split
  rw [isDirectory_iff.mpr (.inl target)] at undirected
  cases undirected

/-- Without `--existing-app` the positional target is the target directory. -/
theorem applyAll_target (once : Once argv) (absent : "--existing-app" ∉ argv) {dir : String}
    (member : dir ∈ argv) (target : isTarget dir = true) : (applyAll {} argv).targetDir = dir := by
  have plain : dir ≠ "" ∧ startsWith "-" dir = false := by
    simpa [isTarget] using target
  rw [← applyAll_perm once (List.perm_cons_erase member).symm]
  change (applyAll (applyArg {} (argOf dir)) (argv.erase dir)).targetDir = dir
  rw [argOf_plain plain.2]
  apply applyAll_targetDir rfl plain.1
  intro a inRest existing
  rw [argOf_eq_existingApp existing] at inRest
  exact absurd (List.mem_of_mem_erase inRest) absent

/-- An option of one dash becomes the directory of an `--existing-app` in front of it. -/
theorem parseArgs_short (once : Once argv) (given : "--existing-app" ∈ argv) {short : String}
    (member : short ∈ argv) (dashed : isShort short = true) :
    ∃ other : List String, other.Perm argv ∧ TargetApart other ∧
      (parseArgs other).targetDir = short := by
  have single : startsWith "-" short = true ∧ startsWith "--" short = false := by
    simpa [isShort] using dashed
  have different : short ≠ "--existing-app" := by
    rintro rfl
    revert single
    decide
  have remains : short ∈ argv.erase "--existing-app" := (List.mem_erase_of_ne different).mpr member
  have perm : ("--existing-app" :: short :: (argv.erase "--existing-app").erase short).Perm argv :=
    ((List.perm_cons_erase remains).symm.cons _).trans (List.perm_cons_erase given).symm
  have first : "--existing-app" :: short :: (argv.erase "--existing-app").erase short =
      [] ++ "--existing-app" :: (short :: (argv.erase "--existing-app").erase short) := rfl
  have alone := ((once.perm perm).nodup_existingApp first).2
  refine ⟨_, perm, ?_, ?_⟩
  · intro before next after split
    cases before with
    | nil =>
        cases split
        simp [isTarget, single.1]
    | cons a before =>
        rw [List.cons_append, List.cons.injEq] at split
        exact absurd (split.2 ▸ by simp) alone
  · have taken : isDirectory short = true := isDirectory_iff.mpr (.inr dashed)
    rw [parseArgs, parseFrom, if_pos ⟨argOf_existingApp, taken⟩, parseFrom_eq_applyAll]
    · apply applyAll_targetDir rfl
      · rintro rfl
        revert single
        decide
      · intro a inRest existing
        rw [argOf_eq_existingApp existing] at inRest
        exact absurd (List.mem_cons_of_mem short inRest) alone
    · intro before next after split
      exact absurd (List.mem_cons_of_mem short (split ▸ by simp)) alone

/-- The order of the arguments does not matter exactly where `--existing-app` is harmless. -/
theorem orderFree_iff (once : Once argv) (alone : WithoutDirectory argv) :
    OrderFree argv ↔ Harmless argv := by
  have parsed : parseArgs argv = applyAll {} argv := parseFrom_eq_applyAll alone {}
  constructor
  · intro free given
    have current : (parseArgs argv).targetDir = "." := by
      rw [parsed]
      exact applyAll_existingApp given {}
    constructor
    · intro dir member target
      have kept := (free argv (List.Perm.refl argv) (targetApart_of_withoutDirectory alone)).2
      rw [← kept dir member target, current]
    · intro a member
      apply Bool.eq_false_iff.mpr
      intro short
      obtain ⟨other, perm, apart, taken⟩ := parseArgs_short once given member short
      rw [(free other perm apart).1, current] at taken
      rw [← taken] at short
      revert short
      decide
  · intro harmless other perm apart
    have free := withoutDirectory_of_harmless harmless perm apart
    have same : parseArgs other = parseArgs argv := by
      rw [parsed, parseArgs, parseFrom_eq_applyAll free]
      exact applyAll_perm once perm {}
    refine ⟨same, fun dir member target => ?_⟩
    rw [same, parsed]
    by_cases given : "--existing-app" ∈ argv
    · rw [applyAll_existingApp given, (harmless given).1 dir (perm.subset member) target]
    · exact applyAll_target once given (perm.subset member) target

end Orders

section Runs

/-- The target directory is lost to the `--existing-app` behind it. -/
theorem myApp_lost :
    Once ["my-app", "--existing-app"] ∧ WithoutDirectory ["my-app", "--existing-app"] ∧
      (parseArgs ["my-app", "--existing-app"]).targetDir = "." ∧
      ¬ OrderFree ["my-app", "--existing-app"] := by
  have alone : WithoutDirectory ["my-app", "--existing-app"] := by
    intro before next after split
    match before with
    | [] => simp at split
    | [_] => simp at split
    | _ :: _ :: _ => simp at split
  have lost : (parseArgs ["my-app", "--existing-app"]).targetDir = "." := by decide
  refine ⟨by decide, alone, lost, fun free => ?_⟩
  have kept := (free _ (List.Perm.refl _) (targetApart_of_withoutDirectory alone)).2
    "my-app" (by decide) (by decide)
  rw [lost] at kept
  revert kept
  decide

/-- Options alone can stand in any order. -/
theorem existingApp_orderFree :
    OrderFree ["--existing-app", "--non-interactive", "--config=answers.json"] := by
  have alone : WithoutDirectory
      ["--existing-app", "--non-interactive", "--config=answers.json"] := by
    intro before next after split
    match before with
    | [] =>
        cases split
        decide
    | [_] => simp at split
    | [_, _] => simp at split
    | _ :: _ :: _ :: _ => simp at split
  exact (orderFree_iff (by decide) alone).mpr fun _ => by decide

end Runs

end S2s
