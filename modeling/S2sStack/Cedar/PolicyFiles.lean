import S2sStack.Cedar.Authorizer

set_option autoImplicit false

/- Policies that come and go one file at a time, and the requests that are allowed in between. -/
namespace Cedar

section Files

variable {File : Type} (statements : File → List Policy) (req : Request) (entities : Entities)

/-- The policies of the files together allow the request. -/
def Allows (files : List File) : Prop :=
  isAuthorized req entities (files.flatMap statements) = .allow

def Permits (file : File) : Prop :=
  ∃ policy ∈ statements file, policy.kind = .permit ∧ policy.satisfied req entities = true

def Forbids (file : File) : Prop :=
  ∃ policy ∈ statements file, policy.kind = .forbid ∧ policy.satisfied req entities = true

/-- A file that permits the request forbids it itself, or comes before one that does. -/
def ForbidsLater (files : List File) : Prop :=
  ∀ before file after, files = before ++ file :: after → Permits statements req entities file →
    ∃ other ∈ file :: after, Forbids statements req entities other

/-- A file that permits the request forbids it itself, or comes after one that does. -/
def ForbidsEarlier (files : List File) : Prop :=
  ∀ before file after, files = before ++ file :: after → Permits statements req entities file →
    ∃ other ∈ before ++ [file], Forbids statements req entities other

variable {statements req entities} {files kept : List File}

theorem allows_iff :
    Allows statements req entities files ↔
      (∀ file ∈ files, ¬ Forbids statements req entities file) ∧
        ∃ file ∈ files, Permits statements req entities file := by
  rw [Allows, isAuthorized_allow_iff]
  constructor
  · rintro ⟨free, policy, member, permits, satisfied⟩
    obtain ⟨file, inside, stated⟩ := List.mem_flatMap.mp member
    refine ⟨?_, file, inside, policy, stated, permits, satisfied⟩
    rintro other otherInside ⟨forbid, stated, forbids, holds⟩
    have quiet := free forbid (List.mem_flatMap.mpr ⟨other, otherInside, stated⟩) forbids
    rw [quiet] at holds
    cases holds
  · rintro ⟨free, file, inside, policy, stated, permits, satisfied⟩
    refine ⟨?_, policy, List.mem_flatMap.mpr ⟨file, inside, stated⟩, permits, satisfied⟩
    intro forbid member forbids
    obtain ⟨other, otherInside, stated⟩ := List.mem_flatMap.mp member
    apply Bool.eq_false_iff.mpr
    intro holds
    exact free other otherInside ⟨forbid, stated, forbids, holds⟩

/-- Only which files there are matters. -/
theorem allows_congr {other : List File} (same : ∀ file, file ∈ files ↔ file ∈ other) :
    Allows statements req entities files ↔ Allows statements req entities other := by
  simp only [allows_iff, same]

theorem forbidsEarlier_iff_reverse :
    ForbidsEarlier statements req entities files ↔
      ForbidsLater statements req entities files.reverse := by
  constructor
  · intro earlier before file after split permits
    have mirrored : files = after.reverse ++ file :: before.reverse := by
      rw [← List.reverse_reverse files, split]
      simp
    obtain ⟨other, member, forbids⟩ := earlier _ _ _ mirrored permits
    exact ⟨other, by simpa [or_comm] using member, forbids⟩
  · intro later before file after split permits
    have mirrored : files.reverse = after.reverse ++ file :: before.reverse := by
      rw [split]
      simp
    obtain ⟨other, member, forbids⟩ := later _ _ _ mirrored permits
    exact ⟨other, by simpa [or_comm] using member, forbids⟩

/-- While files are deleted in their order, the kept ones and those not deleted yet never allow a
request exactly where a kept file forbids it, or no kept file permits it and the permits among
the others are outlasted by forbids. -/
theorem never_allowed_deleting :
    (∀ gone left, files = gone ++ left → ¬ Allows statements req entities (kept ++ left)) ↔
      (∃ file ∈ kept, Forbids statements req entities file) ∨
        (¬ ∃ file ∈ kept, Permits statements req entities file) ∧
          ForbidsLater statements req entities files := by
  by_cases forbidden : ∃ file ∈ kept, Forbids statements req entities file
  · refine iff_of_true ?_ (.inl forbidden)
    intro gone left _ allows
    obtain ⟨file, member, forbids⟩ := forbidden
    exact (allows_iff.mp allows).1 file (List.mem_append_left _ member) forbids
  · have free : ∀ file ∈ kept, ¬ Forbids statements req entities file :=
      fun file member forbids => forbidden ⟨file, member, forbids⟩
    constructor
    · intro never
      refine .inr ⟨?_, ?_⟩
      · intro permitted
        apply never files [] (List.append_nil _).symm
        rw [List.append_nil]
        exact allows_iff.mpr ⟨free, permitted⟩
      · intro before file after split permits
        apply Classical.byContradiction
        intro outlasts
        apply never before (file :: after) split
        apply allows_iff.mpr
        refine ⟨?_, file, List.mem_append_right _ List.mem_cons_self, permits⟩
        intro other member forbids
        obtain inKept | inLeft := List.mem_append.mp member
        · exact free other inKept forbids
        · exact outlasts ⟨other, inLeft, forbids⟩
    · rintro (impossible | ⟨unpermitted, later⟩)
      · exact absurd impossible forbidden
      · intro gone left split allows
        obtain ⟨quiet, file, member, permits⟩ := allows_iff.mp allows
        obtain inKept | inLeft := List.mem_append.mp member
        · exact unpermitted ⟨file, inKept, permits⟩
        · obtain ⟨before, after, rfl⟩ := List.append_of_mem inLeft
          have whole : files = (gone ++ before) ++ file :: after := by rw [split, List.append_assoc]
          obtain ⟨other, inside, forbids⟩ := later _ _ _ whole permits
          apply quiet other _ forbids
          exact List.mem_append_right _ (List.mem_append_right _ inside)

/-- While files are created in their order. -/
theorem never_allowed_creating :
    (∀ added left, files = added ++ left → ¬ Allows statements req entities (kept ++ added)) ↔
      (∃ file ∈ kept, Forbids statements req entities file) ∨
        (¬ ∃ file ∈ kept, Permits statements req entities file) ∧
          ForbidsEarlier statements req entities files := by
  rw [forbidsEarlier_iff_reverse, ← never_allowed_deleting]
  constructor
  · intro never gone left split allows
    apply never left.reverse gone.reverse
    · rw [← List.reverse_append, ← split, List.reverse_reverse]
    · apply (allows_congr _).mp allows
      simp
  · intro never added left split allows
    apply never left.reverse added.reverse
    · rw [split, List.reverse_append]
    · apply (allows_congr _).mp allows
      simp

end Files

end Cedar
