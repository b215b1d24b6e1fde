import S2sStack.Policies.PolicyStore
import Mathlib.Data.Fintype.EquivFin

set_option autoImplicit false

/- What a replace makes of a store, and when it leaves exactly the policies of the directory. -/
namespace S2s

open Effect (Follows Completes)
open Effect.Program
open Js (HeaderRecord)

section Writes

variable {policyStoreId : String} {store final : PolicyStore} {events : List UploadEvent}

theorem Writes.deleted_ok {policyId : String}
    (writes : Writes store ⟨.deletePolicy policyStoreId policyId, .ok ()⟩ final) :
    final = store.without [policyId] := by
  cases writes with
  | deleted reply => rfl
  | quiet loud => cases loud.1

theorem Writes.created_ok {definition : PolicyDefinition} {given : String}
    (writes : Writes store ⟨.createPolicy policyStoreId definition, .ok given⟩ final) :
    final.contents = store.contents ++ [definition] := by
  cases writes with
  | created policyId fresh same => simp [PolicyStore.contents, PolicyStore.add]
  | quiet loud => cases loud.1

theorem Writes.listed_ok {page : PolicyPage}
    (writes : Writes store ⟨.listPolicies policyStoreId, .ok page⟩ final) :
    page.Lists store ∧ final = store := by
  cases writes with
  | listed lists => exact ⟨lists, rfl⟩
  | quiet loud => exact absurd rfl (loud.2 policyStoreId page)

/-- Deletions remove a first part of what was listed. -/
theorem stores_deletes {existing : List String}
    (follows : Follows UploadEvent.accepted
      (existing.map (UploadOp.deletePolicy policyStoreId)) events)
    (stores : Stores store events final) :
    ∃ gone left, existing = gone ++ left ∧ final = store.without gone := by
  induction existing generalizing store events with
  | nil =>
      cases follows
      cases stores
      exact ⟨[], [], rfl, (PolicyStore.without_nil _).symm⟩
  | cons policyId rest ih =>
      cases follows with
      | nil =>
          cases stores
          exact ⟨[], policyId :: rest, rfl, (PolicyStore.without_nil _).symm⟩
      | stopped reply =>
          cases stores with
          | cons writes stores =>
              cases stores
              cases writes with
              | deleted reply => exact ⟨[policyId], rest, rfl, rfl⟩
              | notDeleted fault =>
                  exact ⟨[], policyId :: rest, rfl, (PolicyStore.without_nil _).symm⟩
              | quiet loud => cases loud.1
      | sent passed follows =>
          have reply_ok := passed
          simp only [UploadEvent.accepted] at reply_ok
          subst reply_ok
          cases stores with
          | cons writes stores =>
              rw [writes.deleted_ok] at stores
              obtain ⟨gone, left, rfl, rfl⟩ := ih follows stores
              exact ⟨policyId :: gone, left, rfl, store.without_without [policyId] gone⟩

theorem stores_deletes_all {existing : List String}
    (completes : Completes UploadEvent.accepted
      (existing.map (UploadOp.deletePolicy policyStoreId)) events)
    (stores : Stores store events final) : final = store.without existing := by
  induction existing generalizing store events with
  | nil =>
      rw [completes.eq_nil] at stores
      cases stores
      exact (PolicyStore.without_nil _).symm
  | cons policyId rest ih =>
      obtain ⟨reply, later, rfl, passed, remaining⟩ := completes.of_cons
      have reply_ok : reply = .ok () := passed
      subst reply_ok
      cases stores with
      | cons writes stores =>
          rw [writes.deleted_ok] at stores
          rw [ih remaining stores, store.without_without]
          rfl

/-- Creations add a first part of what was planned. -/
theorem stores_creates {definitions : List PolicyDefinition}
    (follows : Follows UploadEvent.accepted
      (definitions.map (UploadOp.createPolicy policyStoreId)) events)
    (stores : Stores store events final) :
    ∃ added left, definitions = added ++ left ∧ final.contents = store.contents ++ added := by
  induction definitions generalizing store events with
  | nil =>
      cases follows
      cases stores
      exact ⟨[], [], rfl, (List.append_nil _).symm⟩
  | cons definition rest ih =>
      cases follows with
      | nil =>
          cases stores
          exact ⟨[], definition :: rest, rfl, (List.append_nil _).symm⟩
      | stopped reply =>
          cases stores with
          | cons writes stores =>
              cases stores
              cases writes with
              | created policyId fresh same =>
                  refine ⟨[definition], rest, rfl, ?_⟩
                  simp [PolicyStore.contents, PolicyStore.add]
              | notCreated fault => exact ⟨[], definition :: rest, rfl, (List.append_nil _).symm⟩
              | quiet loud => cases loud.1
      | sent passed follows =>
          obtain ⟨given, reply_ok⟩ := passed
          subst reply_ok
          cases stores with
          | cons writes stores =>
              obtain ⟨added, left, rfl, contents⟩ := ih follows stores
              refine ⟨definition :: added, left, rfl, ?_⟩
              rw [contents, writes.created_ok, List.append_assoc, List.singleton_append]

theorem stores_creates_all {definitions : List PolicyDefinition}
    (completes : Completes UploadEvent.accepted
      (definitions.map (UploadOp.createPolicy policyStoreId)) events)
    (stores : Stores store events final) : final.contents = store.contents ++ definitions := by
  induction definitions generalizing store events with
  | nil =>
      rw [completes.eq_nil] at stores
      cases stores
      exact (List.append_nil _).symm
  | cons definition rest ih =>
      obtain ⟨reply, later, rfl, ⟨given, reply_ok⟩, remaining⟩ := completes.of_cons
      subst reply_ok
      cases stores with
      | cons writes stores =>
          rw [ih remaining stores, writes.created_ok, List.append_assoc, List.singleton_append]

end Writes

section Answered

variable {policyStoreId : String}

/-- The reads of `loadAllPolicies` at the files of a directory. -/
def fileReads (files : List (String × String)) : List UploadEvent :=
  (files.filter (fun file => (policyName file.1).isSome)).map
    (fun file => ⟨.readPolicyFile file.1, .ok file.2⟩)

def PolicyDirectory.readEvents (directory : PolicyDirectory) : List UploadEvent :=
  ⟨.readPolicies, .ok (directory.files.map Prod.fst)⟩ :: fileReads directory.files

theorem readPolicyFiles_runs (files : List (String × String)) (out : HeaderRecord) :
    Runs (readPolicyFiles (files.map Prod.fst) out) (fileReads files)
      (.ok (files.foldl addPolicyFile out)) := by
  induction files generalizing out with
  | nil => exact .done _
  | cons file rest ih =>
      rw [List.map_cons, readPolicyFiles, List.foldl_cons, addPolicyFile, fileReads]
      cases named : policyName file.1 with
      | none =>
          rw [List.filter_cons_of_neg (by simp [named])]
          exact ih out
      | some name =>
          rw [List.filter_cons_of_pos (by simp [named]), List.map_cons, Upload.readPolicyFile,
            runs_command_bind_iff]
          exact ⟨.ok file.2, _, rfl, .inl ⟨file.2, rfl, ih _⟩⟩

theorem loadAllPolicies_runs (directory : PolicyDirectory) :
    Runs loadAllPolicies directory.readEvents (.ok directory.policies) := by
  rw [loadAllPolicies, Upload.readPolicies, runs_command_bind_iff]
  exact ⟨.ok (directory.files.map Prod.fst), _, rfl,
    .inl ⟨_, rfl, readPolicyFiles_runs directory.files []⟩⟩

def deleteEvents (policyStoreId : String) (existing : List String) : List UploadEvent :=
  existing.map (fun policyId => ⟨.deletePolicy policyStoreId policyId, .ok ()⟩)

theorem stores_deleteEvents (store : PolicyStore) (existing : List String) :
    Stores store (deleteEvents policyStoreId existing) (store.without existing) := by
  induction existing generalizing store with
  | nil =>
      rw [store.without_nil]
      exact .nil store
  | cons policyId rest ih =>
      have later := ih (store.without [policyId])
      rw [store.without_without] at later
      exact .cons (.deleted (.ok ())) later

/-- A create event that was answered with an id. -/
def Creates (policyStoreId : String) (definition : PolicyDefinition) (event : UploadEvent) : Prop :=
  Runs (Upload.createPolicy policyStoreId definition) [event] (.ok ())

theorem exists_creates (policyStoreId : String) (store : PolicyStore)
    (definitions : List PolicyDefinition) :
    ∃ creates final, List.Forall₂ (Creates policyStoreId) definitions creates ∧
      Stores store creates final ∧ final.contents = store.contents ++ definitions := by
  induction definitions generalizing store with
  | nil => exact ⟨[], store, .nil, .nil store, (List.append_nil _).symm⟩
  | cons definition rest ih =>
      obtain ⟨policyId, unused⟩ := Infinite.exists_notMem_finset store.ids.toFinset
      have fresh : policyId ∉ store.ids := by simpa using unused
      have writes : Writes store ⟨.createPolicy policyStoreId definition, .ok policyId⟩
          (store.add ⟨policyId, definition⟩ fresh) := by
        apply Writes.created
        intro given same
        cases same
        rfl
      obtain ⟨creates, final, answered, stores, contents⟩ :=
        ih (store.add ⟨policyId, definition⟩ fresh)
      refine ⟨_ :: creates, final, .cons ?_ answered, .cons writes stores, ?_⟩
      · exact runs_command_iff.mpr ⟨.ok policyId, rfl, rfl⟩
      · rw [contents, writes.created_ok, List.append_assoc, List.singleton_append]

/-- The events of a replace in front of the creations, all of them answered. -/
def preparing (policyStoreId : String) (page : PolicyPage) (directory : PolicyDirectory) :
    List UploadEvent :=
  [⟨.readSchema, .ok ""⟩, ⟨.putSchema policyStoreId "", .ok ()⟩,
      ⟨.listPolicies policyStoreId, .ok page⟩] ++
    deleteEvents policyStoreId page.existing ++ directory.readEvents

theorem uploadToAvp_runs {page : PolicyPage} {directory : PolicyDirectory}
    {creates : List UploadEvent}
    (answered : List.Forall₂ (Creates policyStoreId) directory.definitions creates) :
    Runs (uploadToAvp { policyStoreId := policyStoreId, replace := true })
      (preparing policyStoreId page directory ++ creates)
      (.ok {
        schemaUploaded := true
        policiesCreated := directory.definitions.length
        policiesDeleted := page.existing.length }) := by
  have deleting : Runs (deleteExisting policyStoreId)
      (⟨.listPolicies policyStoreId, .ok page⟩ :: deleteEvents policyStoreId page.existing)
      (.ok page.existing.length) := by
    rw [deleteExisting, Upload.listPolicies, runs_command_bind_iff]
    refine ⟨.ok page, _, rfl, .inl ⟨page, rfl, ?_⟩⟩
    have loop : Runs (sendEach (Upload.deletePolicy policyStoreId) page.existing 0)
        (deleteEvents policyStoreId page.existing) (.ok (0 + page.existing.length)) := by
      apply sendEach_runs
      rw [deleteEvents, List.forall₂_map_right_iff, List.forall₂_same]
      exact fun policyId _ => runs_command_iff.mpr ⟨.ok (), rfl, rfl⟩
    rwa [Nat.zero_add] at loop
  have creating : Runs (createPolicies policyStoreId directory.policies) creates
      (.ok directory.definitions.length) := by
    have loop : Runs (createPolicies policyStoreId directory.policies) creates
        (.ok (0 + directory.definitions.length)) := sendEach_runs answered
    rwa [Nat.zero_add] at loop
  have whole : Runs (uploadToAvp { policyStoreId := policyStoreId, replace := true })
      (⟨.readSchema, .ok ""⟩ :: ⟨.putSchema policyStoreId "", .ok ()⟩ ::
        (⟨.listPolicies policyStoreId, .ok page⟩ :: deleteEvents policyStoreId page.existing ++
          (directory.readEvents ++ (creates ++ [])))) (.ok {
        schemaUploaded := true
        policiesCreated := directory.definitions.length
        policiesDeleted := page.existing.length }) := by
    rw [uploadToAvp, Upload.readSchema, runs_command_bind_iff]
    refine ⟨.ok "", _, rfl, .inl ⟨"", rfl, ?_⟩⟩
    rw [Upload.putSchema, runs_command_bind_iff]
    refine ⟨.ok (), _, rfl, .inl ⟨(), rfl, ?_⟩⟩
    rw [if_pos rfl]
    apply Runs.bind deleting
    apply Runs.bind (loadAllPolicies_runs directory)
    exact Runs.bind creating (.done _)
  simpa [preparing] using whole

theorem creates_op {definitions : List PolicyDefinition} {creates : List UploadEvent}
    (answered : List.Forall₂ (Creates policyStoreId) definitions creates) {event : UploadEvent}
    (member : event ∈ creates) : ∃ definition, event.op = .createPolicy policyStoreId definition := by
  induction answered with
  | nil => cases member
  | cons first _ ih =>
      obtain rfl | later := List.mem_cons.mp member
      · obtain ⟨reply, same, -⟩ := runs_command_iff.mp first
        cases same
        exact ⟨_, rfl⟩
      · exact ih later

theorem readFrom_preparing {page : PolicyPage} {directory : PolicyDirectory}
    {creates : List UploadEvent}
    (answered : List.Forall₂ (Creates policyStoreId) directory.definitions creates) :
    ReadFrom directory (preparing policyStoreId page directory ++ creates) := by
  constructor
  · intro files member
    obtain early | late := List.mem_append.mp member
    · simpa [preparing, deleteEvents, PolicyDirectory.readEvents, fileReads] using early
    · obtain ⟨definition, same⟩ := creates_op answered late
      cases same
  · intro file content member
    obtain early | late := List.mem_append.mp member
    · simp only [preparing, deleteEvents, PolicyDirectory.readEvents, fileReads, List.mem_append,
        List.mem_cons, List.mem_map, List.mem_filter, List.not_mem_nil, or_false] at early
      obtain (named | ⟨_, _, same⟩) | same | ⟨⟨_, _⟩, ⟨inside, _⟩, same⟩ := early
      · obtain same | same | same := named <;> cases same
      · cases same
      · cases same
      · cases same
        exact inside
    · obtain ⟨definition, same⟩ := creates_op answered late
      cases same

theorem stores_loading {store : PolicyStore} {page : PolicyPage} (lists : page.Lists store) :
    Stores store [⟨.readSchema, .ok ""⟩, ⟨.putSchema policyStoreId "", .ok ()⟩,
      ⟨.listPolicies policyStoreId, .ok page⟩] store := by
  refine .cons (.quiet ?_) (.cons (.quiet ?_) (.cons (.listed lists) (.nil store)))
  · simp [UploadEvent.Quiet, UploadEvent.isWrite]
  · simp [UploadEvent.Quiet, UploadEvent.isWrite]

theorem stores_preparing {store : PolicyStore} {page : PolicyPage} (lists : page.Lists store)
    (directory : PolicyDirectory) :
    Stores store (preparing policyStoreId page directory) (store.without page.existing) := by
  have reads : Stores (store.without page.existing) directory.readEvents
      (store.without page.existing) :=
    stores_quiet (quiet_loadAllPolicies (loadAllPolicies_runs directory))
  rw [preparing, stores_append_iff]
  refine ⟨_, ?_, reads⟩
  rw [stores_append_iff]
  exact ⟨store, stores_loading lists, stores_deleteEvents store page.existing⟩

end Answered

/-- A replace that returned, at a directory. -/
structure CompletedReplace (directory : PolicyDirectory) where
  policyStoreId : String
  before : PolicyStore
  after : PolicyStore
  trace : List UploadEvent
  result : UploadResult
  runs : Runs (uploadToAvp { policyStoreId := policyStoreId, replace := true }) trace (.ok result)
  reads : ReadFrom directory trace
  stores : Stores before trace after

namespace CompletedReplace

variable {directory : PolicyDirectory} (run : CompletedReplace directory)

/-- The listing that the run has read names every policy of the store. -/
def ListsAll : Prop :=
  ∀ policyStoreId page, ⟨.listPolicies policyStoreId, .ok page⟩ ∈ run.trace →
    run.before.ids ⊆ page.existing

/-- The store holds the policies of the directory, each once, and the run has counted the
policies that it deleted. -/
structure Converges : Prop where
  contents : run.after.contents.Perm (directory.policies.map policyDefinition)
  deleted : run.result.policiesDeleted = run.before.policies.length

/-- What a completed replace leaves: the policies it did not see, and those of the directory. -/
theorem leaves : ∃ policyStoreId page, ⟨.listPolicies policyStoreId, .ok page⟩ ∈ run.trace ∧
    (∀ otherId other, ⟨.listPolicies otherId, .ok other⟩ ∈ run.trace → other = page) ∧
    page.Lists run.before ∧ run.result.policiesDeleted = page.existing.length ∧
    run.after.contents =
      (run.before.without page.existing).contents ++ directory.definitions := by
  have shape := uploadToAvp_run run.runs
  have stores := run.stores
  have reads := run.reads
  generalize run.trace = trace at shape stores reads
  generalize outcome_eq : (Except.ok run.result : Except Fault UploadResult) = outcome at shape
  cases shape with
  | unlisted fault quiet => cases outcome_eq
  | deleting page fault quiet follows => cases outcome_eq
  | reading page fault quiet completes quiet' => cases outcome_eq
  | @creating loading deletes readings creates page policies _ quiet deleting reading load follows
      finishes =>
      obtain ⟨creating, result_eq⟩ := finishes run.result outcome_eq.symm
      rw [stores_append_iff] at stores
      obtain ⟨_, loaded, stores⟩ := stores
      rw [loaded.of_quiet quiet] at stores
      cases stores with
      | cons writes stores =>
          obtain ⟨lists, same⟩ := writes.listed_ok
          subst same
          obtain ⟨_, deletions, stores⟩ := stores_append_iff.mp stores
          obtain ⟨_, unchanged, creations⟩ := stores_append_iff.mp stores
          rw [unchanged.of_quiet reading, stores_deletes_all deleting deletions] at creations
          have policies_eq : policies = directory.policies := by
            apply loadAllPolicies_ok (reads.of_subset _) load
            intro event member
            simp [member]
          refine ⟨run.policyStoreId, page, by simp, ?_, lists, by rw [result_eq], ?_⟩
          · intro otherId other member
            simp only [List.mem_append, List.mem_cons] at member
            obtain early | same | deletion | read | creation := member
            · exact absurd early (not_listed_quiet quiet)
            · cases same
              rfl
            · exact absurd deletion (not_listed_deleting deleting.follows)
            · exact absurd read (not_listed_quiet reading)
            · exact absurd creation (not_listed_creating creating.follows)
          · rw [stores_creates_all creating creations, policies_eq]
            rfl

theorem definitions_perm (directory : PolicyDirectory) :
    directory.definitions.Perm (directory.policies.map policyDefinition) :=
  (Js.objectEntries_perm directory.policies).map policyDefinition

/-- Nothing of a store is left exactly where all its ids are taken. -/
theorem without_contents_eq_nil_iff {store : PolicyStore} {gone : List String} :
    (store.without gone).contents = [] ↔ store.ids ⊆ gone := by
  simp [PolicyStore.contents, PolicyStore.without, PolicyStore.ids, List.subset_def]

theorem listsAll_iff : run.ListsAll ↔ run.Converges := by
  obtain ⟨policyStoreId, page, listed, only, lists, deleted, contents⟩ := run.leaves
  have all_iff : run.ListsAll ↔ run.before.ids ⊆ page.existing := by
    constructor
    · intro all
      exact all policyStoreId page listed
    · intro all otherId other member
      rw [only otherId other member]
      exact all
  rw [all_iff, ← without_contents_eq_nil_iff]
  constructor
  · intro nothing
    constructor
    · rw [contents, nothing, List.nil_append]
      exact definitions_perm directory
    · have all := without_contents_eq_nil_iff.mp nothing
      have same : page.existing.Perm run.before.ids := by
        apply (List.perm_ext_iff_of_nodup lists.once run.before.distinct).mpr
        exact fun policyId => ⟨fun member => lists.stored member, fun member => all member⟩
      rw [deleted, same.length_eq, PolicyStore.ids, List.length_map]
  · intro converges
    have lengths := converges.contents.length_eq
    rw [contents, List.length_append, (definitions_perm directory).length_eq] at lengths
    apply List.eq_nil_of_length_eq_zero
    omega

end CompletedReplace

/-- A replace and others after it, all with the same policy files. -/
structure ReplaceSeries (directory : PolicyDirectory) where
  first : CompletedReplace directory
  later : List (CompletedReplace directory)
  linked : (first :: later).IsChain fun run next => next.before = run.after

namespace ReplaceSeries

variable {directory : PolicyDirectory} (series : ReplaceSeries directory)

/-- Every run leaves exactly the policies of the directory, and a repetition changes none. -/
structure ConvergesAndStays : Prop where
  converges : ∀ run ∈ series.first :: series.later, run.Converges
  stays : ∀ run ∈ series.later, run.after.contents.Perm run.before.contents

/-- A replace converges and is idempotent exactly where its listings name every policy. -/
theorem convergesAndStays_iff :
    series.ConvergesAndStays ↔ ∀ run ∈ series.first :: series.later, run.ListsAll := by
  constructor
  · intro holds run member
    exact run.listsAll_iff.mpr (holds.converges run member)
  · intro all
    have converges : ∀ run ∈ series.first :: series.later, run.Converges :=
      fun run member => run.listsAll_iff.mp (all run member)
    refine ⟨converges, ?_⟩
    have linked := series.linked
    generalize series.first = first at converges linked
    generalize series.later = later at converges linked
    induction later generalizing first with
    | nil =>
        intro run member
        cases member
    | cons next rest ih =>
        intro run member
        obtain ⟨link, linked⟩ := List.isChain_cons_cons.mp linked
        obtain rfl | deeper := List.mem_cons.mp member
        · rw [link]
          have before := (converges first List.mem_cons_self).contents
          have after := (converges run (List.mem_cons_of_mem _ List.mem_cons_self)).contents
          exact after.trans before.symm
        · exact ih next (fun other inside => converges other (List.mem_cons_of_mem _ inside)) linked
            run deeper

end ReplaceSeries

/-- Whatever a listing may leave out, a replace can go on from it to its end. -/
theorem exists_completed {store : PolicyStore} {page : PolicyPage} (lists : page.Lists store)
    (directory : PolicyDirectory) :
    ∃ run : CompletedReplace directory, run.before = store ∧
      ∃ policyStoreId, ⟨.listPolicies policyStoreId, .ok page⟩ ∈ run.trace := by
  obtain ⟨creates, final, answered, stores, -⟩ := exists_creates "ps"
    (store.without page.existing) directory.definitions
  refine ⟨{
    policyStoreId := "ps"
    before := store
    after := final
    trace := preparing "ps" page directory ++ creates
    result := _
    runs := uploadToAvp_runs answered
    reads := readFrom_preparing answered
    stores := stores_append_iff.mpr ⟨_, stores_preparing lists directory, stores⟩ }, rfl, "ps", ?_⟩
  simp [preparing]

section Paged

/-- One policy more than a page of ten has. -/
def crowdedStore : PolicyStore where
  policies := ["p0", "p1", "p2", "p3", "p4", "p5", "p6", "p7", "p8", "p9", "p10"].map
    (fun policyId => ⟨policyId, ⟨"", "permit (principal, action, resource);"⟩⟩)
  distinct := by decide

def firstPage : PolicyPage where
  policyIds := some ["p0", "p1", "p2", "p3", "p4", "p5", "p6", "p7", "p8", "p9"]
  nextToken := some "page-2"

theorem firstPage_lists : firstPage.Lists crowdedStore where
  once := by decide
  stored := by decide
  last := by simp [firstPage]

/-- The eleventh policy stays in the store. -/
theorem secondPage_stays :
    ¬ ∀ (directory : PolicyDirectory) (series : ReplaceSeries directory),
      series.ConvergesAndStays := by
  intro holds
  obtain ⟨run, before, policyStoreId, listed⟩ :=
    exists_completed firstPage_lists {
      files := [("common.cedar", "permit (principal, action, resource);")]
      distinct := by decide }
  have converges := (holds _ { first := run, later := [], linked := by simp }).converges run
    List.mem_cons_self
  have seen := run.listsAll_iff.mpr converges policyStoreId firstPage listed
  rw [before] at seen
  have stays : "p10" ∉ firstPage.existing := by decide
  exact stays (seen (by decide))

end Paged

end S2s
