import S2sStack.Cedar.PolicyFiles
import S2sStack.Policies.Replace
import S2sStack.Policies.Shipped

set_option autoImplicit false

/- The stores that a replace goes through, and when none of them allows what neither the old nor
the new policies allow. -/
namespace S2s

open Effect (Follows Completes)
open Effect.Program

/-- The policy with this id. -/
def PolicyStore.lookup (store : PolicyStore) (policyId : String) : Option PolicyDefinition :=
  (store.policies.find? (fun policy => policy.policyId = policyId)).map StoredPolicy.definition

theorem PolicyStore.lookup_eq_some_iff {store : PolicyStore} {policyId : String}
    {definition : PolicyDefinition} :
    store.lookup policyId = some definition ↔ ⟨policyId, definition⟩ ∈ store.policies := by
  simp only [lookup, Option.map_eq_some_iff]
  constructor
  · rintro ⟨policy, found, rfl⟩
    have same : policy.policyId = policyId := by simpa using List.find?_some found
    rw [← same]
    exact List.mem_of_find?_eq_some found
  · intro stored
    cases found : store.policies.find? (fun policy => policy.policyId = policyId) with
    | none => simpa using List.find?_eq_none.mp found _ stored
    | some policy =>
        have named : policy.policyId = policyId := by simpa using List.find?_some found
        have same : policy = ⟨policyId, definition⟩ :=
          List.inj_on_of_nodup_map store.distinct (List.mem_of_find?_eq_some found) stored named
        exact ⟨policy, rfl, by rw [same]⟩

theorem PolicyStore.mem_contents_without_iff {store : PolicyStore} {gone : List String}
    {definition : PolicyDefinition} :
    definition ∈ (store.without gone).contents ↔
      ∃ policyId, policyId ∉ gone ∧ ⟨policyId, definition⟩ ∈ store.policies := by
  simp only [contents, without, List.mem_map, List.mem_filter, decide_eq_true_eq]
  constructor
  · rintro ⟨policy, ⟨stored, left⟩, rfl⟩
    exact ⟨policy.policyId, left, stored⟩
  · rintro ⟨policyId, left, stored⟩
    exact ⟨⟨policyId, definition⟩, ⟨stored, left⟩, rfl⟩

/-- What a replace starts from: the store, the listing it gets, and the policy files. -/
structure Replacement where
  policyStoreId : String
  old : PolicyStore
  page : PolicyPage
  lists : page.Lists old
  directory : PolicyDirectory

namespace Replacement

variable (replacement : Replacement)

/-- The listed policies, in the order of the listing. -/
def listed : List PolicyDefinition := replacement.page.existing.filterMap replacement.old.lookup

/-- The policies that the listing leaves out. -/
def kept : List PolicyDefinition :=
  (replacement.old.without replacement.page.existing).contents

/-- The policies of the directory, in the order in which they are created. -/
def created : List PolicyDefinition := replacement.directory.definitions

/-- A replace that was stopped after what it has performed; the rest of its run is lost. -/
structure Attempt where
  performed : List UploadEvent
  lost : List UploadEvent
  outcome : Except Fault UploadResult
  runs : Runs (uploadToAvp { policyStoreId := replacement.policyStoreId, replace := true })
    (performed ++ lost) outcome
  listing : ∀ policyStoreId page, ⟨.listPolicies policyStoreId, .ok page⟩ ∈ performed ++ lost →
    page = replacement.page
  reads : ReadFrom replacement.directory (performed ++ lost)
  current : PolicyStore
  stores : Stores replacement.old performed current

/-- What the store may hold in between. -/
inductive Stage : List PolicyDefinition → Prop
  | deleting (gone left : List String) : replacement.page.existing = gone ++ left →
      Stage (replacement.old.without gone).contents
  | creating (added left : List PolicyDefinition) : replacement.created = added ++ left →
      Stage (replacement.kept ++ added)

variable {replacement}

/-- A first part of two lists ends in the first or in the second one. -/
theorem prefix_append_cases {α : Type} {part first second : List α}
    (whole : part <+: first ++ second) :
    part <+: first ∨ ∃ more, part = first ++ more ∧ more <+: second := by
  obtain ⟨rest, split⟩ := whole
  obtain ⟨middle, rfl, -⟩ | ⟨middle, rfl, rfl⟩ := List.append_eq_append_iff.mp split
  · exact .inl ⟨middle, rfl⟩
  · exact .inr ⟨middle, rfl, List.prefix_append _ _⟩

theorem stage_of_quiet {part : List UploadEvent} {current : PolicyStore}
    (quiet : ∀ event ∈ part, event.Quiet) (stores : Stores replacement.old part current) :
    replacement.Stage current.contents := by
  rw [stores.of_quiet quiet, ← replacement.old.without_nil]
  exact .deleting [] replacement.page.existing rfl

/-- Wherever the events of a replace are cut off, the store is at a stage. -/
theorem stage_of_prefix {loading deletes reads creates part : List UploadEvent}
    {policyStoreId : String} {current : PolicyStore} (quiet : ∀ event ∈ loading, event.Quiet)
    (deleting : Follows UploadEvent.accepted
      (deletePlan policyStoreId replacement.page.existing) deletes)
    (deleted : reads ++ creates ≠ [] → Completes UploadEvent.accepted
      (deletePlan policyStoreId replacement.page.existing) deletes)
    (reading : ∀ event ∈ reads, event.Quiet)
    (creating : Follows UploadEvent.accepted
      (createPlan policyStoreId replacement.directory.policies) creates)
    (first : part <+: loading ++ ⟨.listPolicies policyStoreId, .ok replacement.page⟩ ::
      (deletes ++ (reads ++ creates)))
    (stores : Stores replacement.old part current) : replacement.Stage current.contents := by
  have quiet_of_shorter {events more : List UploadEvent} (all : ∀ event ∈ events, event.Quiet)
      (shorter : more <+: events) : ∀ event ∈ more, event.Quiet :=
    fun event member => all event (shorter.subset member)
  obtain within | ⟨part, rfl, listed⟩ := prefix_append_cases first
  · exact stage_of_quiet (quiet_of_shorter quiet within) stores
  obtain ⟨_, loaded, stores⟩ := stores_append_iff.mp stores
  rw [loaded.of_quiet quiet] at stores
  obtain rfl | ⟨part, rfl, writing⟩ := List.prefix_cons_iff.mp listed
  · exact stage_of_quiet (by simp) stores
  cases stores with
  | cons writes stores =>
      obtain ⟨-, same⟩ := writes.listed_ok
      subst same
      have partial_deletes (within : part <+: deletes) : replacement.Stage current.contents := by
        obtain ⟨gone, left, split, same⟩ := stores_deletes (deleting.of_prefix within) stores
        rw [same]
        exact .deleting gone left split
      by_cases idle : reads ++ creates = []
      · rw [idle, List.append_nil] at writing
        exact partial_deletes writing
      obtain within | ⟨part, rfl, refilling⟩ := prefix_append_cases writing
      · exact partial_deletes within
      obtain ⟨_, deletions, stores⟩ := stores_append_iff.mp stores
      rw [stores_deletes_all (deleted idle) deletions] at stores
      obtain within | ⟨part, rfl, created⟩ := prefix_append_cases refilling
      · rw [stores.of_quiet (quiet_of_shorter reading within)]
        exact .deleting replacement.page.existing [] (List.append_nil _).symm
      · obtain ⟨_, unchanged, stores⟩ := stores_append_iff.mp stores
        rw [unchanged.of_quiet reading] at stores
        obtain ⟨added, left, split, contents⟩ := stores_creates (creating.of_prefix created) stores
        rw [contents]
        exact .creating added left split

theorem Attempt.stage (attempt : replacement.Attempt) :
    replacement.Stage attempt.current.contents := by
  have shape := uploadToAvp_run attempt.runs
  have listing := attempt.listing
  have reads := attempt.reads
  have first : attempt.performed <+: attempt.performed ++ attempt.lost := List.prefix_append _ _
  have stores := attempt.stores
  generalize attempt.performed ++ attempt.lost = trace at shape listing reads first
  generalize attempt.outcome = outcome at shape
  cases shape with
  | unlisted fault quiet =>
      apply stage_of_quiet _ stores
      exact fun event member => quiet event (first.subset member)
  | @deleting loading deletes page fault quiet follows =>
      rw [listing replacement.policyStoreId page (by simp)] at first follows
      have whole : attempt.performed <+: loading ++
          ⟨.listPolicies replacement.policyStoreId, .ok replacement.page⟩ ::
            (deletes ++ ([] ++ [])) := by simpa using first
      exact stage_of_prefix quiet follows (by simp) (by simp) (.nil _) whole stores
  | @reading loading deletes readings page fault quiet completes reading =>
      rw [listing replacement.policyStoreId page (by simp)] at first completes
      have whole : attempt.performed <+: loading ++
          ⟨.listPolicies replacement.policyStoreId, .ok replacement.page⟩ ::
            (deletes ++ (readings ++ [])) := by simpa using first
      exact stage_of_prefix quiet completes.follows (fun _ => completes) reading (.nil _) whole
        stores
  | @creating loading deletes readings creates page policies _ quiet completes reading load follows
      finishes =>
      rw [listing replacement.policyStoreId page (by simp)] at first completes
      have policies_eq : policies = replacement.directory.policies := by
        apply loadAllPolicies_ok (reads.of_subset _) load
        intro event member
        simp [member]
      rw [policies_eq] at follows
      exact stage_of_prefix quiet completes.follows (fun _ => completes) reading follows first stores

/-- The one listing of an answered replace. -/
theorem listing_of_preparing {policyStoreId otherId : String} {page other : PolicyPage}
    {directory : PolicyDirectory} {creates : List UploadEvent}
    (answered : List.Forall₂ (Creates policyStoreId) directory.definitions creates)
    (member : ⟨.listPolicies otherId, .ok other⟩ ∈
      preparing policyStoreId page directory ++ creates) : other = page := by
  obtain early | late := List.mem_append.mp member
  · simp only [preparing, List.mem_append, List.mem_cons, List.not_mem_nil, or_false] at early
    obtain (named | deletion) | read := early
    · obtain same | same | same := named <;> cases same
      rfl
    · obtain ⟨policyId, -, same⟩ := List.mem_map.mp deletion
      cases same
    · exact absurd read (not_listed_quiet (quiet_loadAllPolicies (loadAllPolicies_runs directory)))
  · obtain ⟨definition, same⟩ := creates_op answered late
    cases same

/-- An answered replace may be stopped after each of its events. -/
theorem exists_attempt {performed lost creates : List UploadEvent} {current : PolicyStore}
    (answered : List.Forall₂ (Creates replacement.policyStoreId)
      replacement.directory.definitions creates)
    (whole : performed ++ lost = preparing replacement.policyStoreId replacement.page
      replacement.directory ++ creates)
    (stores : Stores replacement.old performed current) :
    ∃ attempt : replacement.Attempt, attempt.current = current :=
  ⟨{
    performed := performed
    lost := lost
    outcome := _
    runs := by
      rw [whole]
      exact uploadToAvp_runs answered
    listing := by
      intro policyStoreId page member
      rw [whole] at member
      exact listing_of_preparing answered member
    reads := by
      rw [whole]
      exact readFrom_preparing answered
    current := current
    stores := stores }, rfl⟩

theorem Stage.reached {contents : List PolicyDefinition} (stage : replacement.Stage contents) :
    ∃ attempt : replacement.Attempt, attempt.current.contents = contents := by
  cases stage with
  | deleting gone left split =>
      obtain ⟨creates, final, answered, -, -⟩ := exists_creates
        replacement.policyStoreId replacement.old replacement.directory.definitions
      have whole : ([⟨.readSchema, .ok ""⟩, ⟨.putSchema replacement.policyStoreId "", .ok ()⟩,
          ⟨.listPolicies replacement.policyStoreId, .ok replacement.page⟩] ++
            deleteEvents replacement.policyStoreId gone) ++
          (deleteEvents replacement.policyStoreId left ++ replacement.directory.readEvents ++
            creates) =
          preparing replacement.policyStoreId replacement.page replacement.directory ++ creates := by
        simp [preparing, deleteEvents, split]
      obtain ⟨attempt, current⟩ := exists_attempt answered whole (stores_append_iff.mpr
        ⟨replacement.old, stores_loading replacement.lists,
          stores_deleteEvents replacement.old gone⟩)
      exact ⟨attempt, by rw [current]⟩
  | creating added left split =>
      obtain ⟨creates, current, answered, stores, contents⟩ := exists_creates
        replacement.policyStoreId
        (replacement.old.without replacement.page.existing) added
      obtain ⟨more, _, later, -, -⟩ := exists_creates
        replacement.policyStoreId current left
      have all : List.Forall₂ (Creates replacement.policyStoreId)
          replacement.directory.definitions (creates ++ more) := by
        rw [show replacement.directory.definitions = added ++ left from split]
        exact List.rel_append answered later
      obtain ⟨attempt, reaches⟩ := exists_attempt all (List.append_assoc _ creates more)
        (stores_append_iff.mpr
          ⟨_, stores_preparing replacement.lists replacement.directory, stores⟩)
      exact ⟨attempt, by rw [reaches, contents, kept]⟩

/-- What is stored between two deletions: what was not listed, and the rest of the listing. -/
theorem mem_contents_deleting {gone left : List String}
    (split : replacement.page.existing = gone ++ left) (definition : PolicyDefinition) :
    definition ∈ (replacement.old.without gone).contents ↔
      definition ∈ replacement.kept ++ left.filterMap replacement.old.lookup := by
  have once := replacement.lists.once
  rw [split, List.nodup_append] at once
  simp only [kept, split, List.mem_append, List.mem_filterMap, PolicyStore.lookup_eq_some_iff,
    PolicyStore.mem_contents_without_iff, not_or]
  constructor
  · rintro ⟨policyId, present, stored⟩
    by_cases listed : policyId ∈ left
    · exact .inr ⟨policyId, listed, stored⟩
    · exact .inl ⟨policyId, ⟨present, listed⟩, stored⟩
  · rintro (⟨policyId, ⟨present, -⟩, stored⟩ | ⟨policyId, listed, stored⟩)
    · exact ⟨policyId, present, stored⟩
    · exact ⟨policyId, fun deleted => once.2.2 policyId deleted policyId listed rfl, stored⟩

section Decisions

variable (replacement)
variable (parse : String → List Cedar.Policy) (req : Cedar.Request) (entities : Cedar.Entities)

/-- The policies allow the request, where `parse` reads the text of a policy. -/
def Allowed (definitions : List PolicyDefinition) : Prop :=
  Cedar.Allows (fun definition => parse definition.statement) req entities definitions

/-- A policy that is not listed forbids the request; or none of those permits it, and each of the
others that permits it is deleted before a forbid, or created after one. -/
def Shielded : Prop :=
  (∃ definition ∈ replacement.kept,
    Cedar.Forbids (fun definition => parse definition.statement) req entities definition) ∨
  (¬ ∃ definition ∈ replacement.kept,
    Cedar.Permits (fun definition => parse definition.statement) req entities definition) ∧
    Cedar.ForbidsLater (fun definition => parse definition.statement) req entities
      replacement.listed ∧
    Cedar.ForbidsEarlier (fun definition => parse definition.statement) req entities
      replacement.created

variable {replacement parse req entities}

/-- No stage allows a request exactly where it is shielded. -/
theorem shielded_iff :
    replacement.Shielded parse req entities ↔
      ∀ contents, replacement.Stage contents → ¬ Allowed parse req entities contents := by
  have phases := and_congr
    (@Cedar.never_allowed_deleting _ (fun definition => parse definition.statement) req entities
      replacement.listed replacement.kept)
    (@Cedar.never_allowed_creating _ (fun definition => parse definition.statement) req entities
      replacement.created replacement.kept)
  rw [Shielded, and_and_left, or_and_left, ← phases]
  constructor
  · rintro ⟨afterDeletes, afterCreates⟩ contents stage
    cases stage with
    | deleting gone left split =>
        rw [Allowed, Cedar.allows_congr (mem_contents_deleting split)]
        apply afterDeletes (gone.filterMap replacement.old.lookup)
        rw [listed, split, List.filterMap_append]
    | creating added left split => exact afterCreates added left split
  · intro never
    constructor
    · intro gone left split allows
      obtain ⟨goneIds, leftIds, ids, rfl, rfl⟩ := List.filterMap_eq_append_iff.mp split
      apply never _ (.deleting goneIds leftIds ids)
      exact (Cedar.allows_congr (mem_contents_deleting ids)).mpr allows
    · intro added left split allows
      exact never _ (.creating added left split) allows

/-- A replace that may be stopped anywhere fails open nowhere exactly where every request that
neither the old nor the new policies allow is shielded. -/
theorem neverFailsOpen_iff (replacement : Replacement) (parse : String → List Cedar.Policy) :
    (∀ (attempt : replacement.Attempt) (req : Cedar.Request) (entities : Cedar.Entities),
      Allowed parse req entities attempt.current.contents →
        Allowed parse req entities replacement.old.contents ∨
          Allowed parse req entities replacement.created) ↔
    ∀ (req : Cedar.Request) (entities : Cedar.Entities),
      ¬ Allowed parse req entities replacement.old.contents →
      ¬ Allowed parse req entities replacement.created →
        replacement.Shielded parse req entities := by
  constructor
  · intro closed req entities old created
    apply shielded_iff.mpr
    intro contents stage allows
    obtain ⟨attempt, same⟩ := stage.reached
    rw [← same] at allows
    obtain before | after := closed attempt req entities allows
    · exact old before
    · exact created after
  · intro shielded attempt req entities allows
    by_cases old : Allowed parse req entities replacement.old.contents
    · exact .inl old
    · by_cases created : Allowed parse req entities replacement.created
      · exact .inr created
      · have closed := shielded_iff.mp (shielded req entities old created)
        exact absurd allows (closed attempt.current.contents attempt.stage)

end Decisions

section Gate

/-- The global DPoP gate. -/
def gateText : String :=
  "forbid (principal, action, resource) unless \x7b context.dpop_confirmed == true \x7d;"

def openText : String := "permit (principal, action, resource);"

/-- The policies of the two texts. -/
def gateParser (text : String) : List Cedar.Policy :=
  if text = gateText then [S2s.M2M.dpopGate]
  else if text = openText then [{ kind := .permit }]
  else []

def gateDirectory : PolicyDirectory where
  files := [("common.cedar", gateText), ("open.cedar", openText)]
  distinct := by decide

/-- The same two policies are in the store, and the gate is listed first. -/
def gateReplacement : Replacement where
  policyStoreId := "ps-1"
  old := ⟨[⟨"p1", "M2M common policies", gateText⟩, ⟨"p2", "M2M open policies", openText⟩],
    by decide⟩
  page := { policyIds := some ["p1", "p2"] }
  lists := ⟨by decide, by decide, by decide⟩
  directory := gateDirectory

def unconfirmed : Cedar.Request where
  principal := S2s.M2M.servicePrincipal "calling-service"
  action := S2s.M2M.action "POST_account"
  resource := S2s.M2M.resourceGroup "accounts-resources"
  context := [("dpop_confirmed", .bool false)]

/-- Once the gate is deleted, the permit that is still there allows a request without a proof. -/
theorem gate_deleted_first :
    ¬ ∀ (replacement : Replacement) (attempt : replacement.Attempt) (req : Cedar.Request)
        (entities : Cedar.Entities),
      Allowed gateParser req entities attempt.current.contents →
        Allowed gateParser req entities replacement.old.contents ∨
          Allowed gateParser req entities replacement.created := by
  intro closed
  have stage : gateReplacement.Stage (gateReplacement.old.without ["p1"]).contents :=
    .deleting ["p1"] ["p2"] rfl
  obtain ⟨attempt, contents⟩ := stage.reached
  have opened := closed gateReplacement attempt unconfirmed ⟨fun _ => []⟩
  rw [contents] at opened
  have allowed : Allowed gateParser unconfirmed ⟨fun _ => []⟩
      (gateReplacement.old.without ["p1"]).contents := by
    unfold Allowed Cedar.Allows
    decide
  obtain before | after := opened allowed
  · revert before
    unfold Allowed Cedar.Allows
    decide +kernel
  · revert after
    unfold Allowed Cedar.Allows
    decide +kernel

end Gate

end Replacement

end S2s
