import S2sStack.Policies.Upload

set_option autoImplicit false

/- The policy store and the policy directory at the two ends of an upload. -/
namespace S2s

open Effect (Follows Completes)
open Effect.Program
open Js (HeaderRecord)

structure StoredPolicy where
  policyId : String
  definition : PolicyDefinition
  deriving DecidableEq, Repr

/-- A policy store; no two policies have one id. -/
@[ext] structure PolicyStore where
  policies : List StoredPolicy
  distinct : (policies.map StoredPolicy.policyId).Nodup

namespace PolicyStore

def ids (store : PolicyStore) : List String := store.policies.map StoredPolicy.policyId

def contents (store : PolicyStore) : List PolicyDefinition :=
  store.policies.map StoredPolicy.definition

def without (store : PolicyStore) (gone : List String) : PolicyStore where
  policies := store.policies.filter (fun policy => policy.policyId ∉ gone)
  distinct := (List.filter_sublist.map StoredPolicy.policyId).nodup store.distinct

def add (store : PolicyStore) (policy : StoredPolicy) (fresh : policy.policyId ∉ store.ids) :
    PolicyStore where
  policies := store.policies ++ [policy]
  distinct := by
    rw [List.map_append, List.map_singleton]
    apply store.distinct.append (List.nodup_singleton _)
    intro policyId stored same
    rw [List.mem_singleton.mp same] at stored
    exact fresh stored

theorem without_nil (store : PolicyStore) : store.without [] = store := by
  ext1
  simp [without]

theorem without_without (store : PolicyStore) (gone more : List String) :
    (store.without gone).without more = store.without (gone ++ more) := by
  ext1
  simp only [without, List.filter_filter, List.mem_append, not_or, Bool.decide_and]
  apply List.filter_congr
  intro policy _
  exact Bool.and_comm _ _

end PolicyStore

/-- A page of a listing: ids of the store, each once, and all of them where no token leads to
another page. -/
structure PolicyPage.Lists (page : PolicyPage) (store : PolicyStore) : Prop where
  once : page.existing.Nodup
  stored : page.existing ⊆ store.ids
  last : page.nextToken = none → store.ids ⊆ page.existing

/-- What one event does to the store. A write that came back with an error may have been
carried out. -/
inductive Writes : PolicyStore → UploadEvent → PolicyStore → Prop
  | listed {store : PolicyStore} {policyStoreId : String} {page : PolicyPage} : page.Lists store →
      Writes store ⟨.listPolicies policyStoreId, .ok page⟩ store
  | deleted {store : PolicyStore} {policyStoreId policyId : String} (reply : Except Fault Unit) :
      Writes store ⟨.deletePolicy policyStoreId policyId, reply⟩ (store.without [policyId])
  | notDeleted {store : PolicyStore} {policyStoreId policyId : String} (fault : Fault) :
      Writes store ⟨.deletePolicy policyStoreId policyId, .error fault⟩ store
  | created {store : PolicyStore} {policyStoreId : String} {definition : PolicyDefinition}
      {reply : Except Fault String} (policyId : String) (fresh : policyId ∉ store.ids) :
      (∀ given, reply = .ok given → given = policyId) →
      Writes store ⟨.createPolicy policyStoreId definition, reply⟩
        (store.add ⟨policyId, definition⟩ fresh)
  | notCreated {store : PolicyStore} {policyStoreId : String} {definition : PolicyDefinition}
      (fault : Fault) : Writes store ⟨.createPolicy policyStoreId definition, .error fault⟩ store
  | quiet {store : PolicyStore} {event : UploadEvent} : event.Quiet → Writes store event store

/-- One event after the other. -/
inductive Stores : PolicyStore → List UploadEvent → PolicyStore → Prop
  | nil (store : PolicyStore) : Stores store [] store
  | cons {store middle final : PolicyStore} {event : UploadEvent} {rest : List UploadEvent} :
      Writes store event middle → Stores middle rest final → Stores store (event :: rest) final

section Stores

variable {store final : PolicyStore} {first second trace : List UploadEvent}

theorem stores_append_iff :
    Stores store (first ++ second) final ↔
      ∃ middle, Stores store first middle ∧ Stores middle second final := by
  induction first generalizing store with
  | nil =>
      constructor
      · intro stores
        exact ⟨store, .nil store, stores⟩
      · rintro ⟨middle, early, late⟩
        cases early
        exact late
  | cons event rest ih =>
      constructor
      · intro stores
        cases stores with
        | cons writes stores =>
            obtain ⟨middle, early, late⟩ := ih.mp stores
            exact ⟨middle, .cons writes early, late⟩
      · rintro ⟨middle, early, late⟩
        cases early with
        | cons writes early => exact .cons writes (ih.mpr ⟨middle, early, late⟩)

theorem Writes.of_quiet {event : UploadEvent} (writes : Writes store event final)
    (quiet : event.Quiet) : final = store := by
  cases writes with
  | listed lists => exact absurd rfl (quiet.2 _ _)
  | deleted reply => cases quiet.1
  | notDeleted fault => cases quiet.1
  | created policyId fresh same => cases quiet.1
  | notCreated fault => cases quiet.1
  | quiet _ => rfl

theorem Stores.of_quiet (stores : Stores store trace final) (quiet : ∀ event ∈ trace, event.Quiet) :
    final = store := by
  induction stores with
  | nil store => rfl
  | cons writes _ ih =>
      rw [ih fun event member => quiet event (List.mem_cons_of_mem _ member)]
      exact writes.of_quiet (quiet _ List.mem_cons_self)

theorem stores_quiet (quiet : ∀ event ∈ trace, event.Quiet) : Stores store trace store := by
  induction trace with
  | nil => exact .nil store
  | cons event rest ih =>
      apply Stores.cons (.quiet (quiet event List.mem_cons_self))
      exact ih fun event member => quiet event (List.mem_cons_of_mem _ member)

end Stores

/-- The files of the directory `policies`, in the order in which they are listed. -/
structure PolicyDirectory where
  files : List (String × String)
  distinct : (files.map Prod.fst).Nodup

/-- `out[name] = content` for a policy file -/
def addPolicyFile (out : HeaderRecord) (file : String × String) : HeaderRecord :=
  match policyName file.1 with
  | none => out
  | some name => setPolicy out name file.2

/-- What `loadAllPolicies()` returns for the directory. -/
def PolicyDirectory.policies (directory : PolicyDirectory) : HeaderRecord :=
  directory.files.foldl addPolicyFile []

/-- The policies that are created, in their order. -/
def PolicyDirectory.definitions (directory : PolicyDirectory) : List PolicyDefinition :=
  (Js.objectEntries directory.policies).map policyDefinition

/-- What was read was read from this directory. -/
structure ReadFrom (directory : PolicyDirectory) (trace : List UploadEvent) : Prop where
  names : ∀ files, ⟨.readPolicies, .ok files⟩ ∈ trace → files = directory.files.map Prod.fst
  contents : ∀ file content, ⟨.readPolicyFile file, .ok content⟩ ∈ trace →
    (file, content) ∈ directory.files

section Directory

variable {directory : PolicyDirectory} {trace : List UploadEvent}

theorem ReadFrom.of_subset {part : List UploadEvent} (reads : ReadFrom directory trace)
    (subset : part ⊆ trace) : ReadFrom directory part where
  names files member := reads.names files (subset member)
  contents file content member := reads.contents file content (subset member)

theorem readPolicyFiles_ok {files : List (String × String)} {out policies : HeaderRecord}
    (within : files ⊆ directory.files) (reads : ReadFrom directory trace)
    (run : Runs (readPolicyFiles (files.map Prod.fst) out) trace (.ok policies)) :
    policies = files.foldl addPolicyFile out := by
  induction files generalizing out trace with
  | nil =>
      obtain ⟨-, same⟩ := runs_pure_iff.mp run
      exact Except.ok.inj same
  | cons file rest ih =>
      have rest_within : rest ⊆ directory.files := (List.cons_subset.mp within).2
      rw [List.map_cons, readPolicyFiles] at run
      rw [List.foldl_cons, addPolicyFile]
      cases named : policyName file.1 with
      | none =>
          simp only [named] at run
          exact ih rest_within reads run
      | some name =>
          simp only [named] at run
          rw [Upload.readPolicyFile, runs_command_bind_iff] at run
          obtain ⟨reply, later, rfl, ⟨content, passed, run⟩ | ⟨_, _, _, impossible⟩⟩ := run
          · have reply_ok : reply = .ok content := passed
            subst reply_ok
            have stored := reads.contents file.1 content List.mem_cons_self
            have own : file ∈ directory.files := within List.mem_cons_self
            have same : (file.1, content) = file :=
              List.inj_on_of_nodup_map directory.distinct stored own rfl
            rw [← show content = file.2 from congrArg Prod.snd same]
            exact ih rest_within (reads.of_subset (List.subset_cons_self _ _)) run
          · cases impossible

theorem loadAllPolicies_ok {policies : HeaderRecord} (reads : ReadFrom directory trace)
    (run : Runs loadAllPolicies trace (.ok policies)) : policies = directory.policies := by
  rw [loadAllPolicies, Upload.readPolicies, runs_command_bind_iff] at run
  obtain ⟨reply, later, rfl, ⟨files, passed, run⟩ | ⟨_, _, _, impossible⟩⟩ := run
  · have reply_ok : reply = .ok files := passed
    subst reply_ok
    rw [reads.names files List.mem_cons_self] at run
    exact readPolicyFiles_ok (List.Subset.refl _)
      (reads.of_subset (List.subset_cons_self _ _)) run
  · cases impossible

end Directory

end S2s
