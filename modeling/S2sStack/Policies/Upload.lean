import S2sStack.Effect.Plan
import S2sStack.Errors
import S2sStack.Js.Record

set_option autoImplicit false

/- `cedar-policies/scripts/upload-to-avp.ts`, and the policy store that it writes to. -/
namespace S2s

open Effect (Signature Program Follows Completes)
open Effect.Program
open Js (HeaderRecord)

/-- A static policy: one policy file. -/
structure PolicyDefinition where
  description : String
  statement : String
  deriving DecidableEq, Repr

/-- A response to `ListPolicies`. -/
structure PolicyPage where
  policyIds : Option (List String)
  nextToken : Option String := none

/-- `list.policies ?? []` -/
def PolicyPage.existing (page : PolicyPage) : List String := page.policyIds.getD []

inductive UploadOp where
  /-- `readFileSync` of `schema.cedarschema` -/
  | readSchema
  /-- `readdirSync` of the directory `policies` -/
  | readPolicies
  | readPolicyFile (file : String)
  | putSchema (policyStoreId schema : String)
  | listPolicies (policyStoreId : String)
  | deletePolicy (policyStoreId policyId : String)
  | createPolicy (policyStoreId : String) (definition : PolicyDefinition)
  deriving DecidableEq

@[reducible] def UploadOp.Reply : UploadOp → Type
  | readSchema => Except Fault String
  | readPolicies => Except Fault (List String)
  | readPolicyFile _ => Except Fault String
  | putSchema _ _ => Except Fault Unit
  | listPolicies _ => Except Fault PolicyPage
  | deletePolicy _ _ => Except Fault Unit
  | createPolicy _ _ => Except Fault String

abbrev policyUpload : Signature := ⟨UploadOp, UploadOp.Reply⟩

abbrev UploadEvent := Effect.Event policyUpload

abbrev Upload (α : Type) := Program policyUpload Fault α

namespace Upload

def readSchema : Upload String := Program.command .readSchema id

def readPolicies : Upload (List String) := Program.command .readPolicies id

def readPolicyFile (file : String) : Upload String := Program.command (.readPolicyFile file) id

def putSchema (policyStoreId schema : String) : Upload Unit :=
  Program.command (.putSchema policyStoreId schema) id

def listPolicies (policyStoreId : String) : Upload PolicyPage :=
  Program.command (.listPolicies policyStoreId) id

def deletePolicy (policyStoreId policyId : String) : Upload Unit :=
  Program.command (.deletePolicy policyStoreId policyId) id

/-- The id of the new policy is not looked at. -/
def createPolicy (policyStoreId : String) (definition : PolicyDefinition) : Upload Unit :=
  Program.command (.createPolicy policyStoreId definition) (fun reply => reply.map fun _ => ())

end Upload

/-- `f.endsWith('.cedar')` and then `f.replace(/\.cedar$/, '')` -/
def policyName (file : String) : Option String :=
  if ".cedar".toList.isSuffixOf file.toList then
    some (String.ofList (file.toList.take (file.toList.length - ".cedar".toList.length)))
  else none

/-- `out[name] = content`; a text cannot become the prototype of `out`. -/
def setPolicy (out : HeaderRecord) (name content : String) : HeaderRecord :=
  if name = "__proto__" then out else out.assign name content

def readPolicyFiles : List String → HeaderRecord → Upload HeaderRecord
  | [], out => pure out
  | file :: rest, out =>
      match policyName file with
      | none => readPolicyFiles rest out
      | some name => do
          let content ← Upload.readPolicyFile file
          readPolicyFiles rest (setPolicy out name content)

def loadAllPolicies : Upload HeaderRecord := do
  let files ← Upload.readPolicies
  readPolicyFiles files []

structure UploadOptions where
  policyStoreId : String
  replace : Bool

structure UploadResult where
  schemaUploaded : Bool
  policiesCreated : Nat
  policiesDeleted : Nat

def policyDefinition (field : String × String) : PolicyDefinition where
  description := "M2M " ++ field.1 ++ " policies"
  statement := field.2

/-- The policies that one response lists are deleted; `nextToken` is not looked at. -/
def deleteExisting (policyStoreId : String) : Upload Nat := do
  let list ← Upload.listPolicies policyStoreId
  sendEach (Upload.deletePolicy policyStoreId) list.existing 0

def createPolicies (policyStoreId : String) (policies : HeaderRecord) : Upload Nat :=
  sendEach (Upload.createPolicy policyStoreId)
    ((Js.objectEntries policies).map policyDefinition) 0

def uploadToAvp (opts : UploadOptions) : Upload UploadResult := do
  let schema ← Upload.readSchema
  Upload.putSchema opts.policyStoreId schema
  let deleted ← if opts.replace then deleteExisting opts.policyStoreId else pure 0
  let policies ← loadAllPolicies
  let created ← createPolicies opts.policyStoreId policies
  return { schemaUploaded := true, policiesCreated := created, policiesDeleted := deleted }

/-- A deletion or a creation. -/
def UploadEvent.isWrite : UploadEvent → Bool
  | ⟨.deletePolicy _ _, _⟩ => true
  | ⟨.createPolicy _ _, _⟩ => true
  | _ => false

/-- Commands that came back without an error. -/
def UploadEvent.accepted : UploadEvent → Prop
  | ⟨.deletePolicy _ _, reply⟩ => reply = .ok ()
  | ⟨.createPolicy _ _, reply⟩ => ∃ policyId, reply = .ok policyId
  | _ => True

def deletePlan (policyStoreId : String) (existing : List String) : List UploadOp :=
  existing.map (UploadOp.deletePolicy policyStoreId)

def createPlan (policyStoreId : String) (policies : HeaderRecord) : List UploadOp :=
  ((Js.objectEntries policies).map policyDefinition).map (UploadOp.createPolicy policyStoreId)

/-- Neither a write nor a listing. -/
def UploadEvent.Quiet (event : UploadEvent) : Prop :=
  event.isWrite = false ∧ ∀ policyStoreId page, event ≠ ⟨.listPolicies policyStoreId, .ok page⟩

/-- What a replace does: it may stop before it has a listing, while it deletes, while it reads
the policy files, or while it creates policies. -/
inductive ReplaceRun (policyStoreId : String) :
    List UploadEvent → Except Fault UploadResult → Prop
  | unlisted {trace : List UploadEvent} (fault : Fault) : (∀ event ∈ trace, event.Quiet) →
      ReplaceRun policyStoreId trace (.error fault)
  | deleting {loading deletes : List UploadEvent} (page : PolicyPage) (fault : Fault) :
      (∀ event ∈ loading, event.Quiet) →
      Follows UploadEvent.accepted (deletePlan policyStoreId page.existing) deletes →
      ReplaceRun policyStoreId
        (loading ++ ⟨.listPolicies policyStoreId, .ok page⟩ :: deletes) (.error fault)
  | reading {loading deletes reads : List UploadEvent} (page : PolicyPage) (fault : Fault) :
      (∀ event ∈ loading, event.Quiet) →
      Completes UploadEvent.accepted (deletePlan policyStoreId page.existing) deletes →
      (∀ event ∈ reads, event.Quiet) →
      ReplaceRun policyStoreId
        (loading ++ ⟨.listPolicies policyStoreId, .ok page⟩ :: (deletes ++ reads)) (.error fault)
  | creating {loading deletes reads creates : List UploadEvent} (page : PolicyPage)
      (policies : HeaderRecord) (outcome : Except Fault UploadResult) :
      (∀ event ∈ loading, event.Quiet) →
      Completes UploadEvent.accepted (deletePlan policyStoreId page.existing) deletes →
      (∀ event ∈ reads, event.Quiet) → Runs loadAllPolicies reads (.ok policies) →
      Follows UploadEvent.accepted (createPlan policyStoreId policies) creates →
      (∀ result, outcome = .ok result →
        Completes UploadEvent.accepted (createPlan policyStoreId policies) creates ∧
        result = {
          schemaUploaded := true
          policiesCreated := policies.length
          policiesDeleted := page.existing.length }) →
      ReplaceRun policyStoreId
        (loading ++ ⟨.listPolicies policyStoreId, .ok page⟩ :: (deletes ++ (reads ++ creates)))
        outcome

section Runs

variable {policyStoreId : String} {trace : List UploadEvent}

def IsReadOp : UploadOp → Prop
  | .readPolicies | .readPolicyFile _ => True
  | _ => False

theorem quiet_of_isReadOp {event : UploadEvent} (reads : IsReadOp event.op) : event.Quiet := by
  obtain ⟨op, reply⟩ := event
  cases op with
  | readPolicies => exact ⟨rfl, by simp⟩
  | readPolicyFile file => exact ⟨rfl, by simp⟩
  | _ => exact reads.elim

theorem within_loadAllPolicies : Within IsReadOp loadAllPolicies := by
  have files (names : List String) (out : HeaderRecord) :
      Within IsReadOp (readPolicyFiles names out) := by
    induction names generalizing out with
    | nil => exact .done _
    | cons file rest ih =>
        rw [readPolicyFiles]
        split
        · exact ih out
        · exact .bind (.command trivial) fun content => ih _
  exact .bind (.command trivial) fun names => files names []

theorem quiet_loadAllPolicies {outcome : Except Fault HeaderRecord}
    (run : Runs loadAllPolicies trace outcome) : ∀ event ∈ trace, event.Quiet := by
  intro event member
  exact quiet_of_isReadOp (within_loadAllPolicies _ _ run event member)

theorem sends_deletePolicy :
    Sends (Upload.deletePolicy policyStoreId) (UploadOp.deletePolicy policyStoreId)
      UploadEvent.accepted := by
  intro item trace outcome run
  obtain ⟨reply, rfl, same⟩ := runs_command_iff.mp run
  exact ⟨reply, rfl, fun passed => same.symm.trans passed⟩

theorem sends_createPolicy :
    Sends (Upload.createPolicy policyStoreId) (UploadOp.createPolicy policyStoreId)
      UploadEvent.accepted := by
  intro item trace outcome run
  obtain ⟨reply, rfl, same⟩ := runs_command_iff.mp run
  refine ⟨reply, rfl, fun passed => ?_⟩
  cases reply with
  | ok policyId => exact ⟨policyId, rfl⟩
  | error fault =>
      rw [passed] at same
      cases same

/-- Neither plan lists policies. -/
theorem not_listed {plan : List UploadOp} {otherId : String} {page : PolicyPage}
    (follows : Follows UploadEvent.accepted plan trace)
    (silent : UploadOp.listPolicies otherId ∉ plan) :
    ⟨.listPolicies otherId, .ok page⟩ ∉ trace :=
  fun member => silent (follows.op_mem member)

theorem not_listed_deleting {existing : List String} {otherId : String} {page : PolicyPage}
    (follows : Follows UploadEvent.accepted (deletePlan policyStoreId existing) trace) :
    ⟨.listPolicies otherId, .ok page⟩ ∉ trace := by
  apply not_listed follows
  simp [deletePlan]

theorem not_listed_creating {policies : HeaderRecord} {otherId : String} {page : PolicyPage}
    (follows : Follows UploadEvent.accepted (createPlan policyStoreId policies) trace) :
    ⟨.listPolicies otherId, .ok page⟩ ∉ trace := by
  apply not_listed follows
  simp [createPlan]

theorem not_listed_quiet {otherId : String} {page : PolicyPage}
    (quiet : ∀ event ∈ trace, event.Quiet) : ⟨.listPolicies otherId, .ok page⟩ ∉ trace :=
  fun member => (quiet _ member).2 otherId page rfl

theorem deleteExisting_run {outcome : Except Fault Nat}
    (run : Runs (deleteExisting policyStoreId) trace outcome) :
    (∃ fault, trace = [⟨.listPolicies policyStoreId, .error fault⟩] ∧ outcome = .error fault) ∨
    ∃ page deletes, trace = ⟨.listPolicies policyStoreId, .ok page⟩ :: deletes ∧
      Follows UploadEvent.accepted (deletePlan policyStoreId page.existing) deletes ∧
      ∀ deleted, outcome = .ok deleted → deleted = page.existing.length ∧
        Completes UploadEvent.accepted (deletePlan policyStoreId page.existing) deletes := by
  rw [deleteExisting, Upload.listPolicies, runs_command_bind_iff] at run
  obtain ⟨reply, deletes, rfl, ⟨page, listed, run⟩ | ⟨fault, failed, rfl, rfl⟩⟩ := run
  · have reply_ok : reply = .ok page := listed
    subst reply_ok
    obtain ⟨follows, counted⟩ := sendEach_follows sends_deletePolicy run
    refine .inr ⟨page, deletes, rfl, follows, fun deleted same => ?_⟩
    obtain ⟨rfl, completes⟩ := counted deleted same
    exact ⟨Nat.zero_add _, completes⟩
  · have reply_error : reply = .error fault := failed
    subst reply_error
    exact .inl ⟨fault, rfl, rfl⟩

theorem createPolicies_run {policies : HeaderRecord} {outcome : Except Fault Nat}
    (run : Runs (createPolicies policyStoreId policies) trace outcome) :
    Follows UploadEvent.accepted (createPlan policyStoreId policies) trace ∧
      ∀ created, outcome = .ok created → created = policies.length ∧
        Completes UploadEvent.accepted (createPlan policyStoreId policies) trace := by
  obtain ⟨follows, counted⟩ := sendEach_follows sends_createPolicy run
  refine ⟨follows, fun created same => ?_⟩
  obtain ⟨total, completes⟩ := counted created same
  refine ⟨?_, completes⟩
  rw [total, Nat.zero_add, List.length_map, (Js.objectEntries_perm policies).length_eq]

theorem uploadToAvp_run {outcome : Except Fault UploadResult}
    (run : Runs (uploadToAvp { policyStoreId := policyStoreId, replace := true }) trace outcome) :
    ReplaceRun policyStoreId trace outcome := by
  rw [uploadToAvp, Upload.readSchema, runs_command_bind_iff] at run
  obtain ⟨schemaReply, _, rfl, ⟨schema, -, run⟩ | ⟨fault, -, rfl, rfl⟩⟩ := run
  swap
  · exact .unlisted fault (by simp [UploadEvent.Quiet, UploadEvent.isWrite])
  rw [Upload.putSchema, runs_command_bind_iff] at run
  obtain ⟨putReply, _, rfl, ⟨_, -, run⟩ | ⟨fault, -, rfl, rfl⟩⟩ := run
  swap
  · exact .unlisted fault (by simp [UploadEvent.Quiet, UploadEvent.isWrite])
  let loading : List UploadEvent :=
    [⟨.readSchema, schemaReply⟩, ⟨.putSchema policyStoreId schema, putReply⟩]
  have quiet : ∀ event ∈ loading, event.Quiet := by
    simp [loading, UploadEvent.Quiet, UploadEvent.isWrite]
  rw [if_pos rfl, runs_bind_iff] at run
  obtain ⟨deleted, _, rest, rfl, deleting, run⟩ | ⟨fault, deleting, rfl⟩ := run
  swap
  · obtain ⟨_, rfl, same⟩ | ⟨page, deletes, rfl, follows, -⟩ := deleteExisting_run deleting
    · apply ReplaceRun.unlisted
      simp [UploadEvent.Quiet, UploadEvent.isWrite]
    · exact .deleting page fault quiet follows
  obtain ⟨_, -, impossible⟩ | ⟨page, deletes, rfl, -, counted⟩ := deleteExisting_run deleting
  · cases impossible
  obtain ⟨rfl, completes⟩ := counted deleted rfl
  rw [runs_bind_iff] at run
  obtain ⟨policies, reads, rest, rfl, load, run⟩ | ⟨fault, load, rfl⟩ := run
  swap
  · exact .reading page fault quiet completes (quiet_loadAllPolicies load)
  rw [runs_bind_iff] at run
  obtain ⟨created, creates, _, rfl, creating, finish⟩ | ⟨fault, creating, rfl⟩ := run
  · obtain ⟨follows, total⟩ := createPolicies_run creating
    obtain ⟨rfl, created_all⟩ := total created rfl
    obtain ⟨rfl, rfl⟩ := runs_pure_iff.mp finish
    rw [List.append_nil]
    apply ReplaceRun.creating page policies _ quiet completes (quiet_loadAllPolicies load) load
      follows
    intro result same
    cases same
    exact ⟨created_all, rfl⟩
  · obtain ⟨follows, -⟩ := createPolicies_run creating
    exact .creating page policies _ quiet completes (quiet_loadAllPolicies load) load follows
      (by simp)

end Runs

end S2s
