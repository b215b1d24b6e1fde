import S2sStack.Middleware.Enforce
import S2sStack.Middleware.Shadow

set_option autoImplicit false

/- What becomes of a request to `createAuthMiddleware`, whatever the three functions it is
given return or throw. -/
namespace S2s

open Effect Effect.Program
open Js (Json Obj)

/-- What touches the request, its response or the handlers after the middleware. -/
def isRequestOp : Op → Bool
  | .setHeader _ _ | .json _ _ | .setAuth _ | .next => true
  | _ => false

/-- A function that is handed neither `req`, `res` nor `next`. -/
def Apart {α : Type} (program : Act α) : Prop := Within (fun op => isRequestOp op = false) program

/-- `AuthMiddlewareDeps`, its three functions any at all. -/
structure InjectedDeps where
  settings : AuthMiddlewareDeps
  validateToken : (token expectedAudience : String) → Act ValidatedToken
  verifyDPoP : VerifyDPoPInput → Act DPoPVerificationResult
  authorize : AuthorizeInput → Act AuthorizationResult
  validateToken_apart : ∀ token expectedAudience, Apart (validateToken token expectedAudience)
  verifyDPoP_apart : ∀ input, Apart (verifyDPoP input)
  authorize_apart : ∀ input, Apart (authorize input)

/-- `await deps.authorize(..)` and what follows it -/
def decideRequest (deps : InjectedDeps) (req : Request) (accessToken requestId : String)
    (validated : ValidatedToken) : Act Unit := do
  let decision ← deps.authorize (authorizeInput deps.settings req accessToken validated)
  conclude deps.settings.effectiveMode validated decision requestId

/-- The `try` block: a `reject` in it is followed by a `return`. -/
def tryBlock (deps : InjectedDeps) (req : Request) (requestId : String) : Act Unit :=
  let mode := deps.settings.effectiveMode
  match requestAccessToken req with
  | .error refusal => reject mode (rejectionOf refusal) requestId
  | .ok accessToken => do
      let validated ← deps.validateToken accessToken deps.settings.expectedAudience
      if !deps.settings.dpopRequired then decideRequest deps req accessToken requestId validated
      else if req.headerOrEmpty "dpop" = "" then
        reject mode (rejectionOf (unauthorized .invalidDpopProof "missing DPoP header")) requestId
      else do
        let _ ← deps.verifyDPoP (resourceProofInput deps.settings req accessToken validated)
        decideRequest deps req accessToken requestId validated

def createAuthMiddleware (deps : InjectedDeps) (req : Request) : Act Unit := do
  let requestId ← requestIdOf req
  catching (tryBlock deps req requestId) fun err =>
    reject deps.settings.effectiveMode (rejectionOf err) requestId

theorem isRequestOp_of_isEvaluationOp (op : Op) (evaluation : isEvaluationOp op) :
    isRequestOp op = false := by
  cases op <;> trivial

/-- The SDK's own three functions. -/
def AuthMiddlewareDeps.injected (P : Platform) (deps : AuthMiddlewareDeps) : InjectedDeps where
  settings := deps
  validateToken := S2s.validateToken P deps.validateToken
  verifyDPoP := S2s.verifyDPoP P deps.verifyDPoP
  authorize := Act.authorize
  validateToken_apart := fun token expectedAudience =>
    (within_validateToken P _ token expectedAudience).mono fun op validation =>
      isRequestOp_of_isEvaluationOp op (isEvaluationOp_of_isValidationOp op validation)
  verifyDPoP_apart := fun input =>
    (within_verifyDPoP P _ input).mono fun op proof =>
      isRequestOp_of_isEvaluationOp op (isEvaluationOp_of_isProofOp op proof)
  authorize_apart := fun _ => Within.command rfl

section Responses

variable {mode : BrokerAuthMode} {requestId : String} {trace : List Event}
  {outcome : Except Fault Unit}

theorem sendError_returns {err : AuthError} (run : Runs (sendError err requestId) trace outcome) :
    outcome = .ok () := by
  rw [sendError, Act.setHeader, runs_reply_bind_iff] at run
  obtain ⟨_, _, rfl, run⟩ := run
  rcases runs_bind_iff.mp run with ⟨_, _, _, rfl, challenge, last⟩ | ⟨_, challenge, _⟩
  · rw [Act.timestamp, runs_reply_bind_iff] at last
    obtain ⟨timestamp, _, rfl, last⟩ := last
    exact (Act.runs_json_iff.mp last).2
  · cases (sendChallenge_runs challenge).2

/-- What a request has met by then: the events that touch it. -/
def requestOps (trace : List Event) : List Op := (trace.map Event.op).filter isRequestOp

/-- What a finished request has met, by mode: the next handler, or a written error. -/
inductive Finished : BrokerAuthMode → List Op → Prop
  | ignored : Finished .logOnly [.next]
  | shadowed (auth : RequestAuth) : Finished .logOnly [.setAuth auth, .next]
  | admitted (auth : RequestAuth) : Finished .enforce [.setAuth auth, .next]
  | refused (headers : List (String × String)) (status : Nat) (body : Json) :
      Finished .enforce (headers.map (fun header => Op.setHeader header.1 header.2) ++
        [.json status body])

theorem requestOps_append (first second : List Event) :
    requestOps (first ++ second) = requestOps first ++ requestOps second := by
  simp only [requestOps, List.map_append, List.filter_append]

/-- Nothing that is kept apart from the request is among its events. -/
theorem requestOps_of_apart {α : Type} {program : Act α} {result : Except Fault α}
    (apart : Apart program) (run : Runs program trace result) : requestOps trace = [] := by
  apply List.filter_eq_nil_iff.mpr
  intro op member
  obtain ⟨event, performed, same⟩ := List.mem_map.mp member
  have unseen : isRequestOp event.op = false := apart _ _ run event performed
  rw [← same, unseen]
  decide

theorem sendError_finished {err : AuthError} (run : Runs (sendError err requestId) trace outcome) :
    Finished .enforce (requestOps trace) := by
  obtain ⟨timestamp, rfl⟩ := sendError_runs run
  have challenge : requestOps (challengeEvents err.challengeNonce) =
      (noncesOf err.challengeNonce).map fun nonce => Op.setHeader "DPoP-Nonce" nonce := by
    unfold challengeEvents noncesOf
    cases err.challengeNonce with
    | none => rfl
    | some nonce =>
        by_cases empty : nonce = ""
        · simp [empty, requestOps]
        · simp [empty, requestOps, isRequestOp]
  have written := Finished.refused
    (("WWW-Authenticate", wwwAuthenticateHeader err.code) ::
      (noncesOf err.challengeNonce).map fun nonce => ("DPoP-Nonce", nonce))
    err.status (buildErrorBody err.code err.message requestId timestamp)
  rw [requestOps_append, requestOps_append, challenge]
  simp only [List.map_cons, List.map_map, Function.comp_def] at written
  exact written

theorem sendError_sets_no_auth {err : AuthError} (auth : RequestAuth)
    (run : Runs (sendError err requestId) trace outcome) : Op.setAuth auth ∉ requestOps trace := by
  intro kept
  obtain ⟨event, performed, same⟩ := List.mem_map.mp (List.mem_filter.mp kept).1
  have response := within_sendError err requestId _ _ run event performed
  rw [same] at response
  exact response

/-- A refusal finishes the request, and throws nothing. -/
theorem reject_finished {err : AuthError} (run : Runs (reject mode err requestId) trace outcome) :
    outcome = .ok () ∧ Finished mode (requestOps trace) := by
  cases mode with
  | logOnly =>
      rw [reject, Act.incShadow, runs_reply_bind_iff] at run
      obtain ⟨_, _, rfl, run⟩ := run
      obtain ⟨rfl, returned⟩ := Act.runs_next_iff.mp run
      exact ⟨returned, .ignored⟩
  | enforce => exact ⟨sendError_returns run, sendError_finished run⟩

/-- So does what follows a decision; in enforce mode only an `ALLOW` is kept with the request. -/
theorem conclude_finished {validated : ValidatedToken} {decision : AuthorizationResult}
    (run : Runs (conclude mode validated decision requestId) trace outcome) :
    outcome = .ok () ∧ Finished mode (requestOps trace) ∧
      (mode = .enforce → ∀ auth, Op.setAuth auth ∈ requestOps trace →
        decision.decision = .allow ∧ auth = requestAuth validated decision) := by
  cases mode with
  | logOnly =>
      rw [conclude, Act.incShadow, runs_reply_bind_iff] at run
      obtain ⟨_, _, rfl, run⟩ := run
      rw [Act.setAuth, runs_reply_bind_iff] at run
      obtain ⟨_, _, rfl, run⟩ := run
      obtain ⟨rfl, returned⟩ := Act.runs_next_iff.mp run
      refine ⟨returned, .shadowed _, ?_⟩
      intro enforcing
      cases enforcing
  | enforce =>
      rw [conclude] at run
      split at run
      · have finished := sendError_finished run
        exact ⟨sendError_returns run, finished,
          fun _ auth kept => absurd kept (sendError_sets_no_auth auth run)⟩
      · rename_i allowed
        rw [Act.setAuth, runs_reply_bind_iff] at run
        obtain ⟨_, _, rfl, run⟩ := run
        obtain ⟨rfl, returned⟩ := Act.runs_next_iff.mp run
        refine ⟨returned, .admitted _, fun _ auth kept => ⟨not_not.mp allowed, ?_⟩⟩
        simpa [requestOps, isRequestOp] using kept

end Responses

section Requests

variable {deps : InjectedDeps} {req : Request} {trace : List Event} {outcome : Except Fault Unit}

/-- `authorize` was asked about this request and returned `ALLOW`, which became `auth`. -/
structure Authorized (deps : InjectedDeps) (req : Request) (trace : List Event)
    (auth : RequestAuth) : Prop where
  answer : ∃ accessToken validated decision before asked after,
    trace = before ++ (asked ++ after) ∧
      Runs (deps.authorize (authorizeInput deps.settings req accessToken validated)) asked
        (.ok decision) ∧
      decision.decision = .allow ∧ auth = requestAuth validated decision

theorem Authorized.later {auth : RequestAuth} {before : List Event}
    (authorized : Authorized deps req trace auth) : Authorized deps req (before ++ trace) auth := by
  obtain ⟨accessToken, validated, decision, earlier, asked, after, rfl, answered⟩ :=
    authorized.answer
  exact ⟨accessToken, validated, decision, before ++ earlier, asked, after,
    (List.append_assoc _ _ _).symm, answered⟩

/-- A part of the middleware has finished the request, or has thrown before touching it. -/
def Ends (deps : InjectedDeps) (req : Request) (trace : List Event)
    (outcome : Except Fault Unit) : Prop :=
  (outcome = .ok () ∧ Finished deps.settings.effectiveMode (requestOps trace) ∧
    (deps.settings.effectiveMode = .enforce → ∀ auth, Op.setAuth auth ∈ requestOps trace →
      Authorized deps req trace auth)) ∨
  ((∃ fault, outcome = .error fault) ∧ requestOps trace = [])

theorem Ends.later {before : List Event} (ends : Ends deps req trace outcome)
    (quiet : requestOps before = []) : Ends deps req (before ++ trace) outcome := by
  have same : requestOps (before ++ trace) = requestOps trace := by
    rw [requestOps_append, quiet, List.nil_append]
  unfold Ends
  rw [same]
  rcases ends with ⟨returned, finished, kept⟩ | thrown
  · exact .inl ⟨returned, finished, fun enforcing auth set => (kept enforcing auth set).later⟩
  · exact .inr thrown

/-- What is kept apart from the request may come before what finishes it. -/
theorem ends_bind {α : Type} {first : Act α} {next : α → Act Unit} (apart : Apart first)
    (rest : ∀ value after result, Runs (next value) after result → Ends deps req after result)
    (run : Runs (first >>= next) trace outcome) : Ends deps req trace outcome := by
  rcases runs_bind_iff.mp run with ⟨value, before, after, rfl, start, finish⟩ | ⟨fault, start, rfl⟩
  · exact (rest value after outcome finish).later (requestOps_of_apart apart start)
  · exact .inr ⟨⟨fault, rfl⟩, requestOps_of_apart apart start⟩

theorem ends_of_reject {err : AuthError} {requestId : String}
    (run : Runs (reject deps.settings.effectiveMode err requestId) trace outcome) :
    Ends deps req trace outcome := by
  obtain ⟨returned, finished⟩ := reject_finished run
  refine .inl ⟨returned, finished, fun enforcing auth kept => ?_⟩
  rw [enforcing] at run
  exact absurd kept (sendError_sets_no_auth auth run)

theorem ends_of_decision {accessToken requestId : String} {validated : ValidatedToken}
    (run : Runs (decideRequest deps req accessToken requestId validated) trace outcome) :
    Ends deps req trace outcome := by
  have apart := deps.authorize_apart (authorizeInput deps.settings req accessToken validated)
  rcases runs_bind_iff.mp run with
    ⟨decision, asked, after, rfl, answered, concluded⟩ | ⟨fault, thrown, rfl⟩
  · obtain ⟨returned, finished, allowed⟩ := conclude_finished concluded
    have same : requestOps (asked ++ after) = requestOps after := by
      rw [requestOps_append, requestOps_of_apart apart answered, List.nil_append]
    unfold Ends
    rw [same]
    refine .inl ⟨returned, finished, fun enforcing auth kept => ?_⟩
    obtain ⟨allow, rfl⟩ := allowed enforcing auth kept
    exact ⟨accessToken, validated, decision, [], asked, after, rfl, answered, allow, rfl⟩
  · exact .inr ⟨⟨fault, rfl⟩, requestOps_of_apart apart thrown⟩

/-- Each way through the `try` block finishes the request or throws before touching it. -/
theorem ends_of_tryBlock {requestId : String}
    (run : Runs (tryBlock deps req requestId) trace outcome) : Ends deps req trace outcome := by
  unfold tryBlock at run
  cases located : requestAccessToken req with
  | error refusal =>
      rw [located] at run
      exact ends_of_reject run
  | ok accessToken =>
      rw [located] at run
      apply ends_bind (deps.validateToken_apart _ _) _ run
      intro validated after result run
      split at run
      · exact ends_of_decision run
      · split at run
        · exact ends_of_reject run
        · apply ends_bind (deps.verifyDPoP_apart _) _ run
          intro _ after result run
          exact ends_of_decision run

/-- The `catch` finishes what the `try` block has not. -/
theorem catching_finished {requestId : String}
    (run : Runs (catching (tryBlock deps req requestId) fun err =>
      reject deps.settings.effectiveMode (rejectionOf err) requestId) trace outcome) :
    outcome = .ok () ∧ Finished deps.settings.effectiveMode (requestOps trace) ∧
      (deps.settings.effectiveMode = .enforce → ∀ auth, Op.setAuth auth ∈ requestOps trace →
        Authorized deps req trace auth) := by
  rcases runs_catching_iff.mp run with
    ⟨value, tried, rfl⟩ | ⟨fault, before, after, rfl, tried, caught⟩
  · rcases ends_of_tryBlock tried with finished | ⟨⟨fault, thrown⟩, _⟩
    · exact finished
    · cases thrown
  · rcases ends_of_tryBlock tried with ⟨returned, _⟩ | ⟨_, quiet⟩
    · cases returned
    · have ends : Ends deps req after outcome := ends_of_reject caught
      rcases ends.later quiet with finished | ⟨⟨fault, thrown⟩, _⟩
      · exact finished
      · rw [(reject_finished caught).1] at thrown
        cases thrown

theorem createAuthMiddleware_finished
    (run : Runs (createAuthMiddleware deps req) trace outcome) :
    outcome = .ok () ∧ Finished deps.settings.effectiveMode (requestOps trace) ∧
      (deps.settings.effectiveMode = .enforce → ∀ auth, Op.setAuth auth ∈ requestOps trace →
        Authorized deps req trace auth) := by
  have random : isRequestOp .randomUUID = false := rfl
  have apart : Apart (requestIdOf req) :=
    (within_requestIdOf rfl req).mono fun op (named : .randomUUID = op) => named ▸ random
  rcases runs_bind_iff.mp run with ⟨requestId, naming, after, rfl, named, run⟩ | ⟨fault, named, _⟩
  · obtain ⟨returned, finished, kept⟩ := catching_finished run
    rw [requestOps_append, requestOps_of_apart apart named, List.nil_append]
    exact ⟨returned, finished, fun enforcing auth set => (kept enforcing auth set).later⟩
  · unfold requestIdOf at named
    split at named
    · cases (runs_pure_iff.mp named).2
    · obtain ⟨_, _, impossible⟩ := Act.runs_randomUUID_iff.mp named
      cases impossible

end Requests

/-- How often the next handler is called. -/
def nextCalls (trace : List Event) : Nat := trace.countP fun event => event.op = .next

def isJson : Op → Bool
  | .json _ _ => true
  | _ => false

/-- How many response bodies are written. -/
def bodiesWritten (trace : List Event) : Nat := trace.countP fun event => isJson event.op

/-- A header, or a status with its body. -/
def isWrite : Op → Bool
  | .setHeader _ _ | .json _ _ => true
  | _ => false

section Counts

variable {trace : List Event}

theorem countP_requestOps {counted : Op → Bool} (touching : ∀ op, counted op → isRequestOp op) :
    trace.countP (fun event => counted event.op) = (requestOps trace).countP counted := by
  rw [requestOps, List.countP_filter, List.countP_map]
  congr 1
  funext event
  cases matching : counted event.op with
  | false => simp [matching]
  | true => simp [matching, touching _ matching]

theorem nextCalls_eq : nextCalls trace = (requestOps trace).countP (· = .next) := by
  have touching (op : Op) (isNext : decide (op = .next) = true) : isRequestOp op = true := by
    rw [of_decide_eq_true isNext]
    rfl
  exact countP_requestOps touching

theorem bodiesWritten_eq : bodiesWritten trace = (requestOps trace).countP isJson := by
  apply countP_requestOps
  intro op body
  cases op <;> trivial

theorem writes_iff : (∃ event ∈ trace, isWrite event.op) ↔ ∃ op ∈ requestOps trace, isWrite op := by
  constructor
  · intro ⟨event, member, written⟩
    refine ⟨event.op, List.mem_filter.mpr ⟨List.mem_map_of_mem member, ?_⟩, written⟩
    obtain ⟨op, reply⟩ := event
    cases op <;> trivial
  · intro ⟨op, member, written⟩
    obtain ⟨event, performed, rfl⟩ := List.mem_map.mp (List.mem_filter.mp member).1
    exact ⟨event, performed, written⟩

end Counts

section Finished

variable {ops : List Op}

/-- Log-only mode passes a request on once and answers nothing. -/
theorem Finished.logOnly (finished : Finished .logOnly ops) :
    ops.countP (· = .next) = 1 ∧ ∀ op ∈ ops, isWrite op = false := by
  cases finished with
  | ignored => simp [isWrite]
  | shadowed auth => simp [isWrite]

/-- Enforce mode passes a request on once, or writes one response. -/
theorem Finished.enforce (finished : Finished .enforce ops) :
    (ops.countP (· = .next) = 1 ∧ ∀ op ∈ ops, isWrite op = false) ∨
      (ops.countP (· = .next) = 0 ∧ ops.countP isJson = 1 ∧ ∀ auth, .setAuth auth ∉ ops) := by
  cases finished with
  | admitted auth => exact .inl (by simp [isWrite])
  | refused headers status body =>
      right
      simp [isJson, List.countP_append, List.countP_map, Function.comp_def]

end Finished

/-- Every request is passed on once or answered once, in log-only mode always the former; in
enforce mode only what `authorize` has allowed is kept with a request that is passed on. -/
theorem createAuthMiddleware_outcome (deps : InjectedDeps) (req : Request)
    (env : Environment runtime) (past : List Event) :
    let run := exec env past (createAuthMiddleware deps req)
    run.2 = .ok () ∧
      ((nextCalls run.1 = 1 ∧ ¬ ∃ event ∈ run.1, isWrite event.op) ∨
        (nextCalls run.1 = 0 ∧ bodiesWritten run.1 = 1)) ∧
      (deps.settings.effectiveMode = .logOnly →
        nextCalls run.1 = 1 ∧ ¬ ∃ event ∈ run.1, isWrite event.op) ∧
      (deps.settings.effectiveMode = .enforce →
        ∀ event ∈ run.1, ∀ auth, event.op = .setAuth auth →
          Authorized deps req run.1 auth ∧ nextCalls run.1 = 1) := by
  intro run
  have runs : Runs (createAuthMiddleware deps req) run.1 run.2 := exec_runs env _ past
  obtain ⟨returned, finished, kept⟩ := createAuthMiddleware_finished runs
  simp only [nextCalls_eq, bodiesWritten_eq, writes_iff, not_exists, not_and, Bool.not_eq_true]
  cases mode : deps.settings.effectiveMode with
  | logOnly =>
      rw [mode] at finished
      exact ⟨returned, .inl finished.logOnly, fun _ => finished.logOnly,
        fun enforcing => nomatch enforcing⟩
  | enforce =>
      rw [mode] at finished
      refine ⟨returned, ?_, (fun shadow => nomatch shadow), ?_⟩
      · rcases finished.enforce with passed | ⟨unpassed, answered, _⟩
        · exact .inl passed
        · exact .inr ⟨unpassed, answered⟩
      · intro _ event member auth set
        have inside : Op.setAuth auth ∈ requestOps run.1 := by
          rw [← set]
          exact List.mem_filter.mpr ⟨List.mem_map_of_mem member, by rw [set]; rfl⟩
        refine ⟨kept mode auth inside, ?_⟩
        rcases finished.enforce with ⟨passed, _⟩ | ⟨_, _, nothing⟩
        · exact passed
        · exact absurd inside (nothing auth)

section Injected

variable (P : Platform) (deps : AuthMiddlewareDeps) (req : Request) (requestId : String)

/-- The `catch` of the middleware. -/
def settle : Except Fault Unit → Act Unit
  | .ok value => .done (.ok value)
  | .error err => reject deps.effectiveMode (rejectionOf err) requestId

/-- A refusal in the `try` block throws nothing, so the `catch` leaves it alone. -/
theorem settle_reject (err : AuthError) :
    attempt (reject deps.effectiveMode err requestId) >>= settle deps requestId =
      reject deps.effectiveMode err requestId :=
  attempt_bind_returning (fun _ _ run => nomatch (reject_finished run).1) fun _ => rfl

theorem settle_decideRequest (accessToken : String) (validated : ValidatedToken) :
    attempt (decideRequest (deps.injected P) req accessToken requestId validated) >>=
        settle deps requestId =
      attempt (do
        let decision ← Act.authorize (authorizeInput deps req accessToken validated)
        return (validated, decision)) >>= respond deps.effectiveMode requestId := by
  unfold decideRequest
  rw [attempt_bind, attempt_bind]
  congr 1
  funext outcome
  cases outcome with
  | ok decision =>
      exact attempt_bind_returning (fun _ _ run => nomatch (conclude_finished run).1) fun _ => rfl
  | error fault => rfl

/-- The middleware over the SDK's own functions is the one of the earlier results. -/
theorem createAuthMiddleware_injected :
    createAuthMiddleware (deps.injected P) req = authMiddleware P deps req := by
  unfold createAuthMiddleware authMiddleware
  congr 1
  funext requestId
  have caught : (catching (tryBlock (deps.injected P) req requestId) fun err =>
      reject deps.effectiveMode (rejectionOf err) requestId) =
        attempt (tryBlock (deps.injected P) req requestId) >>= settle deps requestId := by
    unfold catching
    congr 1
    funext outcome
    cases outcome <;> rfl
  change _ = attempt (evaluate P deps req) >>= respond deps.effectiveMode requestId
  refine caught.trans ?_
  unfold tryBlock evaluate
  cases requestAccessToken req with
  | error refusal => exact settle_reject deps requestId _
  | ok accessToken =>
      change attempt (validateToken P deps.validateToken accessToken deps.expectedAudience >>= _) >>=
        _ = attempt (validateToken P deps.validateToken accessToken deps.expectedAudience >>= _) >>= _
      rw [attempt_bind, attempt_bind]
      congr 1
      funext outcome
      cases outcome with
      | error fault => rfl
      | ok validated =>
          change attempt (if !deps.dpopRequired then _ else _) >>= _ =
            attempt (checkResourceProof P deps req accessToken validated >>= _) >>= _
          have decided := settle_decideRequest P deps req requestId accessToken validated
          unfold checkResourceProof
          by_cases exempt : (!deps.dpopRequired) = true
          · rw [if_pos exempt, if_pos exempt]
            exact decided
          · rw [if_neg exempt, if_neg exempt]
            by_cases missing : req.headerOrEmpty "dpop" = ""
            · rw [if_pos missing, if_pos missing]
              exact settle_reject deps requestId _
            · rw [if_neg missing, if_neg missing]
              change attempt (verifyDPoP P deps.verifyDPoP _ >>= _) >>= _ =
                attempt ((verifyDPoP P deps.verifyDPoP _ >>= fun _ => pure ()) >>= _) >>= _
              rw [attempt_bind, attempt_bind, attempt_bind]
              congr 1
              funext outcome
              cases outcome with
              | ok proof => exact decided
              | error fault => rfl

end Injected

section Examples

/-- What is kept with the ledger's request. -/
def ledgerAuth : RequestAuth where
  sub := "user-alice"
  scopes := ["ledger.write"]
  decision := .allow
  reasons := []

/-- A ledger in log-only mode whose token check always throws. -/
def brokenLedger : InjectedDeps :=
  { ledgerDeps.injected ledgerTable.platform with
    settings := { ledgerDeps with mode := some .logOnly }
    validateToken := fun _ _ => Act.fail (plainError "bad sig")
    validateToken_apart := fun _ _ => Within.done _ }

/-- The ledger's request is passed on as it was allowed; log-only mode passes it on although its
token cannot be checked. -/
theorem createAuthMiddleware_ledger :
    Authorized (ledgerDeps.injected ledgerTable.platform) ledgerRequest
      (ledgerServices.trace (createAuthMiddleware
        (ledgerDeps.injected ledgerTable.platform) ledgerRequest)) ledgerAuth ∧
    nextCalls (ledgerServices.trace (createAuthMiddleware brokenLedger ledgerRequest)) = 1 := by
  have enforcing := (createAuthMiddleware_outcome (ledgerDeps.injected ledgerTable.platform)
    ledgerRequest ledgerServices.environment []).2.2.2 rfl
  have kept : (⟨.setAuth ledgerAuth, ()⟩ : Event) ∈ ledgerServices.trace
      (createAuthMiddleware (ledgerDeps.injected ledgerTable.platform) ledgerRequest) := by
    decide +kernel
  have shadowing := (createAuthMiddleware_outcome brokenLedger ledgerRequest
    ledgerServices.environment []).2.2.1 rfl
  exact ⟨(enforcing _ kept _ rfl).1, shadowing.1⟩

end Examples

end S2s
