import S2sStack.Middleware.Outcome
import S2sStack.Middleware.Refusals
import S2sStack.Service.BrokerAuthMiddleware

set_option autoImplicit false

/- How a request leaves the middleware of a service. -/
namespace S2s

open Effect Effect.Program
open Js (Json Obj)

/-- What has been checked of a request that is let through. -/
structure ServiceAdmission (P : Platform) (deps : BrokerAuthDeps) (req : Request)
    (accessToken : String) (validated : ValidatedToken) (chain : ActorChain)
    (decision : AuthorizationResult) (trace : List Event) : Prop where
  extracted : bearerToken req = .ok accessToken
  validation : ∃ part, part ⊆ trace ∧ Runs (validateToken P deps.validateToken accessToken
    deps.expectedAudience) part (.ok validated)
  proof : ∃ part result, part ⊆ trace ∧ Runs (verifyDPoP P deps.verifyDPoP
    (serviceProofInput req accessToken validated)) part (.ok result)
  delegated : checkActorChain validated = .ok chain
  decided : ∃ requestId, ⟨.authorize (serviceAuthorizeInput deps req requestId accessToken validated
    chain), .ok decision⟩ ∈ trace
  allowed : decision.decision = .allow

theorem ServiceAdmission.mono {P : Platform} {deps : BrokerAuthDeps} {req : Request}
    {accessToken : String} {validated : ValidatedToken} {chain : ActorChain}
    {decision : AuthorizationResult} {trace wider : List Event}
    (admission : ServiceAdmission P deps req accessToken validated chain decision trace)
    (within : trace ⊆ wider) :
    ServiceAdmission P deps req accessToken validated chain decision wider := by
  obtain ⟨validating, inValidation, validate⟩ := admission.validation
  obtain ⟨proving, result, inProof, prove⟩ := admission.proof
  obtain ⟨requestId, asked⟩ := admission.decided
  exact { admission with
    validation := ⟨validating, List.Subset.trans inValidation within, validate⟩
    proof := ⟨proving, result, List.Subset.trans inProof within, prove⟩
    decided := ⟨requestId, within asked⟩ }

/-- What the middleware does before it answers or hands on. -/
def isCheckOp (op : Op) : Prop := isEvaluationOp op ∨ op = .randomUUID

/-- The error is that of a denial, or of a check that failed. -/
def RefusedWith (P : Platform) (deps : BrokerAuthDeps) (req : Request) (requestId : String)
    (err : AuthError) (checks : List Event) : Prop :=
  (∃ decision, err = denial decision) ∨ ∃ fault part, part ⊆ checks ∧
    Runs (ofExcept (bearerToken req) >>= evaluateToken P deps req requestId) part (.error fault) ∧
    err = rejectionOf fault

/-- How a request leaves the middleware: it goes on with its `req.auth`, or it is answered. -/
inductive BrokerAuthRun (P : Platform) (deps : BrokerAuthDeps) (req : Request) :
    List Event → Prop
  | passed (accessToken : String) (validated : ValidatedToken) (chain : ActorChain)
      (decision : AuthorizationResult) (checks : List Event) :
      (∀ event ∈ checks, isCheckOp event.op) →
      ServiceAdmission P deps req accessToken validated chain decision checks →
      BrokerAuthRun P deps req (checks ++
        [⟨.setAuth (serviceAuth accessToken validated chain decision), ()⟩, ⟨.next, ()⟩])
  | answered (err : AuthError) (requestId : String) (checks answer : List Event) :
      (∀ event ∈ checks, isCheckOp event.op) → RefusedWith P deps req requestId err checks →
      Runs (sendError err requestId) answer (.ok ()) →
      BrokerAuthRun P deps req (checks ++ answer)

section Runs

variable {P : Platform} {deps : BrokerAuthDeps} {req : Request} {trace : List Event}

theorem within_checkServiceProof (P : Platform) (deps : BrokerAuthDeps) (req : Request)
    (accessToken : String) (validated : ValidatedToken) :
    Within isEvaluationOp (checkServiceProof P deps req accessToken validated) := by
  unfold checkServiceProof
  split
  · exact Within.done _
  · refine Within.bind ?_ fun _ => Within.done _
    exact (within_verifyDPoP P _ _).mono isEvaluationOp_of_isProofOp

theorem within_evaluateToken (P : Platform) (deps : BrokerAuthDeps) (req : Request)
    (requestId accessToken : String) :
    Within isEvaluationOp (evaluateToken P deps req requestId accessToken) := by
  refine Within.bind ((within_validateToken P _ accessToken _).mono
    isEvaluationOp_of_isValidationOp) fun validated => ?_
  refine Within.bind (within_checkServiceProof P deps req accessToken validated) fun _ => ?_
  refine Within.bind (Within.ofExcept _) fun chain => ?_
  exact Within.bind (Within.command trivial) fun _ => Within.done _

theorem checkServiceProof_ok {accessToken : String} {validated : ValidatedToken}
    (run : Runs (checkServiceProof P deps req accessToken validated) trace (.ok ())) :
    ∃ result, Runs (verifyDPoP P deps.verifyDPoP (serviceProofInput req accessToken validated))
      trace (.ok result) := by
  unfold checkServiceProof at run
  split at run
  · cases (runs_throwing_iff.mp run).2
  · obtain ⟨result, before, after, rfl, verify, last⟩ := runs_bind_ok.mp run
    rw [(runs_pure_iff.mp last).1, List.append_nil]
    exact ⟨result, verify⟩

/-- An evaluation that returns has checked the token, the proof and the chain, and has asked for
the decision. -/
theorem evaluateToken_ok {requestId accessToken : String} {auth : RequestAuth}
    {decision : AuthorizationResult} (extracted : bearerToken req = .ok accessToken)
    (run : Runs (evaluateToken P deps req requestId accessToken) trace (.ok (auth, decision)))
    (allowed : decision.decision = .allow) :
    ∃ validated chain, auth = serviceAuth accessToken validated chain decision ∧
      ServiceAdmission P deps req accessToken validated chain decision trace := by
  rw [evaluateToken, runs_bind_ok] at run
  obtain ⟨validated, validating, _, rfl, validate, run⟩ := run
  rw [runs_bind_ok] at run
  obtain ⟨_, proving, _, rfl, prove, run⟩ := run
  obtain ⟨result, verify⟩ := checkServiceProof_ok prove
  rw [runs_ofExcept_bind_ok] at run
  obtain ⟨chain, checked, run⟩ := run
  rw [runs_bind_ok] at run
  obtain ⟨decided, asking, _, rfl, asked, run⟩ := run
  rw [Act.runs_authorize_iff] at asked
  subst asked
  obtain ⟨rfl, same⟩ := runs_pure_iff.mp run
  cases same
  refine ⟨validated, chain, rfl, {
    extracted := extracted
    validation := ⟨validating, List.subset_append_left _ _, validate⟩
    proof := ⟨proving, result, ?_, verify⟩
    delegated := checked
    decided := ⟨requestId, by simp⟩
    allowed := allowed }⟩
  intro event member
  exact List.mem_append_right _ (List.mem_append_left _ member)

theorem brokerAuth_run {outcome : Except Fault Unit}
    (run : Runs (brokerAuth P deps req) trace outcome) :
    outcome = .ok () ∧ BrokerAuthRun P deps req trace := by
  have quiet : Within isCheckOp (requestIdOf req) := within_requestIdOf (.inr rfl) req
  rw [brokerAuth] at run
  rcases runs_bind_iff.mp run with ⟨requestId, naming, _, rfl, named, rest⟩ | ⟨_, named, _⟩
  · obtain ⟨result, evaluating, after, rfl, evaluated, finish⟩ := runs_attempt_bind_iff.mp rest
    have inside : Within isCheckOp (ofExcept (bearerToken req) >>=
        evaluateToken P deps req requestId) := by
      refine Within.bind (Within.ofExcept _) fun accessToken => ?_
      exact (within_evaluateToken P deps req requestId accessToken).mono fun _ => .inl
    have checks : ∀ event ∈ naming ++ evaluating, isCheckOp event.op := by
      intro event member
      obtain early | late := List.mem_append.mp member
      · exact quiet _ _ named event early
      · exact inside _ _ evaluated event late
    rw [← List.append_assoc]
    cases result with
    | error err =>
        have returned := sendError_returns finish
        subst returned
        exact ⟨rfl, .answered _ requestId _ _ checks
          (.inr ⟨err, evaluating, List.subset_append_right _ _, evaluated, rfl⟩) finish⟩
    | ok decided =>
        obtain ⟨auth, decision⟩ := decided
        by_cases allowed : decision.decision = .allow
        · have passes : ¬ decision.decision ≠ .allow := not_not.mpr allowed
          dsimp only at finish
          rw [if_neg passes, Act.setAuth, runs_reply_bind_iff] at finish
          obtain ⟨_, _, rfl, finish⟩ := finish
          obtain ⟨rfl, rfl⟩ := Act.runs_next_iff.mp finish
          obtain ⟨accessToken, extracted, evaluated⟩ := runs_ofExcept_bind_ok.mp evaluated
          obtain ⟨validated, chain, rfl, admission⟩ := evaluateToken_ok extracted evaluated allowed
          exact ⟨rfl, .passed accessToken validated chain decision _ checks
            (admission.mono (List.subset_append_right _ _))⟩
        · dsimp only at finish
          rw [if_pos allowed] at finish
          have returned := sendError_returns finish
          subst returned
          exact ⟨rfl, .answered _ requestId _ _ checks (.inl ⟨decision, rfl⟩) finish⟩
  · obtain ⟨_, impossible⟩ := requestIdOf_ok named
    cases impossible

/-- A request goes on only after its checks, and with what they found. -/
theorem BrokerAuthRun.of_next (run : BrokerAuthRun P deps req trace)
    (passed : ⟨.next, ()⟩ ∈ trace) :
    ∃ accessToken validated chain decision checks,
      ServiceAdmission P deps req accessToken validated chain decision checks ∧
      (∀ event ∈ checks, isCheckOp event.op) ∧ trace = checks ++
        [⟨.setAuth (serviceAuth accessToken validated chain decision), ()⟩, ⟨.next, ()⟩] := by
  have uncheck {checks : List Event} (only : ∀ event ∈ checks, isCheckOp event.op) :
      (⟨.next, ()⟩ : Event) ∉ checks := by
    intro member
    obtain evaluation | drawn := only _ member
    · exact evaluation
    · cases drawn
  cases run with
  | passed accessToken validated chain decision checks only admission =>
      exact ⟨accessToken, validated, chain, decision, checks, admission, only, rfl⟩
  | answered err requestId checks answer only refused sent =>
      obtain early | late := List.mem_append.mp passed
      · exact absurd early (uncheck only)
      · exact absurd (within_sendError err requestId _ _ sent _ late) not_false

/-- The `req.auth` that a request goes on with. -/
theorem BrokerAuthRun.auth_of_next (run : BrokerAuthRun P deps req trace)
    (passed : ⟨.next, ()⟩ ∈ trace) {auth : RequestAuth} (set : ⟨.setAuth auth, ()⟩ ∈ trace) :
    ∃ accessToken validated chain decision,
      ServiceAdmission P deps req accessToken validated chain decision trace ∧
      auth = serviceAuth accessToken validated chain decision := by
  obtain ⟨accessToken, validated, chain, decision, checks, admission, only, rfl⟩ :=
    run.of_next passed
  refine ⟨accessToken, validated, chain, decision,
    admission.mono (List.subset_append_left _ _), ?_⟩
  obtain early | late := List.mem_append.mp set
  · obtain evaluation | drawn := only _ early
    · exact evaluation.elim
    · cases drawn
  · simpa using late

end Runs

section Refusals

/-- The request is answered with 401. -/
def Fault.IsUnauthorized (fault : Fault) : Prop := (rejectionOf fault).status = 401

theorem Fault.IsFinal.isUnauthorized {fault : Fault} (final : fault.IsFinal) :
    fault.IsUnauthorized := final.1

/-- The program throws nothing that is not answered with 401. -/
abbrev OnlyUnauthorized {α : Type} (program : Act α) : Prop :=
  Throws PlainEvent Fault.IsUnauthorized program

theorem OnlyFinal.unauthorized {α : Type} {program : Act α} (final : OnlyFinal program) :
    OnlyUnauthorized program :=
  final.mono fun _ refusal => refusal.isUnauthorized

theorem unauthorized_issueChallenge {α : Type} (store : RedisNonceStore) :
    OnlyUnauthorized (issueChallenge store : Act α) := by
  intro trace fault run _
  obtain ⟨fresh, reply, _, same⟩ := issueChallenge_runs_iff.mp run
  cases same
  rfl

theorem unauthorized_consumeNonce (deps : VerifyDPoPDeps) (payload : JwtPayload) :
    OnlyUnauthorized (consumeNonce deps payload) := by
  unfold consumeNonce
  split
  · exact Throws.returning _
  · split
    · exact Throws.throwing rfl
    · dsimp only
      split
      · exact unauthorized_issueChallenge _
      · refine Throws.bind ?_ fun consumed => ?_
        · exact Throws.bind (final_redisDel _).unauthorized fun _ => Throws.returning _
        · split
          · exact Throws.returning _
          · exact unauthorized_issueChallenge _

theorem unauthorized_verifyDPoP {P : Platform} (library : P.ThrowsPlain) (deps : VerifyDPoPDeps)
    (input : VerifyDPoPInput) : OnlyUnauthorized (verifyDPoP P deps input) := by
  refine Throws.bind (final_checkProof P deps input).unauthorized fun checked => ?_
  refine Throws.bind (unauthorized_consumeNonce deps checked.2) fun _ => ?_
  exact (final_afterNonce library deps input checked.1 checked.2).unauthorized

theorem unauthorized_bearerToken (req : Request) :
    OnlyUnauthorized (ofExcept (bearerToken req)) := by
  apply Throws.ofExcept
  intro fault failed
  unfold bearerToken at failed
  dsimp only at failed
  split at failed
  · cases failed
    rfl
  · split at failed
    · cases failed
    · cases failed
      rfl

theorem unauthorized_checkActorChain (validated : ValidatedToken) :
    OnlyUnauthorized (ofExcept (checkActorChain validated)) := by
  apply Throws.ofExcept
  intro fault failed
  unfold checkActorChain at failed
  split at failed
  · cases failed
    rfl
  · split at failed
    · cases failed
      rfl
    · cases failed

theorem unauthorized_evaluateToken {P : Platform} (library : P.ThrowsPlain) (deps : BrokerAuthDeps)
    (req : Request) (requestId accessToken : String) :
    OnlyUnauthorized (evaluateToken P deps req requestId accessToken) := by
  refine Throws.bind (final_validateToken library _ _ _).unauthorized fun validated => ?_
  refine Throws.bind ?_ fun _ => ?_
  · unfold checkServiceProof
    split
    · exact Throws.throwing rfl
    · exact Throws.bind (unauthorized_verifyDPoP library _ _) fun _ => Throws.returning _
  · refine Throws.bind (unauthorized_checkActorChain validated) fun chain => ?_
    exact Throws.bind (final_authorize _).unauthorized fun _ => Throws.returning _

/-- An answer of the middleware says 401 or 403. -/
theorem brokerAuth_answers {P : Platform} (library : P.ThrowsPlain) {deps : BrokerAuthDeps}
    {req : Request} {trace : List Event} {outcome : Except Fault Unit}
    (run : Runs (brokerAuth P deps req) trace outcome) (plain : ∀ event ∈ trace, PlainEvent event)
    {status : Nat} {body : Json} (answered : ⟨.json status body, ()⟩ ∈ trace) :
    status = 401 ∨ status = 403 := by
  have uncheck {checks : List Event} (only : ∀ event ∈ checks, isCheckOp event.op) :
      (⟨.json status body, ()⟩ : Event) ∉ checks := by
    intro member
    obtain evaluation | drawn := only _ member
    · exact evaluation
    · cases drawn
  cases (brokerAuth_run run).2 with
  | passed accessToken validated chain decision checks only admission =>
      obtain early | late := List.mem_append.mp answered
      · exact absurd early (uncheck only)
      · simp at late
  | answered err requestId checks answer only refused sent =>
      have late := (List.mem_append.mp answered).resolve_left (uncheck only)
      have same : status = err.status := by
        obtain ⟨timestamp, rfl⟩ := sendError_runs sent
        unfold challengeEvents at late
        split at late
        · split at late <;> simp at late <;> exact late.1
        · simp at late
          exact late.1
      rw [same]
      rcases refused with ⟨decision, rfl⟩ | ⟨fault, part, inside, evaluated, rfl⟩
      · exact .inr rfl
      · left
        have throws : OnlyUnauthorized (ofExcept (bearerToken req) >>=
            evaluateToken P deps req requestId) :=
          Throws.bind (unauthorized_bearerToken req) fun accessToken =>
            unauthorized_evaluateToken library deps req requestId accessToken
        exact throws part fault evaluated fun event member =>
          plain event (List.mem_append_left _ (inside member))

end Refusals

end S2s
