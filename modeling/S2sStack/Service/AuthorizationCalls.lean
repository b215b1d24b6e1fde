import S2sStack.Service.BrokerAuthMiddleware

set_option autoImplicit false

/- The calls to `authorize` that the two request middlewares make. -/
namespace S2s

open Effect Effect.Program

/-- Everything but asking for a decision. -/
def isOtherOp : Op → Prop
  | .authorize _ => False
  | _ => True

theorem isOtherOp_of_isValidationOp (op : Op) (validation : isValidationOp op) : isOtherOp op := by
  cases op <;> trivial

theorem isOtherOp_of_isProofOp {requireNonce : Bool} (op : Op) (proof : isProofOp requireNonce op) :
    isOtherOp op := by
  cases op <;> trivial

theorem isOtherOp_of_isResponseOp (op : Op) (response : isResponseOp op) : isOtherOp op := by
  cases op <;> trivial

theorem other_sendError (err : AuthError) (requestId : String) :
    Within isOtherOp (sendError err requestId) :=
  (within_sendError err requestId).mono isOtherOp_of_isResponseOp

theorem other_admit (auth : RequestAuth) :
    Within isOtherOp (do Act.setAuth auth; Act.next : Act Unit) :=
  Within.bind (Within.command trivial) fun _ => Within.command trivial

theorem other_reject (mode : BrokerAuthMode) (err : AuthError) (requestId : String) :
    Within isOtherOp (reject mode err requestId) := by
  cases mode with
  | logOnly => exact Within.bind (Within.command trivial) fun _ => Within.command trivial
  | enforce => exact other_sendError err requestId

theorem other_conclude (mode : BrokerAuthMode) (validated : ValidatedToken)
    (decision : AuthorizationResult) (requestId : String) :
    Within isOtherOp (conclude mode validated decision requestId) := by
  cases mode with
  | logOnly => exact Within.bind (Within.command trivial) fun _ => other_admit _
  | enforce =>
      unfold conclude
      dsimp only
      split
      · exact other_sendError _ requestId
      · exact other_admit _

theorem other_checkResourceProof (P : Platform) (deps : AuthMiddlewareDeps) (req : Request)
    (accessToken : String) (validated : ValidatedToken) :
    Within isOtherOp (checkResourceProof P deps req accessToken validated) := by
  unfold checkResourceProof
  split
  · exact Within.done _
  · split
    · exact Within.done _
    · refine Within.bind ?_ fun _ => Within.done _
      exact (within_verifyDPoP P _ _).mono isOtherOp_of_isProofOp

theorem other_checkServiceProof (P : Platform) (deps : BrokerAuthDeps) (req : Request)
    (accessToken : String) (validated : ValidatedToken) :
    Within isOtherOp (checkServiceProof P deps req accessToken validated) := by
  unfold checkServiceProof
  split
  · exact Within.done _
  · refine Within.bind ?_ fun _ => Within.done _
    exact (within_verifyDPoP P _ _).mono isOtherOp_of_isProofOp

section Calls

variable {P : Platform} {req : Request} {trace : List Event} {input : AuthorizeInput}
  {reply : Except Fault AuthorizationResult}

/-- The SDK's middleware asks about the token it has extracted and validated. -/
theorem authMiddleware_authorize {deps : AuthMiddlewareDeps} {outcome : Except Fault Unit}
    (run : Runs (authMiddleware P deps req) trace outcome)
    (asked : ⟨.authorize input, reply⟩ ∈ trace) :
    ∃ accessToken validated validating, requestAccessToken req = .ok accessToken ∧
      Runs (validateToken P deps.validateToken accessToken deps.expectedAudience) validating
        (.ok validated) ∧
      input = authorizeInput deps req accessToken validated := by
  have naming : Within isOtherOp (requestIdOf req) := within_requestIdOf trivial req
  rw [authMiddleware] at run
  replace run := run.skip naming asked not_false
  clear asked
  obtain ⟨requestId, _, _, rfl, _, run, asked⟩ := run
  replace run := run.of_first (by
    intro decided
    cases decided with
    | ok verdict => exact other_conclude _ _ _ _
    | error err => exact other_reject _ _ _) asked not_false
  clear asked
  obtain ⟨_, _, _, rfl, attempted, asked⟩ := run
  obtain ⟨_, run, _⟩ := runs_attempt_iff.mp attempted
  rw [evaluate] at run
  obtain ⟨accessToken, extracted, run⟩ := runs_ofExcept_bind_of_mem run asked
  have validation := (within_validateToken P deps.validateToken accessToken
    deps.expectedAudience).mono isOtherOp_of_isValidationOp
  replace run := run.skip validation asked not_false
  clear asked
  obtain ⟨validated, validating, _, rfl, validate, run, asked⟩ := run
  have checking := other_checkResourceProof P deps req accessToken validated
  replace run := run.skip checking asked not_false
  clear asked
  obtain ⟨_, _, _, rfl, _, run, asked⟩ := run
  have answering : ∀ decision : AuthorizationResult,
      Within isOtherOp (pure (validated, decision) : Act _) := fun _ => Within.done _
  replace run := run.of_first answering asked not_false
  clear asked
  obtain ⟨_, _, _, rfl, ask, asked⟩ := run
  rw [Act.runs_authorize_iff] at ask
  rw [ask] at asked
  cases List.mem_singleton.mp asked
  exact ⟨accessToken, validated, validating, extracted, validate, rfl⟩

/-- A service's middleware asks for a decision after it has accepted the token and the proof of the
request, and not twice. -/
theorem brokerAuth_asked {deps : BrokerAuthDeps} {outcome : Except Fault Unit}
    (run : Runs (brokerAuth P deps req) trace outcome)
    (asked : ⟨.authorize input, reply⟩ ∈ trace) :
    ∃ requestId accessToken validated chain naming validating proving after,
      trace = (naming ++ (validating ++ proving)) ++ ⟨.authorize input, reply⟩ :: after ∧
      (∀ event ∈ naming ++ (validating ++ proving), isOtherOp event.op) ∧
      bearerToken req = .ok accessToken ∧
      Runs (validateToken P deps.validateToken accessToken deps.expectedAudience) validating
        (.ok validated) ∧
      Runs (checkServiceProof P deps req accessToken validated) proving (.ok ()) ∧
      checkActorChain validated = .ok chain ∧
      input = serviceAuthorizeInput deps req requestId accessToken validated chain := by
  have unnamed : Within isOtherOp (requestIdOf req) := within_requestIdOf trivial req
  rw [brokerAuth] at run
  replace run := run.skip unnamed asked not_false
  clear asked
  obtain ⟨requestId, naming, _, rfl, named, run, asked⟩ := run
  replace run := run.of_first (by
    intro decided
    cases decided with
    | ok verdict =>
        dsimp only
        split
        · exact other_sendError _ requestId
        · exact other_admit _
    | error err => exact other_sendError _ requestId) asked not_false
  clear asked
  obtain ⟨_, after, _, rfl, attempted, asked⟩ := run
  obtain ⟨_, run, _⟩ := runs_attempt_iff.mp attempted
  obtain ⟨accessToken, extracted, run⟩ := runs_ofExcept_bind_of_mem run asked
  have validation := (within_validateToken P deps.validateToken accessToken
    deps.expectedAudience).mono isOtherOp_of_isValidationOp
  rw [evaluateToken] at run
  replace run := run.skip validation asked not_false
  clear asked
  obtain ⟨validated, validating, _, rfl, validate, run, asked⟩ := run
  replace run := run.skip (other_checkServiceProof P deps req accessToken validated) asked not_false
  clear asked
  obtain ⟨⟨⟩, proving, _, rfl, prove, run, asked⟩ := run
  obtain ⟨chain, checked, run⟩ := runs_ofExcept_bind_of_mem run asked
  have answering : ∀ decision : AuthorizationResult,
      Within isOtherOp (pure (serviceAuth accessToken validated chain decision, decision) : Act _) :=
    fun _ => Within.done _
  replace run := run.of_first answering asked not_false
  clear asked
  obtain ⟨_, last, _, rfl, ask, asked⟩ := run
  rw [Act.runs_authorize_iff] at ask
  rw [ask] at asked
  cases List.mem_singleton.mp asked
  refine ⟨requestId, accessToken, validated, chain, naming, validating, proving, last ++ after,
    ?_, ?_, extracted, validate, prove, checked, rfl⟩
  · rw [ask]
    simp
  · intro event member
    rcases List.mem_append.mp member with early | late
    · exact unnamed _ _ named event early
    · rcases List.mem_append.mp late with validates | proves
      · exact validation _ _ validate event validates
      · exact other_checkServiceProof P deps req accessToken validated _ _ prove event proves

/-- A service's middleware asks about the validated token and its actor chain. -/
theorem brokerAuth_authorize {deps : BrokerAuthDeps} {outcome : Except Fault Unit}
    (run : Runs (brokerAuth P deps req) trace outcome)
    (asked : ⟨.authorize input, reply⟩ ∈ trace) :
    ∃ requestId accessToken validated validating chain, bearerToken req = .ok accessToken ∧
      Runs (validateToken P deps.validateToken accessToken deps.expectedAudience) validating
        (.ok validated) ∧
      checkActorChain validated = .ok chain ∧
      input = serviceAuthorizeInput deps req requestId accessToken validated chain := by
  obtain ⟨requestId, accessToken, validated, chain, _, validating, _, _, _, _, extracted, validate,
    _, checked, same⟩ := brokerAuth_asked run asked
  exact ⟨requestId, accessToken, validated, validating, chain, extracted, validate, checked, same⟩

end Calls

end S2s
