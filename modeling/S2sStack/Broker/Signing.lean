import S2sStack.Broker.Delegation

set_option autoImplicit false

/- What lies behind a signature of the exchange endpoint, whether or not it is handed out. -/
namespace S2s

open Effect Effect.Program
open Js (Json Obj)

def notSigning : Op → Prop
  | .signJwt _ _ _ => False
  | _ => True

theorem notSigning_of_isProofOp {requireNonce : Bool} (op : Op) (proof : isProofOp requireNonce op) :
    notSigning op := by
  cases op <;> trivial

theorem notSigning_of_isValidationOp (op : Op) (validation : isValidationOp op) :
    notSigning op := by
  cases op <;> trivial

theorem unsigned_oauthError (err : OauthError) (requestId : String) :
    Within notSigning (oauthError err requestId) := Within.command trivial

theorem unsigned_setHeader (name value : String) : Within notSigning (Act.setHeader name value) :=
  Within.command trivial

theorem unsigned_serverError (requestId : String) (err : Fault) :
    Within notSigning (serverError requestId err) :=
  Within.bind (Within.command trivial) fun _ => Within.command trivial

theorem unsigned_claimFreshJti (deps : TokenRouterDeps) (decoded : Obj) :
    Within notSigning (claimFreshJti deps decoded) := by
  unfold claimFreshJti
  split
  · split
    · exact Within.done _
    · exact Within.catching (Within.command trivial) fun _ => Within.done _
  · exact Within.done _

/-- Every gate in front of a signature, and the signature. -/
structure Grant.Passes (P : Platform) (deps : TokenRouterDeps) (req : Request) (grant : Grant)
    (trace : List Event) : Prop where
  requested : readExchangeRequest req.body = .ok grant.request
  authenticated : authenticateActor P deps.catalog req = .ok grant.actor
  proven : ∃ part, part ⊆ trace ∧ Runs (verifyExchangeProof P deps.proofVerifier
    (req.headerOrEmpty "dpop") (brokerTokenEndpointHtu P req)) part (.ok grant.proof)
  subject : ∃ part, part ⊆ trace ∧ Runs (validateSubjectToken P deps.subjectValidator
    grant.request.subjectToken grant.request.audience) part (.ok grant.validated)
  target : authorizeTarget grant.actor grant.request = .ok ()
  loaded : ⟨.signingKey, .ok grant.signing⟩ ∈ trace
  dated : ⟨.now, grant.nowMs⟩ ∈ trace
  signed : ⟨.signJwt (grant.header deps) (grant.claims deps) grant.signing.privateKey,
    .ok grant.token⟩ ∈ trace

theorem Grant.Passes.mono {P : Platform} {deps : TokenRouterDeps} {req : Request} {grant : Grant}
    {trace wider : List Event} (passes : grant.Passes P deps req trace) (within : trace ⊆ wider) :
    grant.Passes P deps req wider := by
  obtain ⟨proving, inProof, prove⟩ := passes.proven
  obtain ⟨validating, inSubject, validate⟩ := passes.subject
  exact { passes with
    proven := ⟨proving, List.Subset.trans inProof within, prove⟩
    subject := ⟨validating, List.Subset.trans inSubject within, validate⟩
    loaded := within passes.loaded
    dated := within passes.dated
    signed := within passes.signed }

/-- This is the signature of a token with the values of the grant. -/
structure Grant.Signature (deps : TokenRouterDeps) (grant : Grant) (header claims : Obj)
    (key : PrivateKey) (token : String) : Prop where
  header : header = grant.header deps
  claims : claims = grant.claims deps
  key : key = grant.signing.privateKey
  token : token = grant.token

section Signed

variable {P : Platform} {deps : TokenRouterDeps} {req : Request} {trace : List Event}
  {outcome : Except Fault Unit} {header claims : Obj} {key : PrivateKey} {token : String}

/-- Behind the gates the one signature is that of the minted token. -/
theorem grantExchange_signs {request : ExchangeRequest} {actor : AuthenticatedActor}
    {proof : DPoPVerificationResult} {validated : SubjectTokenValidationResult}
    {requestId : String}
    (run : Runs (grantExchange P deps request actor proof.jwkThumbprint validated requestId) trace
      outcome) (signs : ⟨.signJwt header claims key, .ok token⟩ ∈ trace) :
    authorizeTarget actor request = .ok () ∧ ∃ grant : Grant, grant.request = request ∧
      grant.actor = actor ∧ grant.proof = proof ∧ grant.validated = validated ∧
      ⟨.signingKey, .ok grant.signing⟩ ∈ trace ∧ ⟨.now, grant.nowMs⟩ ∈ trace ∧
      grant.Signature deps header claims key token := by
  unfold grantExchange at run
  split at run
  · exact absurd (unsigned_oauthError _ _ _ _ run _ signs) not_false
  · rename_i target
    have loading : Within notSigning Act.signingKey := Within.command trivial
    replace run := run.skip loading signs not_false
    clear signs
    obtain ⟨signing, _, _, rfl, load, run, signs⟩ := run
    have answering : ∀ minted : String, Within notSigning (do
        let decoded ← ofExcept (P.decodeJwt minted)
        let claimed ← claimFreshJti deps decoded
        if claimed then Act.json 200 (exchangeResponse deps request minted)
        else oauthError ⟨401, "invalid_token", "jti replay detected"⟩ requestId : Act Unit) := by
      intro minted
      refine Within.bind (Within.ofExcept _) fun decoded => ?_
      refine Within.bind (unsigned_claimFreshJti deps decoded) fun claimed => ?_
      split
      · exact Within.command trivial
      · exact unsigned_oauthError _ _
    replace run := run.of_first answering signs not_false
    clear signs
    obtain ⟨minting, _, _, rfl, mint, signs⟩ := run
    obtain ⟨nowMs, jti, rfl⟩ := mintExchangedToken_runs mint
    simp only [List.mem_cons, Effect.Event.mk.injEq, reduceCtorEq, false_and, false_or,
      List.not_mem_nil, or_false, Op.signJwt.injEq] at signs
    obtain ⟨⟨rfl, rfl, rfl⟩, reply⟩ := signs
    cases reply
    refine ⟨target, ⟨request, actor, proof, validated, signing, nowMs, jti, token⟩, rfl, rfl, rfl,
      rfl, ?_, by simp, ⟨rfl, rfl, rfl, rfl⟩⟩
    rw [Act.runs_signingKey_iff.mp load]
    exact List.mem_cons_self

theorem exchangeFor_signs {request : ExchangeRequest} {actor : AuthenticatedActor}
    {requestId : String} (requested : readExchangeRequest req.body = .ok request)
    (authenticated : authenticateActor P deps.catalog req = .ok actor)
    (run : Runs (exchangeFor P deps req request actor requestId) trace outcome)
    (signs : ⟨.signJwt header claims key, .ok token⟩ ∈ trace) :
    ∃ grant : Grant, grant.Passes P deps req trace ∧
      grant.Signature deps header claims key token := by
  unfold exchangeFor at run
  dsimp only at run
  have whole := signs
  split at run
  · exact absurd (unsigned_oauthError _ _ _ _ run _ signs) not_false
  · replace run := run.skip (Within.attempt ((within_verifyDPoP P _ _).mono
      notSigning_of_isProofOp)) signs not_false
    clear signs
    obtain ⟨verification, proving, _, rfl, prove, run, signs⟩ := run
    obtain ⟨_, prove, same⟩ := runs_attempt_iff.mp prove
    cases same
    split at run
    · exact absurd (unsigned_oauthError _ _ _ _ run _ signs) not_false
    · replace run := run.skip (Within.attempt ((within_validateSubjectToken P _ _ _).mono
        notSigning_of_isValidationOp)) signs not_false
      clear signs
      obtain ⟨validation, validating, rest, rfl, validate, run, signs⟩ := run
      obtain ⟨_, validate, same⟩ := runs_attempt_iff.mp validate
      cases same
      split at run
      · exact absurd (unsigned_oauthError _ _ _ _ run _ signs) not_false
      · obtain ⟨target, grant, rfl, rfl, rfl, rfl, loaded, dated, signature⟩ :=
          grantExchange_signs run signs
        have middle : validating ⊆ proving ++ (validating ++ rest) := fun event member =>
          List.mem_append_right _ (List.mem_append_left _ member)
        obtain ⟨rfl, rfl, rfl, rfl⟩ := signature
        exact ⟨grant, {
          requested := requested
          authenticated := authenticated
          proven := ⟨proving, List.subset_append_left _ _, prove⟩
          subject := ⟨validating, middle, validate⟩
          target := target
          loaded := List.mem_append_right _ (List.mem_append_right _ loaded)
          dated := List.mem_append_right _ (List.mem_append_right _ dated)
          signed := whole }, ⟨rfl, rfl, rfl, rfl⟩⟩

/-- Behind every signature of the endpoint lie all its gates. -/
theorem tokenRouter_signs (run : Runs (tokenRouter P deps req) trace outcome)
    (signs : ⟨.signJwt header claims key, .ok token⟩ ∈ trace) :
    ∃ grant : Grant, grant.Passes P deps req trace ∧
      grant.Signature deps header claims key token := by
  have naming : Within notSigning (requestIdOf req) := within_requestIdOf trivial req
  replace run := run.skip naming signs not_false
  clear signs
  obtain ⟨requestId, naming, _, rfl, _, run, signs⟩ := run
  replace run := run.skip (unsigned_setHeader _ _) signs not_false
  clear signs
  obtain ⟨_, first, _, rfl, _, run, signs⟩ := run
  replace run := run.skip (unsigned_setHeader _ _) signs not_false
  clear signs
  obtain ⟨_, second, _, rfl, _, run, signs⟩ := run
  replace run := run.skip (unsigned_setHeader _ _) signs not_false
  clear signs
  obtain ⟨_, third, rest, rfl, _, run, signs⟩ := run
  have inner : ∃ part result, part ⊆ rest ∧ Runs (exchange P deps req requestId) part result ∧
      ⟨.signJwt header claims key, .ok token⟩ ∈ part := by
    rcases runs_catching_iff.mp run with ⟨value, run, _⟩ | ⟨fault, before, after, rfl, run, handle⟩
    · exact ⟨rest, _, List.Subset.refl _, run, signs⟩
    · rcases List.mem_append.mp signs with inBody | inHandler
      · exact ⟨before, _, List.subset_append_left _ _, run, inBody⟩
      · exact absurd (unsigned_serverError _ _ _ _ handle _ inHandler) not_false
  obtain ⟨part, result, inside, run, signs⟩ := inner
  unfold exchange at run
  split at run
  · exact absurd (unsigned_oauthError _ _ _ _ run _ signs) not_false
  · rename_i request requested
    split at run
    · obtain ⟨_, _, _, _, _, refusal, inRefusal⟩ :=
        run.skip (unsigned_setHeader _ _) signs not_false
      exact absurd (unsigned_oauthError _ _ _ _ refusal _ inRefusal) not_false
    · rename_i actor authenticated
      obtain ⟨grant, passes, signature⟩ := exchangeFor_signs requested authenticated run signs
      refine ⟨grant, passes.mono ?_, signature⟩
      intro event member
      simp only [List.mem_append]
      exact .inr (.inr (.inr (.inr (inside member))))

end Signed

end S2s
