import S2sStack.Broker.TokenRouter

set_option autoImplicit false

/- What lies behind an answer of the exchange endpoint that carries an access token. -/
namespace S2s

open Effect Effect.Program
open Js (Json Obj)

def accessTokenOf : Json → Option Json
  | .obj body => Obj.get? "access_token" body
  | _ => none

/-- An answer with an access token in it. -/
def isGrant (op : Op) : Prop :=
  ∃ body token, op = .json 200 body ∧ accessTokenOf body = some token

def notGrant (op : Op) : Prop := ¬ isGrant op

theorem notGrant_of_isProofOp {requireNonce : Bool} (op : Op) (proof : isProofOp requireNonce op) :
    notGrant op := by
  rintro ⟨body, token, rfl, _⟩
  exact proof

theorem notGrant_of_isValidationOp (op : Op) (validation : isValidationOp op) : notGrant op := by
  rintro ⟨body, token, rfl, _⟩
  exact validation

theorem within_setHeader (name value : String) : Within notGrant (Act.setHeader name value) :=
  Within.command (by rintro ⟨_, _, impossible, _⟩; cases impossible)

theorem within_oauthError (err : OauthError) (requestId : String) :
    Within notGrant (oauthError err requestId) := by
  apply Within.command
  rintro ⟨body, token, same, carries⟩
  obtain ⟨_, rfl⟩ := Op.json.inj same
  cases carries

theorem within_serverError (requestId : String) (err : Fault) :
    Within notGrant (serverError requestId err) := by
  refine Within.bind (Within.command ?_) fun timestamp => Within.command ?_
  · rintro ⟨_, _, impossible, _⟩
    cases impossible
  · rintro ⟨_, _, impossible, _⟩
    cases impossible

theorem within_claimFreshJti (deps : TokenRouterDeps) (decoded : Obj) :
    Within notGrant (claimFreshJti deps decoded) := by
  unfold claimFreshJti
  split
  · split
    · exact Within.done _
    · refine Within.catching (Within.command ?_) fun _ => Within.done _
      rintro ⟨_, _, impossible, _⟩
      cases impossible
  · exact Within.done _

theorem within_mint (opts : MintExchangedTokenOptions) (input : MintExchangedTokenInput) :
    Within notGrant (mintExchangedToken opts input) := by
  intro trace outcome run event member
  obtain ⟨nowMs, jti, rfl⟩ := mintExchangedToken_runs run
  rintro ⟨_, _, same, _⟩
  simp only [List.mem_cons, List.not_mem_nil, or_false] at member
  rcases member with rfl | rfl | rfl <;> cases same

/-- The values that a granted exchange went through. -/
structure Grant where
  request : ExchangeRequest
  actor : AuthenticatedActor
  proof : DPoPVerificationResult
  validated : SubjectTokenValidationResult
  signing : LoadedSigningKey
  nowMs : Millis
  jti : String
  token : String

namespace Grant

def mintInput (grant : Grant) : MintExchangedTokenInput :=
  S2s.mintInput grant.request grant.actor.clientId grant.proof.jwkThumbprint grant.validated

/-- The claims that were signed. -/
def claims (deps : TokenRouterDeps) (grant : Grant) : Obj :=
  mintedClaims (mintOptions deps grant.signing) grant.mintInput (toSeconds grant.nowMs) grant.jti

/-- What happens from the signing key to the answer. -/
structure Minted (P : Platform) (deps : TokenRouterDeps) (grant : Grant) (trace : List Event) :
    Prop where
  loaded : ⟨.signingKey, .ok grant.signing⟩ ∈ trace
  clock : ⟨.now, grant.nowMs⟩ ∈ trace
  drawn : ⟨.randomUUID, grant.jti⟩ ∈ trace
  signed : ⟨.signJwt (userJwtHeader (mintSignOptions (mintOptions deps grant.signing)
    grant.mintInput)) (grant.claims deps) grant.signing.privateKey, .ok grant.token⟩ ∈ trace
  claimed : ∃ decoded part, P.decodeJwt grant.token = .ok decoded ∧ part ⊆ trace ∧
    Runs (claimFreshJti deps decoded) part (.ok true)

/-- The run behind the trace has gone through every gate with these values. -/
structure Recorded (P : Platform) (deps : TokenRouterDeps) (req : Request) (grant : Grant)
    (trace : List Event) : Prop extends Minted P deps grant trace where
  requested : readExchangeRequest req.body = .ok grant.request
  authenticated : authenticateActor P deps.catalog req = .ok grant.actor
  proven : ∃ part, part ⊆ trace ∧ Runs (verifyExchangeProof P deps.proofVerifier
    (req.headerOrEmpty "dpop") (brokerTokenEndpointHtu P req)) part (.ok grant.proof)
  subject : ∃ part, part ⊆ trace ∧ Runs (validateSubjectToken P deps.subjectValidator
    grant.request.subjectToken grant.request.audience) part (.ok grant.validated)
  target : authorizeTarget grant.actor grant.request = .ok ()

theorem Minted.mono {P : Platform} {deps : TokenRouterDeps} {grant : Grant}
    {trace wider : List Event} (minted : Minted P deps grant trace) (within : trace ⊆ wider) :
    Minted P deps grant wider := by
  obtain ⟨decoded, part, same, inside, run⟩ := minted.claimed
  exact ⟨within minted.loaded, within minted.clock, within minted.drawn, within minted.signed, decoded,
    part, same, List.Subset.trans inside within, run⟩

end Grant

variable {P : Platform} {deps : TokenRouterDeps} {req : Request} {trace : List Event}
  {outcome : Except Fault Unit} {body : Json}

/-- The only answer with a token is the one after minting and the replay check. -/
theorem grantExchange_minted {request : ExchangeRequest} {actor : AuthenticatedActor}
    {proof : DPoPVerificationResult} {validated : SubjectTokenValidationResult}
    {requestId : String}
    (run : Runs (grantExchange P deps request actor proof.jwkThumbprint validated requestId) trace
      outcome) (answered : ⟨.json 200 body, ()⟩ ∈ trace)
    (carries : isGrant (.json 200 body)) :
    authorizeTarget actor request = .ok () ∧ ∃ grant : Grant, grant.request = request ∧
      grant.actor = actor ∧ grant.proof = proof ∧ grant.validated = validated ∧
      grant.Minted P deps trace ∧ body = exchangeResponse deps request grant.token := by
  have loud : ¬ notGrant (.json 200 body) := not_not.mpr carries
  unfold grantExchange at run
  split at run
  · exact absurd (within_oauthError _ _ _ _ run _ answered) loud
  · rename_i target
    have loading : Within notGrant Act.signingKey :=
      Within.command (by rintro ⟨_, _, impossible, _⟩; cases impossible)
    replace run := run.skip loading answered loud
    clear answered
    obtain ⟨signing, _, _, rfl, load, run, answered⟩ := run
    replace run := run.skip (within_mint _ _) answered loud
    clear answered
    obtain ⟨token, minting, rest, rfl, mint, run, answered⟩ := run
    obtain ⟨decoded, decode, run⟩ := runs_ofExcept_bind_of_mem run answered
    replace run := run.skip (within_claimFreshJti deps decoded) answered loud
    clear answered
    obtain ⟨claimed, claiming, final, rfl, claim, run, answered⟩ := run
    obtain ⟨nowMs, jti, rfl⟩ := mintExchangedToken_runs mint
    split at run
    · rename_i fresh
      rw [fresh] at claim
      rw [Act.runs_json_iff] at run
      rw [run.1, List.mem_singleton] at answered
      cases answered
      refine ⟨target, ⟨request, actor, proof, validated, signing, nowMs, jti, token⟩, rfl, rfl, rfl,
        rfl, ⟨?_, ?_, ?_, ?_, decoded, claiming, decode, ?_, claim⟩, rfl⟩
      · rw [Act.runs_signingKey_iff.mp load]
        exact List.mem_cons_self
      · simp
      · simp
      · exact List.mem_append_right _ (List.mem_append_left _
          (List.mem_cons_of_mem _ (List.mem_cons_of_mem _ List.mem_cons_self)))
      · intro event inside
        simp [inside]
    · exact absurd (within_oauthError _ _ _ _ run _ answered) loud

/-- Behind an answer with a token lies a run through every gate. -/
theorem exchangeFor_recorded {request : ExchangeRequest} {actor : AuthenticatedActor}
    {requestId : String} (requested : readExchangeRequest req.body = .ok request)
    (authenticated : authenticateActor P deps.catalog req = .ok actor)
    (run : Runs (exchangeFor P deps req request actor requestId) trace outcome)
    (answered : ⟨.json 200 body, ()⟩ ∈ trace) (carries : isGrant (.json 200 body)) :
    ∃ grant : Grant, grant.Recorded P deps req trace ∧
      body = exchangeResponse deps grant.request grant.token := by
  have loud : ¬ notGrant (.json 200 body) := not_not.mpr carries
  unfold exchangeFor at run
  dsimp only at run
  split at run
  · exact absurd (within_oauthError _ _ _ _ run _ answered) loud
  · replace run := run.skip
      (Within.attempt ((within_verifyDPoP P _ _).mono notGrant_of_isProofOp)) answered loud
    clear answered
    obtain ⟨verification, proving, _, rfl, prove, run, answered⟩ := run
    obtain ⟨_, prove, same⟩ := runs_attempt_iff.mp prove
    cases same
    split at run
    · exact absurd (within_oauthError _ _ _ _ run _ answered) loud
    · replace run := run.skip (Within.attempt ((within_validateSubjectToken P _ _ _).mono
        notGrant_of_isValidationOp)) answered loud
      clear answered
      obtain ⟨validation, validating, rest, rfl, validate, run, answered⟩ := run
      obtain ⟨_, validate, same⟩ := runs_attempt_iff.mp validate
      cases same
      split at run
      · exact absurd (within_oauthError _ _ _ _ run _ answered) loud
      · obtain ⟨target, grant, rfl, rfl, rfl, rfl, minted, same⟩ :=
          grantExchange_minted run answered carries
        have later : rest ⊆ proving ++ (validating ++ rest) := fun event member =>
          List.mem_append_right _ (List.mem_append_right _ member)
        have middle : validating ⊆ proving ++ (validating ++ rest) := fun event member =>
          List.mem_append_right _ (List.mem_append_left _ member)
        exact ⟨grant, {
          toMinted := minted.mono later
          requested := requested
          authenticated := authenticated
          proven := ⟨proving, List.subset_append_left _ _, prove⟩
          subject := ⟨validating, middle, validate⟩
          target := target }, same⟩

theorem Grant.Recorded.mono {grant : Grant} {wider : List Event}
    (recorded : grant.Recorded P deps req trace) (within : trace ⊆ wider) :
    grant.Recorded P deps req wider := by
  obtain ⟨proving, inProof, prove⟩ := recorded.proven
  obtain ⟨validating, inSubject, validate⟩ := recorded.subject
  exact {
    recorded with
    toMinted := recorded.toMinted.mono within
    proven := ⟨proving, List.Subset.trans inProof within, prove⟩
    subject := ⟨validating, List.Subset.trans inSubject within, validate⟩ }

theorem tokenRouter_recorded (run : Runs (tokenRouter P deps req) trace outcome)
    (answered : ⟨.json 200 body, ()⟩ ∈ trace) (carries : isGrant (.json 200 body)) :
    ∃ grant : Grant, grant.Recorded P deps req trace ∧
      body = exchangeResponse deps grant.request grant.token := by
  have loud : ¬ notGrant (.json 200 body) := not_not.mpr carries
  have naming : Within notGrant (requestIdOf req) :=
    within_requestIdOf (by rintro ⟨_, _, impossible, _⟩; cases impossible) req
  replace run := run.skip naming answered loud
  clear answered
  obtain ⟨requestId, naming, _, rfl, _, run, answered⟩ := run
  replace run := run.skip (within_setHeader _ _) answered loud
  clear answered
  obtain ⟨_, first, _, rfl, _, run, answered⟩ := run
  replace run := run.skip (within_setHeader _ _) answered loud
  clear answered
  obtain ⟨_, second, _, rfl, _, run, answered⟩ := run
  replace run := run.skip (within_setHeader _ _) answered loud
  clear answered
  obtain ⟨_, third, rest, rfl, _, run, answered⟩ := run
  have inner : ∃ part result, part ⊆ rest ∧ Runs (exchange P deps req requestId) part result ∧
      ⟨.json 200 body, ()⟩ ∈ part := by
    rcases runs_catching_iff.mp run with ⟨value, run, _⟩ | ⟨fault, before, after, rfl, run, handle⟩
    · exact ⟨rest, _, List.Subset.refl _, run, answered⟩
    · rcases List.mem_append.mp answered with inBody | inHandler
      · exact ⟨before, _, List.subset_append_left _ _, run, inBody⟩
      · exact absurd (within_serverError _ _ _ _ handle _ inHandler) loud
  obtain ⟨part, result, inside, run, answered⟩ := inner
  unfold exchange at run
  split at run
  · exact absurd (within_oauthError _ _ _ _ run _ answered) loud
  · rename_i request requested
    split at run
    · obtain ⟨_, _, _, _, _, refusal, inRefusal⟩ := run.skip (within_setHeader _ _) answered loud
      exact absurd (within_oauthError _ _ _ _ refusal _ inRefusal) loud
    · rename_i actor authenticated
      obtain ⟨grant, recorded, same⟩ :=
        exchangeFor_recorded requested authenticated run answered carries
      refine ⟨grant, recorded.mono ?_, same⟩
      intro event member
      simp only [List.mem_append]
      exact .inr (.inr (.inr (.inr (inside member))))

end S2s
