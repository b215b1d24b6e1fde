import S2sStack.Broker.Delegation
import S2sStack.Effect.Returns

set_option autoImplicit false

/- The exchange endpoint where nothing fails: it answers with a token. -/
namespace S2s

open Effect Effect.Program
open Js (Json Obj)

/-- The broker's own services work: Redis has not seen the keys it is asked to set, the signing key
is there, and signatures are sound. -/
structure BrokerServes (P : Platform) (signing : LoadedSigningKey) (trace : List Event) : Prop where
  fresh : ∀ key ttl reply, ⟨.redisSet key ttl, reply⟩ ∈ trace → reply = .ok true
  loaded : ∀ reply, ⟨.signingKey, reply⟩ ∈ trace → reply = .ok signing
  signs : ∀ header claims key reply, ⟨.signJwt header claims key, reply⟩ ∈ trace →
    ∃ token, reply = .ok token ∧ token ≠ "" ∧ SignedWith P header claims key token

/-- The answer of the endpoint with a token for this request. -/
def Grants (deps : TokenRouterDeps) (request : ExchangeRequest) (event : Event) : Prop :=
  ∃ token, token ≠ "" ∧ event = ⟨.json 200 (exchangeResponse deps request token), ()⟩

section Available

variable {P : Platform} {deps : TokenRouterDeps} {signing : LoadedSigningKey} {trace : List Event}

theorem mint_returns (serves : BrokerServes P signing trace) (opts : MintExchangedTokenOptions)
    (input : MintExchangedTokenInput) : Returns (· ∈ trace)
      (fun token => token ≠ "" ∧ ∃ claims, P.decodeJwt token = .ok claims)
      (mintExchangedToken opts input) := by
  intro part outcome run events
  obtain ⟨nowMs, jti, rfl⟩ := mintExchangedToken_runs run
  have last := events _ (List.mem_of_mem_getLast? rfl)
  obtain ⟨token, same, filled, signature⟩ := serves.signs _ _ _ outcome last
  exact ⟨token, same, filled, _, signature.decoded⟩

theorem claimFreshJti_returns (serves : BrokerServes P signing trace) (decoded : Obj) :
    Returns (· ∈ trace) (· = true) (claimFreshJti deps decoded) := by
  unfold claimFreshJti
  split
  · split
    · exact .returning rfl
    · refine Returns.catching ?_ _
      exact .command fun reply set => ⟨true, serves.fresh _ _ reply set, rfl⟩
  · exact .returning rfl

theorem grantExchange_reaches (serves : BrokerServes P signing trace) {request : ExchangeRequest}
    {actor : AuthenticatedActor} (target : authorizeTarget actor request = .ok ())
    (thumbprint : String) (validated : SubjectTokenValidationResult) (requestId : String) :
    Reaches (· ∈ trace) (Grants deps request)
      (grantExchange P deps request actor thumbprint validated requestId) := by
  have loads : Returns (· ∈ trace) (fun _ => True) Act.signingKey :=
    .command fun reply load => ⟨signing, serves.loaded reply load, trivial⟩
  simp only [grantExchange, target]
  refine loads.reaches fun signing _ => ?_
  refine (mint_returns serves _ _).reaches fun token minted => ?_
  obtain ⟨filled, claims, decoded⟩ := minted
  refine .ofExcept_bind decoded ?_
  refine (claimFreshJti_returns serves claims).reaches fun claimed fresh => ?_
  rw [fresh]
  exact .command fun reply _ => ⟨⟨(), rfl⟩, token, filled, rfl⟩

/-- What a request shows and asks for passes every gate. -/
structure Welcome (P : Platform) (deps : TokenRouterDeps) (req : Request)
    (request : ExchangeRequest) (actor : AuthenticatedActor) (trace : List Event) : Prop where
  requested : readExchangeRequest req.body = .ok request
  authenticated : authenticateActor P deps.catalog req = .ok actor
  target : authorizeTarget actor request = .ok ()
  shown : req.headerOrEmpty "dpop" ≠ ""
  proven : Returns (· ∈ trace) (fun _ => True) (verifyExchangeProof P deps.proofVerifier
    (req.headerOrEmpty "dpop") (brokerTokenEndpointHtu P req))
  subject : Returns (· ∈ trace) (fun _ => True) (validateSubjectToken P deps.subjectValidator
    request.subjectToken request.audience)

/-- A request that passes every gate is answered with a token. -/
theorem tokenRouter_reaches {req : Request} {request : ExchangeRequest} {actor : AuthenticatedActor}
    (welcome : Welcome P deps req request actor trace) (serves : BrokerServes P signing trace) :
    Reaches (· ∈ trace) (Grants deps request) (tokenRouter P deps req) := by
  have naming : Returns (· ∈ trace) (fun _ => True) (requestIdOf req) :=
    fun _ _ run _ => (requestIdOf_ok run).imp fun _ same => ⟨same, trivial⟩
  have header (name value : String) :
      Returns (· ∈ trace) (fun _ => True) (Act.setHeader name value) :=
    .command fun reply _ => ⟨(), rfl, trivial⟩
  refine naming.reaches fun requestId _ => (header _ _).reaches fun _ _ =>
    (header _ _).reaches fun _ _ => (header _ _).reaches fun _ _ => .catching ?_ _
  simp only [exchange, welcome.requested, welcome.authenticated, exchangeFor, welcome.shown,
    ↓reduceIte]
  refine welcome.proven.attempt.reaches ?_
  rintro _ ⟨proof, rfl, -⟩
  refine welcome.subject.attempt.reaches ?_
  rintro _ ⟨validated, rfl, -⟩
  exact grantExchange_reaches serves welcome.target proof.jwkThumbprint validated requestId

end Available

end S2s
