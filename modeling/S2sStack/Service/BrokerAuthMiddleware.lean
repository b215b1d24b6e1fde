import S2sStack.Middleware.Auth
import S2sStack.Token.ActorChain

set_option autoImplicit false

/- `lib/brokerAuthMiddleware.ts` of receiving-service and ledger-service, which are copies of
each other up to `sourceDomain`. -/
namespace S2s

open Effect Effect.Program
open Js (Json Obj)

def maxActorChainDepth : Nat := 5

structure BrokerAuthDeps where
  validateToken : ValidateTokenDeps
  verifyDPoP : VerifyDPoPDeps
  expectedAudience : String
  resourcePrefix : String
  sourceDomain : String

/-- Where the services look for the access token: in `Authorization` only. -/
def bearerToken (req : Request) : Except Fault String :=
  let authHeader := req.headerOrEmpty "authorization"
  if authHeader = "" then .error (unauthorized .invalidToken "missing Authorization header")
  else
    match Js.matchTokenScheme authHeader with
    | some accessToken => .ok accessToken
    | none => .error (unauthorized .invalidToken "malformed Authorization header")

def serviceProofInput (req : Request) (accessToken : String) (validated : ValidatedToken) :
    VerifyDPoPInput where
  dpopProof := req.headerOrEmpty "dpop"
  accessToken := some accessToken
  expectedHtm := Js.toUpperCase req.method
  expectedHtu := req.htu
  expectedJkt := validated.cnf.bind CnfClaim.jkt
  requireCnfBinding := true

def checkServiceProof (P : Platform) (deps : BrokerAuthDeps) (req : Request)
    (accessToken : String) (validated : ValidatedToken) : Act Unit :=
  if req.headerOrEmpty "dpop" = "" then
    Act.fail (unauthorized .invalidDpopProof "missing DPoP header")
  else do
    let _ ← verifyDPoP P deps.verifyDPoP (serviceProofInput req accessToken validated)
    return ()

/-- The actor chain of a validated token, which has to be there and not too long. -/
def checkActorChain (validated : ValidatedToken) : Except Fault ActorChain :=
  match extractActorChain validated.raw with
  | none => .error (unauthorized .invalidToken "broker-issued token missing act claim")
  | some chain =>
      if chainDepth (some chain) > maxActorChainDepth then
        .error (unauthorized .invalidToken "actor chain exceeds maximum depth of 5")
      else .ok chain

def serviceUser (validated : ValidatedToken) : UserContext where
  sub := validated.sub
  roles := Js.stringItems (validated.raw.get? "roles")
  groups := Js.stringItems (validated.raw.get? "groups")
  claims := validated.raw
  issuer := validated.iss

/-- `x-correlation-id`, else `x-request-id`, else the request's own id. -/
def requestCorrelationId (req : Request) (requestId : String) : String :=
  ((req.header? "x-correlation-id").or (req.header? "x-request-id")).getD requestId

def serviceContext (deps : BrokerAuthDeps) (req : Request) (requestId : String)
    (validated : ValidatedToken) (chain : ActorChain) : Obj :=
  let user := serviceUser validated
  [("dpop_confirmed", .bool true), ("scopes", strings validated.scope),
    ("source_domain", .str deps.sourceDomain),
    ("correlation_id", .str (requestCorrelationId req requestId)),
    ("user", .obj [("sub", .str user.sub), ("roles", strings user.roles),
      ("groups", strings user.groups)]),
    ("actor_chain", strings (actorChainAsString (some chain)))]

def serviceAuthorizeInput (deps : BrokerAuthDeps) (req : Request) (requestId accessToken : String)
    (validated : ValidatedToken) (chain : ActorChain) : AuthorizeInput where
  principal := "ServicePrincipal::" ++ validated.sub
  action := actionOf req
  resource := deps.resourcePrefix ++ "::" ++ req.path
  token := accessToken
  context := some (serviceContext deps req requestId validated chain)

/-- What the service attaches to a request it lets through. -/
def serviceAuth (accessToken : String) (validated : ValidatedToken) (chain : ActorChain)
    (decision : AuthorizationResult) : RequestAuth :=
  { requestAuth validated decision with
    extras := some { user := serviceUser validated, actorChain := chain, token := accessToken } }

/-- The `try` block behind the extraction of the token, up to the decision. A `send` in it is
the throw of an `AuthError` with the same fields. -/
def evaluateToken (P : Platform) (deps : BrokerAuthDeps) (req : Request)
    (requestId accessToken : String) : Act (RequestAuth × AuthorizationResult) := do
  let validated ← validateToken P deps.validateToken accessToken deps.expectedAudience
  checkServiceProof P deps req accessToken validated
  let chain ← ofExcept (checkActorChain validated)
  let decision ← Act.authorize
    (serviceAuthorizeInput deps req requestId accessToken validated chain)
  return (serviceAuth accessToken validated chain decision, decision)

/-- The handler that `createBrokerAuthMiddleware(deps)` returns. -/
def brokerAuth (P : Platform) (deps : BrokerAuthDeps) (req : Request) : Act Unit := do
  let requestId ← requestIdOf req
  match ← attempt (ofExcept (bearerToken req) >>= evaluateToken P deps req requestId) with
  | .ok (auth, decision) =>
      if decision.decision ≠ .allow then sendError (denial decision) requestId
      else do
        Act.setAuth auth
        Act.next
  | .error err => sendError (rejectionOf err) requestId

/-- The service's configuration, as far as the middleware reads it. -/
structure BrokerServiceConfig where
  brokerJwksUri : String
  brokerIssuer : String
  brokerAudience : String
  resourcePrefix : String
  nonceTtlSeconds : Nat

/-- `createNonceStore(config.redisEndpoint)`, each service with its own prefix. -/
def createNonceStore (keyPrefix : String) : RedisNonceStore where
  ttlSeconds := some 300
  prefix? := some keyPrefix

def serviceDeps (noncePrefix sourceDomain : String) (config : BrokerServiceConfig) :
    BrokerAuthDeps where
  validateToken := { jwksUri := config.brokerJwksUri, expectedIssuer := config.brokerIssuer }
  verifyDPoP := {
    nonceTtlSeconds := some config.nonceTtlSeconds
    nonceStore := some (createNonceStore noncePrefix)
    requireNonce := true }
  expectedAudience := config.brokerAudience
  resourcePrefix := config.resourcePrefix
  sourceDomain := sourceDomain

/-- `buildBrokerAuthMiddleware` of receiving-service. -/
def receivingBrokerAuth (P : Platform) (config : BrokerServiceConfig) : Request → Act Unit :=
  brokerAuth P (serviceDeps "dpop-nonce:" "receiving" config)

/-- `buildBrokerAuthMiddleware` of ledger-service. -/
def ledgerBrokerAuth (P : Platform) (config : BrokerServiceConfig) : Request → Act Unit :=
  brokerAuth P (serviceDeps "ledger-dpop-nonce:" "ledger" config)

/-- The middleware extracts this token, and every run of it validates exactly this token. -/
def HandsOver (P : Platform) (deps : BrokerAuthDeps) (req : Request) (accessToken : String) :
    Prop :=
  bearerToken req = .ok accessToken ∧
    ∀ trace outcome, Runs (brokerAuth P deps req) trace outcome →
      ∃ naming validating rest result, trace = naming ++ (validating ++ rest) ∧
        Runs (validateToken P deps.validateToken accessToken deps.expectedAudience) validating
          result

/-- A sequence starts with a run of its first part. -/
theorem runs_bind_prefix {α β : Type} {first : Act α} {next : α → Act β} {trace : List Event}
    {outcome : Except Fault β} (run : Runs (first >>= next) trace outcome) :
    ∃ before after result, trace = before ++ after ∧ Runs first before result := by
  rcases runs_bind_iff.mp run with ⟨value, before, after, rfl, head, _⟩ | ⟨fault, head, _⟩
  · exact ⟨before, after, .ok value, rfl, head⟩
  · exact ⟨trace, [], .error fault, (List.append_nil _).symm, head⟩

/-- What is extracted is what is validated. -/
theorem handsOver_iff {P : Platform} {deps : BrokerAuthDeps} {req : Request}
    {accessToken : String} :
    HandsOver P deps req accessToken ↔ bearerToken req = .ok accessToken := by
  constructor
  · exact And.left
  · intro extracted
    refine ⟨extracted, fun trace outcome run => ?_⟩
    rw [brokerAuth] at run
    rcases runs_bind_iff.mp run with ⟨requestId, naming, _, rfl, _, rest⟩ | ⟨_, naming, _⟩
    · obtain ⟨attempting, after, result, rfl, attempted⟩ := runs_bind_prefix rest
      obtain ⟨_, evaluated, _⟩ := runs_attempt_iff.mp attempted
      rw [extracted] at evaluated
      change Runs (evaluateToken P deps req requestId accessToken) attempting _ at evaluated
      obtain ⟨validating, further, validated, rfl, validation⟩ := runs_bind_prefix evaluated
      exact ⟨naming, validating, further ++ after, validated, by simp, validation⟩
    · obtain ⟨_, impossible⟩ := requestIdOf_ok naming
      cases impossible

end S2s
