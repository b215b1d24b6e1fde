import S2sStack.Broker.ActorCatalog
import S2sStack.Broker.SubjectToken
import S2sStack.Broker.TokenMinter
import S2sStack.Dpop.ExchangeProof

set_option autoImplicit false

/- `routes/token.ts`: the token-exchange endpoint. -/
namespace S2s

open Effect Effect.Program
open Js (Json Obj)

structure ReplayStore where
  ttlSeconds : Nat
  keyPrefix : Option String := none

namespace ReplayStore

def key (store : ReplayStore) (jti : String) : String := store.keyPrefix.getD "broker:jti:" ++ jti

/-- Whether the `jti` is fresh; an error of Redis counts as a replay. -/
def claim (store : ReplayStore) (jti : String) : Act Bool :=
  catching (Act.redisSet (store.key jti) store.ttlSeconds) fun _ => return false

end ReplayStore

structure TokenRouterDeps where
  brokerIssuerUrl : String
  dpopRequired : Bool
  exchangedTokenTtlSeconds : Rat
  catalog : ActorCatalog
  subjectValidator : SubjectTokenValidatorOptions
  replayStore : ReplayStore
  proofVerifier : ExchangeProofVerifierOptions

/-- `GRANT_TYPE` -/
def tokenExchangeGrant : String := "urn:ietf:params:oauth:grant-type:token-exchange"

/-- `ISSUED_TOKEN_TYPE` -/
def issuedTokenType : String := "urn:ietf:params:oauth:token-type:jwt"

/-- `SUPPORTED_SUBJECT_TOKEN_TYPES` -/
def supportedSubjectTokenTypes : List String :=
  ["urn:ietf:params:oauth:token-type:access_token", "urn:ietf:params:oauth:token-type:jwt"]

/-- An error answer of the endpoint. -/
structure OauthError where
  status : Nat
  code : String
  description : String

def oauthError (err : OauthError) (requestId : String) : Act Unit :=
  Act.json err.status (.obj [("error", .str err.code), ("error_description", .str err.description),
    ("request_id", .str requestId)])

def parseBasicAuth (P : Platform) (header : Option String) : Option (String × String) := do
  let encoded ← Js.afterWord "Basic ".toList (header.getD "").toList
  let (clientId, secret) ← Js.splitFirst ':' (P.base64ToText (Js.trim (String.ofList encoded)))
  if clientId = "" ∨ secret = "" then none else some (clientId, secret)

/-- A field of the form body that is a text and not empty. -/
def getStringField (body : Option Json) (field : String) : Option String :=
  match body with
  | some (.obj fields) =>
      match Obj.get? field fields with
      | some (.str value) => if value = "" then none else some value
      | _ => none
  | _ => none

def parseScopes (raw : String) : List String :=
  ((Js.splitSpace raw).map Js.trim).filter (· ≠ "")

/-- The fields of a well-formed exchange request. -/
structure ExchangeRequest where
  subjectToken : String
  audience : String
  requestedScopes : List String

/-- Parse and require fields. -/
def readExchangeRequest (body : Option Json) : Except OauthError ExchangeRequest :=
  if getStringField body "grant_type" ≠ some tokenExchangeGrant then
    .error ⟨400, "unsupported_grant_type", "expected grant_type=" ++ tokenExchangeGrant⟩
  else
    match getStringField body "subject_token", getStringField body "subject_token_type",
      getStringField body "audience", getStringField body "scope" with
    | some subjectToken, some subjectTokenType, some audience, some scopeRaw =>
        if subjectTokenType ∉ supportedSubjectTokenTypes then
          .error ⟨400, "invalid_request", "unsupported subject_token_type: " ++ subjectTokenType⟩
        else if parseScopes scopeRaw = [] then
          .error ⟨400, "invalid_scope", "scope must not be empty"⟩
        else .ok ⟨subjectToken, audience, parseScopes scopeRaw⟩
    | _, _, _, _ =>
        .error ⟨400, "invalid_request",
          "subject_token, subject_token_type, audience, and scope are required"⟩

/-- The actor that the Basic credentials name, with its catalog entry. -/
structure AuthenticatedActor where
  clientId : String
  entry : ActorCatalogEntry

def authenticateActor (P : Platform) (catalog : ActorCatalog) (req : Request) :
    Except OauthError AuthenticatedActor :=
  match parseBasicAuth P (req.header? "authorization") with
  | none => .error ⟨401, "invalid_client", "client_secret_basic authentication required"⟩
  | some (clientId, secret) =>
      match catalog.get clientId with
      | some entry =>
          if catalog.authenticate P clientId secret then .ok ⟨clientId, entry⟩
          else .error ⟨401, "invalid_client", "unknown client or bad credentials"⟩
      | none => .error ⟨401, "invalid_client", "unknown client or bad credentials"⟩

/-- Audience and scope authorization. -/
def authorizeTarget (actor : AuthenticatedActor) (request : ExchangeRequest) :
    Except OauthError Unit :=
  let deniedScopes := request.requestedScopes.filter (· ∉ actor.entry.allowedScopes)
  if request.audience ∉ actor.entry.allowedAudiences then
    .error ⟨403, "invalid_target",
      "actor " ++ actor.clientId ++ " cannot target " ++ request.audience⟩
  else if deniedScopes ≠ [] then
    .error ⟨400, "invalid_scope",
      "actor " ++ actor.clientId ++ " not permitted scopes: " ++ ",".intercalate deniedScopes⟩
  else .ok ()

def mintOptions (deps : TokenRouterDeps) (signing : LoadedSigningKey) :
    MintExchangedTokenOptions where
  privateKey := signing.privateKey
  kid := signing.kid
  issuer := deps.brokerIssuerUrl
  ttlSeconds := deps.exchangedTokenTtlSeconds

/-- The key binding is that of this request's proof, not the one of the subject token. -/
def mintInput (request : ExchangeRequest) (actorClientId proofThumbprint : String)
    (validated : SubjectTokenValidationResult) : MintExchangedTokenInput where
  user := validated.user
  audience := request.audience
  scopes := request.requestedScopes
  actorClientId := actorClientId
  previousActorChain := validated.previousActorChain
  confirmationJkt := proofThumbprint

/-- Replay check on the freshly issued `jti`; a token without one passes. -/
def claimFreshJti (deps : TokenRouterDeps) (decoded : Obj) : Act Bool :=
  match decoded.get? "jti" with
  | some (.str jti) => if jti = "" then return true else deps.replayStore.claim jti
  | _ => return true

def exchangeResponse (deps : TokenRouterDeps) (request : ExchangeRequest) (token : String) : Json :=
  .obj [("access_token", .str token), ("issued_token_type", .str issuedTokenType),
    ("token_type", .str (if deps.dpopRequired then "DPoP" else "Bearer")),
    ("expires_in", .num deps.exchangedTokenTtlSeconds),
    ("scope", .str (joinScopes request.requestedScopes))]

/-- Everything after the subject token has been validated. -/
def grantExchange (P : Platform) (deps : TokenRouterDeps) (request : ExchangeRequest)
    (actor : AuthenticatedActor) (proofThumbprint : String)
    (validated : SubjectTokenValidationResult) (requestId : String) : Act Unit :=
  match authorizeTarget actor request with
  | .error err => oauthError err requestId
  | .ok _ => do
      let signing ← Act.signingKey
      let token ← mintExchangedToken (mintOptions deps signing)
        (mintInput request actor.clientId proofThumbprint validated)
      let decoded ← ofExcept (P.decodeJwt token)
      let claimed ← claimFreshJti deps decoded
      if claimed then Act.json 200 (exchangeResponse deps request token)
      else oauthError ⟨401, "invalid_token", "jti replay detected"⟩ requestId

/-- `err instanceof AuthError ? err.status : 401` -/
def proofStatus : Fault → Nat
  | .auth err => err.status
  | .error _ _ => 401

/-- The answer to an actor that is authenticated and to a request that is complete. -/
def exchangeFor (P : Platform) (deps : TokenRouterDeps) (req : Request)
    (request : ExchangeRequest) (actor : AuthenticatedActor) (requestId : String) : Act Unit :=
  let dpopProof := req.headerOrEmpty "dpop"
  if dpopProof = "" then
    oauthError ⟨400, "invalid_dpop_proof",
      "DPoP proof header is required on the exchange request"⟩ requestId
  else do
    let verification ← attempt
      (verifyExchangeProof P deps.proofVerifier dpopProof (brokerTokenEndpointHtu P req))
    match verification with
    | .error err => oauthError ⟨proofStatus err, "invalid_dpop_proof", err.message⟩ requestId
    | .ok proof =>
        let validation ← attempt
          (validateSubjectToken P deps.subjectValidator request.subjectToken request.audience)
        match validation with
        | .error err => oauthError ⟨401, "invalid_token", err.message⟩ requestId
        | .ok validated =>
            grantExchange P deps request actor proof.jwkThumbprint validated requestId

/-- The `try` block. -/
def exchange (P : Platform) (deps : TokenRouterDeps) (req : Request) (requestId : String) :
    Act Unit :=
  match readExchangeRequest req.body with
  | .error err => oauthError err requestId
  | .ok request =>
      match authenticateActor P deps.catalog req with
      | .error err => do
          Act.setHeader "www-authenticate" "Basic realm=\"token-broker\""
          oauthError err requestId
      | .ok actor => exchangeFor P deps req request actor requestId

/-- The `catch` block. -/
def serverError (requestId : String) (err : Fault) : Act Unit := do
  let timestamp ← Act.timestamp
  let body := errorFields .invalidToken err.message requestId timestamp
  Act.json 500 (.obj (Obj.set "error" (.str "server_error") body))

def tokenRouter (P : Platform) (deps : TokenRouterDeps) (req : Request) : Act Unit := do
  let requestId ← requestIdOf req
  Act.setHeader "x-request-id" requestId
  Act.setHeader "cache-control" "no-store"
  Act.setHeader "pragma" "no-cache"
  catching (exchange P deps req requestId) (serverError requestId)

end S2s
