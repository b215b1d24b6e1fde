import S2sStack.Broker.Grant
import S2sStack.TokenTable

set_option autoImplicit false

/- The gates of the exchange endpoint, read off from an answer with an access token. -/
namespace S2s

open Effect Effect.Program
open Js (Json Obj)

/-- A body that is a complete exchange request. -/
structure CompleteRequest (body : Option Json) (request : ExchangeRequest) : Prop where
  grantType : getStringField body "grant_type" = some tokenExchangeGrant
  subjectToken : getStringField body "subject_token" = some request.subjectToken
  subjectTokenType : ∃ type, getStringField body "subject_token_type" = some type ∧
    type ∈ supportedSubjectTokenTypes
  audience : getStringField body "audience" = some request.audience
  scope : ∃ raw, getStringField body "scope" = some raw ∧ request.requestedScopes = parseScopes raw
  words : ∃ raw, getStringField body "scope" = some raw ∧
    Js.Spaced raw.toList request.requestedScopes
  scopes : request.requestedScopes ≠ []

/-- The requested scopes are the words of the text. -/
theorem spaced_parseScopes (raw : String) : Js.Spaced raw.toList (parseScopes raw) := by
  have trimmed : (Js.splitSpace raw).map Js.trim = Js.splitSpace raw := by
    refine (List.map_congr_left fun part member => ?_).trans (List.map_id _)
    exact Js.trim_solid (Js.splitSpace_visible member)
  rw [parseScopes, trimmed]
  exact Js.Spaced.of_filled raw

theorem readExchangeRequest_ok {body : Option Json} {request : ExchangeRequest}
    (complete : readExchangeRequest body = .ok request) : CompleteRequest body request := by
  unfold readExchangeRequest at complete
  split at complete
  · cases complete
  · rename_i grantType
    split at complete
    · rename_i subjectToken subjectTokenType audience scopeRaw one two three four
      split at complete
      · cases complete
      · rename_i supported
        split at complete
        · cases complete
        · rename_i scopes
          cases complete
          exact {
            grantType := not_not.mp grantType
            subjectToken := one
            subjectTokenType := ⟨subjectTokenType, two, not_not.mp supported⟩
            audience := three
            scope := ⟨scopeRaw, four, rfl⟩
            words := ⟨scopeRaw, four, spaced_parseScopes scopeRaw⟩
            scopes := scopes }
    · cases complete

/-- Basic credentials that the catalog accepts for this actor. -/
def HasCredentials (P : Platform) (catalog : ActorCatalog) (req : Request)
    (actor : AuthenticatedActor) : Prop :=
  ∃ secret, parseBasicAuth P (req.header? "authorization") = some (actor.clientId, secret) ∧
    catalog.get actor.clientId = some actor.entry ∧
    catalog.authenticate P actor.clientId secret = true

theorem authenticateActor_ok {P : Platform} {catalog : ActorCatalog} {req : Request}
    {actor : AuthenticatedActor} (passed : authenticateActor P catalog req = .ok actor) :
    HasCredentials P catalog req actor := by
  unfold authenticateActor at passed
  split at passed
  · cases passed
  · rename_i clientId secret parsed
    split at passed
    · rename_i entry found
      split at passed
      · rename_i authentic
        cases passed
        exact ⟨secret, parsed, found, authentic⟩
      · cases passed
    · cases passed

/-- An actor that authenticates has a name. -/
theorem clientId_ne_empty {P : Platform} {header : Option String} {clientId secret : String}
    (parsed : parseBasicAuth P header = some (clientId, secret)) : clientId ≠ "" := by
  simp only [parseBasicAuth, Option.bind_eq_bind, Option.bind_eq_some_iff] at parsed
  obtain ⟨encoded, _, ⟨name, password⟩, _, filled⟩ := parsed
  split at filled
  · cases filled
  · rename_i both
    cases filled
    exact fun empty => both (.inl empty)

theorem authorizeTarget_ok {actor : AuthenticatedActor} {request : ExchangeRequest}
    (passed : authorizeTarget actor request = .ok ()) :
    request.audience ∈ actor.entry.allowedAudiences ∧
      ∀ scope ∈ request.requestedScopes, scope ∈ actor.entry.allowedScopes := by
  unfold authorizeTarget at passed
  dsimp only at passed
  split at passed
  · cases passed
  · rename_i audience
    split at passed
    · cases passed
    · rename_i denied
      refine ⟨not_not.mp audience, fun scope requested => ?_⟩
      have none_denied := not_not.mp denied
      rw [List.filter_eq_nil_iff] at none_denied
      have kept := none_denied scope requested
      simpa using kept

/-- Where the token has a `jti`, the replay store has recorded it. -/
theorem claimFreshJti_ok {deps : TokenRouterDeps} {decoded : Obj} {jti : String}
    {trace : List Event} (present : decoded.get? "jti" = some (.str jti)) (filled : jti ≠ "")
    (run : Runs (claimFreshJti deps decoded) trace (.ok true)) :
    ⟨.redisSet (deps.replayStore.key jti) deps.replayStore.ttlSeconds, .ok true⟩ ∈ trace := by
  simp only [claimFreshJti, present, filled, ↓reduceIte, ReplayStore.claim] at run
  rcases runs_catching_iff.mp run with ⟨value, set, same⟩ | ⟨fault, before, after, rfl, _, failed⟩
  · cases same
    rw [Act.runs_redisSet_iff] at set
    rw [set]
    exact List.mem_singleton_self _
  · cases (runs_pure_iff.mp failed).2

theorem get?_jti_mintedClaims (opts : MintExchangedTokenOptions) (input : MintExchangedTokenInput)
    (nowSec : Nat) (jti : String) :
    Obj.get? "jti" (mintedClaims opts input nowSec jti) = some (.str jti) := rfl

/-- A part of the run in which the verifier accepted this request's proof: it read the clocks,
claimed the proof's `jti` and did nothing else. -/
structure ProvenIn (P : Platform) (opts : ExchangeProofVerifierOptions) (req : Request)
    (thumbprint : String) (part : List Event) : Prop where
  accepted : ∃ result,
    Runs (verifyExchangeProof P opts (req.headerOrEmpty "dpop") (brokerTokenEndpointHtu P req)) part
      (.ok result) ∧ result.jwkThumbprint = thumbprint
  checked : ∃ jwk key currentDate payload nowMs jti,
    AcceptedProof P (exchangeProofDeps opts)
      (exchangeProofInput (req.headerOrEmpty "dpop") (brokerTokenEndpointHtu P req)) jwk key
      currentDate payload nowMs jti thumbprint ∧
    payload.claims.get? "htm" = some (.str "POST") ∧
    payload.claims.get? "htu" = some (.str (brokerTokenEndpointHtu P req)) ∧
    part = [⟨.date, currentDate⟩, ⟨.now, nowMs⟩,
      ⟨.redisSet ((exchangeProofDeps opts).jtiKey jti) (exchangeProofDeps opts).nonceTtl, .ok true⟩]

theorem provenIn_of_runs {P : Platform} {opts : ExchangeProofVerifierOptions} {req : Request}
    {result : DPoPVerificationResult} {part : List Event}
    (run : Runs (verifyExchangeProof P opts (req.headerOrEmpty "dpop")
      (brokerTokenEndpointHtu P req)) part (.ok result)) :
    ProvenIn P opts req result.jwkThumbprint part where
  accepted := ⟨result, run, rfl⟩
  checked := by
    obtain ⟨jwk, key, currentDate, payload, nowMs, jti, thumbprint, consuming, accepted, consume,
      shape, rfl⟩ := verifyDPoP_ok run
    have quiet : consuming = [] := by
      rcases consumeNonce_ok consume with ⟨_, none⟩ | ⟨required, _⟩
      · exact none
      · cases required
    rw [quiet] at shape
    obtain ⟨htm, htu⟩ := checkMethodAndUrl_ok accepted.methodAndUrl
    exact ⟨jwk, key, currentDate, payload, nowMs, jti, accepted, htm, htu, shape⟩

/-- A subject token that one of the two validators accepted, and what its claims say. -/
def SubjectAccepted (P : Platform) (opts : SubjectTokenValidatorOptions) (token : String)
    (validated : SubjectTokenValidationResult) (trace : List Event) : Prop :=
  (∃ payload checkedAt,
    AcceptedUserToken P (userTokenOptions opts) token payload checkedAt trace ∧
      NamesUser payload.claims validated.user ∧ validated.previousActorChain = none) ∨
    ∃ audience payload checkedAt,
      AcceptedUserToken P (brokerTokenOptions opts audience) token payload checkedAt trace ∧
        ResumesUser opts payload.claims validated.user ∧
        validated.previousActorChain = (payload.claims.get? "act").bind buildChain

theorem subjectAccepted_of_runs {P : Platform} (agrees : P.PayloadAgrees)
    {opts : SubjectTokenValidatorOptions} {token requestedAudience : String}
    {result : SubjectTokenValidationResult} {part trace : List Event} (inside : part ⊆ trace)
    (run : Runs (validateSubjectToken P opts token requestedAudience) part (.ok result)) :
    SubjectAccepted P opts token result trace := by
  rcases validateSubjectToken_ok agrees run with
    ⟨payload, checkedAt, asUser, rfl⟩ | ⟨audience, payload, checkedAt, asBroker, rfl⟩
  · exact .inl ⟨payload, checkedAt, asUser.mono inside, namesUser_userContext _, rfl⟩
  · exact .inr ⟨audience, payload, checkedAt, asBroker.mono inside, resumesUser_reentryUser _ _, rfl⟩

/-- The claims of an exchanged token: these, and no other than these and its dates. -/
structure GrantedClaims (deps : TokenRouterDeps) (request : ExchangeRequest)
    (clientId thumbprint : String) (validated : SubjectTokenValidationResult) (claims : Obj) :
    Prop where
  aud : claims.get? "aud" = some (.str request.audience)
  scope : claims.get? "scope" = some (.str (" ".intercalate request.requestedScopes))
  root : validated.previousActorChain = none →
    claims.get? "act" = some (.obj [("sub", .str clientId)])
  via : ∀ chain, validated.previousActorChain = some chain →
    claims.get? "act" = some (.obj [("sub", .str clientId), ("act", chain.toJson)])
  user_issuer : claims.get? "user_issuer" = some (.str validated.user.issuer)
  cnf : claims.get? "cnf" = some (.obj [("jkt", .str thumbprint)])
  sub : claims.get? "sub" = some (.str validated.user.sub)
  roles : claims.get? "roles" = some (.arr (validated.user.roles.map Json.str))
  groups : claims.get? "groups" = some (.arr (validated.user.groups.map Json.str))
  iss : claims.get? "iss" = some (.str deps.brokerIssuerUrl)
  only : ∀ name value, claims.get? name = some value →
    name ∈ ["act", "scope", "user_issuer", "cnf", "roles", "groups", "iss", "sub", "aud", "iat",
      "exp", "jti"]

theorem grantedClaims_minted (deps : TokenRouterDeps) (signing : LoadedSigningKey)
    (request : ExchangeRequest) (clientId thumbprint : String)
    (validated : SubjectTokenValidationResult) (nowSec : Nat) (jti : String) :
    GrantedClaims deps request clientId thumbprint validated
      (mintedClaims (mintOptions deps signing) (mintInput request clientId thumbprint validated)
        nowSec jti) where
  aud := rfl
  scope := rfl
  root first := by
    have act : Obj.get? "act" (mintedClaims (mintOptions deps signing)
        (mintInput request clientId thumbprint validated) nowSec jti) =
        some (composeActorChain clientId validated.previousActorChain).toJson := rfl
    rw [act, first]
    rfl
  via chain previous := by
    have act : Obj.get? "act" (mintedClaims (mintOptions deps signing)
        (mintInput request clientId thumbprint validated) nowSec jti) =
        some (composeActorChain clientId validated.previousActorChain).toJson := rfl
    rw [act, previous]
    rfl
  user_issuer := rfl
  cnf := rfl
  sub := rfl
  roles := rfl
  groups := rfl
  iss := rfl
  only name value found := by
    by_contra other
    rw [Obj.get?_eq_none other] at found
    cases found

/-- An exchange that every gate let through, and the token it gave out. -/
structure SoundExchange (P : Platform) (deps : TokenRouterDeps) (req : Request)
    (request : ExchangeRequest) (actor : AuthenticatedActor) (thumbprint : String)
    (validated : SubjectTokenValidationResult) (token : String) (trace : List Event) : Prop where
  complete : CompleteRequest req.body request
  credentials : HasCredentials P deps.catalog req actor
  proof : ∃ part, part ⊆ trace ∧ ProvenIn P deps.proofVerifier req thumbprint part
  subject : SubjectAccepted P deps.subjectValidator request.subjectToken validated trace
  audience : request.audience ∈ actor.entry.allowedAudiences
  scopes : ∀ scope ∈ request.requestedScopes, scope ∈ actor.entry.allowedScopes
  minted : ∃ claims nowMs jti, P.decodeJwt token = .ok claims ∧
    GrantedClaims deps request actor.clientId thumbprint validated claims ∧
    ⟨.now, nowMs⟩ ∈ trace ∧ claims.get? "iat" = some (.num (toSeconds nowMs)) ∧
    claims.get? "exp" = some (.num (toSeconds nowMs + deps.exchangedTokenTtlSeconds)) ∧
    claims.get? "jti" = some (.str jti) ∧ ⟨.randomUUID, jti⟩ ∈ trace ∧
    ⟨.redisSet (deps.replayStore.key jti) deps.replayStore.ttlSeconds, .ok true⟩ ∈ trace

/-- The endpoint gives out a token only after every gate, and the token says exactly what
the gates established. -/
theorem tokenRouter_sound {P : Platform} (agrees : P.PayloadAgrees) {deps : TokenRouterDeps}
    {req : Request} {trace : List Event} {outcome : Except Fault Unit} {body token : Json}
    (signs : ∀ header claims key signed, ⟨.signJwt header claims key, .ok signed⟩ ∈ trace →
      P.decodeJwt signed = .ok claims)
    (draws : ∀ id, ⟨.randomUUID, id⟩ ∈ trace → id ≠ "")
    (run : Runs (tokenRouter P deps req) trace outcome)
    (answered : ⟨.json 200 body, ()⟩ ∈ trace) (carries : accessTokenOf body = some token) :
    ∃ request actor thumbprint validated minted,
      SoundExchange P deps req request actor thumbprint validated minted trace ∧
      body = exchangeResponse deps request minted := by
  obtain ⟨grant, recorded, same⟩ := tokenRouter_recorded run answered ⟨body, token, rfl, carries⟩
  obtain ⟨proving, inProof, prove⟩ := recorded.proven
  obtain ⟨validating, inSubject, validate⟩ := recorded.subject
  obtain ⟨allowedAudience, allowedScopes⟩ := authorizeTarget_ok recorded.target
  have decodes := signs _ _ _ _ recorded.signed
  have claimed : ⟨.redisSet (deps.replayStore.key grant.jti) deps.replayStore.ttlSeconds,
      .ok true⟩ ∈ trace := by
    obtain ⟨decoded, claiming, decoding, inClaim, claim⟩ := recorded.claimed
    rw [decodes] at decoding
    cases decoding
    have present := get?_jti_mintedClaims (mintOptions deps grant.signing) grant.mintInput
      (toSeconds grant.nowMs) grant.jti
    exact inClaim (claimFreshJti_ok present (draws _ recorded.drawn) claim)
  exact ⟨grant.request, grant.actor, grant.proof.jwkThumbprint, grant.validated, grant.token, {
    complete := readExchangeRequest_ok recorded.requested
    credentials := authenticateActor_ok recorded.authenticated
    proof := ⟨proving, inProof, provenIn_of_runs prove⟩
    subject := subjectAccepted_of_runs agrees inSubject validate
    audience := allowedAudience
    scopes := allowedScopes
    minted := ⟨grant.claims deps, grant.nowMs, grant.jti, decodes,
      grantedClaims_minted _ _ _ _ _ _ _ _, recorded.clock, rfl, rfl, rfl, recorded.drawn, claimed⟩ }, same⟩

section TwoHops

/-! A user token is exchanged by the calling service, and the exchanged token by the
receiving service, each with a proof by its own key. -/

def aliceClaims : Obj :=
  [("iss", .str "https://user"), ("sub", .str "alice"), ("aud", .str "calling-service"),
    ("roles", strings ["clerk"]), ("groups", .str " eu  west "), ("exp", .num 2000)]

/-- The same user with claims planted by whoever issued the token. -/
def plantedClaims : Obj :=
  aliceClaims ++ [("act", .obj [("sub", .str "mallory")]), ("scope", .str "admin"),
    ("user_issuer", .str "https://mallory"), ("cnf", .obj [("jkt", .str "thumbprint-9")])]

def hopProof (jti : String) : JwtPayload := JwtPayload.ofClaims
  [("htm", .str "POST"), ("htu", .str "https://broker/oauth2/token"), ("iat", .num 1000),
    ("jti", .str jti)] rfl

def proofHeader (key : PublicKey) : Obj :=
  [("typ", .str "dpop+jwt"), ("alg", .str "ES256"), ("jwk", .obj (TokenTable.jwkOf key))]

def brokerSigningKey : LoadedSigningKey where
  privateKey := ⟨7⟩
  publicJwk := TokenTable.jwkOf ⟨7⟩
  kid := "broker-key"

def callingEntry : ActorCatalogEntry where
  clientSecretHash := "sha256:aa11"
  allowedAudiences := ["receiving-service"]
  allowedScopes := ["ledger.read", "ledger.write"]
  hashParses := ⟨"aa11", by decide +kernel⟩

def receivingEntry : ActorCatalogEntry where
  clientSecretHash := "sha256:bb22"
  allowedAudiences := ["ledger-service"]
  allowedScopes := ["ledger.write"]
  hashParses := ⟨"bb22", by decide +kernel⟩

def brokerDeps : TokenRouterDeps where
  brokerIssuerUrl := "https://broker"
  dpopRequired := true
  exchangedTokenTtlSeconds := 600
  catalog := ⟨[("calling-service", callingEntry), ("receiving-service", receivingEntry)]⟩
  subjectValidator := {
    brokerIssuerUrl := "https://broker"
    brokerJwksUri := "https://broker/jwks"
    userIssuerUrl := "https://user"
    userIssuerJwksUri := "https://user/jwks"
    userIssuerAudience := "calling-service" }
  replayStore := { ttlSeconds := 600 }
  proofVerifier := {}

/-- An exchange request; its credentials name the actor and its proof has the given name. -/
def hopRequest (subjectToken audience credentials dpopProof : String) : Request where
  method := "POST"
  protocol := "https"
  originalUrl := "/oauth2/token"
  path := "/oauth2/token"
  routePath := some "/oauth2/token"
  headers := [("host", "broker"), ("authorization", credentials), ("dpop", dpopProof)]
  body := some (.obj [("grant_type", .str tokenExchangeGrant),
    ("subject_token", .str subjectToken), ("subject_token_type", .str issuedTokenType),
    ("audience", .str audience), ("scope", .str "ledger.write")])

def firstClaims : Obj :=
  mintedClaims (mintOptions brokerDeps brokerSigningKey)
    (mintInput ⟨"alice-token", "receiving-service", ["ledger.write"]⟩ "calling-service"
      "thumbprint-1" ⟨userContext aliceClaims, none, false⟩) 1000 "id-1"

def secondClaims : Obj :=
  mintedClaims (mintOptions brokerDeps brokerSigningKey)
    (mintInput ⟨"minted-1", "ledger-service", ["ledger.write"]⟩ "receiving-service"
      "thumbprint-2" ⟨reentryUser brokerDeps.subjectValidator firstClaims,
        some (.root "calling-service"), true⟩) 1000 "id-2"

def brokerHeader : Obj := [("alg", .str "RS256"), ("kid", .str "broker-key"), ("typ", .str "JWT")]

def firstRow : SignedToken :=
  ⟨"minted-1", brokerHeader, JwtPayload.ofClaims firstClaims rfl, ⟨7⟩⟩

def secondRow : SignedToken :=
  ⟨"minted-2", brokerHeader, JwtPayload.ofClaims secondClaims rfl, ⟨7⟩⟩

def hopTable : TokenTable where
  tokens := [⟨"alice-token", [("alg", .str "RS256")], JwtPayload.ofClaims aliceClaims rfl, ⟨5⟩⟩,
    ⟨"planted-token", [("alg", .str "RS256")], JwtPayload.ofClaims plantedClaims rfl, ⟨5⟩⟩,
    ⟨"proof-1", proofHeader ⟨1⟩, hopProof "jti-1", ⟨1⟩⟩,
    ⟨"proof-2", proofHeader ⟨2⟩, hopProof "jti-2", ⟨2⟩⟩, firstRow, secondRow]
  hashes := [("secret-1", "aa11"), ("secret-2", "bb22")]
  encoded := [("Y2FsbGluZw==", "calling-service:secret-1"),
    ("cmVjZWl2aW5n", "receiving-service:secret-2")]
  urls := [("https://broker/oauth2/token", ⟨"https:", "broker", "/oauth2/token"⟩)]

def hopServices (signed drawn : String) : SteadyServices where
  moment := 1000000
  keys jwksUri :=
    if jwksUri = "https://user/jwks" then [TokenTable.jwkOf ⟨5⟩]
    else [("kid", .str "broker-key") :: TokenTable.jwkOf ⟨7⟩]
  signing := brokerSigningKey
  signed := signed
  drawn := drawn

def firstRequest (subjectToken : String) : Request :=
  hopRequest subjectToken "receiving-service" "Basic Y2FsbGluZw==" "proof-1"

def firstTrace (subjectToken : String) : List Event :=
  (hopServices "minted-1" "id-1").trace
    (tokenRouter hopTable.platform brokerDeps (firstRequest subjectToken))

/-- A signed token decodes to the signed claims, and a drawn id is not empty. -/
def isFaithful (P : Platform) : Event → Bool
  | ⟨.signJwt _ claims _, .ok signed⟩ => P.decodeJwt signed = .ok claims
  | ⟨.randomUUID, id⟩ => id ≠ ""
  | _ => true

/-- A complete request of an authenticated actor is granted, through every gate. -/
theorem firstRequest_sound :
    ∃ request actor thumbprint validated minted,
      SoundExchange hopTable.platform brokerDeps (firstRequest "alice-token") request actor
        thumbprint validated minted (firstTrace "alice-token") ∧
      exchangeResponse brokerDeps ⟨"alice-token", "receiving-service", ["ledger.write"]⟩
        "minted-1" = exchangeResponse brokerDeps request minted := by
  have faithful : ∀ event ∈ firstTrace "alice-token", isFaithful hopTable.platform event = true := by
    decide +kernel
  exact tokenRouter_sound hopTable.platform_agrees
    (fun _ _ _ _ member => of_decide_eq_true (faithful _ member))
    (fun _ member => of_decide_eq_true (faithful _ member))
    (SteadyServices.runs _ _) (by decide +kernel) rfl

end TwoHops

end S2s
