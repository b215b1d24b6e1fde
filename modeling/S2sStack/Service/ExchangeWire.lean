import S2sStack.Broker.TokenEndpoint
import S2sStack.Client.Flows
import S2sStack.Js.Words

set_option autoImplicit false

/- An exchange request on its way: what the SDK encodes and signs, and what the broker reads. -/
namespace S2s

open Effect.Program
open Js (Json Obj HeaderRecord)

namespace ExchangeTokenInput

variable (input : ExchangeTokenInput) (opts : ExchangeTokenOptions)

def requestedAudience : String := input.audience.getD opts.audience

def requestedScopes : List String := input.scope.getD opts.scope

end ExchangeTokenInput

/-- An exchange request and its arrival at the broker, with the standard encodings: the body
parser gives the form fields back, and the Base64 text stands for the credentials. -/
structure SentExchange (P : Platform) (L : ClientLibrary) where
  opts : ExchangeTokenOptions
  input : ExchangeTokenInput
  secret : String
  proof : String
  arrival : Arrival
  secretFilled : secret ≠ ""
  subjectFilled : input.subjectToken ≠ ""
  subjectType : input.subjectTokenType.getD accessTokenType ∈ supportedSubjectTokenTypes
  audienceFilled : input.requestedAudience opts ≠ ""
  scopesFilled : input.requestedScopes opts ≠ []
  words : ∀ scope ∈ input.requestedScopes opts, Js.Word scope
  encoded : Js.Word (L.textToBase64 (opts.actorClientId ++ ":" ++ secret))
  decoded : P.base64ToText (L.textToBase64 (opts.actorClientId ++ ":" ++ secret)) =
    opts.actorClientId ++ ":" ++ secret
  parsed : arrival.body = some (.obj ((exchangeParams opts input).map fun param =>
    (param.1, .str param.2)))

namespace SentExchange

variable {P : Platform} {L : ClientLibrary} (sent : SentExchange P L)

def actorId : String := sent.opts.actorClientId

def scopes : List String := sent.input.requestedScopes sent.opts

/-- The request as the broker's router gets it. -/
def request : Request :=
  deliver (exchangeRequest L sent.opts sent.input sent.secret sent.proof) sent.arrival

/-- The fields as they were given to the SDK. -/
def fields : ExchangeRequest where
  subjectToken := sent.input.subjectToken
  audience := sent.input.requestedAudience sent.opts
  requestedScopes := sent.scopes

/-- The broker reads what was given to the SDK, an actor of the catalog with the right secret is
authenticated, and the SDK returns the scopes that were requested. -/
structure RoundTrips : Prop where
  credentials : parseBasicAuth P (sent.request.header? "authorization") =
    some (sent.actorId, sent.secret)
  fields : readExchangeRequest sent.request.body = .ok sent.fields
  authenticates : ∀ (catalog : ActorCatalog) (entry : ActorCatalogEntry),
    catalog.get sent.actorId = some entry →
    catalog.authenticate P sent.actorId sent.secret = true →
      authenticateActor P catalog sent.request = .ok ⟨sent.actorId, entry⟩
  scopes : ∀ (deps : TokenRouterDeps) (token : String) (accessToken : Json) (nowMs : Millis)
    (result : ExchangeTokenResult),
    exchangeResult sent.opts sent.input (exchangeResponse deps sent.fields token) accessToken nowMs =
      .ok result → result.scopes = sent.scopes

variable {sent}

theorem authorization_header : sent.request.headerOrEmpty "authorization" =
    "Basic " ++ L.textToBase64 (sent.actorId ++ ":" ++ sent.secret) := by
  have single : (exchangeRequest L sent.opts sent.input sent.secret sent.proof).headers.valuesOf
      "authorization" = ["Basic " ++ L.textToBase64 (sent.actorId ++ ":" ++ sent.secret)] := by
    have accept : Js.toLowerCase "accept" = "accept" := by decide
    have dpop : Js.toLowerCase "DPoP" = "dpop" := by decide
    simp [exchangeRequest, HeaderRecord.valuesOf, accept, dpop, actorId]
  rw [request, deliver_header single]
  exact sent.encoded.kept_behind "Basic " rfl (by decide)

/-- What the broker reads out of the credentials. -/
theorem parseBasicAuth_eq :
    parseBasicAuth P (sent.request.header? "authorization") =
      (Js.splitFirst ':' (sent.actorId ++ ":" ++ sent.secret)).bind fun parts =>
        if parts.1 = "" ∨ parts.2 = "" then none else some parts := by
  have header : (sent.request.header? "authorization").getD "" = _ := authorization_header
  have encoded := Js.afterWord_append "Basic ".toList
    (L.textToBase64 (sent.actorId ++ ":" ++ sent.secret)).toList
  rw [← String.toList_append] at encoded
  have trimmed : Js.trim (L.textToBase64 (sent.actorId ++ ":" ++ sent.secret)) = _ :=
    Js.trim_solid sent.encoded.solid
  have decoded : P.base64ToText (L.textToBase64 (sent.actorId ++ ":" ++ sent.secret)) = _ :=
    sent.decoded
  rw [parseBasicAuth, header, encoded, Option.bind_eq_bind, Option.bind_some,
    String.ofList_toList, trimmed, decoded]
  rfl

/-- The credentials come back exactly where the actor id is a text without a colon. -/
theorem parseBasicAuth_iff :
    parseBasicAuth P (sent.request.header? "authorization") = some (sent.actorId, sent.secret) ↔
      sent.actorId ≠ "" ∧ ':' ∉ sent.actorId.toList := by
  rw [parseBasicAuth_eq, Option.bind_eq_some_iff]
  constructor
  · rintro ⟨parts, split, kept⟩
    by_cases missing : parts.1 = "" ∨ parts.2 = ""
    · rw [if_pos missing] at kept
      cases kept
    · rw [if_neg missing] at kept
      cases kept
      exact ⟨fun empty => missing (.inl empty), Js.splitFirst_eq_iff.mp split⟩
  · rintro ⟨filled, colonless⟩
    refine ⟨_, Js.splitFirst_eq_iff.mpr colonless, if_neg ?_⟩
    rintro (empty | empty)
    · exact filled empty
    · exact sent.secretFilled empty

theorem get?_texts (params : List (String × String)) (name : String) :
    Obj.get? name (params.map fun param => (param.1, Json.str param.2)) =
      (params.lookup name).map Json.str := by
  induction params with
  | nil => rfl
  | cons param rest ih =>
      rw [List.map_cons, Obj.get?, List.lookup_cons, ih]
      by_cases same : param.1 = name
      · simp [same]
      · have other : (name == param.1) = false := by
          rw [beq_eq_false_iff_ne]
          exact Ne.symm same
        rw [if_neg same, other]

/-- A form field that is filled is found under its name. -/
theorem getStringField_body (sent : SentExchange P L) (name : String) {value : String}
    (given : (exchangeParams sent.opts sent.input).lookup name = some value) (filled : value ≠ "") :
    getStringField sent.request.body name = some value := by
  have body : sent.request.body = _ := sent.parsed
  simp only [getStringField, body, get?_texts, given, Option.map_some, filled, ↓reduceIte]

theorem parseScopes_joined {scopes : List String} (filled : scopes ≠ [])
    (words : ∀ scope ∈ scopes, Js.Word scope) : parseScopes (" ".intercalate scopes) = scopes := by
  have trimmed : scopes.map Js.trim = scopes := by
    rw [List.map_congr_left fun scope member => Js.trim_solid (words scope member).solid]
    exact List.map_id' scopes
  rw [parseScopes, Js.splitSpace_intercalate filled words, trimmed, List.filter_eq_self]
  intro scope member
  simpa using (words scope member).filled

theorem joined_filled {scopes : List String} (filled : scopes ≠ [])
    (words : ∀ scope ∈ scopes, Js.Word scope) : " ".intercalate scopes ≠ "" := by
  intro empty
  have split := Js.splitSpace_intercalate filled words
  rw [empty] at split
  have single : Js.splitSpace "" = [""] := by decide
  rw [single] at split
  exact (words "" (by simp [← split])).filled rfl

theorem readExchangeRequest_body : readExchangeRequest sent.request.body = .ok sent.fields := by
  have spelled : exchangeParams sent.opts sent.input =
      [("grant_type", grantType), ("subject_token", sent.input.subjectToken),
        ("subject_token_type", sent.input.subjectTokenType.getD accessTokenType),
        ("audience", sent.input.requestedAudience sent.opts),
        ("scope", " ".intercalate sent.scopes),
        ("requested_token_use", "on_behalf_of")] := by
    have filled : ¬ sent.input.scope.getD sent.opts.scope = [] := sent.scopesFilled
    simp only [exchangeParams, filled, ↓reduceIte]
    rfl
  have typed : sent.input.subjectTokenType.getD accessTokenType ≠ "" := by
    intro empty
    have supported := sent.subjectType
    rw [empty] at supported
    revert supported
    decide
  have grant := getStringField_body sent "grant_type" (by rw [spelled]; rfl)
    (by decide : grantType ≠ "")
  have subject := getStringField_body sent "subject_token" (by rw [spelled]; rfl)
    sent.subjectFilled
  have subjectType := getStringField_body sent "subject_token_type"
    (by rw [spelled]; rfl) typed
  have audience := getStringField_body sent "audience" (by rw [spelled]; rfl)
    sent.audienceFilled
  have joined : " ".intercalate sent.scopes ≠ "" := joined_filled sent.scopesFilled sent.words
  have scope := getStringField_body sent "scope" (by rw [spelled]; rfl) joined
  have expected : some grantType = some tokenExchangeGrant := rfl
  have scopes : parseScopes (" ".intercalate sent.scopes) = sent.scopes :=
    parseScopes_joined sent.scopesFilled sent.words
  have supported : ¬ sent.input.subjectTokenType.getD accessTokenType ∉ supportedSubjectTokenTypes :=
    not_not.mpr sent.subjectType
  have some_scope : ¬ sent.scopes = [] := sent.scopesFilled
  simp only [readExchangeRequest, grant, expected, subject, subjectType, audience, scope, scopes,
    supported, some_scope, ne_eq, not_true_eq_false, ↓reduceIte]
  rfl

/-- An exchange request goes round exactly where the actor id is a text without a colon. -/
theorem roundTrips_iff : sent.RoundTrips ↔ sent.actorId ≠ "" ∧ ':' ∉ sent.actorId.toList := by
  constructor
  · intro trip
    exact parseBasicAuth_iff.mp trip.credentials
  · intro plain
    have credentials := parseBasicAuth_iff.mpr plain
    refine ⟨credentials, readExchangeRequest_body, ?_, ?_⟩
    · intro catalog entry catalogued right
      simp only [authenticateActor, credentials, catalogued, right, ↓reduceIte]
    · intro deps token accessToken nowMs result returned
      have text : joinScopes sent.fields.requestedScopes = " ".intercalate sent.scopes := rfl
      have granted : grantedScopes (sent.input.scope.getD sent.opts.scope)
          (brokerField (exchangeResponse deps sent.fields token) "scope") = .ok sent.scopes := by
        have found : brokerField (exchangeResponse deps sent.fields token) "scope" =
            some (.str (" ".intercalate sent.scopes)) := rfl
        have filled : " ".intercalate sent.scopes ≠ "" :=
          joined_filled sent.scopesFilled sent.words
        have split : Js.splitSpace (" ".intercalate sent.scopes) = sent.scopes :=
          Js.splitSpace_intercalate sent.scopesFilled sent.words
        rw [found, grantedScopes, split, if_neg filled]
      rw [exchangeResult, granted] at returned
      cases returned
      rfl

end SentExchange

section Colon

/-- The Base64 text of the credentials of an actor whose id has a colon. -/
def colonTable : TokenTable where
  tokens := []
  encoded := [("dGVhbTpvcmRlcnM6czNjcmV0", "team:orders:s3cret")]

def colonLibrary : ClientLibrary where
  toLatticeLibrary := taskRoleLibrary
  textToBase64 text := if text = "team:orders:s3cret" then "dGVhbTpvcmRlcnM6czNjcmV0" else ""

def colonOptions : ExchangeTokenOptions where
  brokerUrl := "https://broker/oauth2/token"
  actorClientId := "team:orders"
  audience := "ledger"
  scope := ["ledger/write"]

theorem ledgerScope_words : ∀ scope ∈ ["ledger/write"], Js.Word scope := by
  intro scope member
  rw [List.mem_singleton.mp member]
  exact Js.Word.of_visible (by decide) (by decide)

def colonExchange : SentExchange colonTable.platform colonLibrary where
  opts := colonOptions
  input := { subjectToken := "token" }
  secret := "s3cret"
  proof := "proof"
  arrival := {
    protocol := "https"
    originalUrl := "/oauth2/token"
    path := "/oauth2/token"
    routePath := some "/oauth2/token"
    addedHeaders := []
    body := some (.obj ((exchangeParams colonOptions { subjectToken := "token" }).map fun param =>
      (param.1, .str param.2))) }
  secretFilled := by decide
  subjectFilled := by decide
  subjectType := by decide
  audienceFilled := by decide
  scopesFilled := by decide
  words := ledgerScope_words
  encoded := Js.Word.of_visible (by decide) (by decide)
  decoded := rfl
  parsed := rfl

/-- The broker takes what is in front of the first colon for the actor. -/
theorem colon_splits :
    ¬ ∀ (P : Platform) (L : ClientLibrary) (sent : SentExchange P L), sent.RoundTrips := by
  intro holds
  have trip := holds _ _ colonExchange
  have plain := SentExchange.parseBasicAuth_iff.mp trip.credentials
  exact plain.2 (by decide)

end Colon

/-- The route of `POST /oauth2/token`: any case, with or without a slash at the end. -/
def routesToTokenEndpoint (pathname : String) : Bool :=
  Js.toLowerCase pathname ∈ ["/oauth2/token", "/oauth2/token/"]

/-- A request to a URL that reaches the token endpoint, over the scheme of the URL and with its
host; the host that the URL parser writes is parsed to itself. -/
structure ReachedBroker (P : Platform) (brokerUrl : String) where
  url : Url
  arriving : Arriving
  parsed : P.parseUrl brokerUrl = some url
  routed : routesToTokenEndpoint url.pathname = true
  path : arriving.path = url.pathname
  host : arriving.headers.lookup "host" = some url.host
  scheme : arriving.protocol ++ ":" = url.protocol
  reparsed : P.parseUrl (url.protocol ++ "//" ++ url.host ++ "/oauth2/token") =
    some { url with pathname := "/oauth2/token" }

/-- The endpoint of a broker as it is spelled in the proofs that the broker accepts. -/
def Url.tokenEndpoint (url : Url) : String := url.protocol ++ "//" ++ url.host ++ "/oauth2/token"

namespace ReachedBroker

variable {P : Platform} {L : ClientLibrary} {opts : ExchangeTokenOptions}
  {input : ExchangeTokenInput}

/-- Whatever the SDK signs for an exchange names the method and the URL that the broker expects. -/
structure SignerAgrees (L : ClientLibrary) (opts : ExchangeTokenOptions)
    (input : ExchangeTokenInput) (reached : ReachedBroker P opts.brokerUrl) : Prop where
  htu : ∀ trace outcome, Runs (exchangeToken P L opts input) trace outcome →
    ∀ header claims key reply, ⟨.signJwt header claims key, reply⟩ ∈ trace →
      claims.get? "htu" = some (.str (reached.arriving.expectedHtu P))
  admitted : ∀ trace outcome, Runs (exchangeToken P L opts input) trace outcome →
    ∀ header claims key reply, ⟨.signJwt header claims key, reply⟩ ∈ trace →
      ∀ (proof : String) (payload : JwtPayload), payload.claims = claims →
        checkMethodAndUrl (exchangeProofInput proof (reached.arriving.expectedHtu P)) payload = .ok ()

theorem expectedHtu_eq {brokerUrl : String} (reached : ReachedBroker P brokerUrl) :
    reached.arriving.expectedHtu P = reached.url.tokenEndpoint := by
  have origin : reached.arriving.request.protocol ++ "://" ++
      reached.arriving.request.headerOrEmpty "host" ++ "/oauth2/token" =
      reached.url.protocol ++ "//" ++ reached.url.host ++ "/oauth2/token" := by
    have host : reached.arriving.request.headerOrEmpty "host" = reached.url.host := by
      simp only [Request.headerOrEmpty, Request.header?, Arriving.request, reached.host,
        Option.getD_some]
    have colon : "://" = ":" ++ "//" := by decide
    rw [host, ← reached.scheme, colon, ← String.append_assoc]
    rfl
  have slash : Js.dropTrailingSlash "/oauth2/token" = "/oauth2/token" := by decide
  rw [Arriving.expectedHtu, brokerTokenEndpointHtu, origin, canonicalizeHtu, reached.reparsed]
  simp only [slash, Url.tokenEndpoint]

/-- What an exchange signs. -/
theorem signed_claims {trace : List ClientEvent} {outcome : Except Fault ExchangeTokenResult}
    (run : Runs (exchangeToken P L opts input) trace outcome) {header claims : Obj}
    {key : PrivateKey} {reply : Except LibraryError String}
    (member : ⟨.signJwt header claims key, reply⟩ ∈ trace) :
    ∃ jti nowMs, claims = dpopClaims { htm := "POST", htu := opts.brokerUrl } jti [] nowMs := by
  have signing : ∃ events result,
      SigningRun P { htm := "POST", htu := opts.brokerUrl } events result ∧
        ⟨.signJwt header claims key, reply⟩ ∈ events := by
    cases exchangeToken_run run with
    | secretless err => simp at member
    | unsigned secret signing fault signed =>
        refine ⟨signing, _, signed, ?_⟩
        simpa using member
    | unanswered secret signing dpop err fault signed =>
        refine ⟨signing, _, signed, ?_⟩
        simpa using member
    | refused secret signing dpop response fault signed _ =>
        refine ⟨signing, _, signed, ?_⟩
        simpa using member
    | granted secret signing dpop response accessToken nowMs signed _ =>
        refine ⟨signing, _, signed, ?_⟩
        simpa using member
  obtain ⟨events, result, signed, inside⟩ := signing
  obtain ⟨_, jti, ath, nowMs, -, -, -, hashed, same⟩ := signed.of_signJwt inside
  cases hashed
  exact ⟨jti, nowMs, same⟩

/-- An exchange may well come to its signature. -/
theorem exists_signing (P : Platform) (L : ClientLibrary) (opts : ExchangeTokenOptions)
    (input : ExchangeTokenInput) :
    ∃ trace outcome header jti nowMs key reply, Runs (exchangeToken P L opts input) trace outcome ∧
      ⟨.signJwt header (dpopClaims { htm := "POST", htu := opts.brokerUrl } jti [] nowMs) key,
        reply⟩ ∈ trace := by
  let key : ActiveKey := ⟨[], ⟨0⟩⟩
  let failure : LibraryError := ⟨none, ""⟩
  let signing : ClientEvent := ⟨.signJwt (dpopHeader key)
    (dpopClaims { htm := "POST", htu := opts.brokerUrl } "" [] 0) key.privateKey, .error failure⟩
  have signed : Runs (signDPoP P { htm := "POST", htu := opts.brokerUrl })
      [⟨.randomUUID, ""⟩, ⟨.activeKey, .ok key⟩, ⟨.date, (0 : Millis)⟩, signing]
      (.error failure.fault) := by
    rw [signDPoP, Client.randomUUID, runs_reply_bind_cons_iff]
    apply Runs.ofExcept_bind rfl
    rw [Client.activeKey, runs_command_bind_iff]
    refine ⟨.ok key, _, rfl, .inl ⟨key, rfl, ?_⟩⟩
    rw [Client.date, runs_reply_bind_cons_iff, Client.signJwt, runs_command_bind_iff]
    exact ⟨.error failure, [], rfl, .inr ⟨failure.fault, rfl, rfl, rfl⟩⟩
  have run : Runs (exchangeToken P L opts input) (⟨.actorClientSecret, .ok ""⟩ ::
      [⟨.randomUUID, ""⟩, ⟨.activeKey, .ok key⟩, ⟨.date, (0 : Millis)⟩, signing])
      (.error failure.fault) := by
    rw [exchangeToken, Client.actorClientSecret, runs_command_bind_iff]
    exact ⟨.ok "", _, rfl, .inl ⟨"", rfl, signed.bind_error⟩⟩
  refine ⟨_, _, dpopHeader key, "", 0, key.privateKey, .error failure, run, ?_⟩
  simp [signing]

/-- Signer and verifier agree exactly where the URL is spelled as the broker spells it. -/
theorem signerAgrees_iff (reached : ReachedBroker P opts.brokerUrl) :
    SignerAgrees L opts input reached ↔ opts.brokerUrl = reached.url.tokenEndpoint := by
  constructor
  · intro agrees
    obtain ⟨trace, outcome, header, jti, nowMs, key, reply, run, member⟩ :=
      exists_signing P L opts input
    have named := agrees.htu trace outcome run _ _ _ _ member
    rw [expectedHtu_eq] at named
    exact Json.str.inj (Option.some.inj named)
  · intro spelled
    constructor
    · intro trace outcome run header claims key reply member
      obtain ⟨jti, nowMs, rfl⟩ := signed_claims run member
      rw [expectedHtu_eq, ← spelled]
      rfl
    · intro trace outcome run header claims key reply member proof payload same
      obtain ⟨jti, nowMs, rfl⟩ := signed_claims run member
      have method : (dpopClaims { htm := "POST", htu := opts.brokerUrl } jti [] nowMs).get? "htm" =
          some (.str "POST") := rfl
      have url : (dpopClaims { htm := "POST", htu := opts.brokerUrl } jti [] nowMs).get? "htu" =
          some (.str opts.brokerUrl) := rfl
      rw [expectedHtu_eq, ← spelled, checkMethodAndUrl, same, method, url]
      exact if_pos ⟨(Js.isText_iff _ _).mpr rfl, (Js.isText_iff _ _).mpr rfl⟩

end ReachedBroker

section Slash

def slashTable : TokenTable where
  tokens := []
  urls := [("https://broker/oauth2/token/", ⟨"https:", "broker", "/oauth2/token/"⟩),
    ("https://broker/oauth2/token", ⟨"https:", "broker", "/oauth2/token"⟩)]

def slashOptions : ExchangeTokenOptions where
  brokerUrl := "https://broker/oauth2/token/"
  actorClientId := "orders"
  audience := "ledger"
  scope := ["ledger/write"]

/-- The endpoint with a slash at its end is the same route. -/
def slashReached : ReachedBroker slashTable.platform slashOptions.brokerUrl where
  url := ⟨"https:", "broker", "/oauth2/token/"⟩
  arriving := {
    forwardedRequest "broker" "proof" [] with
    originalUrl := "/oauth2/token/"
    path := "/oauth2/token/" }
  parsed := rfl
  routed := by decide
  path := rfl
  host := rfl
  scheme := by decide
  reparsed := rfl

/-- The SDK signs the slash, and the broker expects none. -/
theorem slash_disagrees :
    ¬ ∀ (P : Platform) (L : ClientLibrary) (opts : ExchangeTokenOptions)
        (input : ExchangeTokenInput) (reached : ReachedBroker P opts.brokerUrl),
      ReachedBroker.SignerAgrees L opts input reached := by
  intro holds
  have agrees := holds _ colonLibrary slashOptions { subjectToken := "token" } slashReached
  obtain ⟨trace, outcome, header, jti, nowMs, key, reply, run, member⟩ :=
    ReachedBroker.exists_signing slashTable.platform colonLibrary slashOptions
      { subjectToken := "token" }
  have named := agrees.htu trace outcome run _ _ _ _ member
  rw [ReachedBroker.expectedHtu_eq] at named
  have same : "https://broker/oauth2/token/" = slashReached.url.tokenEndpoint :=
    Json.str.inj (Option.some.inj named)
  revert same
  decide

end Slash

end S2s
