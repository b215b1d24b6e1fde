import S2sStack.Client.Outbound

set_option autoImplicit false

/- The outbound flows: a token exchange, and one or two requests with the exchanged token. -/
namespace S2s

open Effect.Program
open Js (Json Obj HeaderRecord)

/-- The library code under the clients. -/
structure ClientLibrary extends LatticeLibrary where
  /-- `Buffer.from(text).toString('base64')` -/
  textToBase64 : String → String

structure ExchangeTokenOptions where
  brokerUrl : String
  actorClientId : String
  audience : String
  scope : List String

structure ExchangeTokenInput where
  subjectToken : String
  subjectTokenType : Option String := none
  audience : Option String := none
  scope : Option (List String) := none

inductive TokenType where
  | dpop
  | bearer
  deriving DecidableEq, Repr

structure ExchangeTokenResult where
  accessToken : Json
  expiresAt : Rat
  tokenType : TokenType
  issuedTokenType : Json
  scopes : List String

def grantType : String := "urn:ietf:params:oauth:grant-type:token-exchange"

def accessTokenType : String := "urn:ietf:params:oauth:token-type:access_token"

def exchangeParams (opts : ExchangeTokenOptions) (input : ExchangeTokenInput) :
    List (String × String) :=
  let scope := input.scope.getD opts.scope
  [("grant_type", grantType), ("subject_token", input.subjectToken),
    ("subject_token_type", input.subjectTokenType.getD accessTokenType),
    ("audience", input.audience.getD opts.audience)] ++
    (if scope = [] then [] else [("scope", " ".intercalate scope)]) ++
    [("requested_token_use", "on_behalf_of")]

def exchangeRequest (L : ClientLibrary) (opts : ExchangeTokenOptions) (input : ExchangeTokenInput)
    (secret proof : String) : OutboundRequest where
  url := opts.brokerUrl
  method := "POST"
  headers := [("content-type", "application/x-www-form-urlencoded"),
    ("accept", "application/json"),
    ("authorization", "Basic " ++ L.textToBase64 (opts.actorClientId ++ ":" ++ secret)),
    ("DPoP", proof)]
  body := L.searchText (exchangeParams opts input)

/-- `normaliseTokenType` -/
def normaliseTokenType : Option Json → TokenType
  | some (.str value) => if Js.toLowerCase value = "dpop" then .dpop else .bearer
  | _ => .bearer

/-- `parsed[name] ?? undefined` -/
def brokerField (parsed : Json) (name : String) : Option Json :=
  match parsed with
  | .obj fields => Js.nullish (Obj.get? name fields)
  | _ => none

/-- The scopes of a response, where it has any. A list has no `split`. -/
def grantedScopes (requested : List String) : Option Json → Except Fault (List String)
  | some (.str text) => .ok (if text = "" then requested else Js.splitSpace text)
  | some (.arr (_ :: _)) => .error (plainError "scopeStr.split is not a function")
  | _ => .ok requested

def brokerRefused (description : String) : Fault := unauthorized .invalidToken description

def missingToken : Fault := brokerRefused "broker response missing access_token"

/-- The token of the broker's response. `null` has no properties to look at. -/
def brokerToken (status : Nat) (parsed : Json) : Except Fault Json :=
  let description := brokerField parsed "error_description"
  match parsed with
  | .null => .error (plainError "Cannot read properties of null")
  | _ =>
      if status ≥ 500 then
        .error (brokerRefused ((description.map Json.toText).getD
          ("broker upstream " ++ toString status)))
      else if ¬ (200 ≤ status ∧ status < 300) then
        .error (brokerRefused (((description.or (brokerField parsed "error")).map Json.toText).getD
          ("broker returned " ++ toString status)))
      else
        match brokerField parsed "access_token" with
        | some accessToken => if accessToken.truthy then .ok accessToken else .error missingToken
        | none => .error missingToken

def exchangeResult (opts : ExchangeTokenOptions) (input : ExchangeTokenInput) (parsed : Json)
    (accessToken : Json) (nowMs : Millis) : Except Fault ExchangeTokenResult :=
  let expiresIn := match brokerField parsed "expires_in" with
    | some (.num seconds) => seconds
    | _ => 0
  (grantedScopes (input.scope.getD opts.scope) (brokerField parsed "scope")).map fun scopes => {
    accessToken := accessToken
    expiresAt := (toSeconds nowMs : Nat) + expiresIn
    tokenType := normaliseTokenType (brokerField parsed "token_type")
    issuedTokenType := (brokerField parsed "issued_token_type").getD (.str accessTokenType)
    scopes := scopes }

/-- The parsed body; one that cannot be parsed counts as an empty object. -/
def brokerBody (P : Platform) (response : HttpResponse) : Json :=
  match response.json P with
  | .ok parsed => parsed
  | .error _ => .obj []

/-- `createExchangeToken(opts)` with the default proof signer -/
def exchangeToken (P : Platform) (L : ClientLibrary) (opts : ExchangeTokenOptions)
    (input : ExchangeTokenInput) : Client ExchangeTokenResult := do
  let secret ← Client.actorClientSecret
  let dpop ← signDPoP P { htm := "POST", htu := opts.brokerUrl }
  let fetched ← attempt (Client.fetch (exchangeRequest L opts input secret dpop.proof))
  match fetched with
  | .error err => Client.fail (brokerRefused ("broker request failed: " ++ err.message))
  | .ok res => do
      let parsed := brokerBody P res
      let accessToken ← ofExcept (brokerToken res.status parsed)
      let nowMs ← Client.date
      ofExcept (exchangeResult opts input parsed accessToken nowMs)

/-- One request with the exchanged token and a new proof that is bound to it. -/
def resourceAttempt (P : Platform) (htu : String) (build : String → Except Fault OutboundRequest)
    (accessToken : Json) (nonce : Option String) : Client HttpResponse := do
  let dpop ← signDPoP P { accessToken := some accessToken, htm := "POST", htu := htu, nonce := nonce }
  let request ← ofExcept (build dpop.proof)
  Client.fetch request

/-- What an exchange does: it stops without a secret or a proof, or it asks the broker, which
may not answer, refuse, or grant a token. -/
inductive ExchangeTokenRun (P : Platform) (L : ClientLibrary) (opts : ExchangeTokenOptions)
    (input : ExchangeTokenInput) : List ClientEvent → Except Fault ExchangeTokenResult → Prop
  | secretless (err : LibraryError) :
      ExchangeTokenRun P L opts input [⟨.actorClientSecret, .error err⟩] (.error err.fault)
  | unsigned (secret : String) (signing : List ClientEvent) (fault : Fault) :
      SigningRun P { htm := "POST", htu := opts.brokerUrl } signing (.error fault) →
      ExchangeTokenRun P L opts input (⟨.actorClientSecret, .ok secret⟩ :: signing) (.error fault)
  | unanswered (secret : String) (signing : List ClientEvent) (dpop : DPoPProof)
      (err : LibraryError) (fault : Fault) :
      SigningRun P { htm := "POST", htu := opts.brokerUrl } signing (.ok dpop) →
      ExchangeTokenRun P L opts input (⟨.actorClientSecret, .ok secret⟩ ::
        (signing ++ [⟨.fetch (exchangeRequest L opts input secret dpop.proof), .error err⟩]))
        (.error fault)
  | refused (secret : String) (signing : List ClientEvent) (dpop : DPoPProof)
      (response : HttpResponse) (fault : Fault) :
      SigningRun P { htm := "POST", htu := opts.brokerUrl } signing (.ok dpop) →
      brokerToken response.status (brokerBody P response) = .error fault →
      ExchangeTokenRun P L opts input (⟨.actorClientSecret, .ok secret⟩ ::
        (signing ++ [⟨.fetch (exchangeRequest L opts input secret dpop.proof), .ok response⟩]))
        (.error fault)
  | granted (secret : String) (signing : List ClientEvent) (dpop : DPoPProof)
      (response : HttpResponse) (accessToken : Json) (nowMs : Millis) :
      SigningRun P { htm := "POST", htu := opts.brokerUrl } signing (.ok dpop) →
      brokerToken response.status (brokerBody P response) = .ok accessToken →
      ExchangeTokenRun P L opts input (⟨.actorClientSecret, .ok secret⟩ ::
        (signing ++ [⟨.fetch (exchangeRequest L opts input secret dpop.proof), .ok response⟩,
          ⟨.date, nowMs⟩]))
        (exchangeResult opts input (brokerBody P response) accessToken nowMs)

theorem exchangeToken_run {P : Platform} {L : ClientLibrary} {opts : ExchangeTokenOptions}
    {input : ExchangeTokenInput} {trace : List ClientEvent}
    {outcome : Except Fault ExchangeTokenResult}
    (run : Runs (exchangeToken P L opts input) trace outcome) :
    ExchangeTokenRun P L opts input trace outcome := by
  rw [exchangeToken, Client.actorClientSecret, runs_command_bind_iff] at run
  obtain ⟨reply, _, rfl, run⟩ := run
  cases reply with
  | error err =>
      obtain ⟨_, impossible, _⟩ | ⟨_, same, rfl, rfl⟩ := run
      · cases impossible
      · cases same
        exact .secretless err
  | ok secret =>
      obtain ⟨_, same, run⟩ | ⟨_, impossible, _⟩ := run
      · cases same
        rw [runs_bind_iff] at run
        obtain ⟨dpop, signing, after, rfl, signed, run⟩ | ⟨fault, signed, rfl⟩ := run
        · rw [runs_bind_iff] at run
          simp only [runs_attempt_iff, Client.fetch, runs_command_iff] at run
          obtain ⟨fetched, _, rest, rfl, ⟨_, ⟨reply, rfl, rfl⟩, same⟩, run⟩ |
            ⟨_, ⟨_, _, impossible⟩, _⟩ := run
          · cases same
            cases reply with
            | error err =>
                obtain ⟨rfl, rfl⟩ := runs_throwing_iff.mp run
                exact .unanswered secret signing dpop err _ (signDPoP_run signed)
            | ok response =>
                cases token : brokerToken response.status (brokerBody P response) with
                | error fault =>
                    simp only [Client.orFault, Except.mapError, token] at run
                    obtain ⟨rfl, rfl⟩ := runs_done_iff.mp run
                    exact .refused secret signing dpop response fault (signDPoP_run signed) token
                | ok accessToken =>
                    simp only [Client.orFault, Except.mapError, token] at run
                    rw [runs_ofExcept_bind_iff rfl, Client.date, runs_reply_bind_iff] at run
                    obtain ⟨nowMs, _, rfl, run⟩ := run
                    obtain ⟨rfl, rfl⟩ := runs_done_iff.mp run
                    exact .granted secret signing dpop response accessToken nowMs
                      (signDPoP_run signed) token
          · cases impossible
        · exact .unsigned secret _ fault (signDPoP_run signed)
      · cases impossible

/-- What an attempt does: it stops without a proof or a request, or it sends the request. -/
inductive AttemptRun (P : Platform) (htu : String) (build : String → Except Fault OutboundRequest)
    (accessToken : Json) (nonce : Option String) :
    List ClientEvent → Except Fault HttpResponse → Prop
  | unsigned (signing : List ClientEvent) (fault : Fault) :
      SigningRun P { accessToken := some accessToken, htm := "POST", htu := htu, nonce := nonce }
        signing (.error fault) →
      AttemptRun P htu build accessToken nonce signing (.error fault)
  | unbuilt (signing : List ClientEvent) (dpop : DPoPProof) (fault : Fault) :
      SigningRun P { accessToken := some accessToken, htm := "POST", htu := htu, nonce := nonce }
        signing (.ok dpop) →
      build dpop.proof = .error fault →
      AttemptRun P htu build accessToken nonce signing (.error fault)
  | sent (signing : List ClientEvent) (dpop : DPoPProof) (request : OutboundRequest)
      (reply : Except LibraryError HttpResponse) :
      SigningRun P { accessToken := some accessToken, htm := "POST", htu := htu, nonce := nonce }
        signing (.ok dpop) →
      build dpop.proof = .ok request →
      AttemptRun P htu build accessToken nonce (signing ++ [⟨.fetch request, reply⟩])
        (Client.orFault reply)

theorem resourceAttempt_run {P : Platform} {htu : String}
    {build : String → Except Fault OutboundRequest} {accessToken : Json} {nonce : Option String}
    {trace : List ClientEvent} {outcome : Except Fault HttpResponse}
    (run : Runs (resourceAttempt P htu build accessToken nonce) trace outcome) :
    AttemptRun P htu build accessToken nonce trace outcome := by
  rw [resourceAttempt, runs_bind_iff] at run
  obtain ⟨dpop, signing, after, rfl, signed, run⟩ | ⟨fault, signed, rfl⟩ := run
  · cases built : build dpop.proof with
    | error fault =>
        rw [built] at run
        obtain ⟨rfl, rfl⟩ := runs_done_iff.mp run
        rw [List.append_nil]
        exact .unbuilt signing dpop fault (signDPoP_run signed) built
    | ok request =>
        rw [built, runs_ofExcept_bind_iff rfl, Client.fetch, runs_command_iff] at run
        obtain ⟨reply, rfl, rfl⟩ := run
        exact .sent signing dpop request reply (signDPoP_run signed) built
  · exact .unsigned trace fault (signDPoP_run signed)

/-- What receiving-service's client reads of the configuration. -/
structure LedgerClientConfig extends ReceivingServiceConfig where
  brokerTokenEndpoint : String
  ledgerOutboundClientId : String

structure PostLedgerEntryArgs where
  correlationId : String
  payload : Json
  subjectToken : Option String

/-- A `LedgerOutboundError`. -/
def ledgerOutboundError (status : Nat) (message : Option String) : Fault :=
  plainError (message.getD ("ledger outbound failed: HTTP " ++ toString status))

def ledgerExchange (config : LedgerClientConfig) : ExchangeTokenOptions where
  brokerUrl := config.brokerTokenEndpoint
  actorClientId := config.ledgerOutboundClientId
  audience := "ledger"
  scope := ["ledger/write"]

/-- `attempt` of `postLedgerEntry` -/
def ledgerAttempt (P : Platform) (L : ClientLibrary) (useLatticeVar : Option String)
    (config : LedgerClientConfig) (args : PostLedgerEntryArgs) (accessToken : Json) :
    Option String → Client HttpResponse :=
  resourceAttempt P (ledgerUrl useLatticeVar config.toReceivingServiceConfig)
    (fun proof => ledgerCall L.toLatticeLibrary useLatticeVar config.toReceivingServiceConfig
      args.correlationId accessToken.toText proof (P.stringify args.payload)) accessToken

/-- A 401 with a nonce is answered by one more attempt, where it asks for one. -/
def retryOnChallenge (asks : HttpResponse → Bool) (attempt : Option String → Client HttpResponse) :
    Client HttpResponse := do
  let response ← attempt none
  if response.status = 401 ∧ asks response then
    match response.dpopNonce with
    | some nonce => attempt (some nonce)
    | none => return response
  else return response

/-- `postLedgerEntry` of receiving-service -/
def postLedgerEntry (P : Platform) (L : ClientLibrary) (useLatticeVar : Option String)
    (config : LedgerClientConfig) (args : PostLedgerEntryArgs) : Client Json :=
  match args.subjectToken.filter (· ≠ "") with
  | none =>
      Client.fail (ledgerOutboundError 400
        (some "ledger outbound requires subjectToken (inbound broker-issued token)"))
  | some subjectToken => do
      let exchanged ← exchangeToken P L (ledgerExchange config) { subjectToken := subjectToken }
      let response ← retryOnChallenge (fun _ => true)
        (ledgerAttempt P L useLatticeVar config args exchanged.accessToken)
      if response.ok then ofExcept (response.json P)
      else Client.fail (ledgerOutboundError response.status none)

/-- The environment variables of the migrated service. -/
structure MigratedEnv where
  brokerTokenEndpoint : Option String
  cognitoClientId : Option String
  ledgerUrl : Option String

def migratedExchange (env : MigratedEnv) : ExchangeTokenOptions where
  brokerUrl := env.brokerTokenEndpoint.getD "http://broker.local/token"
  actorClientId := env.cognitoClientId.getD "orders"
  audience := "ledger"
  scope := ["ledger/write"]

def migratedUrl (env : MigratedEnv) : String :=
  env.ledgerUrl.getD "http://ledger.local" ++ "/api/ledger/entries"

/-- `req.headers.authorization?.split(' ')[1] ?? ''` -/
def inboundToken (req : Request) : String :=
  ((req.header? "authorization").bind fun text => (Js.split ' ' text)[1]?).getD ""

/-- The callback of `withDPoPNonceRetry` in the migrated service -/
def migratedAttempt (P : Platform) (env : MigratedEnv) (payload : Json) (accessToken : Json) :
    Option String → Client HttpResponse :=
  resourceAttempt P (migratedUrl env) (fun proof => .ok {
    url := migratedUrl env
    method := "POST"
    headers := [("authorization", "DPoP " ++ accessToken.toText), ("dpop", proof),
      ("content-type", "application/json")]
    body := P.stringify payload }) accessToken

/-- `postLedgerEntry` of the migrated service -/
def migratedPostLedgerEntry (P : Platform) (L : ClientLibrary) (env : MigratedEnv) (req : Request)
    (payload : Json) : Client HttpResponse := do
  let exchanged ← exchangeToken P L (migratedExchange env) { subjectToken := inboundToken req }
  withDPoPNonceRetry (migratedAttempt P env payload exchanged.accessToken)

/-- What the sync route reads of the configuration. -/
structure SyncConfig extends CallingServiceConfig where
  brokerTokenEndpoint : String
  brokerActorClientId : String
  targetAudience : String
  scopes : List String

def syncExchange (config : SyncConfig) : ExchangeTokenOptions where
  brokerUrl := config.brokerTokenEndpoint
  actorClientId := config.brokerActorClientId
  audience := config.targetAudience
  scope := config.scopes

/-- `callOnce` of the sync route -/
def callOnce (P : Platform) (L : ClientLibrary) (useLatticeVar : Option String)
    (config : SyncConfig) (req : Request) (userSub : String) (accessToken : Json) :
    Option String → Client HttpResponse :=
  resourceAttempt P (syncUrl useLatticeVar config.toCallingServiceConfig)
    (fun proof => syncCall L.toLatticeLibrary useLatticeVar config.toCallingServiceConfig req userSub
      accessToken.toText proof ((req.body.map P.stringify).getD "")) accessToken

/-- `bodyClone?.error === 'use_dpop_nonce'` -/
def asksForNonce (P : Platform) (response : HttpResponse) : Bool :=
  match response.json P with
  | .ok (.obj fields) => Js.isText (Obj.get? "error" fields) "use_dpop_nonce"
  | _ => false

/-- The calls of the sync route, up to the response that is passed on. -/
def syncUpstream (P : Platform) (L : ClientLibrary) (useLatticeVar : Option String)
    (config : SyncConfig) (req : Request) (subjectToken userSub : String) : Client HttpResponse := do
  let exchanged ← exchangeToken P L (syncExchange config) {
    subjectToken := subjectToken
    audience := some config.targetAudience
    scope := some config.scopes }
  retryOnChallenge (asksForNonce P)
    (callOnce P L useLatticeVar config req userSub exchanged.accessToken)

end S2s
