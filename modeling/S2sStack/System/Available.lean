import S2sStack.Broker.Signing
import S2sStack.Service.HonestVisit
import S2sStack.System.Config
import S2sStack.System.HonestExchange
import S2sStack.System.Identity

set_option autoImplicit false

/- A login and any number of exchanges where nothing fails: the SDK returns a token each time, and a
service takes the last one as long as there were not too many. -/
namespace S2s

open Effect Effect.Program
open Js (Json Obj)

/-- The key sets fetched from this URI have the signing key. -/
def ServesKey (P : Platform) (jwksUri : String) (signing : LoadedSigningKey) (trace : List Event) :
    Prop :=
  ∀ forced reply, ⟨.getKeys jwksUri forced, reply⟩ ∈ trace → ∃ keys jwk, reply = .ok keys ∧
    selectKey keys (some (.str signing.kid)) = some jwk ∧
    importKey P jwk = .ok signing.privateKey.publicKey

/-- A token with this lifetime that is signed in the first trace has not expired in the second. -/
def OutlastedBy (ttl : Rat) (signing trace : List Event) : Prop :=
  ∀ signedAt moment, ⟨.now, signedAt⟩ ∈ signing → ⟨.now, moment⟩ ∈ trace →
    (toSeconds moment : Rat) < toSeconds signedAt + ttl

/-- The settings of the broker fit those of the user issuer. -/
structure Trusts (deps : TokenRouterDeps) (opts : LocalIssuerOptions) : Prop
    extends Wired deps where
  userIssuer : deps.subjectValidator.userIssuerUrl = opts.issuer
  userAudience : deps.subjectValidator.userIssuerAudience = opts.audience
  userIssuerNamed : opts.issuer ≠ ""

section Chain

variable {P : Platform} {L : ClientLibrary} {deps : TokenRouterDeps} {opts : LocalIssuerOptions}

namespace HonestExchange

/-- The exchange is of the token that the earlier one has returned. -/
structure Follows (exchange earlier : HonestExchange P L deps) : Prop where
  fed : ∀ result, earlier.result = .ok result → result.accessToken = .str exchange.subject
  served : ServesKey P deps.subjectValidator.brokerJwksUri earlier.signing exchange.handling
  inTime : OutlastedBy deps.exchangedTokenTtlSeconds earlier.handling exchange.handling

end HonestExchange

/-- Exchanges one after the other, the last one first: the first one is of the token of the login,
each later one of the token before it. -/
inductive HonestChain (login : GrantedLogin P opts) : List (HonestExchange P L deps) → Prop
  | first {exchange : HonestExchange P L deps} : exchange.subject = login.token →
      ServesKey P deps.subjectValidator.userIssuerJwksUri login.key exchange.handling →
      OutlastedBy opts.ttl login.signIn exchange.handling → HonestChain login [exchange]
  | next {exchange last : HonestExchange P L deps} {earlier : List (HonestExchange P L deps)} :
      HonestChain login (last :: earlier) → exchange.Follows last →
      HonestChain login (exchange :: last :: earlier)

namespace HonestExchange

/-- What the broker made of an exchange. -/
structure GrantedAs (exchange : HonestExchange P L deps) (granted : TokenExchange P deps)
    (grant : Grant) : Prop extends granted.IsGrant grant where
  trace' : granted.trace = exchange.handling
  actor' : granted.actor = exchange.actor
  subject' : granted.subject = exchange.subject
  thumbprint' : granted.thumbprint = exchange.thumbprint
  audience : grant.request.audience = exchange.audience
  signing : grant.signing = exchange.signing
  dated : ∃ mintedAt, ⟨.now, mintedAt⟩ ∈ exchange.handling ∧
    dateOrZero (grant.claims deps) "exp" = toSeconds mintedAt + deps.exchangedTokenTtlSeconds
  returned : ∃ result, exchange.result = .ok result ∧ result.accessToken = .str granted.token ∧
    result.scopes = exchange.scopes

variable {exchange : HonestExchange P L deps}

theorem exists_granted (subject : Returns (· ∈ exchange.handling) (fun _ => True)
    (validateSubjectToken P deps.subjectValidator exchange.subject exchange.audience)) :
    ∃ granted grant, exchange.GrantedAs granted grant := by
  obtain ⟨token, filled, answered⟩ := exchange.granted subject
  obtain ⟨result, returned, given, scopes⟩ := exchange.result_ok filled answered
  obtain ⟨proof, signedAt, reply, call⟩ := exchange.exists_call
  obtain ⟨ath, _, signature⟩ := call.honest.signed
  have complete : CompleteRequest exchange.request.body exchange.fields :=
    readExchangeRequest_ok SentExchange.readExchangeRequest_body
  let granted : TokenExchange P deps := {
    req := exchange.request
    trace := exchange.handling
    outcome := exchange.outcome
    body := exchangeResponse deps exchange.fields token
    subject := exchange.subject
    actor := exchange.actor
    thumbprint := exchange.thumbprint
    token := token
    run := exchange.handled
    answered := answered
    carries := rfl
    presents := complete.subjectToken
    authenticates := ⟨exchange.secret, SentExchange.parseBasicAuth_iff.mpr exchange.plain⟩
    proves := by
      rw [dpop_header, ← call.text, proofThumbprint, signature.header]
      exact exchange.computed
    signs := by
      intro header claims key signed member
      obtain ⟨_, same, _, signature⟩ := exchange.serves.signs _ _ _ _ member
      cases same
      exact signature }
  obtain ⟨grant, isGrant⟩ := granted.exists_grant
  have request : grant.request = exchange.fields := by
    have read := isGrant.requested
    rw [SentExchange.readExchangeRequest_body] at read
    exact (Except.ok.inj read).symm
  refine ⟨granted, grant, { isGrant with
    trace' := rfl
    actor' := rfl
    subject' := rfl
    thumbprint' := rfl
    audience := by rw [request]; rfl
    signing := Except.ok.inj (exchange.serves.loaded _ isGrant.loaded)
    dated := ?_
    returned := ⟨result, returned, given, scopes⟩ }⟩
  obtain ⟨signer, passes, signed⟩ := tokenRouter_signs exchange.handled isGrant.signed
  exact ⟨signer.nowMs, passes.dated, by rw [signed.claims, signer.claims_exp]⟩

/-- An exchange of the token of another one is granted, and adds its actor. -/
theorem Follows.granted {earlier : HonestExchange P L deps} (follows : exchange.Follows earlier)
    (wired : Wired deps) {before : TokenExchange P deps} {grant : Grant}
    (grants : earlier.GrantedAs before grant) : ∃ granted next, exchange.GrantedAs granted next ∧
      granted.subject = before.token := by
  obtain ⟨result, returned, given, _⟩ := grants.returned
  have fed : exchange.subject = before.token := by
    have same := follows.fed result returned
    rw [given, Json.str.injEq] at same
    exact same.symm
  have published {part : List Event} (inside : part ⊆ exchange.handling) :
      before.KeyPublished part := by
    intro signing loaded forced reply fetched
    rw [grants.trace'] at loaded
    cases earlier.serves.loaded _ loaded
    exact follows.served forced reply (inside fetched)
  have unexpired {part : List Event} (inside : part ⊆ exchange.handling) :
      before.Unexpired part := by
    intro claims decoded moment read
    obtain ⟨mintedAt, clock, exp⟩ := grants.dated
    cases decoded.symm.trans grants.signature.decoded
    rw [exp]
    exact follows.inTime mintedAt moment clock (inside read)
  have subject : Returns (· ∈ exchange.handling) (fun _ => True)
      (validateSubjectToken P deps.subjectValidator exchange.subject exchange.audience) := by
    intro part outcome run events
    rw [fed] at run
    obtain ⟨result, same⟩ := before.reaccepted wired (published events) (unexpired events) run
    exact ⟨result, same, trivial⟩
  obtain ⟨granted, next, grants⟩ := exists_granted subject
  exact ⟨granted, next, grants, grants.subject'.trans fed⟩

end HonestExchange

/-- An exchange of the token of a login is granted. -/
theorem granted_login {login : GrantedLogin P opts} {exchange : HonestExchange P L deps}
    (trusts : Trusts deps opts) (fed : exchange.subject = login.token)
    (served : ServesKey P deps.subjectValidator.userIssuerJwksUri login.key exchange.handling)
    (inTime : OutlastedBy opts.ttl login.signIn exchange.handling) :
    ∃ granted grant, exchange.GrantedAs granted grant := by
  obtain ⟨user, nowMs, jti, _, signed⟩ := login.exists_user
  have published : Publishes P deps.subjectValidator.userIssuerJwksUri login.token
      login.key.privateKey.publicKey exchange.handling := by
    have kid : readKid P login.token = some (.str login.key.kid) := signed.signedWith.kid
    intro forced reply fetched
    rw [kid]
    exact served forced reply fetched
  have apart : opts.issuer ≠ deps.subjectValidator.brokerIssuerUrl := by
    rw [← trusts.userIssuer, trusts.issuer]
    exact trusts.apart
  apply HonestExchange.exists_granted
  intro part outcome run events
  rw [fed] at run
  have same := signed.taken trusts.userIssuer trusts.userAudience trusts.userIssuerNamed apart run
    (published.mono events)
    fun signedAt moment clock read => inTime signedAt moment clock (events _ read)
  exact ⟨_, same, trivial⟩

/-- Every exchange of a chain returns its scopes, and the last token names its actors. -/
theorem HonestChain.grants (agrees : P.PayloadAgrees) (trusts : Trusts deps opts)
    {login : GrantedLogin P opts} {last : HonestExchange P L deps}
    {earlier : List (HonestExchange P L deps)} (chain : HonestChain login (last :: earlier)) :
    (∀ exchange ∈ last :: earlier, ∃ result, exchange.result = .ok result ∧
      result.scopes = exchange.scopes) ∧
    ∃ granted grant user, last.GrantedAs granted grant ∧
      CarriesDelegation deps user ((last :: earlier).map HonestExchange.actor).reverse grant := by
  generalize shape : last :: earlier = exchanges at chain
  induction chain generalizing last earlier with
  | first fed served inTime =>
      cases shape
      obtain ⟨granted, grant, grants⟩ := granted_login trusts fed served inTime
      obtain ⟨user, nowMs, jti, _, signed⟩ := login.exists_user
      have decoded := signed.signedWith.decoded
      rw [← fed, ← grants.subject'] at decoded
      have issued : (userTokenClaims opts user login.key nowMs jti).get? "iss" =
          some (.str deps.subjectValidator.userIssuerUrl) := by
        rw [trusts.userIssuer]
        simp [userTokenClaims, signedPayload, Obj.get?_set_ne, issuerSignOptions]
      have carries := carriesDelegation_first agrees trusts.toWired grants.toIsGrant decoded issued
      rw [grants.actor'] at carries
      refine ⟨?_, granted, grant, _, grants, carries⟩
      intro exchange member
      cases List.mem_singleton.mp member
      obtain ⟨result, returned, _, scopes⟩ := grants.returned
      exact ⟨result, returned, scopes⟩
  | next chain follows ih =>
      cases shape
      obtain ⟨returned, before, grant, user, grants, carries⟩ := ih rfl
      obtain ⟨granted, next, nextGrants, fed⟩ := follows.granted trusts.toWired grants
      have added := carriesDelegation_next trusts.toWired grants.toIsGrant nextGrants.toIsGrant
        carries fed
      rw [nextGrants.actor', ← List.reverse_cons, ← List.map_cons] at added
      refine ⟨?_, granted, next, user, nextGrants, added⟩
      intro exchange member
      rcases List.mem_cons.mp member with rfl | inner
      · obtain ⟨result, same, _, scopes⟩ := nextGrants.returned
        exact ⟨result, same, scopes⟩
      · exact returned exchange inner

/-- The request shows the token of the exchange to the service that it was asked for, with a proof
by the same key. -/
structure HonestVisit.Shows {service : BrokerAuthDeps} (visit : HonestVisit P service)
    (exchange : HonestExchange P L deps) : Prop where
  token : ∀ result, exchange.result = .ok result → result.accessToken = .str visit.token
  key : visit.key = exchange.key
  aimed : exchange.audience = service.expectedAudience
  issuer : service.validateToken.expectedIssuer = deps.brokerIssuerUrl
  served : ServesKey P service.validateToken.jwksUri exchange.signing visit.trace
  inTime : OutlastedBy deps.exchangedTokenTtlSeconds exchange.handling visit.trace

/-- Where nothing fails, every exchange returns a token with its scopes, however many there are; and
a service lets a request with the last token through exactly if there were at most five. -/
theorem HonestChain.served_iff (agrees : P.PayloadAgrees) (trusts : Trusts deps opts)
    {login : GrantedLogin P opts} {last : HonestExchange P L deps}
    {earlier : List (HonestExchange P L deps)} (chain : HonestChain login (last :: earlier)) :
    (∀ exchange ∈ last :: earlier, ∃ result, exchange.result = .ok result ∧
      result.scopes = exchange.scopes) ∧
    ∀ {service : BrokerAuthDeps} (visit : HonestVisit P service), visit.Shows last →
      (⟨.next, ()⟩ ∈ visit.trace ↔ (last :: earlier).length ≤ maxActorChainDepth) := by
  obtain ⟨returned, granted, grant, user, grants, carries⟩ := chain.grants agrees trusts
  refine ⟨returned, ?_⟩
  intro service visit shows
  obtain ⟨result, same, given, _⟩ := grants.returned
  have token : visit.token = granted.token := by
    have shown := shows.token result same
    rw [given, Json.str.injEq] at shown
    exact shown.symm
  have signature := grants.signature
  rw [← token] at signature
  have unexpired (moment : Millis) (read : ⟨.now, moment⟩ ∈ visit.trace) :
      (toSeconds moment : Rat) < dateOrZero (grant.claims deps) "exp" := by
    obtain ⟨mintedAt, clock, exp⟩ := grants.dated
    rw [exp]
    exact shows.inTime mintedAt moment clock read
  have kid : readKid P visit.token = some (.str last.signing.kid) := by
    rw [signature.kid, ← grants.signing]
    rfl
  have live : LiveToken P service.validateToken service.expectedAudience visit.token
      last.thumbprint (grant.claims deps) visit.trace := {
    verifies := by
      refine ⟨grant.signing.privateKey.publicKey, ?_, ?_⟩
      · intro forced reply fetched
        rw [kid, grants.signing]
        exact shows.served forced reply fetched
      · exact fun moment read => signature.verified moment (unexpired moment read)
    unexpired := unexpired
    aud := by rw [grant.claims_aud, grants.audience, shows.aimed]
    iss := by rw [grant.claims_iss, shows.issuer]
    scope := ⟨_, rfl⟩
    sub := ⟨_, grant.claims_sub⟩
    cnf := by rw [grant.claims_cnf, grants.thumbprint, grants.thumbprint'] }
  have computed : P.calculateJwkThumbprint (.obj visit.key.publicJwk) = .ok last.thumbprint := by
    rw [shows.key]
    exact last.computed
  have named : extractActorChain (grant.claims deps) = some grant.chain := by
    rw [extractActorChain_eq, grant.claims_act, Option.bind_some]
    exact buildChain_toJson _ carries.named
  rw [visit.passes_iff agrees live signature.decoded computed last.hashed named, chainDepth_eq,
    carries.actors, List.length_reverse, List.length_map]

end Chain

section ServedEntry

/-! alice signs in, the calling service and the receiving service exchange her token one after the
other, and ledger-service is asked to file an entry with the last one. -/

def servedKey (pair : Nat) : ActiveKey := ⟨TokenTable.jwkOf ⟨pair⟩, ⟨pair⟩⟩

def brokerOptions (actor audience : String) : ExchangeTokenOptions where
  brokerUrl := "https://broker/oauth2/token"
  actorClientId := actor
  audience := audience
  scope := ["ledger.write"]

def exchangeProofRow (pair : Nat) (token jti : String) : SignedToken where
  token := token
  header := dpopHeader (servedKey pair)
  payload := .ofClaims
    (dpopClaims { htm := "POST", htu := "https://broker/oauth2/token" } jti [] 1000000) rfl
  signer := ⟨pair⟩

def visitProofRow : SignedToken where
  token := "proof-3"
  header := dpopHeader (servedKey 2)
  payload := .ofClaims (dpopClaims (serviceProofOptions entryRequest "minted-2" "nonce-1") "jti-3"
    [("ath", .str "minted-hash")] 1000000) (by decide +kernel)
  signer := ⟨2⟩

def servedTable : TokenTable :=
  { entryTable with
    tokens := [userTokenRow, exchangeProofRow 1 "proof-1" "jti-1", callingRow,
      exchangeProofRow 2 "proof-2" "jti-2", receivingRow, visitProofRow]
    texts := [
      ("response-1", exchangeResponse brokerDeps
        ⟨"alice-token", "receiving-service", ["ledger.write"]⟩ "minted-1"),
      ("response-2", exchangeResponse brokerDeps
        ⟨"minted-1", "ledger-service", ["ledger.write"]⟩ "minted-2")] }

def servedLibrary : ClientLibrary where
  toLatticeLibrary := taskRoleLibrary
  textToBase64 text :=
    if text = "calling-service:secret-1" then "Y2FsbGluZw=="
    else if text = "receiving-service:secret-2" then "cmVjZWl2aW5n"
    else ""

def brokerArrival (params : List (String × String)) : Arrival where
  protocol := "https"
  originalUrl := "/oauth2/token"
  path := "/oauth2/token"
  routePath := some "/oauth2/token"
  addedHeaders := [("host", "broker")]
  body := some (.obj (params.map fun param => (param.1, .str param.2)))

theorem ledgerWrite_words : ∀ scope ∈ ["ledger.write"], Js.Word scope := by
  intro scope member
  rw [List.mem_singleton.mp member]
  exact Js.Word.of_visible (by decide) (by decide)

def callingSent : SentExchange servedTable.platform servedLibrary where
  opts := brokerOptions "calling-service" "receiving-service"
  input := { subjectToken := "alice-token" }
  secret := "secret-1"
  proof := "proof-1"
  arrival := brokerArrival (exchangeParams (brokerOptions "calling-service" "receiving-service")
    { subjectToken := "alice-token" })
  secretFilled := by decide
  subjectFilled := by decide
  subjectType := by decide
  audienceFilled := by decide
  scopesFilled := by decide
  words := ledgerWrite_words
  encoded := Js.Word.of_visible (by decide) (by decide)
  decoded := by decide
  parsed := rfl

def receivingSent : SentExchange servedTable.platform servedLibrary where
  opts := brokerOptions "receiving-service" "ledger-service"
  input := { subjectToken := "minted-1" }
  secret := "secret-2"
  proof := "proof-2"
  arrival := brokerArrival (exchangeParams (brokerOptions "receiving-service" "ledger-service")
    { subjectToken := "minted-1" })
  secretFilled := by decide
  subjectFilled := by decide
  subjectType := by decide
  audienceFilled := by decide
  scopesFilled := by decide
  words := ledgerWrite_words
  encoded := Js.Word.of_visible (by decide) (by decide)
  decoded := by decide
  parsed := rfl

theorem served_proof {options : SignDPoPOptions} {jti : String} {ath : Obj} (row : SignedToken)
    {key : PrivateKey} (hashed : athClaim servedTable.platform options.accessToken = .ok ath)
    (claims : row.payload.claims = dpopClaims options jti ath 1000000)
    (found : servedTable.find row.token = some row) (signed : row.signer = key.publicKey) :
    SignedJwt servedTable.platform row.header (dpopClaims options jti ath 1000000) key
      row.token := by
  have lookups : ProofLookups servedTable.platform options jti 1000000 _ :=
    dpopClaims_lookups hashed
  have verified (verify : VerifyOptions) :
      servedTable.platform.jwtVerify row.token key.publicKey verify = .ok row.payload := by
    have undated := lookups.exp
    rw [← claims] at undated
    simp only [TokenTable.platform, TokenTable.verify, found, signed, ne_eq, not_true_eq_false,
      ↓reduceIte, undated]
  constructor
  · simp only [TokenTable.platform, found]
  · exact fun moment _ => ⟨row.payload, verified _⟩
  · intro moment payload same
    cases (verified _).symm.trans same
    exact ⟨claims, lookups.datesHold moment⟩


def servedResponse (text : String) : HttpResponse := ⟨200, [], .ok text⟩

/-- The events of the SDK for an exchange. -/
def sdkTrace (sent : SentExchange servedTable.platform servedLibrary) (pair : Nat)
    (jti text : String) : List ClientEvent :=
  [⟨.actorClientSecret, .ok sent.secret⟩, ⟨.randomUUID, jti⟩, ⟨.activeKey, .ok (servedKey pair)⟩,
    ⟨.date, (1000000 : Millis)⟩,
    ⟨.signJwt (dpopHeader (servedKey pair))
      (dpopClaims { htm := "POST", htu := sent.opts.brokerUrl } jti [] 1000000) ⟨pair⟩,
      .ok sent.proof⟩,
    ⟨.fetch (exchangeRequest servedLibrary sent.opts sent.input sent.secret sent.proof),
      .ok (servedResponse text)⟩, ⟨.date, (1000000 : Millis)⟩]

theorem sdkTrace_runs {sent : SentExchange servedTable.platform servedLibrary} (pair : Nat)
    (jti : String) {text : String} {body accessToken : Json}
    (parsed : servedTable.platform.parseJson text = .ok body)
    (given : brokerToken 200 body = .ok accessToken) :
    Runs (exchangeToken servedTable.platform servedLibrary sent.opts sent.input)
      (sdkTrace sent pair jti text)
      (exchangeResult sent.opts sent.input body accessToken 1000000) := by
  have read : brokerBody servedTable.platform (servedResponse text) = body := by
    simp only [brokerBody, HttpResponse.json, servedResponse, parsed]
  have last : Runs (ofExcept (brokerToken (servedResponse text).status
      (brokerBody servedTable.platform (servedResponse text))) >>= fun accessToken => do
        let nowMs ← Client.date
        ofExcept (exchangeResult sent.opts sent.input
          (brokerBody servedTable.platform (servedResponse text)) accessToken nowMs))
      [⟨.date, (1000000 : Millis)⟩]
      (exchangeResult sent.opts sent.input body accessToken 1000000) := by
    rw [read]
    exact Runs.ofExcept_bind given (.call _ (.done _))
  exact .call _ (.call _ (.call _ (.call _ (.call _ (.call _ last)))))


theorem sdkTrace_signer {sent : SentExchange servedTable.platform servedLibrary} {pair : Nat}
    {jti : String} (text : String) (filled : jti ≠ "")
    (found : servedTable.find sent.proof = some (exchangeProofRow pair sent.proof jti))
    (endpoint : sent.opts.brokerUrl = "https://broker/oauth2/token")
    (published : servedTable.platform.importJWK (.obj (TokenTable.jwkOf ⟨pair⟩)) (.str "ES256") =
      .ok ⟨pair⟩) :
    SoundSigner servedTable.platform (servedKey pair) (sdkTrace sent pair jti text) where
  held reply read := by simpa [sdkTrace] using read
  drawn other drew := by
    have same : other = jti := by simpa [sdkTrace] using drew
    rwa [same]
  signs header claims key reply signed := by
    have same : (header = dpopHeader (servedKey pair) ∧
        claims = dpopClaims { htm := "POST", htu := sent.opts.brokerUrl } jti [] 1000000 ∧
        key = ⟨pair⟩) ∧ reply = .ok sent.proof := by simpa [sdkTrace] using signed
    obtain ⟨⟨rfl, rfl, rfl⟩, rfl⟩ := same
    rw [endpoint]
    exact ⟨sent.proof, rfl, served_proof (exchangeProofRow pair sent.proof jti) rfl rfl found rfl⟩
  published := published

theorem sdkTrace_sends {sent : SentExchange servedTable.platform servedLibrary} {pair : Nat}
    {jti text : String} (request : OutboundRequest) (reply : Except LibraryError HttpResponse)
    (fetched : ⟨.fetch request, reply⟩ ∈ sdkTrace sent pair jti text) :
    request = exchangeRequest servedLibrary sent.opts sent.input sent.secret sent.proof := by
  have same : request = exchangeRequest servedLibrary sent.opts sent.input sent.secret sent.proof ∧
      reply = .ok (servedResponse text) := by simpa [sdkTrace] using fetched
  exact same.1

def brokerTrace (sent : SentExchange servedTable.platform servedLibrary) (signed drawn : String) :
    List Event :=
  (brokerServices signed drawn).trace (tokenRouter servedTable.platform brokerDeps sent.request)

/-- The one token that the run signs comes from this row. -/
theorem brokerTrace_serves {sent : SentExchange servedTable.platform servedLibrary}
    {drawn : String} (row : SignedToken) (signer : PrivateKey)
    (only : (brokerTrace sent row.token drawn).filter isSigning =
      [⟨.signJwt row.header row.payload.claims signer, .ok row.token⟩])
    (found : servedTable.find row.token = some row) (signed : row.signer = signer.publicKey)
    (kid : readKid servedTable.platform row.token = Js.nullish (Obj.get? "kid" row.header))
    (filled : row.token ≠ "") :
    BrokerServes servedTable.platform brokerSigningKey (brokerTrace sent row.token drawn) where
  fresh key ttl reply member := by
    obtain ⟨_, rfl⟩ := SteadyServices.replied member
    rfl
  loaded reply member := by
    obtain ⟨_, rfl⟩ := SteadyServices.replied member
    rfl
  signs header claims key reply member := by
    have inside : (⟨.signJwt header claims key, reply⟩ : Event) ∈
        (brokerTrace sent row.token drawn).filter isSigning := List.mem_filter.mpr ⟨member, rfl⟩
    rw [only] at inside
    cases List.mem_singleton.mp inside
    exact ⟨row.token, rfl, filled, signedWith_of_row found signed kid⟩

def isAnswer (event : Event) : Bool :=
  match event.op with
  | .json _ _ => true
  | _ => false

theorem brokerTrace_timely {sent : SentExchange servedTable.platform servedLibrary} {pair : Nat}
    {jti text signed drawn : String} (signedAt nowMs : Millis)
    (dated : ⟨.date, signedAt⟩ ∈ sdkTrace sent pair jti text)
    (read : ⟨.now, nowMs⟩ ∈ brokerTrace sent signed drawn) :
    |(toSeconds nowMs : Rat) - (toSeconds signedAt : Nat)| ≤
      (exchangeProofDeps brokerDeps.proofVerifier).tolerance := by
  obtain ⟨_, rfl⟩ := SteadyServices.replied read
  have same : signedAt = 1000000 := by simpa [sdkTrace] using dated
  rw [same]
  change |((toSeconds 1000000 : Nat) : Rat) - (toSeconds 1000000 : Nat)| ≤ _
  rw [sub_self, abs_zero]
  decide +kernel

theorem brokerTrace_answers {sent : SentExchange servedTable.platform servedLibrary} {pair : Nat}
    {jti text signed drawn : String} {answer : Json}
    (only : (brokerTrace sent signed drawn).filter isAnswer = [⟨.json 200 answer, ()⟩])
    (parsed : servedTable.platform.parseJson text = .ok answer) (status : Nat) (body : Json)
    (request : OutboundRequest) (reply : Except LibraryError HttpResponse)
    (answered : ⟨.json status body, ()⟩ ∈ brokerTrace sent signed drawn)
    (fetched : ⟨.fetch request, reply⟩ ∈ sdkTrace sent pair jti text) :
    ∃ response, reply = .ok response ∧ response.status = status ∧
      response.json servedTable.platform = .ok body := by
  have inside : (⟨.json status body, ()⟩ : Event) ∈
      (brokerTrace sent signed drawn).filter isAnswer := List.mem_filter.mpr ⟨answered, rfl⟩
  rw [only] at inside
  cases List.mem_singleton.mp inside
  have same : request = exchangeRequest servedLibrary sent.opts sent.input sent.secret sent.proof ∧
      reply = .ok (servedResponse text) := by simpa [sdkTrace] using fetched
  obtain ⟨rfl, rfl⟩ := same
  exact ⟨_, rfl, rfl, parsed⟩

def callingExchange : HonestExchange servedTable.platform servedLibrary brokerDeps where
  toSentExchange := callingSent
  entry := callingEntry
  catalogued := rfl
  authentic := by decide +kernel
  plain := by decide
  audienceAllowed := by decide
  scopesAllowed := by decide
  key := servedKey 1
  thumbprint := "thumbprint-1"
  computed := by decide +kernel
  hashed := by decide
  calling := sdkTrace callingSent 1 "jti-1" "response-1"
  result := _
  called := sdkTrace_runs 1 "jti-1" rfl rfl
  signer := sdkTrace_signer "response-1" (by decide) rfl rfl rfl
  secrets reply member := by simpa [sdkTrace] using member
  sends := sdkTrace_sends
  compact := Js.Word.of_visible (by decide) (by decide)
  endpoint := by decide +kernel
  handling := brokerTrace callingSent "minted-1" "id-1"
  outcome := _
  handled := SteadyServices.runs _ _
  signing := brokerSigningKey
  serves := brokerTrace_serves callingRow ⟨7⟩ (by decide +kernel) rfl rfl (by decide +kernel)
    (by decide)
  timely := brokerTrace_timely
  answers := brokerTrace_answers (by decide +kernel) rfl

def receivingExchange : HonestExchange servedTable.platform servedLibrary brokerDeps where
  toSentExchange := receivingSent
  entry := receivingEntry
  catalogued := rfl
  authentic := by decide +kernel
  plain := by decide
  audienceAllowed := by decide
  scopesAllowed := by decide
  key := servedKey 2
  thumbprint := "thumbprint-2"
  computed := by decide +kernel
  hashed := by decide
  calling := sdkTrace receivingSent 2 "jti-2" "response-2"
  result := _
  called := sdkTrace_runs 2 "jti-2" rfl rfl
  signer := sdkTrace_signer "response-2" (by decide) rfl rfl rfl
  secrets reply member := by simpa [sdkTrace] using member
  sends := sdkTrace_sends
  compact := Js.Word.of_visible (by decide) (by decide)
  endpoint := by decide +kernel
  handling := brokerTrace receivingSent "minted-2" "id-2"
  outcome := _
  handled := SteadyServices.runs _ _
  signing := brokerSigningKey
  serves := brokerTrace_serves receivingRow ⟨7⟩ (by decide +kernel) rfl rfl (by decide +kernel)
    (by decide)
  timely := brokerTrace_timely
  answers := brokerTrace_answers (by decide +kernel) rfl

def servedLogin : GrantedLogin servedTable.platform userIssuerOptions where
  signInRequest := loginRequest
  signIn := loginServices.trace (login servedTable.platform userIssuerOptions loginRequest)
  signedIn := loginServices.runs _
  token := "alice-token"
  granted := ⟨_, (by decide +kernel : ⟨.json 200 (issued userIssuerOptions aliceUser
    "alice-token").toJson, ()⟩ ∈ loginServices.trace (login servedTable.platform userIssuerOptions
      loginRequest)), rfl⟩
  signs header claims key member := by
    have only : (loginServices.trace (login servedTable.platform userIssuerOptions
        loginRequest)).filter isSigning =
        [⟨.signJwt userTokenRow.header userTokenRow.payload.claims ⟨5⟩, .ok "alice-token"⟩] := by
      decide +kernel
    exact signs_of_row only (signedWith_of_row rfl rfl (by decide +kernel)) member
  key := userIssuerKey
  loaded reply member := by
    obtain ⟨_, rfl⟩ := SteadyServices.replied member
    rfl

/-- The clocks of these services stand still. -/
theorem steady_outlasted {ttl : Rat} (positive : 0 < ttl) (one other : SteadyServices)
    (same : one.moment = other.moment) {α β : Type} (first : Act α) (second : Act β) :
    OutlastedBy ttl (one.trace first) (other.trace second) := by
  intro signedAt moment signed read
  obtain ⟨_, rfl⟩ := SteadyServices.replied signed
  obtain ⟨_, rfl⟩ := SteadyServices.replied read
  have moments : toSeconds other.moment = toSeconds one.moment := by rw [same]
  change ((toSeconds other.moment : Nat) : Rat) < (toSeconds one.moment : Nat) + ttl
  rw [moments]
  exact lt_add_of_pos_right _ positive

theorem steady_servesKey {jwksUri : String} {signing : LoadedSigningKey} {services : SteadyServices}
    {α : Type} {program : Act α} (jwk : Obj)
    (selected : selectKey (services.keys jwksUri) (some (.str signing.kid)) = some jwk)
    (imported : importKey servedTable.platform jwk = .ok signing.privateKey.publicKey) :
    ServesKey servedTable.platform jwksUri signing (services.trace program) := by
  intro forced reply fetched
  obtain ⟨_, rfl⟩ := SteadyServices.replied fetched
  exact ⟨_, jwk, rfl, selected, imported⟩

theorem served_chain : HonestChain servedLogin [receivingExchange, callingExchange] := by
  have ttl : (0 : Rat) < userIssuerOptions.ttl := by
    norm_num [userIssuerOptions, LocalIssuerOptions.ttl]
  have tokenTtl : (0 : Rat) < brokerDeps.exchangedTokenTtlSeconds := by norm_num [brokerDeps]
  refine .next (.first rfl ?_ ?_) { fed := ?_, served := ?_, inTime := ?_ }
  · exact steady_servesKey userIssuerKey.publicJwk rfl rfl
  · exact steady_outlasted ttl loginServices (brokerServices "minted-1" "id-1") rfl _ _
  · intro result returned
    cases returned
    rfl
  · exact steady_servesKey _ rfl rfl
  · exact steady_outlasted tokenTtl (brokerServices "minted-1" "id-1")
      (brokerServices "minted-2" "id-2") rfl _ _

def visitServices : SteadyServices := brokerServices "" "id-3"

def visitSigning : List ClientEvent := [⟨.randomUUID, "jti-3"⟩, ⟨.activeKey, .ok (servedKey 2)⟩,
  ⟨.date, (1000000 : Millis)⟩, ⟨.signJwt visitProofRow.header visitProofRow.payload.claims ⟨2⟩,
    .ok "proof-3"⟩]

def servedVisit : HonestVisit servedTable.platform
    (serviceDeps "ledger-dpop-nonce:" "ledger" entryDeployment.ledger) where
  req := entryRequest
  token := "minted-2"
  extracted := by decide +kernel
  key := servedKey 2
  nonce := "nonce-1"
  signing := visitSigning
  signed := .ok { proof := "proof-3", jti := "jti-3" }
  signs := .call _ (.call _ (.call _ (.call _ (.done _))))
  signer := {
    held := fun reply read => by simpa [visitSigning] using read
    drawn := fun jti drew => by
      have same : jti = "jti-3" := by simpa [visitSigning] using drew
      rw [same]
      decide
    signs := fun header claims key reply signed => by
      have same : (header = visitProofRow.header ∧ claims = visitProofRow.payload.claims ∧
          key = ⟨2⟩) ∧ reply = .ok "proof-3" := by simpa [visitSigning] using signed
      obtain ⟨⟨rfl, rfl, rfl⟩, rfl⟩ := same
      exact ⟨_, rfl, served_proof visitProofRow rfl rfl rfl rfl⟩
    published := rfl }
  shown proof same := by
    cases same
    decide
  trace := visitServices.trace (ledgerBrokerAuth servedTable.platform entryDeployment.ledger
    entryRequest)
  outcome := _
  run := SteadyServices.runs _ _
  takes proof signedAt same clock := by
    cases same
    have moment : signedAt = 1000000 := by simpa [visitSigning] using clock
    subst moment
    exact {
      timely := fun nowMs read => by
        obtain ⟨_, rfl⟩ := SteadyServices.replied read
        change |((toSeconds 1000000 : Nat) : Rat) - (toSeconds 1000000 : Nat)| ≤ _
        rw [sub_self, abs_zero]
        decide +kernel
      live := fun _ => ⟨_, "nonce-1", rfl, rfl, by decide, fun reply deleted => by
        obtain ⟨_, rfl⟩ := SteadyServices.replied deleted
        rfl⟩
      fresh := fun ttl reply set => by
        obtain ⟨_, rfl⟩ := SteadyServices.replied set
        rfl }
  allowed input reply asked := by
    obtain ⟨_, rfl⟩ := SteadyServices.replied asked
    exact ⟨_, rfl, rfl⟩

theorem servedVisit_shows : servedVisit.Shows receivingExchange where
  token result returned := by
    cases returned
    rfl
  key := rfl
  aimed := rfl
  issuer := rfl
  served := steady_servesKey _ rfl rfl
  inTime := by
    have ttl : (0 : Rat) < brokerDeps.exchangedTokenTtlSeconds := by norm_num [brokerDeps]
    exact steady_outlasted ttl (brokerServices "minted-2" "id-2") visitServices rfl _ _

/-- alice's entry is let through, two exchanges after her login. -/
theorem alice_served :
    (∀ exchange ∈ [receivingExchange, callingExchange], ∃ result, exchange.result = .ok result ∧
      result.scopes = exchange.scopes) ∧ ⟨.next, ()⟩ ∈ servedVisit.trace := by
  have trusts : Trusts brokerDeps userIssuerOptions := {
    issuer := rfl
    issuerNamed := by decide
    apart := by decide
    userIssuer := rfl
    userAudience := rfl
    userIssuerNamed := by decide }
  obtain ⟨returned, passes⟩ := served_chain.served_iff servedTable.platform_agrees trusts
  exact ⟨returned, (passes servedVisit servedVisit_shows).mpr (by decide)⟩

end ServedEntry

end S2s
