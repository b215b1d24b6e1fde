import S2sStack.Broker.Soundness

set_option autoImplicit false

/- Chains of exchanges: what a token carries after any number of hops. -/
namespace S2s

open Effect Effect.Program
open Js (Json Obj)

/-- What a token signed by `SignJWT` is to the functions that read it, until it expires. -/
structure SignedWith (P : Platform) (header claims : Obj) (key : PrivateKey) (token : String) :
    Prop where
  decoded : P.decodeJwt token = .ok claims
  kid : readKid P token = Js.nullish (Obj.get? "kid" header)
  verified : ∀ moment, (toSeconds moment : Rat) < dateOrZero claims "exp" →
    ∃ payload, payload.claims = claims ∧ P.jwtVerify token key.publicKey
      { algorithms := none, currentDate := moment } = .ok payload

/-- The thumbprint of the key in a proof's header. -/
def proofThumbprint (P : Platform) (dpopProof : String) : Except Fault String := do
  let header ← P.decodeProtectedHeader dpopProof
  let jwk ← proofJwk header
  P.calculateJwkThumbprint jwk

/-- The deployment's settings fit together, and its two issuers differ. -/
structure Wired (deps : TokenRouterDeps) : Prop where
  issuer : deps.subjectValidator.brokerIssuerUrl = deps.brokerIssuerUrl
  issuerNamed : deps.brokerIssuerUrl ≠ ""
  apart : deps.subjectValidator.userIssuerUrl ≠ deps.brokerIssuerUrl

/-- One successful exchange, with its actor, its proof key and the two tokens. -/
structure TokenExchange (P : Platform) (deps : TokenRouterDeps) where
  req : Request
  trace : List Event
  outcome : Except Fault Unit
  body : Json
  subject : String
  actor : String
  thumbprint : String
  token : String
  run : Runs (tokenRouter P deps req) trace outcome
  answered : ⟨.json 200 body, ()⟩ ∈ trace
  carries : accessTokenOf body = some (.str token)
  presents : getStringField req.body "subject_token" = some subject
  authenticates : ∃ secret, parseBasicAuth P (req.header? "authorization") = some (actor, secret)
  proves : proofThumbprint P (req.headerOrEmpty "dpop") = .ok thumbprint
  signs : ∀ header claims key signed, ⟨.signJwt header claims key, .ok signed⟩ ∈ trace →
    SignedWith P header claims key signed

variable {P : Platform} {deps : TokenRouterDeps}

/-- The first exchange is of this token, each later one of the token before it. -/
def Feeds : String → List (TokenExchange P deps) → Prop
  | _, [] => True
  | subject, exchange :: rest => exchange.subject = subject ∧ Feeds exchange.token rest

namespace Grant

def chain (grant : Grant) : ActorChain :=
  composeActorChain grant.actor.clientId grant.validated.previousActorChain

def header (deps : TokenRouterDeps) (grant : Grant) : Obj :=
  userJwtHeader (mintSignOptions (mintOptions deps grant.signing) grant.mintInput)

variable (grant : Grant)

theorem claims_act : (grant.claims deps).get? "act" = some grant.chain.toJson := rfl

theorem claims_iss : (grant.claims deps).get? "iss" = some (.str deps.brokerIssuerUrl) := rfl

theorem claims_aud : (grant.claims deps).get? "aud" = some (.str grant.request.audience) := rfl

theorem claims_sub : (grant.claims deps).get? "sub" = some (.str grant.validated.user.sub) := rfl

theorem claims_roles :
    (grant.claims deps).get? "roles" = some (strings grant.validated.user.roles) := rfl

theorem claims_groups :
    (grant.claims deps).get? "groups" = some (strings grant.validated.user.groups) := rfl

theorem claims_userIssuer :
    (grant.claims deps).get? "user_issuer" = some (.str grant.validated.user.issuer) := rfl

theorem claims_cnf : (grant.claims deps).get? "cnf" =
    some (.obj [("jkt", .str grant.proof.jwkThumbprint)]) := rfl

theorem claims_exp : dateOrZero (grant.claims deps) "exp" =
    toSeconds grant.nowMs + deps.exchangedTokenTtlSeconds := rfl

/-- What the validator reads back from the token. -/
theorem reentryUser_claims (deps : TokenRouterDeps) (opts : SubjectTokenValidatorOptions) :
    (reentryUser opts (grant.claims deps)).sub = grant.validated.user.sub ∧
      (reentryUser opts (grant.claims deps)).roles = grant.validated.user.roles ∧
      (reentryUser opts (grant.claims deps)).groups = grant.validated.user.groups ∧
      (reentryUser opts (grant.claims deps)).issuer = grant.validated.user.issuer := by
  refine ⟨?_, ?_, ?_, ?_⟩
  · simp only [reentryUser, claims_sub, Js.textOrEmpty_str]
  · simp only [reentryUser, claims_roles, strings, Js.stringItems_strings]
  · simp only [reentryUser, claims_groups, strings, Js.stringItems_strings]
  · have kept : Obj.get? "user_issuer" (Obj.without reservedClaims (grant.claims deps)) =
        some (.str grant.validated.user.issuer) := by
      rw [Obj.get?_without _ (by decide), claims_userIssuer]
    simp only [reentryUser, kept]

end Grant

/-- A token of the broker that carries this user through these actors, oldest first. -/
structure CarriesDelegation (deps : TokenRouterDeps) (user : UserContext) (actors : List String)
    (grant : Grant) : Prop where
  actors : actorChainAsString (some grant.chain) = actors
  named : Named grant.chain
  sub : grant.validated.user.sub = user.sub
  roles : grant.validated.user.roles = user.roles
  groups : grant.validated.user.groups = user.groups
  issuer : grant.validated.user.issuer = user.issuer

namespace TokenExchange

/-- The values behind an exchange. -/
structure IsGrant (exchange : TokenExchange P deps) (grant : Grant) : Prop
    extends grant.Recorded P deps exchange.req exchange.trace where
  token : grant.token = exchange.token
  actor : grant.actor.clientId = exchange.actor
  subjectToken : grant.request.subjectToken = exchange.subject
  thumbprint : grant.proof.jwkThumbprint = exchange.thumbprint
  signature : SignedWith P (grant.header deps) (grant.claims deps) grant.signing.privateKey
    exchange.token

theorem proofThumbprint_of_proven {dpopProof expectedHtu : String}
    {opts : ExchangeProofVerifierOptions} {proof : DPoPVerificationResult} {trace : List Event}
    (run : Runs (verifyExchangeProof P opts dpopProof expectedHtu) trace (.ok proof)) :
    proofThumbprint P dpopProof = .ok proof.jwkThumbprint := by
  obtain ⟨jwk, _, _, _, _, _, thumbprint, _, accepted, _, _, rfl⟩ := verifyDPoP_ok run
  obtain ⟨header, decoded, carried⟩ := accepted.header
  have decoded' : P.decodeProtectedHeader dpopProof = .ok header := decoded
  rw [proofThumbprint, decoded']
  change (proofJwk header >>= P.calculateJwkThumbprint) = _
  rw [carried]
  exact accepted.computed

theorem exists_grant (exchange : TokenExchange P deps) : ∃ grant, exchange.IsGrant grant := by
  obtain ⟨grant, recorded, same⟩ := tokenRouter_recorded exchange.run exchange.answered
    ⟨_, _, rfl, exchange.carries⟩
  have token : grant.token = exchange.token := by
    have carried := exchange.carries
    rw [same] at carried
    simpa [exchangeResponse, accessTokenOf] using carried
  have complete := readExchangeRequest_ok recorded.requested
  obtain ⟨secret, parsed, _, _⟩ := authenticateActor_ok recorded.authenticated
  obtain ⟨secret', parsed'⟩ := exchange.authenticates
  obtain ⟨_, _, prove⟩ := recorded.proven
  have thumbprint := proofThumbprint_of_proven prove
  refine ⟨grant, { recorded with
    token := token
    actor := ?_
    subjectToken := ?_
    thumbprint := ?_
    signature := token ▸ exchange.signs _ _ _ _ recorded.signed }⟩
  · rw [parsed'] at parsed
    exact (Prod.ext_iff.mp (Option.some.inj parsed)).1.symm
  · have presented := complete.subjectToken
    rw [exchange.presents] at presented
    exact (Option.some.inj presented).symm
  · rw [exchange.proves] at thumbprint
    exact (Except.ok.inj thumbprint).symm

theorem actor_ne_empty (exchange : TokenExchange P deps) : exchange.actor ≠ "" := by
  obtain ⟨secret, parsed⟩ := exchange.authenticates
  exact clientId_ne_empty parsed

end TokenExchange

open TokenExchange

/-- The first hop: the user comes from the user token, the chain is its actor. -/
theorem carriesDelegation_first (agrees : P.PayloadAgrees) (wired : Wired deps) {claims : Obj}
    {exchange : TokenExchange P deps} {grant : Grant} (isGrant : exchange.IsGrant grant)
    (decoded : P.decodeJwt exchange.subject = .ok claims)
    (issued : claims.get? "iss" = some (.str deps.subjectValidator.userIssuerUrl)) :
    CarriesDelegation deps (userContext claims) [exchange.actor] grant := by
  obtain ⟨_, _, validate⟩ := isGrant.subject
  rw [isGrant.subjectToken] at validate
  have apart : deps.subjectValidator.userIssuerUrl ≠ deps.subjectValidator.brokerIssuerUrl := by
    rw [wired.issuer]
    exact wired.apart
  have validated := validateSubjectToken_user agrees decoded issued apart validate
  have chain : grant.chain = .root exchange.actor := by
    simp only [Grant.chain, validated, isGrant.actor, composeActorChain]
  refine ⟨?_, ?_, ?_, ?_, ?_, ?_⟩
  · rw [chain]
    rfl
  · rw [chain]
    have alone : Named (composeActorChain exchange.actor none) :=
      named_compose exchange.actor_ne_empty (by simp)
    exact alone
  all_goals rw [validated]

/-- A further hop adds its actor and keeps the user. -/
theorem carriesDelegation_next (wired : Wired deps) {user : UserContext} {actors : List String}
    {earlier exchange : TokenExchange P deps} {before grant : Grant}
    (isBefore : earlier.IsGrant before) (isGrant : exchange.IsGrant grant)
    (carries : CarriesDelegation deps user actors before) (fed : exchange.subject = earlier.token) :
    CarriesDelegation deps user (actors ++ [exchange.actor]) grant := by
  obtain ⟨_, _, validate⟩ := isGrant.subject
  rw [isGrant.subjectToken, fed] at validate
  have issuer : (before.claims deps).get? "iss" =
      some (.str deps.subjectValidator.brokerIssuerUrl) := by
    rw [wired.issuer, before.claims_iss]
  have validated := validateSubjectToken_reentry isBefore.signature.decoded issuer validate
  have previous : grant.validated.previousActorChain = some before.chain := by
    rw [validated, reentryResult, before.claims_act]
    exact buildChain_toJson before.chain carries.named
  have chain : grant.chain = composeActorChain exchange.actor (some before.chain) := by
    rw [Grant.chain, isGrant.actor, previous]
  obtain ⟨sub, roles, groups, userIssuer⟩ :=
    before.reentryUser_claims deps deps.subjectValidator
  refine ⟨?_, ?_, ?_, ?_, ?_, ?_⟩
  · rw [chain, actorChainAsString_compose, carries.actors]
  · rw [chain]
    refine named_compose exchange.actor_ne_empty fun inner same => ?_
    cases same
    exact carries.named
  · rw [validated, reentryResult, sub, carries.sub]
  · rw [validated, reentryResult, roles, carries.roles]
  · rw [validated, reentryResult, groups, carries.groups]
  · rw [validated, reentryResult, userIssuer, carries.issuer]

/-- The invariant along a chain of exchanges, from any hop on. -/
theorem carriesDelegation_rest (wired : Wired deps) {user : UserContext} {actors : List String}
    {earlier : TokenExchange P deps} {before : Grant} (isBefore : earlier.IsGrant before)
    (carries : CarriesDelegation deps user actors before)
    (rest : List (TokenExchange P deps)) (feeds : Feeds earlier.token rest) :
    ∃ grant, ((earlier :: rest).getLast (List.cons_ne_nil _ _)).IsGrant grant ∧
      CarriesDelegation deps user (actors ++ rest.map TokenExchange.actor) grant := by
  induction rest generalizing earlier before actors with
  | nil => exact ⟨before, isBefore, by simpa using carries⟩
  | cons exchange rest ih =>
      obtain ⟨fed, feeds⟩ := feeds
      obtain ⟨grant, isGrant⟩ := exchange.exists_grant
      have next := carriesDelegation_next wired isBefore isGrant carries fed
      obtain ⟨last, isLast, carried⟩ := ih isGrant next feeds
      refine ⟨last, by simpa using isLast, ?_⟩
      simpa using carried

theorem getStringField_ne_empty {body : Option Json} {field value : String}
    (found : getStringField body field = some value) : value ≠ "" := by
  unfold getStringField at found
  split at found
  · split at found
    · split at found
      · cases found
      · rename_i filled
        cases found
        exact filled
    · cases found
  · cases found

/-- The signing key of the exchange is in every key set of the broker that the run fetches. -/
def TokenExchange.KeyPublished (exchange : TokenExchange P deps) (trace : List Event) : Prop :=
  ∀ signing, ⟨.signingKey, .ok signing⟩ ∈ exchange.trace →
    ∀ forced reply, ⟨.getKeys deps.subjectValidator.brokerJwksUri forced, reply⟩ ∈ trace →
      ∃ keys jwk, reply = .ok keys ∧ selectKey keys (some (.str signing.kid)) = some jwk ∧
        importKey P jwk = .ok signing.privateKey.publicKey

/-- The run reads the clock before the exchanged token expires. -/
def TokenExchange.Unexpired (exchange : TokenExchange P deps) (trace : List Event) : Prop :=
  ∀ claims, P.decodeJwt exchange.token = .ok claims → ∀ moment, ⟨.now, moment⟩ ∈ trace →
    (toSeconds moment : Rat) < dateOrZero claims "exp"

/-- An exchanged token is accepted as a subject token, whatever audience is requested. -/
theorem TokenExchange.reaccepted (wired : Wired deps) (exchange : TokenExchange P deps)
    {requestedAudience : String} {trace : List Event}
    {outcome : Except Fault SubjectTokenValidationResult}
    (published : exchange.KeyPublished trace) (unexpired : exchange.Unexpired trace)
    (run : Runs (validateSubjectToken P deps.subjectValidator exchange.token requestedAudience)
      trace outcome) : ∃ result, outcome = .ok result := by
  obtain ⟨grant, isGrant⟩ := exchange.exists_grant
  have signature := isGrant.signature
  have young := unexpired _ signature.decoded
  have complete := readExchangeRequest_ok isGrant.requested
  have inKeySets : Publishes P deps.subjectValidator.brokerJwksUri exchange.token
      grant.signing.privateKey.publicKey trace := by
    intro forced reply fetched
    rw [signature.kid]
    exact published grant.signing isGrant.loaded forced reply fetched
  have verifies : VerifiesTo P exchange.token grant.signing.privateKey.publicKey
      (grant.claims deps) trace :=
    fun moment read => signature.verified moment (young moment read)
  have issuerNamed : deps.subjectValidator.brokerIssuerUrl ≠ "" := by
    rw [wired.issuer]
    exact wired.issuerNamed
  have live : LiveBrokerToken P deps.subjectValidator exchange.token grant.request.audience
      grant.signing.privateKey.publicKey (grant.claims deps) trace := {
    decoded := signature.decoded
    issuer := by rw [wired.issuer, grant.claims_iss]
    minted := grant.claims_aud
    audienceNamed := getStringField_ne_empty complete.audience
    published := inKeySets
    verifies := verifies
    unexpired := young }
  exact ⟨_, validateSubjectToken_accepts live issuerNamed run⟩

/-- After any number of exchanges the token still speaks for the user, is bound to the last
key and names the actors in their order; and every token of the chain is accepted again. -/
theorem delegation_faithful (agrees : P.PayloadAgrees) (wired : Wired deps) {userToken : String}
    {claims : Obj} (decoded : P.decodeJwt userToken = .ok claims)
    (issued : claims.get? "iss" = some (.str deps.subjectValidator.userIssuerUrl))
    {exchanges : List (TokenExchange P deps)} (some_exchange : exchanges ≠ [])
    (feeds : Feeds userToken exchanges) :
    (∃ user final, NamesUser claims user ∧
      P.decodeJwt (exchanges.getLast some_exchange).token = .ok final ∧
      actorChainAsString (extractActorChain final) = exchanges.map TokenExchange.actor ∧
      final.get? "sub" = some (.str user.sub) ∧
      final.get? "roles" = some (strings user.roles) ∧
      final.get? "groups" = some (strings user.groups) ∧
      final.get? "user_issuer" = some (.str deps.subjectValidator.userIssuerUrl) ∧
      final.get? "cnf" =
        some (.obj [("jkt", .str (exchanges.getLast some_exchange).thumbprint)])) ∧
    ∀ exchange ∈ exchanges, ∀ requestedAudience trace outcome,
      exchange.KeyPublished trace → exchange.Unexpired trace →
      Runs (validateSubjectToken P deps.subjectValidator exchange.token requestedAudience) trace
        outcome → ∃ result, outcome = .ok result := by
  refine ⟨?_, fun exchange _ _ _ _ published unexpired run =>
    exchange.reaccepted wired published unexpired run⟩
  cases exchanges with
  | nil => exact absurd rfl some_exchange
  | cons first rest =>
      obtain ⟨presented, feeds⟩ := feeds
      obtain ⟨start, isStart⟩ := first.exists_grant
      rw [← presented] at decoded
      have begun := carriesDelegation_first agrees wired isStart decoded issued
      obtain ⟨last, isLast, carries⟩ := carriesDelegation_rest wired isStart begun rest feeds
      have userIssuer : (userContext claims).issuer = deps.subjectValidator.userIssuerUrl := by
        simp only [userContext, issued, Js.textOrEmpty_str]
      refine ⟨userContext claims, last.claims deps, namesUser_userContext claims,
        isLast.signature.decoded, ?_, ?_, ?_, ?_, ?_, ?_⟩
      · rw [extractActorChain_eq, last.claims_act, Option.bind_some,
          buildChain_toJson _ carries.named, carries.actors]
        rfl
      · rw [last.claims_sub, carries.sub]
      · rw [last.claims_roles, carries.roles]
      · rw [last.claims_groups, carries.groups]
      · rw [last.claims_userIssuer, carries.issuer, userIssuer]
      · rw [last.claims_cnf, isLast.thumbprint]

section TwoHops

/-- A row of the table whose signer is this key is a token signed with it. -/
theorem signedWith_of_row {table : TokenTable} {row : SignedToken} {key : PrivateKey}
    (found : table.find row.token = some row) (signer : row.signer = key.publicKey)
    (kid : readKid table.platform row.token = Js.nullish (Obj.get? "kid" row.header)) :
    SignedWith table.platform row.header row.payload.claims key row.token where
  decoded := by simp only [TokenTable.platform, found]
  kid := kid
  verified moment young := by
    refine ⟨row.payload, rfl, ?_⟩
    simp only [TokenTable.platform, TokenTable.verify, found, signer, ne_eq, not_true_eq_false,
      ↓reduceIte]
    split
    · rename_i exp dated
      simp only [dateOrZero, dated] at young
      simp only [not_le.mpr young, ↓reduceIte]
    · rfl

def isSigning (event : Event) : Bool :=
  match event.op with
  | .signJwt _ _ _ => true
  | _ => false

/-- The one token that a run signs comes from this row of the table. -/
theorem signs_of_row {table : TokenTable} {row : SignedToken} {signer : PrivateKey}
    {trace : List Event} (only : trace.filter isSigning =
      [⟨.signJwt row.header row.payload.claims signer, .ok row.token⟩])
    (signature : SignedWith table.platform row.header row.payload.claims signer row.token)
    {header claims : Obj} {key : PrivateKey} {signed : String}
    (member : ⟨.signJwt header claims key, .ok signed⟩ ∈ trace) :
    SignedWith table.platform header claims key signed := by
  have inside : (⟨.signJwt header claims key, .ok signed⟩ : Event) ∈ trace.filter isSigning :=
    List.mem_filter.mpr ⟨member, rfl⟩
  rw [only] at inside
  cases List.mem_singleton.mp inside
  exact signature

def secondRequest : Request :=
  hopRequest "minted-1" "ledger-service" "Basic cmVjZWl2aW5n" "proof-2"

def firstHop : TokenExchange hopTable.platform brokerDeps where
  req := firstRequest "alice-token"
  trace := firstTrace "alice-token"
  outcome := (hopServices "minted-1" "id-1").outcome
    (tokenRouter hopTable.platform brokerDeps (firstRequest "alice-token"))
  body := exchangeResponse brokerDeps ⟨"alice-token", "receiving-service", ["ledger.write"]⟩
    "minted-1"
  subject := "alice-token"
  actor := "calling-service"
  thumbprint := "thumbprint-1"
  token := "minted-1"
  run := SteadyServices.runs _ _
  answered := by decide +kernel
  carries := rfl
  presents := rfl
  authenticates := ⟨"secret-1", by decide +kernel⟩
  proves := by decide +kernel
  signs header claims key signed member := by
    have signature : SignedWith hopTable.platform firstRow.header firstRow.payload.claims ⟨7⟩
        firstRow.token := signedWith_of_row rfl rfl (by decide +kernel)
    exact signs_of_row (by decide +kernel) signature member

def secondHop : TokenExchange hopTable.platform brokerDeps where
  req := secondRequest
  trace := (hopServices "minted-2" "id-2").trace
    (tokenRouter hopTable.platform brokerDeps secondRequest)
  outcome := (hopServices "minted-2" "id-2").outcome
    (tokenRouter hopTable.platform brokerDeps secondRequest)
  body := exchangeResponse brokerDeps ⟨"minted-1", "ledger-service", ["ledger.write"]⟩ "minted-2"
  subject := "minted-1"
  actor := "receiving-service"
  thumbprint := "thumbprint-2"
  token := "minted-2"
  run := SteadyServices.runs _ _
  answered := by decide +kernel
  carries := rfl
  presents := rfl
  authenticates := ⟨"secret-2", by decide +kernel⟩
  proves := by decide +kernel
  signs header claims key signed member := by
    have signature : SignedWith hopTable.platform secondRow.header secondRow.payload.claims ⟨7⟩
        secondRow.token := signedWith_of_row rfl rfl (by decide +kernel)
    exact signs_of_row (by decide +kernel) signature member

/-- After two hops the token names both services, the oldest first, and still the user. -/
theorem secondHop_faithful :
    ∃ final, hopTable.platform.decodeJwt "minted-2" = .ok final ∧
      actorChainAsString (extractActorChain final) = ["calling-service", "receiving-service"] ∧
      final.get? "sub" = some (.str "alice") ∧ final.get? "roles" = some (strings ["clerk"]) ∧
      final.get? "groups" = some (strings ["eu", "west"]) := by
  have wired : Wired brokerDeps := ⟨rfl, by decide, by decide⟩
  have feeds : Feeds "alice-token" [firstHop, secondHop] := ⟨rfl, rfl, trivial⟩
  have decodes : hopTable.platform.decodeJwt "alice-token" = .ok aliceClaims := rfl
  obtain ⟨⟨user, final, named, decoded, actors, sub, roles, groups, _⟩, _⟩ := delegation_faithful
    hopTable.platform_agrees wired decodes rfl (List.cons_ne_nil _ _) feeds
  have isAlice : user.sub = "alice" := Js.spells_iff.mp named.sub
  have ofClerks : user.roles = ["clerk"] := (lists_iff.mp named.roles).trans (by decide)
  have ofEurope : user.groups = ["eu", "west"] := (lists_iff.mp named.groups).trans (by decide)
  rw [isAlice] at sub
  rw [ofClerks] at roles
  rw [ofEurope] at groups
  exact ⟨final, decoded, actors, sub, roles, groups⟩

end TwoHops

end S2s
