import S2sStack.Calling.Session
import S2sStack.Service.Admission
import S2sStack.Policies.Vocabulary
import S2sStack.Service.ExchangeWire
import S2sStack.Service.LoanStore
import S2sStack.System.Hops

set_option autoImplicit false

/- Whom the services act for: every request they let through goes back to a login. -/
namespace S2s

open Effect Effect.Program
open Js (Json Obj)

namespace SystemStep

/-- The request goes on to the handler with this `req.auth`. -/
def Admits (auth : RequestAuth) : SystemStep → Prop
  | login _ _ => False
  | exchange _ _ => False
  | loan _ trace _ => ⟨.next, ()⟩ ∈ trace ∧ ⟨.setAuth auth, ()⟩ ∈ trace
  | entry _ trace _ => ⟨.next, ()⟩ ∈ trace ∧ ⟨.setAuth auth, ()⟩ ∈ trace
  | forge _ _ _ _ => False

/-- The audience that the service expects. -/
def audience (d : Deployment) : SystemStep → String
  | loan _ _ _ => d.receiving.brokerAudience
  | entry _ _ _ => d.ledger.brokerAudience
  | _ => ""

/-- What the step performs in front of its handler. -/
def checks : SystemStep → List Event
  | login _ trace => trace
  | exchange _ trace => trace
  | loan _ trace _ => trace
  | entry _ trace _ => trace
  | forge _ _ _ _ => []

def dpopProof : SystemStep → String
  | loan req _ _ => req.headerOrEmpty "dpop"
  | entry req _ _ => req.headerOrEmpty "dpop"
  | _ => ""

end SystemStep

/-- The proof is signed by a key with this thumbprint. -/
def ProofBy (P : Platform) (thumbprint dpopProof : String) : Prop :=
  ∃ jwk key options payload, P.calculateJwkThumbprint jwk = .ok thumbprint ∧
    P.importJWK jwk (.str "ES256") = .ok key ∧ P.jwtVerify dpopProof key options = .ok payload

theorem proofBy_of_accepted {P : Platform} {deps : VerifyDPoPDeps} {input : VerifyDPoPInput}
    {result : DPoPVerificationResult} {trace : List Event}
    (run : Runs (verifyDPoP P deps input) trace (.ok result)) :
    ProofBy P result.jwkThumbprint input.dpopProof := by
  obtain ⟨jwk, key, _, payload, _, _, thumbprint, _, accepted, _, _, rfl⟩ := verifyDPoP_ok run
  exact ⟨jwk, key, _, payload, accepted.computed, accepted.imported, accepted.signature⟩

theorem word_of_parseScopes {raw scope : String} (member : scope ∈ parseScopes raw) :
    Js.Word scope := by
  obtain ⟨inside, filled⟩ := List.mem_filter.mp member
  obtain ⟨part, found, rfl⟩ := List.mem_map.mp inside
  have visible := Js.splitSpace_visible found
  rw [Js.trim_solid visible] at filled ⊢
  exact ⟨by simpa using filled, visible⟩

/-- The scopes of a request are read back from the token. -/
theorem scopeList_joinScopes {body : Option Json} {request : ExchangeRequest}
    (complete : CompleteRequest body request) :
    scopeList (joinScopes request.requestedScopes) = request.requestedScopes := by
  obtain ⟨raw, _, parsed⟩ := complete.scope
  have words : ∀ scope ∈ request.requestedScopes, Js.Word scope := by
    rw [parsed]
    exact fun scope member => word_of_parseScopes member
  have blank : Js.isSpace ' ' = true := by decide
  have unbroken : ∀ scope ∈ request.requestedScopes, ' ' ∉ scope.toList := by
    intro scope member inside
    have visible := (words scope member).solid ' ' inside
    rw [blank] at visible
    cases visible
  have filled : ¬ joinScopes request.requestedScopes = "" :=
    SentExchange.joined_filled complete.scopes words
  rw [scopeList, if_neg filled]
  exact Js.split_intercalate complete.scopes unbroken

/-- A request that was let through, the checks it has passed, and what stands behind its token. -/
structure Backing (P : Platform) (d : Deployment) (before : List SystemStep) (step : SystemStep)
    (auth : RequestAuth) where
  deps : BrokerAuthDeps
  req : Request
  accessToken : String
  validated : ValidatedToken
  chain : ActorChain
  decision : AuthorizationResult
  admission : ServiceAdmission P deps req accessToken validated chain decision step.checks
  audience : deps.expectedAudience = step.audience d
  proof : req.headerOrEmpty "dpop" = step.dpopProof
  presented : step.Presents accessToken
  auth : auth = serviceAuth accessToken validated chain decision
  user : TestUser
  hop : Hop
  earlier : List Hop
  hops : Hops P d user before (hop :: earlier)
  passes : hop.grant.Passes P d.broker hop.req hop.trace
  token : accessToken = hop.grant.token
  claims : validated.raw = hop.grant.claims d.broker
  read : ∃ payload : JwtPayload, payload.claims = validated.raw ∧ validated = validatedToken payload
  carries : CarriesDelegation d.broker (user.context d.issuer) (hopActors (hop :: earlier)) hop.grant

namespace Backing

variable {P : Platform} {d : Deployment} {before : List SystemStep} {step : SystemStep}
  {auth : RequestAuth} (backing : Backing P d before step auth)

theorem sub : backing.validated.sub = backing.user.sub := by
  obtain ⟨payload, same, read⟩ := backing.read
  rw [read, validatedToken, same, backing.claims, Grant.claims_sub, Js.textOrEmpty_str,
    backing.carries.sub, TestUser.context]

theorem scope : backing.validated.scope = backing.hop.grant.request.requestedScopes := by
  obtain ⟨payload, same, read⟩ := backing.read
  have scope : (backing.hop.grant.claims d.broker).get? "scope" =
      some (.str (joinScopes backing.hop.grant.request.requestedScopes)) := rfl
  rw [read, validatedToken, same, backing.claims, scope, Js.textOrEmpty_str]
  exact scopeList_joinScopes (readExchangeRequest_ok backing.passes.requested)

theorem jkt : backing.validated.cnf.bind CnfClaim.jkt =
    some backing.hop.grant.proof.jwkThumbprint := by
  obtain ⟨payload, same, read⟩ := backing.read
  rw [read, validatedToken, same, backing.claims, Grant.claims_cnf]
  rfl

theorem user_roles : (serviceUser backing.validated).roles = backing.user.roles := by
  rw [serviceUser, backing.claims, Grant.claims_roles, strings, Js.stringItems_strings,
    backing.carries.roles, TestUser.context]

theorem user_groups : (serviceUser backing.validated).groups = backing.user.groups := by
  rw [serviceUser, backing.claims, Grant.claims_groups, strings, Js.stringItems_strings,
    backing.carries.groups, TestUser.context]

theorem chain_eq : backing.chain = backing.hop.grant.chain ∧
    chainDepth (some backing.chain) ≤ maxActorChainDepth := by
  have checked := backing.admission.delegated
  have extracted : extractActorChain backing.validated.raw = some backing.hop.grant.chain := by
    rw [extractActorChain_eq, backing.claims, Grant.claims_act, Option.bind_some]
    exact buildChain_toJson _ backing.carries.named
  unfold checkActorChain at checked
  rw [extracted] at checked
  by_cases deep : chainDepth (some backing.hop.grant.chain) > maxActorChainDepth
  · simp only [deep, ↓reduceIte] at checked
    cases checked
  · simp only [deep, ↓reduceIte, Except.ok.injEq] at checked
    rw [← checked]
    exact ⟨rfl, Nat.le_of_not_lt deep⟩

theorem actors : actorChainAsString (some backing.chain) =
    hopActors (backing.hop :: backing.earlier) := by
  rw [backing.chain_eq.1, backing.carries.actors]

theorem length_le : (backing.hop :: backing.earlier).length ≤ maxActorChainDepth := by
  have depth := backing.chain_eq.2
  rw [chainDepth_eq, backing.actors] at depth
  simpa [hopActors] using depth

/-- The audience of the token is the one that the service expects. -/
theorem aimed : backing.hop.grant.request.audience = step.audience d := by
  obtain ⟨part, _, validate⟩ := backing.admission.validation
  obtain ⟨payload, checkedAt, accepted, read⟩ := validateToken_ok validate
  have raw : payload.claims = backing.validated.raw := by
    rw [read]
    rfl
  have aud := accepted.audience
  rwa [raw, backing.claims, Grant.claims_aud, Js.textOrEmpty_str, backing.audience] at aud

/-- The request and the last exchange are signed by keys with one thumbprint. -/
theorem same_key : ProofBy P backing.hop.grant.proof.jwkThumbprint step.dpopProof ∧
    ProofBy P backing.hop.grant.proof.jwkThumbprint (backing.hop.req.headerOrEmpty "dpop") := by
  obtain ⟨part, result, _, verify⟩ := backing.admission.proof
  obtain ⟨exchangePart, _, prove⟩ := backing.passes.proven
  have exchanged := proofBy_of_accepted prove
  have requested := proofBy_of_accepted verify
  obtain ⟨_, _, _, _, _, _, thumbprint, _, accepted, _, _, rfl⟩ := verifyDPoP_ok verify
  obtain ⟨expected, _⟩ := checkBinding_ok rfl accepted.binding
  have bound := backing.jkt
  change backing.validated.cnf.bind CnfClaim.jkt = some thumbprint at expected
  rw [bound, Option.some.injEq] at expected
  rw [expected, ← backing.proof]
  exact ⟨requested, expected ▸ exchanged⟩

end Backing

namespace SystemRun

variable {P : Platform} {L : ClientLibrary} {d : Deployment} (run : SystemRun P L d)

/-- What the middleware of either service has checked. -/
theorem admission_of_admits {step : SystemStep} {auth : RequestAuth} {first last : ServiceStores}
    (takes : Takes P L d first step last) (keeps : step.KeepsKeys P d) (admits : step.Admits auth) :
    ∃ deps req accessToken validated chain decision,
      ServiceAdmission P deps req accessToken validated chain decision step.checks ∧
      deps.expectedAudience = step.audience d ∧ req.headerOrEmpty "dpop" = step.dpopProof ∧
      step.Presents accessToken ∧ auth = serviceAuth accessToken validated chain decision ∧
      KeysOf P d deps.validateToken.jwksUri .broker step.checks := by
  have guarded {deps : BrokerAuthDeps} {req : Request} {outcome : Except Fault Unit}
      (ran : Runs (brokerAuth P deps req) step.checks outcome)
      (keys : KeysOf P d deps.validateToken.jwksUri .broker step.checks)
      (audience : deps.expectedAudience = step.audience d)
      (proof : req.headerOrEmpty "dpop" = step.dpopProof)
      (presents : ∀ token, bearerToken req = .ok token → step.Presents token)
      (passed : ⟨.next, ()⟩ ∈ step.checks) (set : ⟨.setAuth auth, ()⟩ ∈ step.checks) :
      ∃ deps req accessToken validated chain decision,
        ServiceAdmission P deps req accessToken validated chain decision step.checks ∧
        deps.expectedAudience = step.audience d ∧ req.headerOrEmpty "dpop" = step.dpopProof ∧
        step.Presents accessToken ∧ auth = serviceAuth accessToken validated chain decision ∧
        KeysOf P d deps.validateToken.jwksUri .broker step.checks := by
    obtain ⟨accessToken, validated, chain, decision, admission, same⟩ :=
      (brokerAuth_run ran).2.auth_of_next passed set
    exact ⟨deps, req, accessToken, validated, chain, decision, admission, audience, proof,
      presents _ admission.extracted, same, keys⟩
  cases takes with
  | login | exchange | forge => exact admits.elim
  | loanRefused ran stopped => exact absurd admits.1 stopped
  | loanFailed ran passed set failed =>
      exact guarded ran keeps rfl rfl (fun _ extracted => extracted) admits.1 admits.2
  | loanFiled ran passed set filed =>
      exact guarded ran keeps rfl rfl (fun _ extracted => extracted) admits.1 admits.2
  | entryRefused ran stopped => exact absurd admits.1 stopped
  | entryFailed ran passed set failed =>
      exact guarded ran keeps rfl rfl (fun _ extracted => extracted) admits.1 admits.2
  | entryFiled ran passed set filed =>
      exact guarded ran keeps rfl rfl (fun _ extracted => extracted) admits.1 admits.2

theorem exists_backing (agrees : P.PayloadAgrees) {before after : List SystemStep}
    {step : SystemStep} {auth : RequestAuth} (split : run.steps = before ++ step :: after)
    (admits : step.Admits auth) : Nonempty (Backing P d before step auth) := by
  have member : step ∈ run.steps := by simp [split]
  obtain ⟨_, _, takes⟩ := run.taken.takes member
  obtain ⟨deps, req, accessToken, validated, chain, decision, admission, audience, proof,
    presents, same, keys⟩ := admission_of_admits takes (run.keys step member) admits
  obtain ⟨part, inside, validate⟩ := admission.validation
  obtain ⟨payload, checkedAt, accepted, read⟩ := validateToken_ok validate
  obtain ⟨signer, owned, signed⟩ := run.signed_of_verified split presents keys (by simp)
    (accepted.verified.mono inside)
  obtain ⟨user, hop, earlier, hops, claims, token, carries⟩ :=
    run.hops_of_signed agrees split owned signed
  have raw : validated.raw = payload.claims := by
    rw [read]
    rfl
  exact ⟨{
    deps := deps
    req := req
    accessToken := accessToken
    validated := validated
    chain := chain
    decision := decision
    admission := admission
    audience := audience
    proof := proof
    presented := presents
    auth := same
    user := user
    hop := hop
    earlier := earlier
    hops := hops
    passes := (hops.passes hop List.mem_cons_self).2
    token := token
    claims := raw.trans claims
    read := ⟨payload, raw.symm, read⟩
    carries := carries }⟩

/-- Whoever a service acts for has signed in before with their own password, and the service sees
their roles and groups; the actors it sees are those that have authenticated, hop by hop. -/
theorem acts_for_user (agrees : P.PayloadAgrees) {before after : List SystemStep}
    {step : SystemStep} {auth : RequestAuth} (split : run.steps = before ++ step :: after)
    (admits : step.Admits auth) :
    ∃ user hops, Hops P d user before hops ∧
      (∃ req trace, .login req trace ∈ before ∧ SignsIn P req user) ∧
      (∀ hop ∈ hops, HasCredentials P d.broker.catalog hop.req hop.grant.actor) ∧
      hops ≠ [] ∧ hops.length ≤ maxActorChainDepth ∧ auth.sub = user.sub ∧
      ∃ extras, auth.extras = some extras ∧ extras.user.sub = user.sub ∧
        extras.user.roles = user.roles ∧ extras.user.groups = user.groups ∧
        actorChainAsString (some extras.actorChain) = hopActors hops := by
  obtain ⟨backing⟩ := run.exists_backing agrees split admits
  refine ⟨backing.user, backing.hop :: backing.earlier, backing.hops, backing.hops.signedIn,
    ?_, List.cons_ne_nil _ _, backing.length_le, ?_, ?_⟩
  · intro hop member
    exact authenticateActor_ok (backing.hops.passes hop member).2.authenticated
  · exact (congrArg RequestAuth.sub backing.auth).trans backing.sub
  · exact ⟨_, congrArg RequestAuth.extras backing.auth, backing.sub, backing.user_roles,
      backing.user_groups, backing.actors⟩

/-- The token of a request that is let through comes from its last exchange: for this service, with
the scopes asked for there, each of them allowed to its actor, and in the hands of the key that
has signed the proof of that exchange. -/
theorem token_of_last_exchange (agrees : P.PayloadAgrees) {before after : List SystemStep}
    {step : SystemStep} {auth : RequestAuth} (split : run.steps = before ++ step :: after)
    (admits : step.Admits auth) :
    ∃ hop : Hop, .exchange hop.req hop.trace ∈ before ∧ step.Presents hop.grant.token ∧
      ⟨.signJwt (hop.grant.header d.broker) (hop.grant.claims d.broker)
        hop.grant.signing.privateKey, .ok hop.grant.token⟩ ∈ hop.trace ∧
      CompleteRequest hop.req.body hop.grant.request ∧
      HasCredentials P d.broker.catalog hop.req hop.grant.actor ∧
      hop.grant.request.audience = step.audience d ∧
      step.audience d ∈ hop.grant.actor.entry.allowedAudiences ∧
      auth.scopes = hop.grant.request.requestedScopes ∧
      (∀ scope ∈ auth.scopes, scope ∈ hop.grant.actor.entry.allowedScopes) ∧
      ∃ thumbprint, ProofBy P thumbprint step.dpopProof ∧
        ProofBy P thumbprint (hop.req.headerOrEmpty "dpop") := by
  obtain ⟨backing⟩ := run.exists_backing agrees split admits
  have inside := (backing.hops.passes backing.hop List.mem_cons_self).1
  obtain ⟨audience, scopes⟩ := authorizeTarget_ok backing.passes.target
  have presented := backing.presented
  rw [backing.token] at presented
  rw [backing.aimed] at audience
  have scope : auth.scopes = backing.hop.grant.request.requestedScopes :=
    (congrArg RequestAuth.scopes backing.auth).trans backing.scope
  refine ⟨backing.hop, inside, presented, backing.passes.signed,
    readExchangeRequest_ok backing.passes.requested,
    authenticateActor_ok backing.passes.authenticated, backing.aimed, audience, scope, ?_,
    _, backing.same_key⟩
  rwa [scope]

end SystemRun

section DelegatedEntry

/-! alice signs in, the calling service exchanges her token, the receiving service exchanges that
one, and ledger-service files an entry. -/

def entryOwner (key : PrivateKey) : KeyOwner :=
  if key.pair = 5 then .userIssuer else if key.pair = 7 then .broker else .other

def entryDeployment : Deployment where
  issuer := userIssuerOptions
  broker := brokerDeps
  receiving := receivingConfigOf "lending"
  loans := loansConfig
  ledger := {
    brokerJwksUri := "https://broker/jwks"
    brokerIssuer := "https://broker"
    brokerAudience := "ledger-service"
    resourcePrefix := "ledger"
    nonceTtlSeconds := 120 }
  owner := entryOwner

def callingClaims : Obj :=
  mintedClaims (mintOptions brokerDeps brokerSigningKey)
    (mintInput ⟨"alice-token", "receiving-service", ["ledger.write"]⟩ "calling-service"
      "thumbprint-1" ⟨aliceUser.context entryDeployment.issuer, none, false⟩) 1000 "id-1"

def receivingClaims : Obj :=
  mintedClaims (mintOptions brokerDeps brokerSigningKey)
    (mintInput ⟨"minted-1", "ledger-service", ["ledger.write"]⟩ "receiving-service"
      "thumbprint-2" ⟨reentryUser brokerDeps.subjectValidator callingClaims,
        some (.root "calling-service"), true⟩) 1000 "id-2"

def callingRow : SignedToken :=
  ⟨"minted-1", brokerHeader, JwtPayload.ofClaims callingClaims rfl, ⟨7⟩⟩

def receivingRow : SignedToken :=
  ⟨"minted-2", brokerHeader, JwtPayload.ofClaims receivingClaims rfl, ⟨7⟩⟩

def entryProof : JwtPayload := JwtPayload.ofClaims
  [("htm", .str "POST"), ("htu", .str "https://ledger/api/ledger/entries"), ("iat", .num 1000),
    ("jti", .str "jti-3"), ("ath", .str "minted-hash"), ("nonce", .str "nonce-1")] rfl

def entryTable : TokenTable :=
  { hopTable with
    tokens := [userTokenRow, ⟨"proof-1", proofHeader ⟨1⟩, hopProof "jti-1", ⟨1⟩⟩, callingRow,
      ⟨"proof-2", proofHeader ⟨2⟩, hopProof "jti-2", ⟨2⟩⟩, receivingRow,
      ⟨"proof-3", proofHeader ⟨2⟩, entryProof, ⟨2⟩⟩]
    hashes := hopTable.hashes ++ [("alice-pw", "alice-hash"), ("minted-2", "minted-hash")] }

def brokerServices (signed drawn : String) : SteadyServices where
  moment := 1000000
  keys jwksUri :=
    if jwksUri = "https://user/jwks" then [userIssuerKey.publicJwk]
    else [("kid", .str "broker-key") :: TokenTable.jwkOf ⟨7⟩]
  signing := brokerSigningKey
  signed := signed
  drawn := drawn

def entryRequest : Request where
  method := "POST"
  protocol := "https"
  originalUrl := "/api/ledger/entries"
  path := "/ledger/entries"
  routePath := some "/ledger/entries"
  headers := [("host", "ledger"), ("authorization", "DPoP minted-2"), ("dpop", "proof-3")]
  body := some (.obj [("amount", .num 500)])

def loginStep : SystemStep :=
  .login loginRequest (loginServices.trace
    (login entryTable.platform entryDeployment.issuer loginRequest))

def exchangeStep (req : Request) (signed drawn : String) : SystemStep :=
  .exchange req ((brokerServices signed drawn).trace
    (tokenRouter entryTable.platform brokerDeps req))

def entryAuth : RequestAuth where
  sub := "user-alice"
  scopes := ["ledger.write"]
  decision := .allow
  reasons := []
  extras := some {
    user := {
      sub := "user-alice"
      roles := ["loan-officer", "reader"]
      groups := ["retail-banking"]
      claims := receivingClaims
      issuer := "https://broker" }
    actorChain := .via "receiving-service" (.root "calling-service")
    token := "minted-2" }

def entryStep : SystemStep :=
  .entry entryRequest ((brokerServices "" "id-3").trace
      (ledgerBrokerAuth entryTable.platform entryDeployment.ledger entryRequest))
    ((brokerServices "" "id-3").trace (postEntry entryRequest (some entryAuth) []))

def firstExchangeStep : SystemStep := exchangeStep (firstRequest "alice-token") "minted-1" "id-1"

def secondExchangeStep : SystemStep := exchangeStep secondRequest "minted-2" "id-2"

/-- The entry that is filed for alice. -/
def aliceEntry : LedgerEntry where
  entryId := "E-id-3"
  status := .posted
  amount := .finite 500
  reference := ""
  createdBy := "user-alice"
  createdAt := 1000000

/-- A key set with one key holds the keys of one owner. -/
theorem keysOf_single {jwksUri : String} {kid : Json} {pair : Nat} {owner : KeyOwner}
    {services : SteadyServices} {α : Type} {program : Act α}
    (published : services.keys jwksUri = [("kid", kid) :: TokenTable.jwkOf ⟨pair⟩])
    (owned : entryOwner ⟨pair⟩ = owner) :
    KeysOf entryTable.platform entryDeployment jwksUri owner (services.trace program) := by
  intro forced keys fetched jwk member signer imported
  obtain ⟨_, same⟩ := SteadyServices.replied fetched
  have listed : keys = services.keys jwksUri := Except.ok.inj same
  rw [listed, published] at member
  cases List.mem_singleton.mp member
  have single : importKey entryTable.platform (("kid", kid) :: TokenTable.jwkOf ⟨pair⟩) =
      .ok (PrivateKey.publicKey ⟨pair⟩) := by
    simp [importKey, TokenTable.platform, entryTable, TokenTable.keyOfJwk, TokenTable.jwkOf,
      Obj.get?, PrivateKey.publicKey]
  rw [single] at imported
  cases signer
  cases imported
  exact owned

/-- A token of the table that verifies has the claims of its row. -/
theorem verified_row {row : SignedToken} {signer : PrivateKey} {options : VerifyOptions}
    {payload : JwtPayload} (found : entryTable.find row.token = some row)
    (verified : entryTable.platform.jwtVerify row.token signer.publicKey options = .ok payload) :
    row.signer = signer.publicKey ∧ row.payload = payload := by
  obtain ⟨other, same, signed, read⟩ := TokenTable.verify_ok verified
  rw [found] at same
  cases same
  exact ⟨signed, read⟩

theorem loginStep_signs : loginStep.Signs ⟨5⟩ userTokenRow.payload.claims "alice-token" :=
  ⟨userTokenRow.header, by decide +kernel⟩

theorem firstExchangeStep_signs :
    firstExchangeStep.Signs ⟨7⟩ callingRow.payload.claims "minted-1" :=
  ⟨callingRow.header, by decide +kernel⟩

theorem secondExchangeStep_signs :
    secondExchangeStep.Signs ⟨7⟩ receivingRow.payload.claims "minted-2" :=
  ⟨receivingRow.header, by decide +kernel⟩

theorem entry_unforgeable (before : List SystemStep) (step : SystemStep) (after : List SystemStep)
    (split : [loginStep, firstExchangeStep, secondExchangeStep, entryStep] =
      before ++ step :: after) (token : String) (presents : step.Presents token)
    (signer : PrivateKey) (options : VerifyOptions) (payload : JwtPayload)
    (verified : entryTable.platform.jwtVerify token signer.publicKey options = .ok payload) :
    SignedBefore before signer payload.claims token := by
  have signed (row : SignedToken) {earlier : List SystemStep} {key : PrivateKey}
      {maker : SystemStep} (found : entryTable.find row.token = some row)
      (own : row.signer = key.publicKey) (made : maker ∈ earlier)
      (signs : maker.Signs key row.payload.claims row.token)
      (verified : entryTable.platform.jwtVerify row.token signer.publicKey options =
        .ok payload) : SignedBefore earlier signer payload.claims row.token := by
    obtain ⟨bySigner, rfl⟩ := verified_row found verified
    rw [own] at bySigner
    cases signer
    cases key
    cases bySigner
    exact ⟨maker, made, signs⟩
  have presented {req : Request} {trace : List Event} {expected : String}
      (presents : (SystemStep.exchange req trace).Presents token)
      (given : getStringField req.body "subject_token" = some expected) : token = expected := by
    rw [SystemStep.Presents, given, Option.some.injEq] at presents
    exact presents.symm
  rcases before with _ | ⟨one, _ | ⟨two, _ | ⟨three, _ | ⟨four, rest⟩⟩⟩⟩
  · cases split
    exact presents.elim
  · cases split
    cases presented presents rfl
    exact signed userTokenRow rfl rfl List.mem_cons_self loginStep_signs verified
  · cases split
    cases presented presents rfl
    exact signed callingRow rfl rfl (by simp) firstExchangeStep_signs verified
  · cases split
    have extracted : bearerToken entryRequest = .ok token := presents
    have given : bearerToken entryRequest = .ok "minted-2" := by decide +kernel
    rw [given, Except.ok.injEq] at extracted
    subst extracted
    exact signed receivingRow rfl rfl (by simp) secondExchangeStep_signs verified
  · have length := congrArg List.length split
    simp only [List.length_cons, List.length_nil, List.length_append] at length
    omega

theorem entryStep_admits : entryStep.Admits entryAuth := by
  have passed : (⟨.next, ()⟩ : Event) ∈ (brokerServices "" "id-3").trace
      (ledgerBrokerAuth entryTable.platform entryDeployment.ledger entryRequest) := by
    decide +kernel
  have set : (⟨.setAuth entryAuth, ()⟩ : Event) ∈ (brokerServices "" "id-3").trace
      (ledgerBrokerAuth entryTable.platform entryDeployment.ledger entryRequest) := by
    decide +kernel
  exact ⟨passed, set⟩

def entryRun : SystemRun entryTable.platform postingLibrary entryDeployment where
  steps := [loginStep, firstExchangeStep, secondExchangeStep, entryStep]
  stores := ⟨[], [aliceEntry]⟩
  taken := by
    obtain ⟨passed, set⟩ := entryStep_admits
    have filed : Runs (postEntry entryRequest (some entryAuth) [])
        ((brokerServices "" "id-3").trace (postEntry entryRequest (some entryAuth) []))
        (.ok ([aliceEntry], .created aliceEntry.entryId .posted (entryAudit (some entryAuth)))) :=
      (brokerServices "" "id-3").runs _
    show Steps _ _ _ _ (((([] ++ [loginStep]) ++ [firstExchangeStep]) ++ [secondExchangeStep]) ++
      [entryStep]) _
    exact .snoc (.snoc (.snoc (.snoc .nil (.login (SteadyServices.runs _ _)))
      (.exchange (SteadyServices.runs _ _))) (.exchange (SteadyServices.runs _ _)))
      (.entryFiled (SteadyServices.runs _ _) passed set filed)
  keys step member := by
    have owns {services : SteadyServices} {α : Type} {program : Act α} {key : LoadedSigningKey}
        (loaded : ⟨.signingKey, .ok key⟩ ∈ services.trace program) : key = services.signing := by
      obtain ⟨_, same⟩ := SteadyServices.replied loaded
      exact Except.ok.inj same
    simp only [List.mem_cons, List.not_mem_nil, or_false] at member
    rcases member with rfl | rfl | rfl | rfl
    · intro key loaded
      rw [owns loaded]
      rfl
    · exact ⟨fun key loaded => owns loaded ▸ rfl, keysOf_single rfl rfl, keysOf_single rfl rfl⟩
    · exact ⟨fun key loaded => owns loaded ▸ rfl, keysOf_single rfl rfl, keysOf_single rfl rfl⟩
    · exact keysOf_single rfl rfl
  unforgeable before step after split token presents signer options payload _ verified :=
    entry_unforgeable before step after split token presents signer options payload verified

/-- The entry is filed for the user who signed in, through both services. -/
theorem entry_acts_for_user :
    ∃ user hops, Hops entryTable.platform entryDeployment user
        [loginStep, firstExchangeStep, secondExchangeStep] hops ∧
      (∃ req trace, .login req trace ∈ [loginStep, firstExchangeStep, secondExchangeStep] ∧
        SignsIn entryTable.platform req user) ∧
      (∀ hop ∈ hops, HasCredentials entryTable.platform brokerDeps.catalog hop.req
        hop.grant.actor) ∧
      hops ≠ [] ∧ hops.length ≤ maxActorChainDepth ∧ entryAuth.sub = user.sub ∧
      ∃ extras, entryAuth.extras = some extras ∧ extras.user.sub = user.sub ∧
        extras.user.roles = user.roles ∧ extras.user.groups = user.groups ∧
        actorChainAsString (some extras.actorChain) = hopActors hops :=
  entryRun.acts_for_user entryTable.platform_agrees rfl entryStep_admits

/-- Its token was signed by the second exchange, for ledger-service. -/
theorem entry_token_of_last_exchange :
    ∃ hop : Hop, .exchange hop.req hop.trace ∈
        [loginStep, firstExchangeStep, secondExchangeStep] ∧ entryStep.Presents hop.grant.token ∧
      ⟨.signJwt (hop.grant.header brokerDeps) (hop.grant.claims brokerDeps)
        hop.grant.signing.privateKey, .ok hop.grant.token⟩ ∈ hop.trace ∧
      CompleteRequest hop.req.body hop.grant.request ∧
      HasCredentials entryTable.platform brokerDeps.catalog hop.req hop.grant.actor ∧
      hop.grant.request.audience = "ledger-service" ∧
      "ledger-service" ∈ hop.grant.actor.entry.allowedAudiences ∧
      entryAuth.scopes = hop.grant.request.requestedScopes ∧
      (∀ scope ∈ entryAuth.scopes, scope ∈ hop.grant.actor.entry.allowedScopes) ∧
      ∃ thumbprint, ProofBy entryTable.platform thumbprint "proof-3" ∧
        ProofBy entryTable.platform thumbprint (hop.req.headerOrEmpty "dpop") :=
  entryRun.token_of_last_exchange entryTable.platform_agrees rfl entryStep_admits

end DelegatedEntry

end S2s
