import S2sStack.Broker.Delegation
import S2sStack.Effect.Replace

set_option autoImplicit false

/- What of a subject token an exchange depends on. -/
namespace S2s

open Effect Effect.Program
open Js (Json Obj)

/-- Two accepted subject tokens that the mint cannot tell apart. -/
structure SameAuthority (left right : SubjectTokenValidationResult) : Prop where
  sub : left.user.sub = right.user.sub
  roles : left.user.roles = right.user.roles
  groups : left.user.groups = right.user.groups
  issuer : left.user.issuer = right.user.issuer
  chain : left.previousActorChain = right.previousActorChain

variable {P : Platform} {deps : TokenRouterDeps}

/-- Whatever the two tokens are accepted as, it is the same authority. -/
def SubjectsAgree (P : Platform) (opts : SubjectTokenValidatorOptions) (first second : String) :
    Prop :=
  ∀ audience inner result inner' result',
    Runs (validateSubjectToken P opts first audience) inner (.ok result) →
    Runs (validateSubjectToken P opts second audience) inner' (.ok result') →
    SameAuthority result result'

/-- The request with these form fields and this subject token. -/
def withSubjectToken (req : Request) (fields : Obj) (token : String) : Request :=
  { req with body := some (.obj (Obj.set "subject_token" (.str token) fields)) }

theorem getStringField_other (fields : Obj) (token field : String)
    (other : "subject_token" ≠ field) :
    getStringField (some (.obj (Obj.set "subject_token" (.str token) fields))) field =
      getStringField (some (.obj fields)) field := by
  simp only [getStringField, Obj.get?_set_ne _ _ other]

theorem getStringField_subjectToken (fields : Obj) {token : String} (filled : token ≠ "") :
    getStringField (some (.obj (Obj.set "subject_token" (.str token) fields))) "subject_token" =
      some token := by
  simp only [getStringField, Obj.get?_set_self, filled, ↓reduceIte]

/-- Reading the request depends on the subject token only in that field. -/
theorem readExchangeRequest_withSubjectToken (req : Request) (fields : Obj) {first second : String}
    (firstFilled : first ≠ "") (secondFilled : second ≠ "") :
    readExchangeRequest (withSubjectToken req fields second).body =
      (readExchangeRequest (withSubjectToken req fields first).body).map
        (fun request => { request with subjectToken := second }) := by
  simp only [readExchangeRequest, withSubjectToken,
    getStringField_other _ _ "grant_type" (by decide),
    getStringField_other _ _ "subject_token_type" (by decide),
    getStringField_other _ _ "audience" (by decide), getStringField_other _ _ "scope" (by decide),
    getStringField_subjectToken _ firstFilled, getStringField_subjectToken _ secondFilled]
  generalize getStringField (some (.obj fields)) "subject_token_type" = subjectTokenType
  generalize getStringField (some (.obj fields)) "audience" = audience
  generalize getStringField (some (.obj fields)) "scope" = scope
  split
  · rfl
  · cases subjectTokenType with
    | none => rfl
    | some subjectTokenType =>
        cases audience with
        | none => rfl
        | some audience =>
            cases scope with
            | none => rfl
            | some scopeRaw =>
                dsimp only
                split
                · rfl
                · split
                  · rfl
                  · rfl

theorem mintExchangedToken_congr {opts : MintExchangedTokenOptions} {actor thumbprint : String}
    {request : ExchangeRequest} {second : String} {left right : SubjectTokenValidationResult}
    (same : SameAuthority left right) :
    mintExchangedToken opts (mintInput request actor thumbprint left) =
      mintExchangedToken opts
        (mintInput { request with subjectToken := second } actor thumbprint right) := by
  simp only [mintExchangedToken, mintSignOptions, mintSignInput, exchangeClaims, mintInput,
    same.sub, same.roles, same.groups, same.issuer, same.chain]

/-- After the validation nothing depends on more than the authority. -/
theorem grantExchange_congr {request : ExchangeRequest} {second thumbprint requestId : String}
    {actor : AuthenticatedActor} {left right : SubjectTokenValidationResult}
    (same : SameAuthority left right) :
    grantExchange P deps request actor thumbprint left requestId =
      grantExchange P deps { request with subjectToken := second } actor thumbprint right
        requestId := by
  have minted : ∀ opts, mintExchangedToken opts (mintInput request actor.clientId thumbprint left) =
      mintExchangedToken opts
        (mintInput { request with subjectToken := second } actor.clientId thumbprint right) :=
    fun _ => mintExchangedToken_congr same
  simp only [grantExchange, minted, authorizeTarget, exchangeResponse]

theorem exchangeFor_replaces {opts : SubjectTokenValidatorOptions}
    (opts_eq : opts = deps.subjectValidator) {req : Request} {request : ExchangeRequest}
    {second requestId : String} {actor : AuthenticatedActor}
    (agree : SubjectsAgree P opts request.subjectToken second) :
    Replaces (validateSubjectToken P opts request.subjectToken request.audience)
      (validateSubjectToken P opts second request.audience)
      (exchangeFor P deps req request actor requestId)
      (exchangeFor P deps req { request with subjectToken := second } actor requestId) := by
  subst opts_eq
  unfold exchangeFor
  dsimp only
  split
  · exact Replaces.refl _
  · refine Replaces.bind fun verification => ?_
    cases verification with
    | error err => exact Replaces.refl _
    | ok proof =>
        refine Replaces.attempt_bind fun inner result inner' result' accepted accepted' => ?_
        exact grantExchange_congr (agree _ _ _ _ _ accepted accepted')

/-- The audience field of a request's form. -/
def requestedAudience (fields : Obj) : String :=
  (getStringField (some (.obj fields)) "audience").getD ""

/-- Every run for the one subject token is a run for the other, once the validation of the
one is exchanged for that of the other: same answer, same signed claims. -/
theorem tokenRouter_replaces {first second : String} (firstFilled : first ≠ "")
    (secondFilled : second ≠ "") (agree : SubjectsAgree P deps.subjectValidator first second)
    (req : Request) (fields : Obj) :
    Replaces (validateSubjectToken P deps.subjectValidator first (requestedAudience fields))
      (validateSubjectToken P deps.subjectValidator second (requestedAudience fields))
      (tokenRouter P deps (withSubjectToken req fields first))
      (tokenRouter P deps (withSubjectToken req fields second)) := by
  have naming : ∀ token, requestIdOf (withSubjectToken req fields token) = requestIdOf req :=
    fun _ => rfl
  have actorSame : ∀ token, authenticateActor P deps.catalog (withSubjectToken req fields token) =
      authenticateActor P deps.catalog req := fun _ => rfl
  have restSame : ∀ token request actor requestId,
      exchangeFor P deps (withSubjectToken req fields token) request actor requestId =
        exchangeFor P deps req request actor requestId := fun _ _ _ _ => rfl
  simp only [tokenRouter, naming]
  refine Replaces.bind fun requestId => ?_
  refine Replaces.bind fun _ => Replaces.bind fun _ => Replaces.bind fun _ => ?_
  refine Replaces.catching ?_
  simp only [exchange, readExchangeRequest_withSubjectToken req fields firstFilled secondFilled,
    actorSame, restSame]
  cases read : readExchangeRequest (withSubjectToken req fields first).body with
  | error err => exact Replaces.refl _
  | ok request =>
      have complete := readExchangeRequest_ok read
      have presented : request.subjectToken = first := by
        have given := complete.subjectToken
        rw [withSubjectToken, getStringField_subjectToken _ firstFilled] at given
        exact (Option.some.inj given).symm
      have asked : requestedAudience fields = request.audience := by
        have given := complete.audience
        rw [withSubjectToken, getStringField_other _ _ _ (by decide)] at given
        simp only [requestedAudience, given, Option.getD_some]
      cases authenticateActor P deps.catalog req with
      | error err => exact Replaces.refl _
      | ok actor =>
          rw [← presented] at agree
          rw [asked, ← presented]
          exact exchangeFor_replaces rfl agree

/-- The claims that differ between any two minted tokens. -/
def volatileClaims : List String := ["jti", "iat", "exp"]

/-- Two tokens with the same claims, apart from the volatile ones. -/
def MintedAlike (P : Platform) (first second : String) : Prop :=
  ∃ claims claims', P.decodeJwt first = .ok claims ∧ P.decodeJwt second = .ok claims' ∧
    Obj.without volatileClaims claims = Obj.without volatileClaims claims'

theorem without_volatile_mintedClaims (opts : MintExchangedTokenOptions)
    (input : MintExchangedTokenInput) (nowSec : Nat) (jti : String) :
    Obj.without volatileClaims (mintedClaims opts input nowSec jti) =
      delegatedClaims opts.issuer input := by
  simp [Obj.without, volatileClaims, mintedClaims, delegatedClaims, exchangeClaims]

/-- Two granted exchanges that differ in the subject token mint the same claims. -/
theorem mintedAlike_of_agree {first second : String} (firstFilled : first ≠ "")
    (secondFilled : second ≠ "") (agree : SubjectsAgree P deps.subjectValidator first second)
    {req : Request} {fields : Obj} {exchange exchange' : TokenExchange P deps}
    (asked : exchange.req = withSubjectToken req fields first)
    (asked' : exchange'.req = withSubjectToken req fields second) :
    MintedAlike P exchange.token exchange'.token := by
  obtain ⟨grant, isGrant⟩ := exchange.exists_grant
  obtain ⟨grant', isGrant'⟩ := exchange'.exists_grant
  refine ⟨_, _, isGrant.signature.decoded, isGrant'.signature.decoded, ?_⟩
  have requested := isGrant.requested
  have requested' := isGrant'.requested
  rw [asked] at requested
  rw [asked', readExchangeRequest_withSubjectToken req fields firstFilled secondFilled,
    requested] at requested'
  have requestSame := Except.ok.inj requested'
  have actorSame : grant.actor = grant'.actor := by
    have authenticated := isGrant.authenticated
    have authenticated' := isGrant'.authenticated
    rw [asked] at authenticated
    rw [asked'] at authenticated'
    exact Except.ok.inj (authenticated.symm.trans authenticated')
  have thumbprintSame : grant.proof.jwkThumbprint = grant'.proof.jwkThumbprint := by
    have proves := exchange.proves
    have proves' := exchange'.proves
    rw [asked] at proves
    rw [asked'] at proves'
    rw [isGrant.thumbprint, isGrant'.thumbprint]
    exact Except.ok.inj (proves.symm.trans proves')
  have presented : grant.request.subjectToken = first := by
    have given := (readExchangeRequest_ok requested).subjectToken
    rw [withSubjectToken, getStringField_subjectToken _ firstFilled] at given
    exact (Option.some.inj given).symm
  obtain ⟨_, _, validate⟩ := isGrant.subject
  obtain ⟨_, _, validate'⟩ := isGrant'.subject
  rw [presented] at validate
  rw [← requestSame] at validate'
  have authority := agree _ _ _ _ _ validate validate'
  rw [Grant.claims, Grant.claims, without_volatile_mintedClaims, without_volatile_mintedClaims]
  simp only [delegatedClaims, exchangeClaims, Grant.mintInput, mintInput, mintOptions,
    ← requestSame, actorSame, thumbprintSame, authority.sub, authority.roles, authority.groups,
    authority.issuer, authority.chain]

/-- No exchange tells the two tokens apart. -/
structure Indistinguishable (P : Platform) (deps : TokenRouterDeps) (first second : String) :
    Prop where
  outcome : ∀ req fields, Replaces
    (validateSubjectToken P deps.subjectValidator first (requestedAudience fields))
    (validateSubjectToken P deps.subjectValidator second (requestedAudience fields))
    (tokenRouter P deps (withSubjectToken req fields first))
    (tokenRouter P deps (withSubjectToken req fields second))
  minted : ∀ req fields (exchange exchange' : TokenExchange P deps),
    exchange.req = withSubjectToken req fields first →
    exchange'.req = withSubjectToken req fields second →
    MintedAlike P exchange.token exchange'.token

theorem indistinguishable_of_agree {first second : String} (firstFilled : first ≠ "")
    (secondFilled : second ≠ "") (agree : SubjectsAgree P deps.subjectValidator first second) :
    Indistinguishable P deps first second where
  outcome := tokenRouter_replaces firstFilled secondFilled agree
  minted _ _ _ _ asked asked' := mintedAlike_of_agree firstFilled secondFilled agree asked asked'

/-- A token of an issuer that is not the broker. -/
structure UserToken (P : Platform) (opts : SubjectTokenValidatorOptions) (token iss : String)
    (claims : Obj) : Prop where
  filled : token ≠ ""
  decoded : P.decodeJwt token = .ok claims
  issuer : claims.get? "iss" = some (.str iss)
  notBroker : iss ≠ opts.brokerIssuerUrl

/-- The claims that an exchange may take from a user token. -/
structure AgreeOnUser (claims claims' : Obj) : Prop where
  sub : claims.get? "sub" = claims'.get? "sub"
  roles : claims.get? "roles" = claims'.get? "roles"
  groups : claims.get? "groups" = claims'.get? "groups"
  issuer : claims.get? "iss" = claims'.get? "iss"

theorem subjectsAgree_of_userTokens (agrees : P.PayloadAgrees) {opts : SubjectTokenValidatorOptions}
    {first second iss iss' : String} {claims claims' : Obj}
    (user : UserToken P opts first iss claims) (user' : UserToken P opts second iss' claims')
    (same : AgreeOnUser claims claims') :
    SubjectsAgree P opts first second := by
  intro audience inner result inner' result' accepted accepted'
  rw [validateSubjectToken_user agrees user.decoded user.issuer user.notBroker accepted,
    validateSubjectToken_user agrees user'.decoded user'.issuer user'.notBroker accepted']
  constructor
  · simp only [userContext, same.sub]
  · simp only [userContext, same.roles]
  · simp only [userContext, same.groups]
  · simp only [userContext, same.issuer]
  · rfl

theorem get?_eq_of_without {names : List String} {claims claims' : Obj}
    (same : Obj.without names claims = Obj.without names claims') (name : String)
    (kept : name ∉ names) : Obj.get? name claims = Obj.get? name claims' := by
  rw [← Obj.get?_without claims kept, same, Obj.get?_without claims' kept]

theorem subjectsAgree_of_minted {opts : SubjectTokenValidatorOptions} {first second : String}
    (alike : MintedAlike P first second)
    (issued : ∀ claims, P.decodeJwt first = .ok claims →
      claims.get? "iss" = some (.str opts.brokerIssuerUrl)) :
    SubjectsAgree P opts first second := by
  obtain ⟨claims, claims', decoded, decoded', same⟩ := alike
  have issuer := issued claims decoded
  have issuer' : claims'.get? "iss" = some (.str opts.brokerIssuerUrl) := by
    rw [← get?_eq_of_without same "iss" (by decide), issuer]
  have userIssuer : Obj.get? "user_issuer" (Obj.without reservedClaims claims) =
      Obj.get? "user_issuer" (Obj.without reservedClaims claims') := by
    rw [Obj.get?_without _ (by decide), Obj.get?_without _ (by decide)]
    exact get?_eq_of_without same "user_issuer" (by decide)
  intro audience inner result inner' result' accepted accepted'
  rw [validateSubjectToken_reentry decoded issuer accepted,
    validateSubjectToken_reentry decoded' issuer' accepted']
  constructor
  · simp only [reentryResult, reentryUser, get?_eq_of_without same "sub" (by decide)]
  · simp only [reentryResult, reentryUser, get?_eq_of_without same "roles" (by decide)]
  · simp only [reentryResult, reentryUser, get?_eq_of_without same "groups" (by decide)]
  · simp only [reentryResult, reentryUser, userIssuer]
  · simp only [reentryResult, get?_eq_of_without same "act" (by decide)]

/-- A signed token is not empty. -/
theorem TokenExchange.token_ne_empty (exchange : TokenExchange P deps) : exchange.token ≠ "" := by
  obtain ⟨grant, isGrant⟩ := exchange.exists_grant
  intro empty
  have kid : readKid P exchange.token = some (.str grant.signing.kid) := isGrant.signature.kid
  rw [empty] at kid
  cases kid

/-- The act, cnf and user_issuer claims of a first exchange come from the exchange itself. -/
theorem TokenExchange.own_claims (agrees : P.PayloadAgrees) {token iss : String} {claims : Obj}
    (user : UserToken P deps.subjectValidator token iss claims)
    (exchange : TokenExchange P deps) (presented : exchange.subject = token) :
    ∃ minted, P.decodeJwt exchange.token = .ok minted ∧
      minted.get? "act" = some (.obj [("sub", .str exchange.actor)]) ∧
      minted.get? "user_issuer" = some (.str iss) ∧
      minted.get? "cnf" = some (.obj [("jkt", .str exchange.thumbprint)]) := by
  obtain ⟨grant, isGrant⟩ := exchange.exists_grant
  have decoded := user.decoded
  rw [← presented] at decoded
  obtain ⟨_, _, validate⟩ := isGrant.subject
  rw [isGrant.subjectToken] at validate
  have validated := validateSubjectToken_user agrees decoded user.issuer user.notBroker validate
  refine ⟨_, isGrant.signature.decoded, ?_, ?_, ?_⟩
  · rw [grant.claims_act, Grant.chain, validated, isGrant.actor]
    rfl
  · rw [grant.claims_userIssuer, validated]
    simp only [userContext, user.issuer, Js.textOrEmpty_str]
  · rw [grant.claims_cnf, isGrant.thumbprint]

/-- Two user tokens that agree on user and issuer are the same to every exchange, and so are
the tokens minted from them; nothing else of a user token gets into a minted one. -/
theorem customClaims_without_influence (agrees : P.PayloadAgrees)
    (wired : deps.subjectValidator.brokerIssuerUrl = deps.brokerIssuerUrl)
    {first second iss iss' : String} {claims claims' : Obj}
    (user : UserToken P deps.subjectValidator first iss claims)
    (user' : UserToken P deps.subjectValidator second iss' claims')
    (same : AgreeOnUser claims claims') :
    Indistinguishable P deps first second ∧
    (∀ req fields (exchange exchange' : TokenExchange P deps),
      exchange.req = withSubjectToken req fields first →
      exchange'.req = withSubjectToken req fields second →
      Indistinguishable P deps exchange.token exchange'.token) ∧
    ∀ exchange : TokenExchange P deps, exchange.subject = first →
      ∃ minted, P.decodeJwt exchange.token = .ok minted ∧
        minted.get? "act" = some (.obj [("sub", .str exchange.actor)]) ∧
        minted.get? "user_issuer" = some (.str iss) ∧
        minted.get? "cnf" = some (.obj [("jkt", .str exchange.thumbprint)]) := by
  have agree := subjectsAgree_of_userTokens agrees user user' same
  refine ⟨indistinguishable_of_agree user.filled user'.filled agree, ?_, ?_⟩
  · intro req fields exchange exchange' asked asked'
    have alike := mintedAlike_of_agree user.filled user'.filled agree asked asked'
    refine indistinguishable_of_agree exchange.token_ne_empty exchange'.token_ne_empty ?_
    refine subjectsAgree_of_minted alike fun minted decoded => ?_
    obtain ⟨grant, isGrant⟩ := exchange.exists_grant
    rw [isGrant.signature.decoded] at decoded
    cases decoded
    rw [grant.claims_iss, wired]
  · exact fun exchange presented => exchange.own_claims agrees user presented

/-- A token with planted claims is exchanged for what the plain one is exchanged for. -/
theorem plantedToken_without_influence :
    Indistinguishable hopTable.platform brokerDeps "planted-token" "alice-token" := by
  have planted : UserToken hopTable.platform brokerDeps.subjectValidator "planted-token"
      "https://user" plantedClaims := ⟨by decide, rfl, rfl, by decide⟩
  have plain : UserToken hopTable.platform brokerDeps.subjectValidator "alice-token"
      "https://user" aliceClaims := ⟨by decide, rfl, rfl, by decide⟩
  exact (customClaims_without_influence hopTable.platform_agrees rfl planted plain
    ⟨rfl, rfl, rfl, rfl⟩).1

end S2s
