import S2sStack.Broker.TokenRouter
import S2sStack.Calling.Session
import S2sStack.Calling.SyncRoute
import S2sStack.Js.Number

set_option autoImplicit false

/- `config.ts` of token-broker and of calling-service: where the two issuers come from, and whether
the broker takes the tokens of a login. -/
namespace S2s

open Effect Effect.Program
open Js (Json Obj Number)

/-- `process.env` -/
abbrev ProcessEnv := String → Option String

def requireEnv (env : ProcessEnv) (name : String) : Except Fault String :=
  match env name with
  | none => .error (plainError ("Missing required env var: " ++ name))
  | some value =>
      if value = "" then .error (plainError ("Missing required env var: " ++ name)) else .ok value

/-- `Number(process.env[name] ?? fallback)` -/
def numberEnv (env : ProcessEnv) (name : String) (fallback : Rat) : Number :=
  ((env name).map Js.toNumber).getD (.finite fallback)

structure TokenBrokerConfig where
  port : Number
  awsRegion : String
  logLevel : String
  brokerIssuerUrl : String
  brokerSigningKeySecretArn : String
  userIssuerUrl : String
  userIssuerAudience : String
  userIssuerJwksUri : String
  actorCatalogPath : Option String
  actorCatalogSecretArn : Option String
  redisEndpoint : String
  dpopRequired : Bool
  exchangedTokenTtlSeconds : Number
  replayTtlSeconds : Number
  jwksRefreshHours : Number
  signingKeyTtlMs : Number

namespace TokenBrokerConfig

/-- `loadConfig` of token-broker -/
def load (env : ProcessEnv) : Except Fault TokenBrokerConfig := do
  let brokerIssuerUrl := Js.dropTrailingSlash (← requireEnv env "BROKER_ISSUER_URL")
  let userIssuerUrl := Js.dropTrailingSlash (← requireEnv env "USER_ISSUER_URL")
  let actorCatalogPath := env "ACTOR_CATALOG_PATH"
  let actorCatalogSecretArn := env "ACTOR_CATALOG_SECRET_ARN"
  if actorCatalogPath.getD "" = "" ∧ actorCatalogSecretArn.getD "" = "" then
    .error (plainError "Either ACTOR_CATALOG_PATH or ACTOR_CATALOG_SECRET_ARN must be set")
  let brokerSigningKeySecretArn ← requireEnv env "BROKER_SIGNING_KEY_SECRET_ARN"
  let userIssuerAudience ← requireEnv env "USER_ISSUER_AUDIENCE"
  let redisEndpoint ← requireEnv env "REDIS_ENDPOINT"
  return {
    port := numberEnv env "PORT" 3000
    awsRegion := (env "AWS_REGION").getD "us-east-1"
    logLevel := (env "LOG_LEVEL").getD "info"
    brokerIssuerUrl := brokerIssuerUrl
    brokerSigningKeySecretArn := brokerSigningKeySecretArn
    userIssuerUrl := userIssuerUrl
    userIssuerAudience := userIssuerAudience
    userIssuerJwksUri :=
      (env "USER_ISSUER_JWKS_URI").getD (userIssuerUrl ++ "/.well-known/jwks.json")
    actorCatalogPath := actorCatalogPath
    actorCatalogSecretArn := actorCatalogSecretArn
    redisEndpoint := redisEndpoint
    dpopRequired := (env "DPOP_REQUIRED").getD "true" ≠ "false"
    exchangedTokenTtlSeconds := numberEnv env "EXCHANGED_TOKEN_TTL_SECONDS" 600
    replayTtlSeconds := numberEnv env "REPLAY_TTL_SECONDS" 600
    jwksRefreshHours := numberEnv env "JWKS_REFRESH_HOURS" 1
    signingKeyTtlMs := numberEnv env "SIGNING_KEY_TTL_MS" 3600000 }

/-- The `subjectValidator` of `buildApp` -/
def subjectValidator (config : TokenBrokerConfig) : SubjectTokenValidatorOptions where
  brokerIssuerUrl := config.brokerIssuerUrl
  brokerJwksUri := config.brokerIssuerUrl ++ "/.well-known/jwks.json"
  userIssuerUrl := config.userIssuerUrl
  userIssuerJwksUri := config.userIssuerJwksUri
  userIssuerAudience := config.userIssuerAudience

end TokenBrokerConfig

/-- The configuration of calling-service. -/
structure CallingConfig extends SyncConfig where
  port : Number
  clientId : String
  cognitoDomain : String
  clientSecretArn : String
  redisEndpoint : String
  queueUrl : String
  queueArn : String
  awsRegion : String
  logLevel : String
  userIssuerUrl : String
  userIssuerAudience : String
  userIssuerSigningKeySecretArn : Option String
  userIssuerDevKeyPem : Option String
  brokerActorSecretArn : String
  nodeEnv : String
  useLattice : Bool

namespace CallingConfig

/-- The variable, where it is not empty. -/
def filledVar (env : ProcessEnv) (name : String) : Option String := (env name).filter (· ≠ "")

/-- `loadConfig` of calling-service -/
def load (env : ProcessEnv) : Except Fault CallingConfig := do
  let clientId ← requireEnv env "COGNITO_CLIENT_ID"
  let cognitoDomain ← requireEnv env "COGNITO_DOMAIN"
  let clientSecretArn ← requireEnv env "M2M_CLIENT_SECRET_ARN"
  let redisEndpoint ← requireEnv env "REDIS_ENDPOINT"
  let targetBaseUrl ← requireEnv env "TARGET_BASE_URL"
  let targetAudience ← requireEnv env "TARGET_AUDIENCE"
  let targetScopes ← requireEnv env "TARGET_SCOPES"
  let queueUrl ← requireEnv env "LENDING_QUEUE_URL"
  let queueArn ← requireEnv env "LENDING_QUEUE_ARN"
  let userIssuerUrl ← requireEnv env "USER_ISSUER_URL"
  let userIssuerAudience ← requireEnv env "USER_ISSUER_AUDIENCE"
  let brokerTokenEndpoint ← requireEnv env "BROKER_TOKEN_ENDPOINT"
  let brokerActorClientId ← requireEnv env "BROKER_ACTOR_CLIENT_ID"
  let brokerActorSecretArn ← requireEnv env "BROKER_ACTOR_SECRET_ARN"
  let arn := filledVar env "USER_ISSUER_SIGNING_KEY_SECRET_ARN"
  let devPem := filledVar env "USER_ISSUER_DEV_KEY_PEM"
  if arn = none ∧ devPem = none then
    .error (plainError ("Missing required env var: USER_ISSUER_SIGNING_KEY_SECRET_ARN " ++
      "(or USER_ISSUER_DEV_KEY_PEM for dev)"))
  return {
    port := numberEnv env "PORT" 3000
    clientId := clientId
    cognitoDomain := cognitoDomain
    clientSecretArn := clientSecretArn
    redisEndpoint := redisEndpoint
    targetBaseUrl := targetBaseUrl
    targetAudience := targetAudience
    scopes := (Js.split ',' targetScopes).map Js.trim
    queueUrl := queueUrl
    queueArn := queueArn
    awsRegion := (env "AWS_REGION").getD "us-east-1"
    logLevel := (env "LOG_LEVEL").getD "info"
    userIssuerUrl := userIssuerUrl
    userIssuerAudience := userIssuerAudience
    userIssuerSigningKeySecretArn := arn
    userIssuerDevKeyPem := devPem
    brokerTokenEndpoint := brokerTokenEndpoint
    brokerActorClientId := brokerActorClientId
    brokerActorSecretArn := brokerActorSecretArn
    receivingServiceUrl := ((env "RECEIVING_SERVICE_URL").or (env "TARGET_BASE_URL")).getD ""
    nodeEnv := (env "NODE_ENV").getD "development"
    useLattice := Js.toLowerCase ((env "USE_LATTICE").getD "") = "true"
    receivingLatticeDns := (env "RECEIVING_LATTICE_DNS").getD "" }

/-- What `index.ts` gives to `createLocalIssuer` -/
def localIssuer (config : CallingConfig) : LocalIssuerOptions where
  issuer := config.userIssuerUrl
  audience := config.userIssuerAudience

end CallingConfig

section Loaded

theorem requireEnv_ok {env : ProcessEnv} {name value : String}
    (required : requireEnv env name = .ok value) : env name = some value ∧ value ≠ "" := by
  unfold requireEnv at required
  split at required
  · cases required
  · rename_i given same
    split at required
    · cases required
    · rename_i filled
      cases required
      exact ⟨same, filled⟩

/-- Both issuers of the broker have lost a slash at their end. -/
theorem TokenBrokerConfig.load_ok {env : ProcessEnv} {config : TokenBrokerConfig}
    (loaded : load env = .ok config) :
    (∃ url, env "BROKER_ISSUER_URL" = some url ∧
        config.brokerIssuerUrl = Js.dropTrailingSlash url) ∧
      (∃ url, env "USER_ISSUER_URL" = some url ∧
        config.userIssuerUrl = Js.dropTrailingSlash url) ∧
      env "USER_ISSUER_AUDIENCE" = some config.userIssuerAudience := by
  obtain ⟨broker, named, loaded⟩ := except_bind_ok.mp loaded
  obtain ⟨user, issuer, loaded⟩ := except_bind_ok.mp loaded
  dsimp only at loaded
  split at loaded
  · cases loaded
  · obtain ⟨_, _, loaded⟩ := except_bind_ok.mp loaded
    obtain ⟨audience, aimed, loaded⟩ := except_bind_ok.mp loaded
    obtain ⟨_, _, loaded⟩ := except_bind_ok.mp loaded
    cases loaded
    exact ⟨⟨broker, (requireEnv_ok named).1, rfl⟩, ⟨user, (requireEnv_ok issuer).1, rfl⟩,
      (requireEnv_ok aimed).1⟩

/-- The issuer of calling-service is spelled as its variable is. -/
theorem CallingConfig.load_ok {env : ProcessEnv} {config : CallingConfig}
    (loaded : load env = .ok config) :
    env "USER_ISSUER_URL" = some config.userIssuerUrl ∧ config.userIssuerUrl ≠ "" ∧
      env "USER_ISSUER_AUDIENCE" = some config.userIssuerAudience := by
  iterate 9
    obtain ⟨_, _, loaded⟩ := except_bind_ok.mp loaded
  obtain ⟨issuer, named, loaded⟩ := except_bind_ok.mp loaded
  obtain ⟨audience, aimed, loaded⟩ := except_bind_ok.mp loaded
  iterate 3
    obtain ⟨_, _, loaded⟩ := except_bind_ok.mp loaded
  dsimp only at loaded
  split at loaded
  · cases loaded
  · cases loaded
    exact ⟨(requireEnv_ok named).1, (requireEnv_ok named).2, (requireEnv_ok aimed).1⟩

theorem dropTrailingSlash_eq_iff {url : String} :
    Js.dropTrailingSlash url = url ↔ ¬ "/".toList <:+ url.toList := by
  unfold Js.dropTrailingSlash
  split
  · rename_i rest reversed
    have spelled : url.toList = rest.reverse ++ ['/'] := by
      rw [← List.reverse_reverse url.toList, reversed, List.reverse_cons]
    constructor
    · intro same
      have shorter := congrArg String.toList same
      rw [String.toList_ofList, spelled] at shorter
      have length := congrArg List.length shorter
      simp at length
    · intro open_end
      exact absurd ⟨rest.reverse, spelled.symm⟩ open_end
  · rename_i other
    refine ⟨fun _ slash => ?_, fun _ => rfl⟩
    obtain ⟨rest, spelled⟩ := slash
    apply other rest.reverse
    rw [← spelled, List.reverse_append]
    rfl

end Loaded

namespace GrantedLogin

variable {P : Platform} {opts : LocalIssuerOptions} {login : GrantedLogin P opts} {user : TestUser}
  {nowMs : Millis} {jti : String}

theorem Signed.readIssuerClaim_eq (signed : login.Signed user nowMs jti) :
    readIssuerClaim P login.token = some opts.issuer := by
  have claim : (userTokenClaims opts user login.key nowMs jti).get? "iss" =
      some (.str opts.issuer) := by
    simp [userTokenClaims, signedPayload, Obj.get?_set_ne, issuerSignOptions]
  simp [readIssuerClaim, signed.signedWith.decoded, claim, Json.str?]

/-- A broker with the settings of the issuer takes the token for the user, until it expires. -/
theorem Signed.taken (signed : login.Signed user nowMs jti) {broker : SubjectTokenValidatorOptions}
    (issuer : broker.userIssuerUrl = opts.issuer)
    (audience : broker.userIssuerAudience = opts.audience) (filled : opts.issuer ≠ "")
    (apart : opts.issuer ≠ broker.brokerIssuerUrl) {requestedAudience : String} {trace : List Event}
    {outcome : Except Fault SubjectTokenValidationResult}
    (run : Runs (validateSubjectToken P broker login.token requestedAudience) trace outcome)
    (published : Publishes P broker.userIssuerJwksUri login.token login.key.privateKey.publicKey
      trace)
    (unexpired : ∀ signedAt moment, ⟨.now, signedAt⟩ ∈ login.signIn → ⟨.now, moment⟩ ∈ trace →
      (toSeconds moment : Rat) < toSeconds signedAt + opts.ttl) :
    outcome = .ok {
      user := user.context opts
      previousActorChain := none
      isReentry := false } := by
  have alike : ¬ opts.issuer ≠ broker.userIssuerUrl := not_not.mpr issuer.symm
  simp only [validateSubjectToken, signed.readIssuerClaim_eq, filled, apart, ↓reduceIte] at run
  rw [if_neg alike] at run
  have accepts {validation : List Event} {result : Except Fault UserContext}
      (inside : validation ⊆ trace)
      (validated : Runs (validateUserToken P (userTokenOptions broker) login.token) validation
        result) : result = .ok (user.context opts) :=
    signed.validates issuer audience validated (published.mono inside)
      fun signedAt moment clock read => unexpired signedAt moment clock (inside read)
  rcases runs_bind_iff.mp run with ⟨accepted, before, after, rfl, validated, done⟩ |
    ⟨fault, validated, rfl⟩
  · cases accepts (List.subset_append_left _ _) validated
    exact (runs_pure_iff.mp done).2
  · cases accepts (List.Subset.refl _) validated

end GrantedLogin

/-- One issuer and one audience for both: where the URL of the issuer does not end with a slash, the
broker takes the token of a login for the user; else it takes none, since the broker drops the slash
and calling-service does not. -/
theorem broker_takes_login {P : Platform} {callingEnv brokerEnv : ProcessEnv}
    {calling : CallingConfig} {broker : TokenBrokerConfig}
    (callingLoads : CallingConfig.load callingEnv = .ok calling)
    (brokerLoads : TokenBrokerConfig.load brokerEnv = .ok broker)
    (sameIssuer : brokerEnv "USER_ISSUER_URL" = callingEnv "USER_ISSUER_URL")
    (sameAudience : brokerEnv "USER_ISSUER_AUDIENCE" = callingEnv "USER_ISSUER_AUDIENCE")
    (apart : calling.userIssuerUrl ≠ broker.brokerIssuerUrl)
    (login : GrantedLogin P calling.localIssuer) {requestedAudience : String} {trace : List Event}
    {outcome : Except Fault SubjectTokenValidationResult}
    (run : Runs (validateSubjectToken P broker.subjectValidator login.token requestedAudience) trace
      outcome)
    (published : Publishes P broker.userIssuerJwksUri login.token login.key.privateKey.publicKey
      trace)
    (unexpired : ∀ signedAt moment, ⟨.now, signedAt⟩ ∈ login.signIn → ⟨.now, moment⟩ ∈ trace →
      (toSeconds moment : Rat) < toSeconds signedAt + calling.localIssuer.ttl) :
    ∃ user, SignsIn P login.signInRequest user ∧ outcome =
      if "/".toList <:+ calling.userIssuerUrl.toList then
        .error (unauthorized .invalidToken
          ("unrecognised subject token issuer: " ++ calling.userIssuerUrl))
      else .ok {
        user := user.context calling.localIssuer
        previousActorChain := none
        isReentry := false } := by
  obtain ⟨user, nowMs, jti, signsIn, signed⟩ := login.exists_user
  refine ⟨user, signsIn, ?_⟩
  obtain ⟨named, filled, aimed⟩ := CallingConfig.load_ok callingLoads
  obtain ⟨_, ⟨url, given, stripped⟩, audience⟩ := TokenBrokerConfig.load_ok brokerLoads
  have sameUrl : url = calling.userIssuerUrl := by
    rw [sameIssuer, named] at given
    exact (Option.some.inj given).symm
  have sameAud : broker.userIssuerAudience = calling.userIssuerAudience := by
    rw [sameAudience, aimed] at audience
    exact (Option.some.inj audience).symm
  rw [sameUrl] at stripped
  have issuer : readIssuerClaim P login.token = some calling.userIssuerUrl :=
    signed.readIssuerClaim_eq
  have foreign : ¬ calling.userIssuerUrl = broker.subjectValidator.brokerIssuerUrl := apart
  by_cases slash : "/".toList <:+ calling.userIssuerUrl.toList
  · have differs : calling.userIssuerUrl ≠ broker.subjectValidator.userIssuerUrl := by
      intro same
      exact dropTrailingSlash_eq_iff.mp (stripped.symm.trans same.symm) slash
    simp only [validateSubjectToken, issuer, filled, foreign, ↓reduceIte] at run
    rw [if_pos differs] at run
    rw [if_pos slash]
    exact (runs_throwing_iff.mp run).2
  · have same : broker.userIssuerUrl = calling.userIssuerUrl :=
      stripped.trans (dropTrailingSlash_eq_iff.mpr slash)
    rw [if_neg slash]
    exact signed.taken same sameAud filled foreign run published unexpired

section SharedVariables

/-! One set of variables for calling-service and the broker, without a slash. -/

def sharedVariables : List (String × String) := [
  ("COGNITO_CLIENT_ID", "client"), ("COGNITO_DOMAIN", "https://cognito"),
  ("M2M_CLIENT_SECRET_ARN", "arn:client"), ("REDIS_ENDPOINT", "rediss://redis"),
  ("TARGET_BASE_URL", "https://receiving"), ("TARGET_AUDIENCE", "receiving"),
  ("TARGET_SCOPES", "lending/read, lending/write"), ("LENDING_QUEUE_URL", "https://queue"),
  ("LENDING_QUEUE_ARN", "arn:queue"), ("USER_ISSUER_URL", "https://user"),
  ("USER_ISSUER_AUDIENCE", "calling-service"),
  ("USER_ISSUER_SIGNING_KEY_SECRET_ARN", "arn:user-key"),
  ("BROKER_TOKEN_ENDPOINT", "https://broker/oauth2/token"),
  ("BROKER_ACTOR_CLIENT_ID", "calling-service"), ("BROKER_ACTOR_SECRET_ARN", "arn:actor"),
  ("BROKER_ISSUER_URL", "https://broker/"), ("BROKER_SIGNING_KEY_SECRET_ARN", "arn:broker-key"),
  ("ACTOR_CATALOG_PATH", "/catalog.json")]

def sharedEnv : ProcessEnv := fun name => sharedVariables.lookup name

def sharedCalling : CallingConfig where
  port := .finite 3000
  clientId := "client"
  cognitoDomain := "https://cognito"
  clientSecretArn := "arn:client"
  redisEndpoint := "rediss://redis"
  targetBaseUrl := "https://receiving"
  targetAudience := "receiving"
  scopes := ["lending/read", "lending/write"]
  queueUrl := "https://queue"
  queueArn := "arn:queue"
  awsRegion := "us-east-1"
  logLevel := "info"
  userIssuerUrl := "https://user"
  userIssuerAudience := "calling-service"
  userIssuerSigningKeySecretArn := some "arn:user-key"
  userIssuerDevKeyPem := none
  brokerTokenEndpoint := "https://broker/oauth2/token"
  brokerActorClientId := "calling-service"
  brokerActorSecretArn := "arn:actor"
  receivingServiceUrl := "https://receiving"
  nodeEnv := "development"
  useLattice := false
  receivingLatticeDns := ""

def sharedBroker : TokenBrokerConfig where
  port := .finite 3000
  awsRegion := "us-east-1"
  logLevel := "info"
  brokerIssuerUrl := "https://broker"
  brokerSigningKeySecretArn := "arn:broker-key"
  userIssuerUrl := "https://user"
  userIssuerAudience := "calling-service"
  userIssuerJwksUri := "https://user/.well-known/jwks.json"
  actorCatalogPath := some "/catalog.json"
  actorCatalogSecretArn := none
  redisEndpoint := "rediss://redis"
  dpopRequired := true
  exchangedTokenTtlSeconds := .finite 600
  replayTtlSeconds := .finite 600
  jwksRefreshHours := .finite 1
  signingKeyTtlMs := .finite 3600000

def sharedValidation : Act SubjectTokenValidationResult :=
  validateSubjectToken sessionTable.platform sharedBroker.subjectValidator "alice-token" "receiving"

theorem sharedEnv_loads : CallingConfig.load sharedEnv = .ok sharedCalling ∧
    TokenBrokerConfig.load sharedEnv = .ok sharedBroker := ⟨rfl, rfl⟩

theorem shared_published : Publishes sessionTable.platform sharedBroker.userIssuerJwksUri
    "alice-token" (PrivateKey.publicKey ⟨5⟩) (gateServices.trace sharedValidation) := by
  have kid : readKid sessionTable.platform "alice-token" = some (.str "user-key") := by
    decide +kernel
  intro forced reply member
  obtain ⟨_, rfl⟩ := SteadyServices.replied member
  refine ⟨_, userIssuerKey.publicJwk, rfl, ?_, rfl⟩
  rw [kid]
  rfl

theorem shared_unexpired (signedAt moment : Millis)
    (clock : ⟨.now, signedAt⟩ ∈ aliceSession.signIn)
    (read : ⟨.now, moment⟩ ∈ gateServices.trace sharedValidation) :
    (toSeconds moment : Rat) < toSeconds signedAt + sharedCalling.localIssuer.ttl := by
  obtain ⟨_, rfl⟩ := SteadyServices.replied clock
  obtain ⟨_, rfl⟩ := SteadyServices.replied read
  have ttl : (0 : Rat) < sharedCalling.localIssuer.ttl := by
    norm_num [CallingConfig.localIssuer, LocalIssuerOptions.ttl]
  exact lt_add_of_pos_right _ ttl

theorem alice_taken_by_broker : ∃ user, SignsIn sessionTable.platform loginRequest user ∧
    gateServices.outcome sharedValidation =
      if "/".toList <:+ sharedCalling.userIssuerUrl.toList then
        .error (unauthorized .invalidToken
          ("unrecognised subject token issuer: " ++ sharedCalling.userIssuerUrl))
      else .ok {
        user := user.context sharedCalling.localIssuer
        previousActorChain := none
        isReentry := false } :=
  broker_takes_login sharedEnv_loads.1 sharedEnv_loads.2 rfl rfl (by decide)
    aliceSession.toGrantedLogin (gateServices.runs sharedValidation) shared_published
    shared_unexpired

end SharedVariables

end S2s
