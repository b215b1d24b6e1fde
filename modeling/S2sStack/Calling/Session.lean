import S2sStack.Broker.SigningKeyRotation
import S2sStack.Calling.UserAuth
import S2sStack.Js.Headers

set_option autoImplicit false

/- From the password to the guarded routes of calling-service. -/
namespace S2s

open Effect Effect.Program
open Js (Json Obj)

section Login

variable {P : Platform} {opts : LocalIssuerOptions}

theorem signsIn_iff {req : Request} {username password : String}
    (named : bodyText req "username" = some username)
    (given : bodyText req "password" = some password) :
    (∃ user, SignsIn P req user) ↔ ∃ user, Authenticates P username password user := by
  constructor
  · rintro ⟨user, _, _, named', given', right⟩
    cases named.symm.trans named'
    cases given.symm.trans given'
    exact ⟨user, right⟩
  · rintro ⟨user, right⟩
    exact ⟨user, username, password, named, given, right⟩

/-- Both credentials are there, and they are wrong. -/
def WrongCredentials (P : Platform) (req : Request) : Prop :=
  (bodyText req "username").isSome ∧ (bodyText req "password").isSome ∧ ∀ user, ¬ SignsIn P req user

/-- A login with wrong credentials is always the same program. -/
theorem login_of_wrongCredentials {req : Request} (rejected : WrongCredentials P req) :
    login P opts req = sendIssuerError (issuerRequestId req) (loginFailure invalidCredentials) := by
  obtain ⟨named, given, wrong⟩ := rejected
  obtain ⟨username, named⟩ := Option.isSome_iff_exists.mp named
  obtain ⟨password, given⟩ := Option.isSome_iff_exists.mp given
  have refused : ∀ user, ¬ Authenticates P username password user := by
    intro user right
    obtain ⟨signed, signs⟩ := (signsIn_iff named given).mpr ⟨user, right⟩
    exact wrong signed signs
  rw [login, named, given]
  change loginWith P opts (issuerRequestId req) username password = _
  rw [loginWith, issueUserToken_refused refused]
  rfl

/-- A login looks for the signing key exactly if its credentials are right, and whoever is refused
does not learn which of them is wrong. -/
theorem login_guards_key {req : Request} {trace : List Event} {outcome : Except Fault Unit}
    (run : Runs (login P opts req) trace outcome) :
    ((∃ reply, ⟨.signingKey, reply⟩ ∈ trace) ↔ ∃ user, SignsIn P req user) ∧
      ∀ other, WrongCredentials P req → WrongCredentials P other → issuerRequestId other = issuerRequestId req →
        Runs (login P opts other) trace outcome := by
  constructor
  · cases (login_run run).2 with
    | incomplete timestamp missing =>
        constructor
        · rintro ⟨reply, member⟩
          simp [issuerAnswer] at member
        · rintro ⟨user, username, password, named, given, _⟩
          rcases missing with absent | absent
          · cases absent.symm.trans named
          · cases absent.symm.trans given
    | refused username password timestamp named given wrong =>
        constructor
        · rintro ⟨reply, member⟩
          simp [issuerAnswer] at member
        · intro signs
          obtain ⟨user, right⟩ := (signsIn_iff named given).mp signs
          exact absurd right (wrong user)
    | keyless user err timestamp signs =>
        exact ⟨fun _ => ⟨user, signs⟩, fun _ => ⟨.error err, List.mem_cons_self⟩⟩
    | unsigned user key nowMs jti err timestamp signs =>
        exact ⟨fun _ => ⟨user, signs⟩,
          fun _ => ⟨.ok key, List.mem_append_left _ List.mem_cons_self⟩⟩
    | granted user key nowMs jti token signs =>
        exact ⟨fun _ => ⟨user, signs⟩,
          fun _ => ⟨.ok key, List.mem_append_left _ List.mem_cons_self⟩⟩
  · intro other rejected alike same
    rw [login_of_wrongCredentials rejected] at run
    rw [login_of_wrongCredentials alike, same]
    exact run

end Login

section Bearer

theorem afterWordIgnoringCase_append {word text : List Char} (spelled : text.map Char.toLower = word)
    (rest : List Char) : Js.afterWordIgnoringCase word (text ++ rest) = some rest := by
  induction word generalizing text with
  | nil =>
      rw [List.map_eq_nil_iff.mp spelled]
      rfl
  | cons w word ih =>
      obtain ⟨c, tail, rfl, same, alike⟩ := List.map_eq_cons_iff.mp spelled
      rw [List.cons_append, Js.afterWordIgnoringCase, if_pos same]
      exact ih alike

/-- A token comes out of its header as it is, whatever the case of the scheme. -/
theorem afterBearer_token {scheme token : String} (named : Js.toLowerCase scheme = "bearer")
    (solid : ∀ c ∈ token.toList, Js.isSpace c = false) :
    afterBearer (scheme ++ " " ++ token) = some token := by
  have spelled : scheme.toList.map Char.toLower = "bearer".toList := by
    rw [← named, Js.toLowerCase, String.toList_ofList]
  have parts : (scheme ++ " " ++ token).toList = scheme.toList ++ ' ' :: token.toList := by
    simp [String.toList_append]
  have kept : token.toList.dropWhile Js.isSpace = token.toList := by
    cases spelt : token.toList with
    | nil => rfl
    | cons c rest =>
        have visible : Js.isSpace c = false := solid c (by rw [spelt]; exact List.mem_cons_self)
        exact List.dropWhile_cons_of_neg (by simp [visible])
  have blank : Js.isSpace ' ' = true := by decide
  rw [afterBearer, parts, afterWordIgnoringCase_append spelled]
  simp only [blank, ↓reduceIte, kept, String.ofList_toList]

theorem userBearer_token {req : Request} {scheme token : String}
    (named : Js.toLowerCase scheme = "bearer") (filled : token ≠ "")
    (solid : ∀ c ∈ token.toList, Js.isSpace c = false)
    (shown : req.headerOrEmpty "authorization" = scheme ++ " " ++ token) :
    userBearer req = some token := by
  have extracted : withoutBearer (scheme ++ " " ++ token) = token := by
    rw [withoutBearer, afterBearer_token named solid, Option.getD_some, Js.trim_solid solid]
  simp only [userBearer, shown, extracted, afterBearer_token named solid]
  rw [if_pos ⟨rfl, filled⟩]

end Bearer

theorem signUserJwt_signing (opts : SignUserJwtOptions) (input : SignUserJwtInput) (nowMs : Millis)
    (jti : String) (reply : Except Fault String) :
    Runs (signUserJwt opts input) [⟨.now, nowMs⟩, ⟨.randomUUID, jti⟩, ⟨.signJwt (userJwtHeader opts)
      (signedPayload opts input (toSeconds nowMs) jti) opts.privateKey, reply⟩] reply := by
  rw [signUserJwt, Act.now, runs_reply_bind_iff]
  refine ⟨nowMs, _, rfl, ?_⟩
  rw [Act.randomUUID, runs_reply_bind_iff]
  refine ⟨jti, _, rfl, ?_⟩
  rw [Act.signJwt, runs_command_iff]
  exact ⟨reply, rfl, rfl⟩

/-- A login whose answer has a token has signed it for the user with these credentials. -/
theorem LoginRun.granted_user {P : Platform} {opts : LocalIssuerOptions} {req : Request}
    {trace : List Event} {fields : Obj} {token : String} (run : LoginRun P opts req trace)
    (answered : ⟨.json 200 (.obj fields), ()⟩ ∈ trace)
    (given : Obj.get? "user_token" fields = some (.str token)) :
    ∃ user key nowMs jti, SignsIn P req user ∧
      trace = signing opts user key nowMs jti (.ok token) ++
        [⟨.json 200 (issued opts user token).toJson, ()⟩] := by
  have refused {err : AuthError} {timestamp : String} :
      ⟨.json 200 (.obj fields), ()⟩ ∉ issuerAnswer req err timestamp := by
    intro member
    simp only [issuerAnswer, buildErrorBody, List.mem_cons, Effect.Event.mk.injEq, reduceCtorEq,
      false_and, false_or, List.not_mem_nil, or_false, Op.json.injEq, Json.obj.injEq] at member
    rw [member.1.2] at given
    simp [errorFields, Obj.get?] at given
  cases run with
  | incomplete timestamp missing => exact absurd answered refused
  | refused username password timestamp named password' wrong => exact absurd answered refused
  | keyless user err timestamp signsIn =>
      exact absurd ((List.mem_cons.mp answered).resolve_left (by simp)) refused
  | unsigned user key nowMs jti err timestamp signsIn =>
      exact absurd ((List.mem_append.mp answered).resolve_left (by simp [signing])) refused
  | granted user key nowMs jti token' signsIn =>
      have last := (List.mem_append.mp answered).resolve_left (by simp [signing])
      simp only [List.mem_cons, Effect.Event.mk.injEq, List.not_mem_nil, or_false, Op.json.injEq,
        IssueUserTokenResult.toJson, Json.obj.injEq, issued] at last
      rw [last.1.2] at given
      simp only [Obj.get?, ↓reduceIte, Option.some.injEq, Json.str.injEq] at given
      subst given
      exact ⟨user, key, nowMs, jti, signsIn, rfl⟩

/-- A login that was granted a token. -/
structure GrantedLogin (P : Platform) (opts : LocalIssuerOptions) where
  signInRequest : Request
  signIn : List Event
  signedIn : Runs (login P opts signInRequest) signIn (.ok ())
  token : String
  granted : ∃ fields, ⟨.json 200 (.obj fields), ()⟩ ∈ signIn ∧
    Obj.get? "user_token" fields = some (.str token)
  signs : ∀ header claims key, ⟨.signJwt header claims key, .ok token⟩ ∈ signIn →
    SignedWith P header claims key token
  key : LoadedSigningKey
  loaded : ∀ reply, ⟨.signingKey, reply⟩ ∈ signIn → reply = .ok key

namespace GrantedLogin

variable {P : Platform} {opts : LocalIssuerOptions} (login : GrantedLogin P opts)

/-- The events of the login, for this user. -/
def Signed (user : TestUser) (nowMs : Millis) (jti : String) : Prop :=
  login.signIn = signing opts user login.key nowMs jti (.ok login.token) ++
    [⟨.json 200 (issued opts user login.token).toJson, ()⟩]

/-- The token was signed for the user with these credentials. -/
theorem exists_user : ∃ user nowMs jti, SignsIn P login.signInRequest user ∧
    login.Signed user nowMs jti := by
  obtain ⟨fields, answered, given⟩ := login.granted
  obtain ⟨user, key, nowMs, jti, signsIn, shape⟩ :=
    (login_run login.signedIn).2.granted_user answered given
  have own : key = login.key := by
    have same := login.loaded (.ok key) (by rw [shape]; simp [signing])
    exact Except.ok.inj same
  subst own
  exact ⟨user, nowMs, jti, signsIn, shape⟩

variable {login} {user : TestUser} {nowMs : Millis} {jti : String}

theorem Signed.clock (signed : login.Signed user nowMs jti) : ⟨.now, nowMs⟩ ∈ login.signIn := by
  rw [signed]
  simp [signing]

theorem Signed.signedWith (signed : login.Signed user nowMs jti) :
    SignedWith P (userJwtHeader (issuerSignOptions opts login.key))
      (userTokenClaims opts user login.key nowMs jti) login.key.privateKey login.token := by
  apply login.signs
  rw [signed]
  simp [signing]

/-- The signature and a validation of the token, as one round trip. -/
def Signed.trip (signed : login.Signed user nowMs jti) {validator : ValidateUserTokenOptions}
    {validation : List Event} {result : Except Fault UserContext}
    (issuer : validator.expectedIssuer = opts.issuer)
    (audience : validator.expectedAudience = opts.audience)
    (validated : Runs (validateUserToken P validator login.token) validation result)
    (published : Publishes P validator.jwksUri login.token login.key.privateKey.publicKey
      validation)
    (unexpired : ∀ signedAt moment, ⟨.now, signedAt⟩ ∈ login.signIn →
      ⟨.now, moment⟩ ∈ validation → (toSeconds moment : Rat) < toSeconds signedAt + opts.ttl) :
    UserRoundTrip P (issuerSignOptions opts login.key) user.signInput validator where
  token := login.token
  signing := (signing opts user login.key nowMs jti (.ok login.token)).tail
  signed := signUserJwt_signing (issuerSignOptions opts login.key) user.signInput nowMs jti _
  ownNames := by simp [TestUser.signInput]
  signs := by
    intro header claims signer member
    apply login.signs
    rw [signed]
    exact List.mem_append_left _ (List.mem_of_mem_tail member)
  validation := validation
  outcome := result
  validated := validated
  issuer := issuer
  audience := .inl (by rw [audience]; rfl)
  published := published
  unexpired := by
    intro signedAt moment clock read
    apply unexpired signedAt moment _ read
    rw [signed]
    exact List.mem_append_left _ (List.mem_of_mem_tail clock)

/-- Under the settings of its issuer the token is the user's, until it expires. -/
theorem Signed.validates (signed : login.Signed user nowMs jti)
    {validator : ValidateUserTokenOptions} {validation : List Event}
    {result : Except Fault UserContext} (issuer : validator.expectedIssuer = opts.issuer)
    (audience : validator.expectedAudience = opts.audience)
    (validated : Runs (validateUserToken P validator login.token) validation result)
    (published : Publishes P validator.jwksUri login.token login.key.privateKey.publicKey
      validation)
    (unexpired : ∀ signedAt moment, ⟨.now, signedAt⟩ ∈ login.signIn →
      ⟨.now, moment⟩ ∈ validation → (toSeconds moment : Rat) < toSeconds signedAt + opts.ttl) :
    result = .ok (user.context opts) := by
  obtain ⟨later, drawn, _, same⟩ :=
    (signed.trip issuer audience validated published unexpired).outcome_eq
  rw [← userContext_userToken opts user login.key later drawn]
  exact same

end GrantedLogin

/-- A request that shows the token of a login to calling-service. The middleware fetches the key
set that the issuer publishes. -/
structure Session (P : Platform) (opts : LocalIssuerOptions) extends GrantedLogin P opts where
  filled : token ≠ ""
  solid : ∀ c ∈ token.toList, Js.isSpace c = false
  imported : ImportedKey P key
  publishing : List Event
  published : Runs userIssuerJwks publishing (.ok ())
  kept : ∀ reply, ⟨.signingKey, reply⟩ ∈ publishing → reply = .ok key
  req : Request
  scheme : String
  named : Js.toLowerCase scheme = "bearer"
  shown : req.headerOrEmpty "authorization" = scheme ++ " " ++ token
  guarded : shouldSkip req.path defaultSkip = false
  checks : List Event
  outcome : Except Fault UserGate
  checked : Runs (userAuthMiddleware P opts.userAuth req) checks outcome
  fetched : ∀ forced reply, ⟨.getKeys opts.userAuth.jwksUri forced, reply⟩ ∈ checks →
    ∃ keys, reply = .ok keys ∧
      ⟨.json 200 (.obj [("keys", .arr (keys.map .obj))]), ()⟩ ∈ publishing
  unexpired : ∀ nowMs moment, ⟨.now, nowMs⟩ ∈ signIn → ⟨.now, moment⟩ ∈ checks →
    (toSeconds moment : Rat) < toSeconds nowMs + opts.ttl

namespace Session

variable {P : Platform} {opts : LocalIssuerOptions} (session : Session P opts)

/-- The key set of the issuer has its one key. -/
theorem publishes {keys : List Obj}
    (answered : ⟨.json 200 (.obj [("keys", .arr (keys.map .obj))]), ()⟩ ∈ session.publishing) :
    keys = [session.key.publicJwk] := by
  have run := session.published
  rw [userIssuerJwks] at run
  obtain ⟨loading, before, after, parts, load, answers⟩ := runs_attempt_bind_iff.mp run
  rw [Act.signingKey, runs_command_iff] at load
  obtain ⟨reply, rfl, same⟩ := load
  have own : reply = .ok session.key := session.kept reply (by rw [parts]; simp)
  subst own
  cases same
  simp only [id_eq] at answers
  rw [Act.setHeader, runs_reply_bind_iff] at answers
  obtain ⟨_, _, rfl, answers⟩ := answers
  obtain ⟨rfl, _⟩ := Act.runs_json_iff.mp answers
  rw [parts] at answered
  simp at answered
  rcases keys with _ | ⟨first, _ | ⟨second, rest⟩⟩
  · simp at answered
  · simpa using answered
  · simp at answered

/-- The middleware finds the key of the issuer for the token. -/
theorem publishes_key {user : TestUser} {nowMs : Millis} {jti : String} {validation : List Event}
    (signed : session.Signed user nowMs jti) (inside : validation ⊆ session.checks) :
    Publishes P opts.userAuth.jwksUri session.token session.key.privateKey.publicKey
      validation := by
  intro forced reply member
  obtain ⟨keys, same, served⟩ := session.fetched forced reply (inside member)
  rw [session.publishes served] at same
  refine ⟨_, session.key.publicJwk, same, ?_, session.imported.published⟩
  have kid : readKid P session.token = some (.str session.key.kid) := signed.signedWith.kid
  simp [kid, selectKey, session.imported.named, Js.strictEquals]

/-- The token is accepted until it expires, as the user who signed in. -/
theorem passes_as_user : ∃ user, SignsIn P session.signInRequest user ∧
    session.outcome = .ok (.next (some (user.context opts))) := by
  obtain ⟨user, nowMs, jti, signsIn, signed⟩ := session.exists_user
  refine ⟨user, signsIn, ?_⟩
  have bearer : userBearer session.req = some session.token :=
    userBearer_token session.named session.filled session.solid session.shown
  have returns {validation : List Event} {result : Except Fault UserContext}
      (inside : validation ⊆ session.checks)
      (validated : Runs (validateUserToken P opts.userAuth.toValidateUserTokenOptions session.token)
        validation result) : result = .ok (user.context opts) :=
    signed.validates rfl rfl validated (session.publishes_key signed inside)
      fun signedAt moment clock read => session.unexpired signedAt moment clock (inside read)
  obtain ⟨gate, ended, run⟩ := userAuthMiddleware_run session.checked
  rw [ended]
  generalize parts : session.checks = checks at run returns
  cases run with
  | skipped skips =>
      have looked : shouldSkip session.req.path opts.userAuth.skips = false := session.guarded
      rw [skips] at looked
      cases looked
  | tokenless err timestamp missing absent =>
      rw [bearer] at absent
      cases absent
  | refused token validation fault timestamp shown validated =>
      cases bearer.symm.trans shown
      cases returns (List.subset_append_left _ _) validated
  | passed token validation caller shown validated =>
      cases bearer.symm.trans shown
      cases returns (List.Subset.refl _) validated
      rfl

end Session

section AliceSession

/-! alice signs in, and files a loan with her token. -/

def userIssuerOptions : LocalIssuerOptions where
  issuer := "https://user"
  audience := "calling-service"

def aliceUser : TestUser where
  sub := "user-alice"
  passwordHash := "alice-hash"
  roles := ["loan-officer", "reader"]
  groups := ["retail-banking"]

def userIssuerKey : LoadedSigningKey where
  privateKey := ⟨5⟩
  publicJwk := ("kid", .str "user-key") :: TokenTable.jwkOf ⟨5⟩
  kid := "user-key"

def userTokenRow : SignedToken where
  token := "alice-token"
  header := userJwtHeader (issuerSignOptions userIssuerOptions userIssuerKey)
  payload := .ofClaims
    (userTokenClaims userIssuerOptions aliceUser userIssuerKey 1000000 "user-jti") rfl
  signer := ⟨5⟩

def loginServices : SteadyServices where
  moment := 1000000
  keys _ := []
  signing := userIssuerKey
  signed := "alice-token"
  drawn := "user-jti"

def loginRequest : Request where
  method := "POST"
  protocol := "https"
  originalUrl := "/auth/login"
  path := "/login"
  routePath := some "/login"
  headers := [("host", "user")]
  body := some (.obj [("username", .str "alice"), ("password", .str "alice-pw")])

def sessionTable : TokenTable where
  tokens := [userTokenRow]
  hashes := [("alice-pw", "alice-hash")]

def loanRequestOf (scheme : String) : Request where
  method := "POST"
  protocol := "https"
  originalUrl := "/demo/sync"
  path := "/demo/sync"
  routePath := some "/sync"
  headers := [("authorization", scheme ++ " alice-token")]
  body := none

def gateServices : SteadyServices where
  moment := 1000000
  keys _ := [userIssuerKey.publicJwk]
  signing := userIssuerKey
  signed := ""

theorem login_signing : (loginServices.trace (login sessionTable.platform userIssuerOptions
      loginRequest)).filter isSigning =
    [⟨.signJwt userTokenRow.header userTokenRow.payload.claims ⟨5⟩, .ok "alice-token"⟩] := by
  decide +kernel

def aliceSession : Session sessionTable.platform userIssuerOptions where
  signInRequest := loginRequest
  signIn := loginServices.trace (login sessionTable.platform userIssuerOptions loginRequest)
  signedIn := loginServices.runs _
  token := "alice-token"
  granted := ⟨_, (by decide +kernel : ⟨.json 200 (issued userIssuerOptions aliceUser
    "alice-token").toJson, ()⟩ ∈ loginServices.trace (login sessionTable.platform userIssuerOptions
      loginRequest)), rfl⟩
  signs header claims key member :=
    signs_of_row login_signing (signedWith_of_row rfl rfl (by decide +kernel)) member
  filled := by decide
  solid c member := by
    have visible : "alice-token".toList.all (fun c => !Js.isSpace c) = true := by decide
    simpa using List.all_eq_true.mp visible c member
  key := userIssuerKey
  imported := ⟨rfl, by decide, rfl⟩
  loaded reply member := by
    obtain ⟨_, rfl⟩ := SteadyServices.replied member
    rfl
  publishing := loginServices.trace userIssuerJwks
  published := loginServices.runs _
  kept reply member := by
    obtain ⟨_, rfl⟩ := SteadyServices.replied member
    rfl
  req := loanRequestOf "BEARER"
  scheme := "BEARER"
  named := by decide
  shown := by decide
  guarded := by decide
  checks := gateServices.trace (userAuthMiddleware sessionTable.platform userIssuerOptions.userAuth
    (loanRequestOf "BEARER"))
  outcome := gateServices.outcome (userAuthMiddleware sessionTable.platform
    userIssuerOptions.userAuth (loanRequestOf "BEARER"))
  checked := gateServices.runs _
  fetched forced reply member := by
    obtain ⟨_, rfl⟩ := SteadyServices.replied member
    exact ⟨_, rfl, by decide +kernel⟩
  unexpired nowMs moment clock read := by
    obtain ⟨_, rfl⟩ := SteadyServices.replied clock
    obtain ⟨_, rfl⟩ := SteadyServices.replied read
    have ttl : (0 : Rat) < userIssuerOptions.ttl := by
      norm_num [userIssuerOptions, LocalIssuerOptions.ttl]
    exact lt_add_of_pos_right _ ttl

theorem aliceSession_passes : ∃ user, SignsIn sessionTable.platform loginRequest user ∧
    aliceSession.outcome = .ok (.next (some (user.context userIssuerOptions))) :=
  aliceSession.passes_as_user

theorem alice_guards_key :
    ((∃ reply, ⟨.signingKey, reply⟩ ∈ loginServices.trace (login sessionTable.platform
        userIssuerOptions loginRequest)) ↔ ∃ user, SignsIn sessionTable.platform loginRequest user) ∧
      ∀ other, WrongCredentials sessionTable.platform loginRequest →
        WrongCredentials sessionTable.platform other →
        issuerRequestId other = issuerRequestId loginRequest →
        Runs (login sessionTable.platform userIssuerOptions other) (loginServices.trace (login
          sessionTable.platform userIssuerOptions loginRequest)) (.ok ()) :=
  login_guards_key (loginServices.runs _)

end AliceSession

end S2s
