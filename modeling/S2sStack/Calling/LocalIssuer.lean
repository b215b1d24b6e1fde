import S2sStack.Token.SignUserJwt

set_option autoImplicit false

/- The local identity provider of calling-service: `auth/testUsers.ts`, `auth/localIssuer.ts` and
`routes/auth.ts`. -/
namespace S2s

open Effect Effect.Program
open Js (Json Obj)

/-- An entry of the table as it is written down. -/
structure UserEntry where
  sub : String
  password : String
  roles : List String
  groups : List String

structure TestUser where
  sub : String
  /-- SHA-256 hex digest of the plaintext password -/
  passwordHash : String
  roles : List String
  groups : List String
  deriving DecidableEq, Repr

def userEntries : List (String × UserEntry) := [
  ("alice", {
    sub := "user-alice"
    password := "alice-pw"
    roles := ["loan-officer", "reader"]
    groups := ["retail-banking"] }),
  ("bob", {
    sub := "user-bob"
    password := "bob-pw"
    roles := ["auditor", "reader"]
    groups := ["risk"] }),
  ("carol", {
    sub := "user-carol"
    password := "carol-pw"
    roles := ["reader"]
    groups := ["ops"] })]

/-- `sha256Hex(plain)` -/
def passwordDigest (P : Platform) (plain : String) : String := P.sha256Hex plain.toUTF8

def UserEntry.hashed (P : Platform) (entry : UserEntry) : TestUser where
  sub := entry.sub
  passwordHash := passwordDigest P entry.password
  roles := entry.roles
  groups := entry.groups

/-- `TEST_USERS`. No two entries have one name. -/
def testUsers (P : Platform) : List (String × TestUser) :=
  userEntries.map fun entry => (entry.1, entry.2.hashed P)

/-- `timingSafeEqual(a, b)`, which throws where the lengths differ. -/
def timingSafeEqual (a b : ByteArray) : Except Fault Bool :=
  if a.size ≠ b.size then .error (.error (some "ERR_CRYPTO_TIMING_SAFE_EQUAL_LENGTH")
    "Input buffers must have the same byte length")
  else .ok (a.data.toList = b.data.toList)

/-- The comparison of two digests in `verifyPassword`, guarded by their lengths. -/
def digestsMatch (candidate stored : String) : Bool :=
  let a := candidate.toUTF8
  let b := stored.toUTF8
  if a.size ≠ b.size then false
  else
    match timingSafeEqual a b with
    | .ok same => same
    | .error _ => false

def verifyPassword (P : Platform) (username plaintext : String) : Bool :=
  match (testUsers P).lookup username with
  | none => false
  | some user => digestsMatch (passwordDigest P plaintext) user.passwordHash

structure LocalIssuerOptions where
  issuer : String
  audience : String
  ttlSeconds : Option Rat := none

/-- `opts.ttlSeconds ?? 900` -/
def LocalIssuerOptions.ttl (opts : LocalIssuerOptions) : Rat := opts.ttlSeconds.getD 900

structure IssueUserTokenResult where
  userToken : String
  expiresIn : Rat
  sub : String
  roles : List String

def IssueUserTokenResult.toJson (result : IssueUserTokenResult) : Json :=
  .obj [("user_token", .str result.userToken), ("expires_in", .num result.expiresIn),
    ("sub", .str result.sub), ("roles", strings result.roles)]

def invalidCredentials : Fault := unauthorized .invalidToken "invalid_credentials"

def issuerSignOptions (opts : LocalIssuerOptions) (key : LoadedSigningKey) : SignUserJwtOptions where
  privateKey := key.privateKey
  kid := key.kid
  issuer := opts.issuer
  audience := .str opts.audience
  ttlSeconds := some opts.ttl

def TestUser.signInput (user : TestUser) : SignUserJwtInput where
  sub := user.sub
  roles := some user.roles
  groups := some user.groups
  customClaims := none

/-- `issueUserToken`. Its `keyLoader.get()` is the key of the user issuer. -/
def issueUserToken (P : Platform) (opts : LocalIssuerOptions) (username password : String) :
    Act IssueUserTokenResult :=
  match (testUsers P).lookup username with
  | none => Act.fail invalidCredentials
  | some user =>
      if verifyPassword P username password then do
        let key ← Act.signingKey
        let token ← signUserJwt (issuerSignOptions opts key) user.signInput
        return { userToken := token, expiresIn := opts.ttl, sub := user.sub, roles := user.roles }
      else Act.fail invalidCredentials

/-- `req.body?.[name]`, where it is a text. -/
def bodyText (req : Request) (name : String) : Option String :=
  match req.body with
  | some (.obj fields) =>
      match Obj.get? name fields with
      | some (.str text) => some text
      | _ => none
  | _ => none

/-- `req.header('x-request-id') ?? 'unknown'` -/
def issuerRequestId (req : Request) : String := (req.header? "x-request-id").getD "unknown"

/-- `sendAuthError(req, res, err)` -/
def sendIssuerError (requestId : String) (err : AuthError) : Act Unit := do
  let timestamp ← Act.timestamp
  Act.json err.status (buildErrorBody err.code err.message requestId timestamp)

def missingCredentials : AuthError where
  status := 400
  code := .invalidToken
  message := "username and password are required"

/-- What the `catch` of the login route makes of a thrown value. -/
def loginFailure : Fault → AuthError
  | .auth err => err
  | .error _ message => { status := 500, code := .invalidToken, message := message }

/-- The answer to a login with both credentials. -/
def loginWith (P : Platform) (opts : LocalIssuerOptions) (requestId username password : String) :
    Act Unit := do
  match ← attempt (issueUserToken P opts username password) with
  | .ok result => Act.json 200 result.toJson
  | .error err => sendIssuerError requestId (loginFailure err)

/-- `POST /auth/login` -/
def login (P : Platform) (opts : LocalIssuerOptions) (req : Request) : Act Unit :=
  match bodyText req "username", bodyText req "password" with
  | some username, some password => loginWith P opts (issuerRequestId req) username password
  | _, _ => sendIssuerError (issuerRequestId req) missingCredentials

/-- `GET /auth/.well-known/jwks.json` -/
def userIssuerJwks : Act Unit := do
  match ← attempt Act.signingKey with
  | .ok key => do
      Act.setHeader "cache-control" "public, max-age=300"
      Act.json 200 (.obj [("keys", .arr [.obj key.publicJwk])])
  | .error err =>
      Act.json 503 (.obj [("error", .str "user_issuer_key_unavailable"), ("detail", .str err.message)])

/-- The user of the table that a login names with the right password. -/
def Authenticates (P : Platform) (username password : String) (user : TestUser) : Prop :=
  (testUsers P).lookup username = some user ∧ passwordDigest P password = user.passwordHash

theorem digestsMatch_iff {candidate stored : String} :
    digestsMatch candidate stored = true ↔ candidate = stored := by
  unfold digestsMatch
  by_cases sized : candidate.toUTF8.size = stored.toUTF8.size
  · have equal : ¬ candidate.toUTF8.size ≠ stored.toUTF8.size := not_not.mpr sized
    have compared : timingSafeEqual candidate.toUTF8 stored.toUTF8 =
        .ok (candidate.toUTF8.data.toList = stored.toUTF8.data.toList) := if_neg equal
    rw [if_neg equal, compared, decide_eq_true_iff]
    constructor
    · intro bytes
      exact String.toByteArray_inj.mp (ByteArray.ext (Array.toList_inj.mp bytes))
    · rintro rfl
      rfl
  · rw [if_pos sized]
    constructor
    · intro impossible
      cases impossible
    · rintro rfl
      exact absurd rfl sized

theorem verifyPassword_iff {P : Platform} {username password : String} :
    verifyPassword P username password = true ↔ ∃ user, Authenticates P username password user := by
  unfold verifyPassword Authenticates
  cases found : (testUsers P).lookup username with
  | none => simp
  | some user => simp [digestsMatch_iff]

/-- Without the right credentials the issuer does nothing but fail. -/
theorem issueUserToken_refused {P : Platform} {opts : LocalIssuerOptions}
    {username password : String} (wrong : ∀ user, ¬ Authenticates P username password user) :
    issueUserToken P opts username password = Act.fail invalidCredentials := by
  have unverified : ¬ verifyPassword P username password = true := by
    rw [verifyPassword_iff]
    rintro ⟨user, right⟩
    exact wrong user right
  unfold issueUserToken
  split
  · rfl
  · rw [if_neg unverified]

theorem issueUserToken_authenticated {P : Platform} {opts : LocalIssuerOptions}
    {username password : String} {user : TestUser} (right : Authenticates P username password user) :
    issueUserToken P opts username password = (do
      let key ← Act.signingKey
      let token ← signUserJwt (issuerSignOptions opts key) user.signInput
      return { userToken := token, expiresIn := opts.ttl, sub := user.sub, roles := user.roles }) := by
  have verified := verifyPassword_iff.mpr ⟨user, right⟩
  rw [issueUserToken]
  simp only [right.1, verified, ↓reduceIte]

end S2s
