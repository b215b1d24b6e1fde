import S2sStack.Calling.SignIn
import S2sStack.Middleware.Refusals

set_option autoImplicit false

/- `lib/userAuthMiddleware.ts` of calling-service: a request with a user token, or none at all. -/
namespace S2s

open Effect Effect.Program
open Js (Json Obj)

/-- The options of the middleware; those of its `validate` are with them. -/
structure UserAuthOptions extends ValidateUserTokenOptions where
  skipPaths : Option (List String) := none

/-- `DEFAULT_SKIP` -/
def defaultSkip : List String := ["/auth", "/.well-known", "/health", "/metrics"]

def shouldSkip (reqPath : String) (skips : List String) : Bool :=
  skips.any fun skip => reqPath = skip ∨ (skip ++ "/").toList <+: reqPath.toList

def UserAuthOptions.skips (opts : UserAuthOptions) : List String :=
  opts.skipPaths.getD defaultSkip

/-- What follows `/^Bearer\s+/i`, where the header begins with it. -/
def afterBearer (header : String) : Option String :=
  match Js.afterWordIgnoringCase "bearer".toList header.toList with
  | some (blank :: rest) =>
      if Js.isSpace blank then some (String.ofList (rest.dropWhile Js.isSpace)) else none
  | _ => none

/-- `header.replace(/^Bearer\s+/i, '').trim()` -/
def withoutBearer (header : String) : String := Js.trim ((afterBearer header).getD header)

/-- `send401` -/
def send401 (req : Request) (err : AuthError) : Act Unit := do
  let timestamp ← Act.timestamp
  Act.setHeader "WWW-Authenticate" (wwwAuthenticateHeader err.code)
  Act.json err.status (buildErrorBody err.code err.message (issuerRequestId req) timestamp)

def missingBearer : AuthError where
  status := 401
  code := .invalidToken
  message := "missing bearer token"

def emptyBearer : AuthError where
  status := 401
  code := .invalidToken
  message := "empty bearer token"

/-- What the `catch` of the middleware makes of a thrown value. -/
def userAuthFailure : Fault → AuthError
  | .auth err => err
  | .error _ message => { status := 401, code := .invalidToken, message := message }

/-- The request goes on, with the `req.user` it has then, or it is answered. -/
inductive UserGate where
  | next (user : Option UserContext)
  | answered
  deriving DecidableEq

def answer401 (req : Request) (err : AuthError) : Act UserGate := do
  send401 req err
  return .answered

/-- The function that `createUserAuthMiddleware` returns. -/
def userAuthMiddleware (P : Platform) (opts : UserAuthOptions) (req : Request) : Act UserGate :=
  if shouldSkip req.path opts.skips then return .next none
  else
    let header := req.headerOrEmpty "authorization"
    if (afterBearer header).isNone then answer401 req missingBearer
    else
      let token := withoutBearer header
      if token = "" then answer401 req emptyBearer
      else do
        match ← attempt (validateUserToken P opts.toValidateUserTokenOptions token) with
        | .ok user => return .next (some user)
        | .error err => answer401 req (userAuthFailure err)

/-- The options that `index.ts` gives to the middleware, from those of the issuer. -/
def LocalIssuerOptions.userAuth (opts : LocalIssuerOptions) : UserAuthOptions where
  jwksUri := opts.issuer ++ "/.well-known/jwks.json"
  expectedIssuer := opts.issuer
  expectedAudience := opts.audience

/-- The token of a request, if it has one. -/
def userBearer (req : Request) : Option String :=
  let header := req.headerOrEmpty "authorization"
  if (afterBearer header).isSome ∧ withoutBearer header ≠ "" then some (withoutBearer header)
  else none

/-- The events of a refusal. -/
def answer401Events (req : Request) (err : AuthError) (timestamp : String) : List Event :=
  [⟨.timestamp, timestamp⟩, ⟨.setHeader "WWW-Authenticate" (wwwAuthenticateHeader err.code), ()⟩,
    ⟨.json err.status (buildErrorBody err.code err.message (issuerRequestId req) timestamp), ()⟩]

/-- What the middleware does with a request. -/
inductive UserAuthRun (P : Platform) (opts : UserAuthOptions) (req : Request) :
    List Event → UserGate → Prop
  | skipped : shouldSkip req.path opts.skips = true → UserAuthRun P opts req [] (.next none)
  | tokenless (err : AuthError) (timestamp : String) : err = missingBearer ∨ err = emptyBearer →
      userBearer req = none → UserAuthRun P opts req (answer401Events req err timestamp) .answered
  | refused (token : String) (validation : List Event) (fault : Fault) (timestamp : String) :
      userBearer req = some token →
      Runs (validateUserToken P opts.toValidateUserTokenOptions token) validation (.error fault) →
      UserAuthRun P opts req (validation ++ answer401Events req (userAuthFailure fault) timestamp) .answered
  | passed (token : String) (validation : List Event) (user : UserContext) :
      userBearer req = some token →
      Runs (validateUserToken P opts.toValidateUserTokenOptions token) validation (.ok user) →
      UserAuthRun P opts req validation (.next (some user))

section Runs

variable {P : Platform} {opts : UserAuthOptions} {req : Request} {trace : List Event}

theorem answer401_run {err : AuthError} {outcome : Except Fault UserGate}
    (run : Runs (answer401 req err) trace outcome) :
    outcome = .ok .answered ∧ ∃ timestamp, trace = answer401Events req err timestamp := by
  have answers : Runs (send401 req err >>= fun _ => (pure .answered : Act UserGate)) trace
      outcome := run
  rcases runs_bind_iff.mp answers with ⟨_, sending, after, rfl, sent, done⟩ | ⟨fault, sent, rfl⟩
  · obtain ⟨rfl, rfl⟩ := runs_pure_iff.mp done
    rw [send401, Act.timestamp, runs_reply_bind_iff] at sent
    obtain ⟨timestamp, _, rfl, sent⟩ := sent
    rw [Act.setHeader, runs_reply_bind_iff] at sent
    obtain ⟨_, _, rfl, sent⟩ := sent
    obtain ⟨rfl, _⟩ := Act.runs_json_iff.mp sent
    exact ⟨rfl, timestamp, rfl⟩
  · rw [send401, Act.timestamp, runs_reply_bind_iff] at sent
    obtain ⟨timestamp, _, rfl, sent⟩ := sent
    rw [Act.setHeader, runs_reply_bind_iff] at sent
    obtain ⟨_, _, rfl, sent⟩ := sent
    cases (Act.runs_json_iff.mp sent).2

theorem userAuthMiddleware_run {outcome : Except Fault UserGate}
    (run : Runs (userAuthMiddleware P opts req) trace outcome) :
    ∃ gate, outcome = .ok gate ∧ UserAuthRun P opts req trace gate := by
  unfold userAuthMiddleware at run
  dsimp only at run
  by_cases skip : shouldSkip req.path opts.skips = true
  · rw [if_pos skip] at run
    obtain ⟨rfl, rfl⟩ := runs_pure_iff.mp run
    exact ⟨_, rfl, .skipped skip⟩
  · rw [if_neg skip] at run
    by_cases bare : (afterBearer (req.headerOrEmpty "authorization")).isNone = true
    · rw [if_pos bare] at run
      obtain ⟨rfl, timestamp, rfl⟩ := answer401_run run
      refine ⟨_, rfl, .tokenless _ timestamp (.inl rfl) ?_⟩
      simp [userBearer, Option.isNone_iff_eq_none.mp bare]
    · rw [if_neg bare] at run
      by_cases empty : withoutBearer (req.headerOrEmpty "authorization") = ""
      · rw [if_pos empty] at run
        obtain ⟨rfl, timestamp, rfl⟩ := answer401_run run
        refine ⟨_, rfl, .tokenless _ timestamp (.inr rfl) ?_⟩
        simp [userBearer, empty]
      · rw [if_neg empty] at run
        have bearer : userBearer req =
            some (withoutBearer (req.headerOrEmpty "authorization")) := by
          simp only [userBearer]
          rw [if_pos]
          exact ⟨by simpa [Option.isSome_iff_ne_none] using bare, empty⟩
        obtain ⟨result, validation, after, rfl, validated, answers⟩ :=
          runs_attempt_bind_iff.mp run
        cases result with
        | ok user =>
            obtain ⟨rfl, rfl⟩ := runs_pure_iff.mp answers
            rw [List.append_nil]
            exact ⟨_, rfl, .passed _ validation user bearer validated⟩
        | error fault =>
            obtain ⟨rfl, timestamp, rfl⟩ := answer401_run answers
            exact ⟨_, rfl, .refused _ validation fault timestamp bearer validated⟩

end Runs

end S2s
