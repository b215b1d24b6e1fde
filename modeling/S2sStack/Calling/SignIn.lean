import S2sStack.Calling.LocalIssuer
import S2sStack.Token.UserTokenRoundTrip

set_option autoImplicit false

/- Who gets a token from the local identity provider, and what the token says. -/
namespace S2s

open Effect Effect.Program
open Js (Json Obj)

/-- The error answers of the login route. -/
def issuerAnswer (req : Request) (err : AuthError) (timestamp : String) : List Event :=
  [⟨.timestamp, timestamp⟩,
    ⟨.json err.status (buildErrorBody err.code err.message (issuerRequestId req) timestamp), ()⟩]

/-- The claims of a user token. -/
def userTokenClaims (opts : LocalIssuerOptions) (user : TestUser) (key : LoadedSigningKey)
    (nowMs : Millis) (jti : String) : Obj :=
  signedPayload (issuerSignOptions opts key) user.signInput (toSeconds nowMs) jti

/-- The events from the key to the signature of a user token. -/
def signing (opts : LocalIssuerOptions) (user : TestUser) (key : LoadedSigningKey)
    (nowMs : Millis) (jti : String) (reply : Except Fault String) : List Event :=
  [⟨.signingKey, .ok key⟩, ⟨.now, nowMs⟩, ⟨.randomUUID, jti⟩,
    ⟨.signJwt (userJwtHeader (issuerSignOptions opts key)) (userTokenClaims opts user key nowMs jti)
      key.privateKey, reply⟩]

def issued (opts : LocalIssuerOptions) (user : TestUser) (token : String) :
    IssueUserTokenResult where
  userToken := token
  expiresIn := opts.ttl
  sub := user.sub
  roles := user.roles

/-- The body names a user of the table with the right password. -/
def SignsIn (P : Platform) (req : Request) (user : TestUser) : Prop :=
  ∃ username password, bodyText req "username" = some username ∧
    bodyText req "password" = some password ∧ Authenticates P username password user

/-- What a login does: it asks for credentials, refuses them, or it goes for the key and signs. -/
inductive LoginRun (P : Platform) (opts : LocalIssuerOptions) (req : Request) :
    List Event → Prop
  | incomplete (timestamp : String) :
      (bodyText req "username" = none ∨ bodyText req "password" = none) →
      LoginRun P opts req (issuerAnswer req missingCredentials timestamp)
  | refused (username password timestamp : String) : bodyText req "username" = some username →
      bodyText req "password" = some password → (∀ user, ¬ Authenticates P username password user) →
      LoginRun P opts req (issuerAnswer req (loginFailure invalidCredentials) timestamp)
  | keyless (user : TestUser) (err : Fault) (timestamp : String) : SignsIn P req user →
      LoginRun P opts req
        (⟨.signingKey, .error err⟩ :: issuerAnswer req (loginFailure err) timestamp)
  | unsigned (user : TestUser) (key : LoadedSigningKey) (nowMs : Millis) (jti : String)
      (err : Fault) (timestamp : String) : SignsIn P req user →
      LoginRun P opts req (signing opts user key nowMs jti (.error err) ++
        issuerAnswer req (loginFailure err) timestamp)
  | granted (user : TestUser) (key : LoadedSigningKey) (nowMs : Millis) (jti token : String) :
      SignsIn P req user →
      LoginRun P opts req (signing opts user key nowMs jti (.ok token) ++
        [⟨.json 200 (issued opts user token).toJson, ()⟩])

section Runs

variable {P : Platform} {opts : LocalIssuerOptions} {req : Request} {trace : List Event}

theorem sendIssuerError_run {err : AuthError} {outcome : Except Fault Unit}
    (run : Runs (sendIssuerError (issuerRequestId req) err) trace outcome) :
    outcome = .ok () ∧ ∃ timestamp, trace = issuerAnswer req err timestamp := by
  rw [sendIssuerError, Act.timestamp, runs_reply_bind_iff] at run
  obtain ⟨timestamp, _, rfl, run⟩ := run
  obtain ⟨rfl, rfl⟩ := Act.runs_json_iff.mp run
  exact ⟨rfl, timestamp, rfl⟩

theorem issueUserToken_run {username password : String} {user : TestUser}
    {outcome : Except Fault IssueUserTokenResult}
    (right : Authenticates P username password user)
    (run : Runs (issueUserToken P opts username password) trace outcome) :
    (∃ err, trace = [⟨.signingKey, .error err⟩] ∧ outcome = .error err) ∨
    ∃ key nowMs jti reply, trace = signing opts user key nowMs jti reply ∧
      outcome = reply.map (issued opts user) := by
  rw [issueUserToken_authenticated right, Act.signingKey, runs_command_bind_iff] at run
  obtain ⟨loaded, _, rfl, ⟨key, loading, run⟩ | ⟨err, failed, rfl, rfl⟩⟩ := run
  · right
    cases loading
    rcases runs_bind_iff.mp run with ⟨token, _, _, rfl, signs, rest⟩ | ⟨err, signs, rfl⟩
    · obtain ⟨nowMs, jti, rfl⟩ := signUserJwt_runs signs
      obtain ⟨rfl, rfl⟩ := runs_pure_iff.mp rest
      exact ⟨key, nowMs, jti, .ok token, rfl, rfl⟩
    · obtain ⟨nowMs, jti, rfl⟩ := signUserJwt_runs signs
      exact ⟨key, nowMs, jti, .error err, rfl, rfl⟩
  · left
    cases failed
    exact ⟨err, rfl, rfl⟩

theorem loginWith_run {username password : String} {outcome : Except Fault Unit}
    (named : bodyText req "username" = some username)
    (given : bodyText req "password" = some password)
    (run : Runs (loginWith P opts (issuerRequestId req) username password) trace outcome) :
    outcome = .ok () ∧ LoginRun P opts req trace := by
  obtain ⟨result, before, after, rfl, issue, answer⟩ := runs_attempt_bind_iff.mp run
  by_cases right : ∃ user, Authenticates P username password user
  · obtain ⟨user, right⟩ := right
    have signsIn : SignsIn P req user := ⟨username, password, named, given, right⟩
    rcases issueUserToken_run right issue with ⟨err, rfl, rfl⟩ | ⟨key, nowMs, jti, reply, rfl, rfl⟩
    · obtain ⟨rfl, timestamp, rfl⟩ := sendIssuerError_run answer
      exact ⟨rfl, .keyless user err timestamp signsIn⟩
    · cases reply with
      | ok token =>
          obtain ⟨rfl, rfl⟩ := Act.runs_json_iff.mp answer
          exact ⟨rfl, .granted user key nowMs jti token signsIn⟩
      | error err =>
          obtain ⟨rfl, timestamp, rfl⟩ := sendIssuerError_run answer
          exact ⟨rfl, .unsigned user key nowMs jti err timestamp signsIn⟩
  · have wrong : ∀ user, ¬ Authenticates P username password user := not_exists.mp right
    rw [issueUserToken_refused wrong] at issue
    obtain ⟨rfl, rfl⟩ := runs_throwing_iff.mp issue
    obtain ⟨rfl, timestamp, rfl⟩ := sendIssuerError_run answer
    exact ⟨rfl, .refused username password timestamp named given wrong⟩

theorem login_run {outcome : Except Fault Unit} (run : Runs (login P opts req) trace outcome) :
    outcome = .ok () ∧ LoginRun P opts req trace := by
  unfold login at run
  cases named : bodyText req "username" with
  | none =>
      rw [named] at run
      obtain ⟨rfl, timestamp, rfl⟩ := sendIssuerError_run run
      exact ⟨rfl, .incomplete timestamp (.inl named)⟩
  | some username =>
      cases given : bodyText req "password" with
      | none =>
          rw [named, given] at run
          obtain ⟨rfl, timestamp, rfl⟩ := sendIssuerError_run run
          exact ⟨rfl, .incomplete timestamp (.inr given)⟩
      | some password =>
          rw [named, given] at run
          exact loginWith_run named given run

/-- What a login signs, if anything. -/
theorem LoginRun.signs {header claims : Obj} {signer : PrivateKey} {reply : Except Fault String}
    (run : LoginRun P opts req trace) (signed : ⟨.signJwt header claims signer, reply⟩ ∈ trace) :
    ∃ user key nowMs jti, SignsIn P req user ∧ ⟨.signingKey, .ok key⟩ ∈ trace ∧
      ⟨.now, nowMs⟩ ∈ trace ∧ signer = key.privateKey ∧ claims = userTokenClaims opts user key nowMs jti := by
  have only {user : TestUser} {key : LoadedSigningKey} {nowMs : Millis} {jti : String}
      {answered : Except Fault String} {answer : List Event} (signsIn : SignsIn P req user)
      (silent : ⟨.signJwt header claims signer, reply⟩ ∉ answer)
      (member : ⟨.signJwt header claims signer, reply⟩ ∈
        signing opts user key nowMs jti answered ++ answer) :
      ∃ user' key' nowMs' jti', SignsIn P req user' ∧
        ⟨.signingKey, .ok key'⟩ ∈ signing opts user key nowMs jti answered ++ answer ∧
        ⟨.now, nowMs'⟩ ∈ signing opts user key nowMs jti answered ++ answer ∧
        signer = key'.privateKey ∧ claims = userTokenClaims opts user' key' nowMs' jti' := by
    have early := (List.mem_append.mp member).resolve_right silent
    simp only [signing, List.mem_cons, Effect.Event.mk.injEq, reduceCtorEq, false_and, false_or,
      List.not_mem_nil, or_false, Op.signJwt.injEq] at early
    obtain ⟨⟨rfl, rfl, rfl⟩, -⟩ := early
    exact ⟨user, key, nowMs, jti, signsIn, by simp [signing], by simp [signing], rfl, rfl⟩
  cases run with
  | incomplete timestamp missing => simp [issuerAnswer] at signed
  | refused username password timestamp named given wrong => simp [issuerAnswer] at signed
  | keyless user err timestamp signsIn => simp [issuerAnswer] at signed
  | unsigned user key nowMs jti err timestamp signsIn =>
      exact only signsIn (by simp [issuerAnswer]) signed
  | granted user key nowMs jti token signsIn => exact only signsIn (by simp) signed

end Runs

/-- The user that a token of the issuer speaks for. -/
def TestUser.context (opts : LocalIssuerOptions) (user : TestUser) : UserContext where
  sub := user.sub
  roles := user.roles
  groups := user.groups
  claims := []
  issuer := opts.issuer

theorem userContext_userToken (opts : LocalIssuerOptions) (user : TestUser)
    (key : LoadedSigningKey) (nowMs : Millis) (jti : String) :
    userContext (userTokenClaims opts user key nowMs jti) = user.context opts := by
  have owned : ListsOwned user.signInput :=
    ⟨by simp [TestUser.signInput], by simp [TestUser.signInput]⟩
  exact userContext_signedPayload owned

end S2s
