import S2sStack.Dpop.VerifyDPoP
import S2sStack.Token.ValidateToken

set_option autoImplicit false

/- `middleware.ts`: the SDK's request authentication. -/
namespace S2s

open Effect Effect.Program
open Js (Json Obj)

inductive BrokerAuthMode where
  | logOnly
  | enforce
  deriving DecidableEq, Repr

structure AuthMiddlewareDeps where
  expectedAudience : String
  resourcePrefix : String
  validateToken : ValidateTokenDeps
  verifyDPoP : VerifyDPoPDeps
  requireDPoP : Option Bool := none
  requireCnfBinding : Option Bool := none
  mode : Option BrokerAuthMode := none

namespace AuthMiddlewareDeps

/-- `deps.requireDPoP !== false` -/
def dpopRequired (deps : AuthMiddlewareDeps) : Bool := deps.requireDPoP ≠ some false

/-- `deps.requireCnfBinding !== false` -/
def cnfRequired (deps : AuthMiddlewareDeps) : Bool := deps.requireCnfBinding ≠ some false

def effectiveMode (deps : AuthMiddlewareDeps) : BrokerAuthMode := deps.mode.getD .enforce

end AuthMiddlewareDeps

/-- Where the access token is: `X-DPoP-Token` comes before `Authorization`. -/
def requestAccessToken (req : Request) : Except Fault String :=
  let dpopTokenHeader := req.headerOrEmpty "x-dpop-token"
  if dpopTokenHeader ≠ "" then
    let accessToken := (Js.matchTokenScheme dpopTokenHeader).getD (Js.trim dpopTokenHeader)
    if accessToken = "" then .error (unauthorized .invalidToken "malformed X-DPoP-Token header")
    else .ok accessToken
  else
    let authHeader := req.headerOrEmpty "authorization"
    if authHeader = "" then .error (unauthorized .invalidToken "missing access token")
    else
      match Js.matchTokenScheme authHeader with
      | some accessToken => .ok accessToken
      | none => .error (unauthorized .invalidToken "malformed Authorization header")

def resourceProofInput (deps : AuthMiddlewareDeps) (req : Request) (accessToken : String)
    (validated : ValidatedToken) : VerifyDPoPInput where
  dpopProof := req.headerOrEmpty "dpop"
  accessToken := some accessToken
  expectedHtm := Js.toUpperCase req.method
  expectedHtu := req.htu
  expectedJkt := validated.cnf.bind CnfClaim.jkt
  requireCnfBinding := deps.cnfRequired

/-- `Action::<METHOD>_<path with underscores>` -/
def actionOf (req : Request) : String :=
  "Action::" ++ Js.toUpperCase req.method ++ "_" ++ Js.underscored (req.routePath.getD req.path)

def authorizeInput (deps : AuthMiddlewareDeps) (req : Request) (accessToken : String)
    (validated : ValidatedToken) : AuthorizeInput where
  principal := "ServicePrincipal::" ++ validated.sub
  action := actionOf req
  resource := deps.resourcePrefix ++ "::" ++ req.path
  token := accessToken
  context := some [("dpop_confirmed", .bool deps.dpopRequired), ("scopes", strings validated.scope)]

def checkResourceProof (P : Platform) (deps : AuthMiddlewareDeps) (req : Request)
    (accessToken : String) (validated : ValidatedToken) : Act Unit :=
  if !deps.dpopRequired then return ()
  else if req.headerOrEmpty "dpop" = "" then
    Act.fail (unauthorized .invalidDpopProof "missing DPoP header")
  else do
    let _ ← verifyDPoP P deps.verifyDPoP (resourceProofInput deps req accessToken validated)
    return ()

/-- The `try` block up to the decision. A `reject` in it is the throw of an `AuthError` with
the same fields, which the `catch` rejects. -/
def evaluate (P : Platform) (deps : AuthMiddlewareDeps) (req : Request) :
    Act (ValidatedToken × AuthorizationResult) := do
  let accessToken ← ofExcept (requestAccessToken req)
  let validated ← validateToken P deps.validateToken accessToken deps.expectedAudience
  checkResourceProof P deps req accessToken validated
  let decision ← Act.authorize (authorizeInput deps req accessToken validated)
  return (validated, decision)

/-- What the `catch` makes of a thrown value. -/
def rejectionOf : Fault → AuthError
  | .auth err => err
  | .error _ message => { status := 401, code := .invalidToken, message := message }

/-- `if (challengeNonce) res.setHeader('DPoP-Nonce', challengeNonce)` -/
def sendChallenge (challengeNonce : Option String) : Act Unit :=
  match challengeNonce with
  | some nonce => if nonce = "" then return () else Act.setHeader "DPoP-Nonce" nonce
  | none => return ()

/-- `send(res, status, code, description, requestId, challengeNonce)` -/
def sendError (err : AuthError) (requestId : String) : Act Unit := do
  Act.setHeader "WWW-Authenticate" (wwwAuthenticateHeader err.code)
  sendChallenge err.challengeNonce
  let timestamp ← Act.timestamp
  Act.json err.status (buildErrorBody err.code err.message requestId timestamp)

def reject (mode : BrokerAuthMode) (err : AuthError) (requestId : String) : Act Unit :=
  match mode with
  | .logOnly => do
      Act.incShadow "INVALID" "would_reject"
      Act.next
  | .enforce => sendError err requestId

/-- `reasons.join(',') || 'denied'` -/
def denialText (reasons : List String) : String :=
  let joined := ",".intercalate reasons
  if joined = "" then "denied" else joined

def denial (decision : AuthorizationResult) : AuthError where
  status := 403
  code := .authorizationDenied
  message := denialText decision.reasons

def requestAuth (validated : ValidatedToken) (decision : AuthorizationResult) : RequestAuth where
  sub := validated.sub
  scopes := validated.scope
  decision := decision.decision
  reasons := decision.reasons

/-- What follows a decision. -/
def conclude (mode : BrokerAuthMode) (validated : ValidatedToken) (decision : AuthorizationResult)
    (requestId : String) : Act Unit :=
  match mode with
  | .logOnly => do
      Act.incShadow decision.decision.text
        (if decision.decision = .allow then "would_allow" else "would_deny")
      Act.setAuth (requestAuth validated decision)
      Act.next
  | .enforce =>
      if decision.decision ≠ .allow then
        sendError (denial decision) requestId
      else do
        Act.setAuth (requestAuth validated decision)
        Act.next

def authMiddleware (P : Platform) (deps : AuthMiddlewareDeps) (req : Request) : Act Unit := do
  let requestId ← requestIdOf req
  match ← attempt (evaluate P deps req) with
  | .ok (validated, decision) => conclude deps.effectiveMode validated decision requestId
  | .error err => reject deps.effectiveMode (rejectionOf err) requestId

/-- The settings `createBrokerAuthMiddleware` can be given in place of finished dependencies,
without those of the clients it builds for JWKS, AVP and Redis. -/
structure BrokerAuthConfig where
  brokerJwksUri : String
  brokerIssuer : String
  brokerAudience : String
  resourcePrefix : String
  mode : Option BrokerAuthMode := none
  requireDPoP : Option Bool := none
  requireCnfBinding : Option Bool := none
  nonceTtlSeconds : Option Nat := none
  nonceKeyPrefix : Option String := none

namespace BrokerAuthConfig

def nonceStore (cfg : BrokerAuthConfig) : RedisNonceStore where
  ttlSeconds := some (cfg.nonceTtlSeconds.getD 300)
  prefix? := some (cfg.nonceKeyPrefix.getD "dpop:nonce:")

end BrokerAuthConfig

def wireBrokerAuthConfig (cfg : BrokerAuthConfig) : AuthMiddlewareDeps where
  expectedAudience := cfg.brokerAudience
  resourcePrefix := cfg.resourcePrefix
  validateToken := { jwksUri := cfg.brokerJwksUri, expectedIssuer := cfg.brokerIssuer }
  verifyDPoP := {
    nonceTtlSeconds := cfg.nonceTtlSeconds
    nonceStore := some cfg.nonceStore
    requireNonce := true }
  requireDPoP := some (cfg.requireDPoP.getD true)
  requireCnfBinding := some (cfg.requireCnfBinding.getD true)
  mode := cfg.mode

/-- The operations of an evaluation: nothing the client or the handlers can see. -/
def isEvaluationOp : Op → Prop
  | .now | .date | .getKeys _ _ | .redisSet _ _ | .redisDel _ | .generateDPoPNonce
  | .authorize _ => True
  | _ => False

/-- The operations of an error response. -/
def isResponseOp : Op → Prop
  | .setHeader _ _ | .timestamp | .json _ _ => True
  | _ => False

theorem within_sendError (err : AuthError) (requestId : String) :
    Within isResponseOp (sendError err requestId) := by
  refine Within.bind (Within.command trivial) fun _ => ?_
  refine Within.bind ?_ fun _ => ?_
  · unfold sendChallenge
    split
    · split
      · exact Within.done _
      · exact Within.command trivial
    · exact Within.done _
  · exact Within.bind (Within.command trivial) fun timestamp => Within.command trivial

theorem isEvaluationOp_of_isValidationOp (op : Op) (validation : isValidationOp op) :
    isEvaluationOp op := by
  cases op <;> trivial

theorem isEvaluationOp_of_isProofOp {requireNonce : Bool} (op : Op)
    (proof : isProofOp requireNonce op) : isEvaluationOp op := by
  cases op <;> trivial

theorem within_checkResourceProof (P : Platform) (deps : AuthMiddlewareDeps) (req : Request)
    (accessToken : String) (validated : ValidatedToken) :
    Within isEvaluationOp (checkResourceProof P deps req accessToken validated) := by
  unfold checkResourceProof
  split
  · exact Within.done _
  · split
    · exact Within.done _
    · refine Within.bind ?_ fun _ => Within.done _
      exact (within_verifyDPoP P _ _).mono isEvaluationOp_of_isProofOp

theorem within_evaluate (P : Platform) (deps : AuthMiddlewareDeps) (req : Request) :
    Within isEvaluationOp (evaluate P deps req) := by
  refine Within.bind (Within.ofExcept _) fun accessToken => ?_
  refine Within.bind ((within_validateToken P _ accessToken _).mono
    isEvaluationOp_of_isValidationOp) fun validated => ?_
  refine Within.bind (within_checkResourceProof P deps req accessToken validated) fun _ => ?_
  exact Within.bind (Within.command trivial) fun _ => Within.done _

end S2s
