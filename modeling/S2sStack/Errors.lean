import S2sStack.Js.Json

set_option autoImplicit false

namespace S2s

/-- `ERROR_CODES` -/
inductive ErrorCode where
  | invalidToken
  | tokenExpired
  | invalidAudience
  | invalidDpopProof
  | dpopBindingMismatch
  | dpopTokenMismatch
  | dpopProofExpired
  | dpopNonceReuse
  | dpopKeyMismatch
  | useDpopNonce
  | authorizationDenied
  deriving DecidableEq, Repr

namespace ErrorCode

def text : ErrorCode → String
  | invalidToken => "invalid_token"
  | tokenExpired => "token_expired"
  | invalidAudience => "invalid_audience"
  | invalidDpopProof => "invalid_dpop_proof"
  | dpopBindingMismatch => "dpop_binding_mismatch"
  | dpopTokenMismatch => "dpop_token_mismatch"
  | dpopProofExpired => "dpop_proof_expired"
  | dpopNonceReuse => "dpop_nonce_reuse"
  | dpopKeyMismatch => "dpop_key_mismatch"
  | useDpopNonce => "use_dpop_nonce"
  | authorizationDenied => "authorization_denied"

/-- `DPOP_CODES.has(code)` -/
def isDpop : ErrorCode → Bool
  | invalidDpopProof | dpopBindingMismatch | dpopTokenMismatch | dpopProofExpired
  | dpopNonceReuse | dpopKeyMismatch | useDpopNonce => true
  | invalidToken | tokenExpired | invalidAudience | authorizationDenied => false

end ErrorCode

structure AuthError where
  status : Nat
  code : ErrorCode
  message : String
  challengeNonce : Option String := none
  deriving DecidableEq, Repr

/-- A thrown value: an `AuthError`, or any other `Error` with the `code` property it
may carry. Nothing in the sources throws a value that is not an `Error`. -/
inductive Fault where
  | auth (err : AuthError)
  | error (code : Option String) (message : String)
  deriving DecidableEq, Repr

namespace Fault

def message : Fault → String
  | auth err => err.message
  | error _ message => message

/-- `err.code`, which an `AuthError` has too. -/
def code? : Fault → Option String
  | auth err => some err.code.text
  | error code _ => code

end Fault

/-- `new AuthError(401, code, message)` -/
def unauthorized (code : ErrorCode) (message : String) : Fault :=
  .auth { status := 401, code := code, message := message }

/-- `new Error(message)` -/
def plainError (message : String) : Fault := .error none message

def errorFields (code : ErrorCode) (description requestId timestamp : String) : Js.Obj :=
  [("error", .str code.text), ("error_description", .str description),
    ("request_id", .str requestId), ("timestamp", .str timestamp)]

def buildErrorBody (code : ErrorCode) (description requestId timestamp : String) : Js.Json :=
  .obj (errorFields code description requestId timestamp)

def wwwAuthenticateHeader (code : ErrorCode) : String :=
  if code.isDpop then "DPoP error=\"" ++ code.text ++ "\"" else "Bearer error=\"" ++ code.text ++ "\""

end S2s
