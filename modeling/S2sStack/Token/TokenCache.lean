import S2sStack.Effect.Provenance
import S2sStack.Runtime
import Mathlib.Algebra.Order.Ring.Rat
import Mathlib.Data.List.Lex
import Mathlib.Data.Rat.Cast.Order

set_option autoImplicit false

/- `token/tokenCache.ts` and `token/acquireToken.ts`: tokens of Cognito in a map of the process and
in Redis. -/
namespace S2s

open Effect (Signature Program)
open Effect.Program

namespace Js

/-- The UTF-16 code units of a text. -/
def codeUnits (text : String) : List Nat :=
  text.toList.flatMap fun c =>
    if c.toNat < 0x10000 then [c.toNat]
    else [0xD800 + (c.toNat - 0x10000) / 0x400, 0xDC00 + (c.toNat - 0x10000) % 0x400]

/-- `[...texts].sort()` -/
def sortTexts (texts : List String) : List String :=
  texts.mergeSort (fun one other => codeUnits one ≤ codeUnits other)

end Js

/-- `BUFFER_SECONDS` -/
def bufferSeconds : Rat := 30

def TokenCache.cacheKey (P : Platform) (clientId : String) (scopes : List String) : String :=
  "m2m:" ++ clientId ++ ":" ++ P.sha256Hex (",".intercalate (Js.sortTexts scopes)).toUTF8

/-- An entry of the map or of Redis. -/
structure CachedToken where
  accessToken : String
  expiresAt : Rat
  scopes : List String

inductive TokenSource where
  | cognito
  | cacheL1
  | cacheL2
  deriving DecidableEq, Repr

structure TokenResult extends CachedToken where
  tokenSource : TokenSource

/-- What Cognito answers to a successful request. -/
structure CognitoTokenResponse where
  accessToken : String
  expiresIn : Rat
  scope : Option String

inductive CacheOp where
  /-- the injectable `nowFn()` -/
  | now
  | l1Get (key : String)
  | l1Set (key : String) (entry : CachedToken)
  | l1Delete (key : String)
  | l1Clear
  /-- `SET key entry EX ttlSeconds` -/
  | redisSet (key : String) (entry : CachedToken) (ttlSeconds : Rat)
  | redisGet (key : String)
  /-- `acquireTokenWithRetry` behind the circuit breaker -/
  | cognito (clientId : String) (scopes : List String)

@[reducible] def CacheOp.Reply : CacheOp → Type
  | now => Millis
  | l1Get _ => Option CachedToken
  | l1Set _ _ => Unit
  | l1Delete _ => Unit
  | l1Clear => Unit
  | redisSet _ _ _ => Except Fault Unit
  | redisGet _ => Except Fault (Option CachedToken)
  | cognito _ _ => Except Fault CognitoTokenResponse

abbrev tokenCaching : Signature := ⟨CacheOp, CacheOp.Reply⟩

abbrev CacheEvent := Effect.Event tokenCaching

abbrev Caching (α : Type) := Program tokenCaching Fault α

namespace Caching

def now : Caching Millis := Program.command .now .ok

def l1Get (key : String) : Caching (Option CachedToken) := Program.command (.l1Get key) .ok

def l1Set (key : String) (entry : CachedToken) : Caching Unit :=
  Program.command (.l1Set key entry) .ok

def l1Delete (key : String) : Caching Unit := Program.command (.l1Delete key) .ok

def l1Clear : Caching Unit := Program.command .l1Clear .ok

def redisSet (key : String) (entry : CachedToken) (ttlSeconds : Rat) : Caching Unit :=
  Program.command (.redisSet key entry ttlSeconds) id

def redisGet (key : String) : Caching (Option CachedToken) := Program.command (.redisGet key) id

def cognito (clientId : String) (scopes : List String) : Caching CognitoTokenResponse :=
  Program.command (.cognito clientId scopes) id

end Caching

/-- `Math.max(1, expiresAt - Math.floor(now / 1000))` -/
def ttlSeconds (expiresAt : Rat) (nowMs : Millis) : Rat :=
  max 1 (expiresAt - (toSeconds nowMs : Nat))

/-- A token that is not within the buffer before its end. -/
def CachedToken.Fresh (entry : CachedToken) (nowMs : Millis) : Prop :=
  (toSeconds nowMs : Nat) < entry.expiresAt - bufferSeconds

instance (entry : CachedToken) (nowMs : Millis) : Decidable (entry.Fresh nowMs) :=
  inferInstanceAs (Decidable (_ < _))

theorem CachedToken.Fresh.earlier {entry : CachedToken} {earlier later : Millis}
    (fresh : entry.Fresh later) (order : earlier ≤ later) : entry.Fresh earlier := by
  have seconds : ((toSeconds earlier : Nat) : Rat) ≤ (toSeconds later : Nat) := by
    have mono : toSeconds earlier ≤ toSeconds later := Nat.div_le_div_right order
    exact_mod_cast mono
  exact lt_of_le_of_lt seconds fresh

namespace TokenCache

def set (P : Platform) (clientId : String) (entry : CachedToken) : Caching Unit := do
  let key := cacheKey P clientId entry.scopes
  let nowMs ← Caching.now
  Caching.l1Set key entry
  Caching.redisSet key entry (ttlSeconds entry.expiresAt nowMs)

/-- What `get` does after its map has given nothing. -/
def readThrough (key : String) (nowMs : Millis) : Caching (Option TokenResult) := do
  let raw ← Caching.redisGet key
  match raw with
  | none => return none
  | some parsed =>
      if parsed.Fresh nowMs then do
        Caching.l1Set key parsed
        return some { parsed with tokenSource := .cacheL2 }
      else return none

def get (P : Platform) (clientId : String) (scopes : List String) :
    Caching (Option TokenResult) := do
  let key := cacheKey P clientId scopes
  let nowMs ← Caching.now
  let l1 ← Caching.l1Get key
  match l1 with
  | some entry =>
      if entry.Fresh nowMs then return some { entry with tokenSource := .cacheL1 }
      else do
        Caching.l1Delete key
        readThrough key nowMs
  | none => readThrough key nowMs

def getStale (P : Platform) (clientId : String) (scopes : List String) :
    Caching (Option TokenResult) := do
  let raw ← Caching.redisGet (cacheKey P clientId scopes)
  return raw.map fun parsed => { parsed with tokenSource := .cacheL2 }

end TokenCache

/-- `tokenResp.scope ? tokenResp.scope.split(' ') : scopes` -/
def CognitoTokenResponse.grantedScopes (response : CognitoTokenResponse) (scopes : List String) :
    List String :=
  match response.scope with
  | some scope => if scope = "" then scopes else Js.split ' ' scope
  | none => scopes

/-- The token of a response that came in at this time. -/
def CognitoTokenResponse.token (response : CognitoTokenResponse) (scopes : List String)
    (nowMs : Millis) : CachedToken where
  accessToken := response.accessToken
  expiresAt := (toSeconds nowMs : Nat) + response.expiresIn
  scopes := response.grantedScopes scopes

/-- The `try` block of `acquire`. -/
def acquireFresh (P : Platform) (clientId : String) (scopes : List String) :
    Caching TokenResult := do
  let response ← Caching.cognito clientId scopes
  let nowMs ← Caching.now
  let token := response.token scopes nowMs
  TokenCache.set P clientId token
  return { token with tokenSource := .cognito }

/-- The `catch` block of `acquire`. -/
def acquireStale (P : Platform) (clientId : String) (scopes : List String) (err : Fault) :
    Caching TokenResult := do
  let stale ← TokenCache.getStale P clientId scopes
  match stale with
  | some token => return token
  | none => Program.throwing err

/-- `cache.get(…)` unless a refresh is forced -/
def cachedToken (P : Platform) (clientId : String) (scopes : List String) (forceRefresh : Bool) :
    Caching (Option TokenResult) :=
  if forceRefresh then return none else TokenCache.get P clientId scopes

def acquire (P : Platform) (clientId : String) (scopes : List String) (forceRefresh : Bool) :
    Caching TokenResult := do
  let cached ← cachedToken P clientId scopes forceRefresh
  match cached with
  | some token => return token
  | none => catching (acquireFresh P clientId scopes) (acquireStale P clientId scopes)

end S2s
