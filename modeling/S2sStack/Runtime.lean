import S2sStack.Effect.Program
import S2sStack.Errors
import S2sStack.Js.Text
import S2sStack.Types
import Mathlib.Control.Monad.Basic

set_option autoImplicit false

/- What the sources run on: the operations that leave the process, and the library
functions (`jose`, `node:crypto`, `URL`) whose code is not part of the repository. -/
namespace S2s

open Effect (Signature Program)
open Js (Json Obj)

/-- An imported public key. Key pairs are numbered. -/
structure PublicKey where
  pair : Nat
  deriving DecidableEq, Repr

structure PrivateKey where
  pair : Nat
  deriving DecidableEq, Repr

def PrivateKey.publicKey (key : PrivateKey) : PublicKey := ⟨key.pair⟩

/-- What `signingKey.get()` gives the minter and the JWKS route. -/
structure LoadedSigningKey where
  privateKey : PrivateKey
  publicJwk : Obj
  kid : String
  deriving DecidableEq

/-- Times are Unix milliseconds. -/
abbrev Millis := Nat

/-- `Math.floor(ms / 1000)` -/
def toSeconds (ms : Millis) : Nat := ms / 1000

inductive Op where
  /-- the injectable `nowFn()` -/
  | now
  /-- `new Date()`, also where `jose` reads the clock itself -/
  | date
  /-- `new Date().toISOString()` in an error body -/
  | timestamp
  | randomUUID
  | generateDPoPNonce
  /-- `SET key 1 EX ttlSeconds NX` -/
  | redisSet (key : String) (ttlSeconds : Nat)
  /-- `DEL key` -/
  | redisDel (key : String)
  /-- `getKeys({ forceRefresh })` on the `JwksManager` of this URI -/
  | getKeys (jwksUri : String) (forceRefresh : Bool)
  | authorize (input : AuthorizeInput)
  | signingKey
  /-- `new SignJWT(claims).setProtectedHeader(header).sign(key)` -/
  | signJwt (header claims : Obj) (key : PrivateKey)
  | setHeader (name value : String)
  /-- `res.status(status).json(body)` -/
  | json (status : Nat) (body : Json)
  | setAuth (auth : RequestAuth)
  | next
  /-- `m2mShadowModeDecisionsTotal.inc({ decision, result })` -/
  | incShadow (decision result : String)
  | receiveMessages (queueUrl : String)
  | deleteMessage (queueUrl : String) (receiptHandle : Option String)
  deriving DecidableEq

/-- Reply of an operation. A command that can fail replies with a thrown error. -/
@[reducible] def Op.Reply : Op → Type
  | now => Millis
  | date => Millis
  | timestamp => String
  | randomUUID => String
  | generateDPoPNonce => String
  | redisSet _ _ => Except Fault Bool
  | redisDel _ => Except Fault Nat
  | getKeys _ _ => Except Fault (List Obj)
  | authorize _ => Except Fault AuthorizationResult
  | signingKey => Except Fault LoadedSigningKey
  | signJwt _ _ _ => Except Fault String
  | setHeader _ _ => Unit
  | json _ _ => Unit
  | setAuth _ => Unit
  | next => Unit
  | incShadow _ _ => Unit
  | receiveMessages _ => Except Fault (List SqsMessage)
  | deleteMessage _ _ => Except Fault Unit

abbrev runtime : Signature := ⟨Op, Op.Reply⟩

abbrev Event := Effect.Event runtime

instance : (op : Op) → DecidableEq op.Reply
  | .now | .date => inferInstanceAs (DecidableEq Nat)
  | .timestamp | .randomUUID | .generateDPoPNonce => inferInstanceAs (DecidableEq String)
  | .redisSet _ _ => inferInstanceAs (DecidableEq (Except Fault Bool))
  | .redisDel _ => inferInstanceAs (DecidableEq (Except Fault Nat))
  | .getKeys _ _ => inferInstanceAs (DecidableEq (Except Fault (List Obj)))
  | .authorize _ => inferInstanceAs (DecidableEq (Except Fault AuthorizationResult))
  | .signingKey => inferInstanceAs (DecidableEq (Except Fault LoadedSigningKey))
  | .signJwt _ _ _ => inferInstanceAs (DecidableEq (Except Fault String))
  | .setHeader _ _ | .json _ _ | .setAuth _ | .next | .incShadow _ _ =>
      inferInstanceAs (DecidableEq Unit)
  | .receiveMessages _ => inferInstanceAs (DecidableEq (Except Fault (List SqsMessage)))
  | .deleteMessage _ _ => inferInstanceAs (DecidableEq (Except Fault Unit))

instance : DecidableEq Event := fun left right =>
  match left, right with
  | ⟨op, reply⟩, ⟨other, reply'⟩ =>
      if same : op = other then
        decidable_of_iff (same ▸ reply = reply') (by subst same; simp)
      else isFalse (fun equal => same (congrArg Effect.Event.op equal))

/-- An asynchronous function body of the sources. -/
abbrev Act (α : Type) := Program runtime Fault α

namespace Act

variable {α : Type}

def fail (fault : Fault) : Act α := Program.throwing fault

def now : Act Millis := Program.command .now .ok

def date : Act Millis := Program.command .date .ok

def timestamp : Act String := Program.command .timestamp .ok

def randomUUID : Act String := Program.command .randomUUID .ok

def generateDPoPNonce : Act String := Program.command .generateDPoPNonce .ok

/-- Whether the reply is `OK`. -/
def redisSet (key : String) (ttlSeconds : Nat) : Act Bool :=
  Program.command (.redisSet key ttlSeconds) id

/-- The number of removed keys. -/
def redisDel (key : String) : Act Nat := Program.command (.redisDel key) id

def getKeys (jwksUri : String) (forceRefresh : Bool) : Act (List Obj) :=
  Program.command (.getKeys jwksUri forceRefresh) id

def authorize (input : AuthorizeInput) : Act AuthorizationResult :=
  Program.command (.authorize input) id

def signingKey : Act LoadedSigningKey := Program.command .signingKey id

def signJwt (header claims : Obj) (key : PrivateKey) : Act String :=
  Program.command (.signJwt header claims key) id

def setHeader (name value : String) : Act Unit := Program.command (.setHeader name value) .ok

def json (status : Nat) (body : Json) : Act Unit := Program.command (.json status body) .ok

def setAuth (auth : RequestAuth) : Act Unit := Program.command (.setAuth auth) .ok

def next : Act Unit := Program.command .next .ok

def incShadow (decision result : String) : Act Unit :=
  Program.command (.incShadow decision result) .ok

def receiveMessages (queueUrl : String) : Act (List SqsMessage) :=
  Program.command (.receiveMessages queueUrl) id

def deleteMessage (queueUrl : String) (receiptHandle : Option String) : Act Unit :=
  Program.command (.deleteMessage queueUrl receiptHandle) id

section Runs

variable {trace : List Event}

@[simp] theorem runs_now_iff {outcome : Except Fault Millis} :
    Program.Runs now trace outcome ↔
      ∃ moment, trace = [⟨.now, moment⟩] ∧ outcome = .ok moment := by
  simp only [now, Program.runs_command_iff]

@[simp] theorem runs_randomUUID_iff {outcome : Except Fault String} :
    Program.Runs randomUUID trace outcome ↔
      ∃ id, trace = [⟨.randomUUID, id⟩] ∧ outcome = .ok id := by
  simp only [randomUUID, Program.runs_command_iff]

@[simp] theorem runs_redisSet_iff {key : String} {ttlSeconds : Nat} {outcome : Except Fault Bool} :
    Program.Runs (redisSet key ttlSeconds) trace outcome ↔
      trace = [⟨.redisSet key ttlSeconds, outcome⟩] := by
  simp only [redisSet, Program.runs_command_iff, id_eq, exists_eq_right']

@[simp] theorem runs_redisDel_iff {key : String} {outcome : Except Fault Nat} :
    Program.Runs (redisDel key) trace outcome ↔ trace = [⟨.redisDel key, outcome⟩] := by
  simp only [redisDel, Program.runs_command_iff, id_eq, exists_eq_right']

@[simp] theorem runs_getKeys_iff {jwksUri : String} {forceRefresh : Bool}
    {outcome : Except Fault (List Obj)} :
    Program.Runs (getKeys jwksUri forceRefresh) trace outcome ↔
      trace = [⟨.getKeys jwksUri forceRefresh, outcome⟩] := by
  simp only [getKeys, Program.runs_command_iff, id_eq, exists_eq_right']

@[simp] theorem runs_authorize_iff {input : AuthorizeInput}
    {outcome : Except Fault AuthorizationResult} :
    Program.Runs (authorize input) trace outcome ↔ trace = [⟨.authorize input, outcome⟩] := by
  simp only [authorize, Program.runs_command_iff, id_eq, exists_eq_right']

@[simp] theorem runs_signingKey_iff {outcome : Except Fault LoadedSigningKey} :
    Program.Runs signingKey trace outcome ↔ trace = [⟨.signingKey, outcome⟩] := by
  simp only [signingKey, Program.runs_command_iff, id_eq, exists_eq_right']

@[simp] theorem runs_signJwt_iff {header claims : Obj} {key : PrivateKey}
    {outcome : Except Fault String} :
    Program.Runs (signJwt header claims key) trace outcome ↔
      trace = [⟨.signJwt header claims key, outcome⟩] := by
  simp only [signJwt, Program.runs_command_iff, id_eq, exists_eq_right']

/-- A reply that carries nothing. -/
theorem exists_unit_iff {p : Unit → Prop} : (∃ reply, p reply) ↔ p () := by
  constructor
  · rintro ⟨reply, holds⟩
    exact holds
  · intro holds
    exact ⟨(), holds⟩

@[simp] theorem runs_setHeader_iff {name value : String} {outcome : Except Fault Unit} :
    Program.Runs (setHeader name value) trace outcome ↔ trace = [⟨.setHeader name value, ()⟩] ∧ outcome = .ok () := by
  simp only [setHeader, Program.runs_command_iff]
  exact exists_unit_iff

@[simp] theorem runs_json_iff {status : Nat} {body : Json} {outcome : Except Fault Unit} :
    Program.Runs (json status body) trace outcome ↔ trace = [⟨.json status body, ()⟩] ∧ outcome = .ok () := by
  simp only [json, Program.runs_command_iff]
  exact exists_unit_iff

@[simp] theorem runs_next_iff {outcome : Except Fault Unit} :
    Program.Runs next trace outcome ↔ trace = [⟨.next, ()⟩] ∧ outcome = .ok () := by
  simp only [next, Program.runs_command_iff]
  exact exists_unit_iff

@[simp] theorem runs_receiveMessages_iff {queueUrl : String}
    {outcome : Except Fault (List SqsMessage)} :
    Program.Runs (receiveMessages queueUrl) trace outcome ↔
      trace = [⟨.receiveMessages queueUrl, outcome⟩] := by
  simp only [receiveMessages, Program.runs_command_iff, id_eq, exists_eq_right']

end Runs

end Act

/-- A verified claims set. `jose` refuses `exp`, `nbf` and `iat` that are not numbers. -/
structure JwtPayload where
  claims : Obj
  numericDates : ∀ name ∈ ["exp", "nbf", "iat"], ∀ value,
    claims.get? name = some value → ∃ number, value = .num number

/-- `claims[name] ?? 0` for one of the numeric dates. -/
def dateOrZero (claims : Obj) (name : String) : Rat :=
  match claims.get? name with
  | some (.num number) => number
  | _ => 0

def JwtPayload.dateOrZero (payload : JwtPayload) (name : String) : Rat :=
  S2s.dateOrZero payload.claims name

structure VerifyOptions where
  algorithms : Option (List String)
  currentDate : Millis

/-- The parsed parts of a URL that `canonicalizeHtu` reads. -/
structure Url where
  protocol : String
  host : String
  pathname : String
  deriving DecidableEq, Repr

/-- Functions of `jose` and of Node's standard library that the sources call. -/
structure Platform where
  decodeProtectedHeader : String → Except Fault Obj
  decodeJwt : String → Except Fault Obj
  importJWK : (jwk alg : Json) → Except Fault PublicKey
  jwtVerify : String → PublicKey → VerifyOptions → Except Fault JwtPayload
  calculateJwkThumbprint : Json → Except Fault String
  /-- `createHash('sha256').update(bytes).digest('base64url')` -/
  sha256Base64url : ByteArray → String
  /-- `createHash('sha256').update(bytes).digest('hex')` -/
  sha256Hex : ByteArray → String
  /-- `Buffer.from(text, 'base64').toString('utf8')` -/
  base64ToText : String → String
  /-- `JSON.parse(Buffer.from(segment, 'base64url').toString('utf8'))` -/
  parseSegment : String → Option Json
  /-- `JSON.stringify(value)` -/
  stringify : Json → String
  /-- `JSON.parse(text)` -/
  parseJson : String → Except Fault Json
  /-- `new URL(text)` -/
  parseUrl : String → Option Url

/-- `jwtVerify` and `decodeJwt` read the same claims. -/
def Platform.PayloadAgrees (P : Platform) : Prop :=
  ∀ token key options payload, P.jwtVerify token key options = .ok payload →
    P.decodeJwt token = .ok payload.claims

/-- An Express request, its header names in lower case. -/
structure Request where
  method : String
  protocol : String
  originalUrl : String
  path : String
  routePath : Option String
  headers : List (String × String)
  body : Option Json

namespace Request

/-- `req.headers[name]` -/
def header? (req : Request) (name : String) : Option String := req.headers.lookup name

/-- `req.headers[name] ?? ''` -/
def headerOrEmpty (req : Request) (name : String) : String := (req.header? name).getD ""

/-- `${req.protocol}://${req.get('host') ?? ''}${req.originalUrl.split('?')[0]}` -/
def htu (req : Request) : String :=
  req.protocol ++ "://" ++ req.headerOrEmpty "host" ++ Js.beforeFirst '?' req.originalUrl

end Request

/-- `req.headers['x-request-id'] ?? randomUUID()` -/
def requestIdOf (req : Request) : Act String :=
  match req.header? "x-request-id" with
  | some id => pure id
  | none => Act.randomUUID

theorem within_requestIdOf {allowed : Op → Prop} (draws : allowed .randomUUID) (req : Request) :
    Program.Within allowed (requestIdOf req) := by
  unfold requestIdOf
  split
  · exact Program.Within.done _
  · exact Program.Within.command draws

theorem requestIdOf_ok {req : Request} {trace : List Event} {outcome : Except Fault String}
    (run : Program.Runs (requestIdOf req) trace outcome) : ∃ requestId, outcome = .ok requestId := by
  unfold requestIdOf at run
  split at run
  · exact ⟨_, (Program.runs_pure_iff.mp run).2⟩
  · obtain ⟨requestId, _, same⟩ := Act.runs_randomUUID_iff.mp run
    exact ⟨requestId, same⟩

end S2s
