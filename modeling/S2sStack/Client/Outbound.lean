import S2sStack.Envelope.Sign
import S2sStack.Service.Transport

set_option autoImplicit false

/- The outbound side of a service: DPoP proofs, the token exchange, and the clients that
call another service with the exchanged token. -/
namespace S2s

open Effect (Signature Program)
open Effect.Program
open Js (Json Obj HeaderRecord)

/-- What a library throws: an `Error` that is no `AuthError`. -/
structure LibraryError where
  code : Option String
  message : String
  deriving DecidableEq

def LibraryError.fault (err : LibraryError) : Fault := .error err.code err.message

/-- A response to `fetch`, its header names in lower case. Reading the body may fail. -/
structure HttpResponse where
  status : Nat
  headers : HeaderRecord
  body : Except LibraryError String
  deriving DecidableEq

inductive ClientOp where
  /-- the `actorClientSecret` of an exchange -/
  | actorClientSecret
  | randomUUID
  /-- `getPublicJwk()` and `getActivePrivateKey()`, called in one expression -/
  | activeKey
  | date
  | signJwt (header claims : Obj) (key : PrivateKey)
  | fetch (request : OutboundRequest)
  /-- `_current === null` in `rotateKey` -/
  | checkInitialized
  /-- `await generate()` -/
  | generateKey
  /-- the assignment to `_current` -/
  | installKey (key : ActiveKey)

@[reducible] def ClientOp.Reply : ClientOp → Type
  | actorClientSecret => Except LibraryError String
  | randomUUID => String
  | activeKey => Except LibraryError ActiveKey
  | date => Millis
  | signJwt _ _ _ => Except LibraryError String
  | fetch _ => Except LibraryError HttpResponse
  | checkInitialized => Except LibraryError Unit
  | generateKey => Except LibraryError ActiveKey
  | installKey _ => Unit

abbrev outbound : Signature := ⟨ClientOp, ClientOp.Reply⟩

abbrev ClientEvent := Effect.Event outbound

/-- An asynchronous function of a client. -/
abbrev Client (α : Type) := Program outbound Fault α

namespace Client

variable {α : Type}

def fail (fault : Fault) : Client α := Program.throwing fault

def orFault (result : Except LibraryError α) : Except Fault α := result.mapError LibraryError.fault

def actorClientSecret : Client String := Program.command .actorClientSecret orFault

def randomUUID : Client String := Program.command .randomUUID .ok

def activeKey : Client ActiveKey := Program.command .activeKey orFault

def date : Client Millis := Program.command .date .ok

def signJwt (header claims : Obj) (key : PrivateKey) : Client String :=
  Program.command (.signJwt header claims key) orFault

def fetch (request : OutboundRequest) : Client HttpResponse :=
  Program.command (.fetch request) orFault

def checkInitialized : Client Unit := Program.command .checkInitialized orFault

def generateKey : Client ActiveKey := Program.command .generateKey orFault

def installKey (key : ActiveKey) : Client Unit := Program.command (.installKey key) .ok

end Client

namespace HttpResponse

def header? (response : HttpResponse) (name : String) : Option String :=
  response.headers.lookup name

def ok (response : HttpResponse) : Bool := 200 ≤ response.status ∧ response.status < 300

/-- `response.json()` -/
def json (P : Platform) (response : HttpResponse) : Except Fault Json :=
  match response.body with
  | .ok text => P.parseJson text
  | .error err => .error err.fault

/-- The nonce of a `DPoP-Nonce` header; an empty one is none. -/
def dpopNonce (response : HttpResponse) : Option String :=
  match response.header? "dpop-nonce" with
  | some nonce => if nonce = "" then none else some nonce
  | none => none

end HttpResponse

structure SignDPoPOptions where
  accessToken : Option Json := none
  htm : String
  htu : String
  nonce : Option String := none

structure DPoPProof where
  proof : String
  jti : String

/-- The `ath` claim; only a text can be hashed. -/
def athClaim (P : Platform) : Option Json → Except Fault Obj
  | none => .ok []
  | some (.str token) => .ok [("ath", .str (P.sha256Base64url token.toUTF8))]
  | some _ => .error (plainError "The \"data\" argument must be of type string")

def nonceClaim (nonce : Option String) : Obj :=
  (nonce.map fun text => ("nonce", Json.str text)).toList

def dpopHeader (key : ActiveKey) : Obj :=
  [("typ", .str "dpop+jwt"), ("alg", .str "ES256"), ("jwk", .obj key.publicJwk)]

def dpopClaims (options : SignDPoPOptions) (jti : String) (ath : Obj) (nowMs : Millis) : Obj :=
  [("htm", .str options.htm), ("htu", .str options.htu), ("jti", .str jti)] ++ ath ++
    nonceClaim options.nonce ++ [("iat", .num (toSeconds nowMs : Nat))]

/-- `signDPoP` with the keys of the key manager -/
def signDPoP (P : Platform) (options : SignDPoPOptions) : Client DPoPProof := do
  let jti ← Client.randomUUID
  let ath ← ofExcept (athClaim P options.accessToken)
  let key ← Client.activeKey
  let nowMs ← Client.date
  let proof ← Client.signJwt (dpopHeader key) (dpopClaims options jti ath nowMs) key.privateKey
  return { proof := proof, jti := jti }

/-- What signing a proof does: it stops at a token that is no text or without a key, or it signs. -/
inductive SigningRun (P : Platform) (options : SignDPoPOptions) :
    List ClientEvent → Except Fault DPoPProof → Prop
  | unhashed (jti : String) (fault : Fault) : athClaim P options.accessToken = .error fault →
      SigningRun P options [⟨.randomUUID, jti⟩] (.error fault)
  | keyless (jti : String) (ath : Obj) (err : LibraryError) :
      athClaim P options.accessToken = .ok ath →
      SigningRun P options [⟨.randomUUID, jti⟩, ⟨.activeKey, .error err⟩] (.error err.fault)
  | signed (jti : String) (ath : Obj) (key : ActiveKey) (nowMs : Millis)
      (reply : Except LibraryError String) : athClaim P options.accessToken = .ok ath →
      SigningRun P options [⟨.randomUUID, jti⟩, ⟨.activeKey, .ok key⟩, ⟨.date, nowMs⟩,
          ⟨.signJwt (dpopHeader key) (dpopClaims options jti ath nowMs) key.privateKey, reply⟩]
        ((Client.orFault reply).map fun proof => { proof := proof, jti := jti })

theorem signDPoP_run {P : Platform} {options : SignDPoPOptions} {trace : List ClientEvent}
    {outcome : Except Fault DPoPProof} (run : Runs (signDPoP P options) trace outcome) :
    SigningRun P options trace outcome := by
  rw [signDPoP, Client.randomUUID, runs_reply_bind_iff] at run
  obtain ⟨jti, _, rfl, run⟩ := run
  cases hashed : athClaim P options.accessToken with
  | error fault =>
      rw [hashed] at run
      obtain ⟨rfl, rfl⟩ := runs_done_iff.mp run
      exact .unhashed jti fault hashed
  | ok ath =>
      rw [hashed, runs_ofExcept_bind_iff rfl, Client.activeKey, runs_command_bind_iff] at run
      obtain ⟨reply, _, rfl, run⟩ := run
      cases reply with
      | error err =>
          obtain ⟨_, impossible, _⟩ | ⟨_, same, rfl, rfl⟩ := run
          · cases impossible
          · cases same
            exact .keyless jti ath err hashed
      | ok key =>
          obtain ⟨_, same, run⟩ | ⟨_, impossible, _⟩ := run
          · cases same
            rw [Client.date, runs_reply_bind_iff] at run
            obtain ⟨nowMs, _, rfl, run⟩ := run
            rw [Client.signJwt, runs_command_bind_iff] at run
            obtain ⟨signature, _, rfl, run⟩ := run
            have signing := SigningRun.signed jti ath key nowMs signature hashed
            obtain ⟨proof, signed, run⟩ | ⟨fault, failed, rfl, rfl⟩ := run
            · obtain ⟨rfl, rfl⟩ := runs_pure_iff.mp run
              rwa [signed] at signing
            · rwa [failed] at signing
          · cases impossible

/-- Nothing but the proof is signed. -/
theorem SigningRun.of_signJwt {P : Platform} {options : SignDPoPOptions} {trace : List ClientEvent}
    {outcome : Except Fault DPoPProof} (run : SigningRun P options trace outcome)
    {header claims : Obj} {key : PrivateKey} {reply : Except LibraryError String}
    (member : ⟨.signJwt header claims key, reply⟩ ∈ trace) :
    ∃ active jti ath nowMs, ⟨.activeKey, .ok active⟩ ∈ trace ∧ header = dpopHeader active ∧
      key = active.privateKey ∧ athClaim P options.accessToken = .ok ath ∧
      claims = dpopClaims options jti ath nowMs := by
  cases run with
  | unhashed jti fault failed => simp at member
  | keyless jti ath err hashed => simp at member
  | signed jti ath active nowMs _ hashed =>
      simp only [List.mem_cons, List.not_mem_nil, or_false, reduceCtorEq, Effect.Event.mk.injEq,
        false_and, false_or, ClientOp.signJwt.injEq] at member
      obtain ⟨⟨rfl, rfl, rfl⟩, -⟩ := member
      exact ⟨active, jti, ath, nowMs, by simp, rfl, rfl, hashed, rfl⟩

/-- `rotateKey`. What it keeps of the old key is for readers that are no part of an outbound
call. -/
def rotateKey : Client Unit := do
  Client.checkInitialized
  let key ← Client.generateKey
  Client.installKey key

/-- `withDPoPNonceRetry`. No error that is thrown carries a nonce in its details. -/
def withDPoPNonceRetry {α : Type} (fn : Option String → Client α) : Client α :=
  catching (fn none) fun fault =>
    match fault with
    | .auth err =>
        match err.challengeNonce with
        | some challenge =>
            if err.code = .useDpopNonce ∧ challenge ≠ "" then fn (some challenge)
            else Client.fail fault
        | none => Client.fail fault
    | .error _ _ => Client.fail fault

end S2s
