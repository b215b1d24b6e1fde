import S2sStack.Broker.TokenMinter
import S2sStack.Effect.Provenance
import S2sStack.Token.JwksVerification

set_option autoImplicit false

/- `lib/signingKeyLoader.ts` with the secret cache under it, and the routes that use its key. -/
namespace S2s

open Effect (Signature Program)
open Effect.Program
open Js (Json Obj)

/-- The library code under the loader. The public part of a key, as it is published, is
imported as the key's public key. -/
structure SigningKeyLibrary (P : Platform) where
  importPKCS8 : String → Except Fault PrivateKey
  exportJWK : PrivateKey → Except Fault Obj
  publishes : ∀ key jwk kty n e kid, exportJWK key = .ok jwk →
    Obj.get? "kty" jwk = some (.str kty) → Obj.get? "n" jwk = some (.str n) →
    Obj.get? "e" jwk = some (.str e) →
    importKey P [("kty", .str kty), ("n", .str n), ("e", .str e), ("kid", .str kid),
      ("use", .str "sig"), ("alg", .str "RS256")] = .ok key.publicKey
  thumbprints : ∀ jwk kid, P.calculateJwkThumbprint jwk = .ok kid → kid ≠ ""

structure CachedSigningKey extends LoadedSigningKey where
  loadedAtMs : Millis

/-- An entry of the secret cache. -/
structure CachedSecret where
  value : String
  fetchedAt : Millis

inductive BrokerOp where
  | now
  /-- the variable `cached` of the loader -/
  | readKey
  | writeKey (key : Option CachedSigningKey)
  /-- the entry of the key's secret in the cache of `secrets.ts` -/
  | readSecret
  | writeSecret (entry : Option CachedSecret)
  | getSecretValue
  | randomUUID
  | signJwt (header claims : Obj) (key : PrivateKey)
  | setHeader (name value : String)
  | json (status : Nat) (body : Json)
  /-- the secret gets a new value -/
  | putSecretValue (value : String)

@[reducible] def BrokerOp.Reply : BrokerOp → Type
  | now => Millis
  | readKey => Option CachedSigningKey
  | readSecret => Option CachedSecret
  | getSecretValue => Except Fault (Option String)
  | randomUUID => String
  | signJwt _ _ _ => Except Fault String
  | writeKey _ | writeSecret _ | setHeader _ _ | json _ _ | putSecretValue _ => Unit

abbrev brokerReplica : Signature := ⟨BrokerOp, BrokerOp.Reply⟩

abbrev BrokerEvent := Effect.Event brokerReplica

/-- An asynchronous function of a broker replica. -/
abbrev Broker (α : Type) := Program brokerReplica Fault α

namespace Broker

def now : Broker Millis := Program.command .now .ok

def readKey : Broker (Option CachedSigningKey) := Program.command .readKey .ok

def writeKey (key : Option CachedSigningKey) : Broker Unit := Program.command (.writeKey key) .ok

def readSecret : Broker (Option CachedSecret) := Program.command .readSecret .ok

def writeSecret (entry : Option CachedSecret) : Broker Unit :=
  Program.command (.writeSecret entry) .ok

def getSecretValue : Broker (Option String) := Program.command .getSecretValue id

def randomUUID : Broker String := Program.command .randomUUID .ok

def signJwt (header claims : Obj) (key : PrivateKey) : Broker String :=
  Program.command (.signJwt header claims key) id

def setHeader (name value : String) : Broker Unit := Program.command (.setHeader name value) .ok

def json (status : Nat) (body : Json) : Broker Unit := Program.command (.json status body) .ok

def putSecretValue (value : String) : Broker Unit := Program.command (.putSecretValue value) .ok

end Broker

def secretTtlMs : Int := 3600000

/-- What comes after a look into the secret cache that finds nothing of use. -/
def fetchSecret (secretArn : String) (nowMs : Millis) : Broker String := do
  let secretString ← Broker.getSecretValue
  match secretString.filter (· ≠ "") with
  | none => Program.throwing (plainError ("Secret " ++ secretArn ++ " has no SecretString"))
  | some value => do
      Broker.writeSecret (some { value := value, fetchedAt := nowMs })
      return value

/-- `getClientSecret` with the default lifetime -/
def getClientSecret (secretArn : String) : Broker String := do
  let nowMs ← Broker.now
  let entry ← Broker.readSecret
  match entry with
  | some found =>
      if (nowMs : Int) - (found.fetchedAt : Nat) < secretTtlMs then return found.value
      else fetchSecret secretArn nowMs
  | none => fetchSecret secretArn nowMs

/-- `load` of the loader, for the text of the secret. -/
def importSigningKey (P : Platform) (S : SigningKeyLibrary P) (pem : String) :
    Except Fault LoadedSigningKey := do
  let trimmed := Js.trim pem
  match Js.afterWord "-----BEGIN".toList trimmed.toList with
  | none => .error (plainError "signing key secret is not a PEM-encoded PKCS8 private key")
  | some _ => do
      let privateKey ← S.importPKCS8 trimmed
      let jwk ← S.exportJWK privateKey
      match Obj.get? "kty" jwk, Obj.get? "n" jwk, Obj.get? "e" jwk with
      | some (.str kty), some (.str n), some (.str e) => do
          let publicJwk := [("kty", Json.str kty), ("n", .str n), ("e", .str e)]
          let kid ← P.calculateJwkThumbprint (.obj publicJwk)
          return {
            privateKey := privateKey
            publicJwk := publicJwk ++ [("kid", .str kid), ("use", .str "sig"), ("alg", .str "RS256")]
            kid := kid }
      | _, _, _ => .error (plainError "exported JWK is missing required RSA public components")

/-- The settings of a broker that bear on its key and its tokens. -/
structure SigningSettings where
  secretArn : String
  keyTtlMs : Rat
  issuer : String
  tokenTtlSeconds : Rat

section Programs

variable (P : Platform) (S : SigningKeyLibrary P) (settings : SigningSettings)

/-- `cached = await load()` -/
def refreshKey : Broker LoadedSigningKey := do
  let pem ← getClientSecret settings.secretArn
  let loaded ← ofExcept (importSigningKey P S pem)
  let nowMs ← Broker.now
  Broker.writeKey (some { loaded with loadedAtMs := nowMs })
  return loaded

/-- `get` of the loader -/
def getSigningKey : Broker LoadedSigningKey := do
  let cached ← Broker.readKey
  match cached with
  | some key => do
      let nowMs ← Broker.now
      if ((nowMs : Int) - (key.loadedAtMs : Nat) : Rat) < settings.keyTtlMs then
        return key.toLoadedSigningKey
      else refreshKey P S settings
  | none => refreshKey P S settings

/-- `invalidate` of the loader -/
def invalidateKey : Broker Unit := do
  Broker.writeKey none
  Broker.writeSecret none

def replicaMintOptions (key : LoadedSigningKey) : MintExchangedTokenOptions where
  privateKey := key.privateKey
  kid := key.kid
  issuer := settings.issuer
  ttlSeconds := settings.tokenTtlSeconds

/-- The mint of the token route: the key, and a token signed with it. -/
def mintToken (input : MintExchangedTokenInput) : Broker String := do
  let key ← getSigningKey P S settings
  let nowMs ← Broker.now
  let jti ← Broker.randomUUID
  let opts := mintSignOptions (replicaMintOptions settings key) input
  Broker.signJwt (userJwtHeader opts)
    (signedPayload opts (mintSignInput input) (toSeconds nowMs) jti) opts.privateKey

def jwksBody (key : LoadedSigningKey) : Json := .obj [("keys", .arr [.obj key.publicJwk])]

/-- `jwksRouter` -/
def jwksRouter : Broker Unit := do
  let outcome ← attempt (getSigningKey P S settings)
  match outcome with
  | .ok key => do
      Broker.setHeader "cache-control" "public, max-age=300"
      Broker.json 200 (jwksBody key)
  | .error err =>
      Broker.json 503 (.obj [("error", .str "signing_key_unavailable"),
        ("detail", .str err.message)])

end Programs

end S2s
