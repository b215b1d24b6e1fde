import S2sStack.Runtime

set_option autoImplicit false

/- `lib/actorCatalog.ts`: the actors that may exchange tokens. -/
namespace S2s

open Js (Json Obj)

def isHexDigit (c : Char) : Bool :=
  c.isDigit || ('a' ≤ c && c ≤ 'f') || ('A' ≤ c && c ≤ 'F')

/-- The lower-case digits of `sha256:<hex>`. -/
def parseHashSpec (spec : String) : Except Fault String :=
  match (Js.split ':' spec).take 2 with
  | ["sha256", hex] =>
      if hex ≠ "" ∧ hex.toList.all isHexDigit then
        .ok (String.ofList (hex.toList.map Char.toLower))
      else .error (plainError ("unsupported client_secret_hash format: " ++ spec))
  | _ => .error (plainError ("unsupported client_secret_hash format: " ++ spec))

/-- An entry whose hash was parsed when it was loaded. -/
structure ActorCatalogEntry where
  clientSecretHash : String
  allowedAudiences : List String
  allowedScopes : List String
  hashParses : ∃ hex, parseHashSpec clientSecretHash = .ok hex

/-- The entries, where of two for one actor the first counts. -/
structure ActorCatalog where
  entries : List (String × ActorCatalogEntry)

def catalogEntry (actorId : String) (value : Json) : Except Fault ActorCatalogEntry :=
  match value with
  | .obj v =>
      match Obj.get? "client_secret_hash" v with
      | some (.str hashSpec) =>
          match parsed : parseHashSpec hashSpec with
          | .ok hex =>
              .ok {
                clientSecretHash := hashSpec
                allowedAudiences := Js.stringItems (Obj.get? "allowed_audiences" v)
                allowedScopes := Js.stringItems (Obj.get? "allowed_scopes" v)
                hashParses := ⟨hex, parsed⟩ }
          | .error err => .error err
      | _ => .error (plainError ("actor " ++ actorId ++ " missing client_secret_hash"))
  | .arr _ => .error (plainError ("actor " ++ actorId ++ " missing client_secret_hash"))
  | _ => .error (plainError ("actor catalog entry " ++ actorId ++ " is not an object"))

/-- The entries of a catalog file; a later one replaces an earlier one. -/
def catalogEntries : List (String × Json) → Except Fault (List (String × ActorCatalogEntry))
  | [] => .ok []
  | (actorId, value) :: rest => do
      let entry ← catalogEntry actorId value
      let later ← catalogEntries rest
      return later ++ [(actorId, entry)]

def loadActorCatalog (input : Obj) : Except Fault ActorCatalog := do
  let entries ← catalogEntries input
  return ⟨entries⟩

def hexValue (c : Char) : Option Nat :=
  if '0' ≤ c ∧ c ≤ '9' then some (c.toNat - '0'.toNat)
  else if 'a' ≤ c ∧ c ≤ 'f' then some (c.toNat - 'a'.toNat + 10)
  else if 'A' ≤ c ∧ c ≤ 'F' then some (c.toNat - 'A'.toNat + 10)
  else none

/-- `Buffer.from(text, 'hex')`, which stops at the first pair that is not hexadecimal. -/
def hexBytes : List Char → List Nat
  | high :: low :: rest =>
      match hexValue high, hexValue low with
      | some upper, some lower => (16 * upper + lower) :: hexBytes rest
      | _, _ => []
  | _ => []

def constantTimeEqHex (a b : String) : Bool :=
  a.length = b.length ∧ hexBytes a.toList = hexBytes b.toList

namespace ActorCatalog

def get (catalog : ActorCatalog) (actorClientId : String) : Option ActorCatalogEntry :=
  catalog.entries.lookup actorClientId

def authenticate (P : Platform) (catalog : ActorCatalog) (actorClientId plaintextSecret : String) :
    Bool :=
  match catalog.get actorClientId with
  | none => false
  | some entry =>
      match parseHashSpec entry.clientSecretHash with
      | .ok hex => constantTimeEqHex hex (P.sha256Hex plaintextSecret.toUTF8)
      -- cannot happen: the entry was parsed at load
      | .error _ => false

end ActorCatalog

end S2s
