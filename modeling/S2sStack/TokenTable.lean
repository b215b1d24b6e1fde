import S2sStack.Effect.Environment
import S2sStack.Runtime

set_option autoImplicit false

/- The library functions on a finite table of signed tokens: who signed each token, and
what its header and payload are. -/
namespace S2s

open Effect (Program)
open Js (Json Obj)

structure SignedToken where
  token : String
  header : Obj
  payload : JwtPayload
  signer : PublicKey

/-- A payload whose numeric dates, where it has them, are numbers. -/
def numericDate (claims : Obj) (name : String) : Bool :=
  match claims.get? name with
  | some (.num _) => true
  | some _ => false
  | none => true

def JwtPayload.ofClaims (claims : Obj)
    (numeric : ["exp", "nbf", "iat"].all (numericDate claims) = true) : JwtPayload where
  claims := claims
  numericDates := by
    intro name member value found
    have checked := List.all_eq_true.mp numeric name member
    simp only [numericDate, found] at checked
    cases value with
    | num number => exact ⟨number, rfl⟩
    | _ => cases checked

structure TokenTable where
  tokens : List SignedToken
  /-- access tokens and secrets with their hashes -/
  hashes : List (String × String) := []
  /-- what `Buffer.from(text, 'base64')` holds -/
  encoded : List (String × String) := []
  urls : List (String × Url) := []
  /-- JSON texts and the values they stand for -/
  texts : List (String × Json) := []

namespace TokenTable

def find (table : TokenTable) (token : String) : Option SignedToken :=
  table.tokens.find? (fun row => row.token = token)

/-- The JWK of a key pair, and back. -/
def jwkOf (key : PublicKey) : Obj := [("kty", .str "EC"), ("x", .num key.pair)]

def keyOfJwk : Json → Except Fault PublicKey
  | .obj jwk =>
      match Obj.get? "x" jwk with
      | some (.num x) => .ok ⟨x.num.toNat⟩
      | _ => .error (plainError "Invalid JWK")
  | _ => .error (plainError "JWK must be an object")

def verify (table : TokenTable) (token : String) (key : PublicKey) (options : VerifyOptions) :
    Except Fault JwtPayload :=
  match table.find token with
  | none => .error (.error (some "ERR_JWS_INVALID") "Invalid Compact JWS")
  | some row =>
      if row.signer ≠ key then
        .error (.error (some "ERR_JWS_SIGNATURE_VERIFICATION_FAILED")
          "signature verification failed")
      else
        match row.payload.claims.get? "exp" with
        | some (.num exp) =>
            if exp ≤ toSeconds options.currentDate then
              .error (.error (some "ERR_JWT_EXPIRED") "\"exp\" claim timestamp check failed")
            else .ok row.payload
        | _ => .ok row.payload

def lookupBytes (rows : List (String × String)) (bytes : ByteArray) : String :=
  ((rows.find? (fun row => row.1.toUTF8.data.toList = bytes.data.toList)).map Prod.snd).getD ""

def platform (table : TokenTable) : Platform where
  decodeProtectedHeader token :=
    match table.find token with
    | some row => .ok row.header
    | none => .error (plainError "Invalid Token or Protected Header formatting")
  decodeJwt token :=
    match table.find token with
    | some row => .ok row.payload.claims
    | none => .error (plainError "Invalid JWT")
  importJWK jwk _ := keyOfJwk jwk
  jwtVerify := table.verify
  calculateJwkThumbprint jwk := (keyOfJwk jwk).map (fun key => "thumbprint-" ++ toString key.pair)
  sha256Base64url := lookupBytes table.hashes
  sha256Hex := lookupBytes table.hashes
  base64ToText text := (table.encoded.lookup text).getD ""
  parseSegment seg :=
    (table.tokens.find? (fun row => Js.beforeFirst '.' row.token = seg)).map
      (fun row => .obj row.header)
  stringify value := ((table.texts.find? (fun row => row.2 = value)).map Prod.fst).getD ""
  parseJson text :=
    match table.texts.lookup text with
    | some value => .ok value
    | none => .error (plainError "Unexpected token in JSON")
  parseUrl text := table.urls.lookup text

theorem verify_ok {table : TokenTable} {token : String} {key : PublicKey}
    {options : VerifyOptions} {payload : JwtPayload}
    (verified : table.verify token key options = .ok payload) :
    ∃ row, table.find token = some row ∧ row.signer = key ∧ row.payload = payload := by
  unfold verify at verified
  split at verified
  · cases verified
  · rename_i row found
    split at verified
    · cases verified
    · rename_i signed
      have signer : row.signer = key := Decidable.not_not.mp signed
      split at verified
      · split at verified
        · cases verified
        · cases verified
          exact ⟨row, found, signer, rfl⟩
      · cases verified
        exact ⟨row, found, signer, rfl⟩

theorem platform_agrees (table : TokenTable) : table.platform.PayloadAgrees := by
  intro token key options payload verified
  obtain ⟨row, found, _, same⟩ := verify_ok verified
  simp only [platform, found, same]

end TokenTable

section HexDigest

def hexByte (byte : UInt8) : List Char :=
  [Nat.digitChar (byte.toNat / 16), Nat.digitChar (byte.toNat % 16)]

/-- A digest that is as long as its input. -/
def hexDigest (bytes : ByteArray) : String := String.ofList (bytes.data.toList.flatMap hexByte)

theorem digitChar_injective : ∀ one other : Fin 16,
    Nat.digitChar one = Nat.digitChar other → one = other := by
  decide

theorem hexByte_injective {byte other : UInt8} (same : hexByte byte = hexByte other) :
    byte = other := by
  have digit {one two : Nat} (small : one < 16) (small' : two < 16)
      (chars : Nat.digitChar one = Nat.digitChar two) : one = two :=
    congrArg Fin.val (digitChar_injective ⟨one, small⟩ ⟨two, small'⟩ chars)
  have limit := byte.toNat_lt
  have limit' := other.toNat_lt
  simp only [hexByte, List.cons.injEq, and_true] at same
  have high := digit (by omega) (by omega) same.1
  have low := digit (by omega) (by omega) same.2
  apply UInt8.toNat_inj.mp
  omega

theorem flatMap_hexByte_injective {bytes others : List UInt8}
    (same : bytes.flatMap hexByte = others.flatMap hexByte) : bytes = others := by
  induction bytes generalizing others with
  | nil =>
      cases others with
      | nil => rfl
      | cons other rest' => simp [hexByte] at same
  | cons byte rest ih =>
      cases others with
      | nil => simp [hexByte] at same
      | cons other rest' =>
          rw [List.flatMap_cons, List.flatMap_cons] at same
          obtain ⟨heads, tails⟩ := List.append_inj same rfl
          rw [hexByte_injective heads, ih tails]

theorem hexDigest_injective : Function.Injective hexDigest := by
  intro bytes others same
  have spelled := congrArg String.toList same
  simp only [hexDigest, String.toList_ofList] at spelled
  exact ByteArray.ext (Array.toList_inj.mp (flatMap_hexByte_injective spelled))

/-- The functions of a table, with digests that tell all inputs apart. -/
def TokenTable.hashing (table : TokenTable) : Platform :=
  { table.platform with sha256Base64url := hexDigest }

end HexDigest

/-- Services around a process that give every call the same answer. -/
structure SteadyServices where
  moment : Millis
  keys : String → List Obj
  signing : LoadedSigningKey
  signed : String
  drawn : String := "drawn"
  messages : List SqsMessage := []
  decision : AuthorizationResult := { decision := .allow, reasons := [], mode := .api }

def SteadyServices.environment (services : SteadyServices) : Program.Environment runtime
  | _, .now | _, .date => services.moment
  | _, .timestamp => "1970-01-01T00:00:00.000Z"
  | _, .randomUUID | _, .generateDPoPNonce => services.drawn
  | _, .redisSet _ _ => .ok true
  | _, .redisDel _ => .ok 1
  | _, .getKeys jwksUri _ => .ok (services.keys jwksUri)
  | _, .authorize _ => .ok services.decision
  | _, .signingKey => .ok services.signing
  | _, .signJwt _ _ _ => .ok services.signed
  | _, .setHeader _ _ | _, .json _ _ | _, .setAuth _ | _, .next | _, .incShadow _ _ => ()
  | _, .receiveMessages _ => .ok services.messages
  | _, .deleteMessage _ _ => .ok ()

/-- The trace of a program among these services. -/
def SteadyServices.trace {α : Type} (services : SteadyServices) (program : Act α) : List Event :=
  (program.exec services.environment []).1

def SteadyServices.outcome {α : Type} (services : SteadyServices) (program : Act α) :
    Except Fault α :=
  (program.exec services.environment []).2

theorem SteadyServices.runs {α : Type} (services : SteadyServices) (program : Act α) :
    Program.Runs program (services.trace program) (services.outcome program) :=
  Program.exec_runs services.environment program []

theorem SteadyServices.replied {α : Type} {services : SteadyServices} {program : Act α} {op : Op}
    {reply : op.Reply} (member : ⟨op, reply⟩ ∈ services.trace program) :
    ∃ history, reply = services.environment history op := by
  obtain ⟨history, same⟩ := (Program.yields_exec _ _ program).answered member
  exact ⟨history, eq_of_heq (Effect.Event.mk.inj same).2⟩

end S2s
