import S2sStack.Runtime

set_option autoImplicit false

/- `envelope/signEnvelope.ts` -/
namespace S2s

open Effect Effect.Program
open Js (Json Obj)

/-- The key pair that `keyManager.ts` has active. -/
structure ActiveKey where
  publicJwk : Obj
  privateKey : PrivateKey

/-- A payload; one that is `undefined` cannot be hashed. -/
inductive EnvelopePayload where
  | buffer (bytes : ByteArray)
  | object (value : Json)
  | undefined

/-- The bytes that are hashed. -/
def payloadBytes (P : Platform) : EnvelopePayload → Except Fault ByteArray
  | .buffer bytes => .ok bytes
  | .object value => .ok (P.stringify value).toUTF8
  | .undefined => .error (plainError "The \"data\" argument must be of type string")

/-- The members of a record of claims. One may be `undefined`. -/
abbrev ClaimRecord := List (String × Option Json)

structure SignEnvelopeOptions where
  action : String
  queueArn : String
  scopes : List String
  clientId : String
  correlationId : Option String := none
  additionalClaims : Option ClaimRecord := none

structure SignedMessage where
  envelope : String
  payload : EnvelopePayload
  jti : String
  iat : Nat
  bodyHash : String
  envelopeSizeBytes : Nat

/-- A member of a record is set, or taken out of what is serialised. -/
def assign (fields : Obj) (field : String × Option Json) : Obj :=
  match field.2 with
  | some value => fields.set field.1 value
  | none => fields.without [field.1]

/-- `{ ...base, ...extra }`, as it is serialised -/
def spread (base : Obj) (extra : ClaimRecord) : Obj := extra.foldl assign base

def servicePrincipal (clientId : String) : String := "ServicePrincipal::" ++ clientId

def envelopeClaims (options : SignEnvelopeOptions) (iat : Nat) (jti bodyHash correlationId : String) :
    Obj :=
  spread
    [("iss", .str (servicePrincipal options.clientId)), ("iat", .num iat), ("jti", .str jti),
      ("body_hash", .str bodyHash), ("correlation_id", .str correlationId),
      ("queue_arn", .str options.queueArn), ("action", .str options.action),
      ("scopes", strings options.scopes)]
    (options.additionalClaims.getD [])

def envelopeHeader (key : ActiveKey) : Obj :=
  [("alg", .str "ES256"), ("typ", .str "JWT"), ("jwk", .obj key.publicJwk)]

/-- `getPublicJwk()` and `getActivePrivateKey()` -/
def activeKey : Option ActiveKey → Except Fault ActiveKey
  | some key => .ok key
  | none => .error (plainError "keyManager not initialized")

/-- `options.correlationId ?? randomUUID()` -/
def correlationIdOf (options : SignEnvelopeOptions) : Act String :=
  match options.correlationId with
  | some correlationId => pure correlationId
  | none => Act.randomUUID

def signEnvelope (P : Platform) (current : Option ActiveKey) (payload : EnvelopePayload)
    (options : SignEnvelopeOptions) : Act SignedMessage := do
  let bytes ← ofExcept (payloadBytes P payload)
  let bodyHash := P.sha256Base64url bytes
  let jti ← Act.randomUUID
  let nowMs ← Act.date
  let correlationId ← correlationIdOf options
  let key ← ofExcept (activeKey current)
  let iat := toSeconds nowMs
  let envelope ← Act.signJwt (envelopeHeader key)
    (envelopeClaims options iat jti bodyHash correlationId) key.privateKey
  return {
    envelope := envelope
    payload := payload
    jti := jti
    iat := iat
    bodyHash := bodyHash
    envelopeSizeBytes := envelope.utf8ByteSize + bytes.size }

/-- What signing a message comes to: its claims, signed with the active key under a header with
its public JWK. -/
theorem signEnvelope_run {P : Platform} {current : Option ActiveKey} {payload : EnvelopePayload}
    {options : SignEnvelopeOptions} {message : SignedMessage} {trace : List Event}
    (run : Runs (signEnvelope P current payload options) trace (.ok message)) :
    ∃ bytes key jti nowMs correlationId naming, payloadBytes P payload = .ok bytes ∧
      current = some key ∧ Runs (correlationIdOf options) naming (.ok correlationId) ∧
      trace = ⟨.randomUUID, jti⟩ :: ⟨.date, nowMs⟩ :: (naming ++
        [⟨.signJwt (envelopeHeader key) (envelopeClaims options (toSeconds nowMs) jti
          (P.sha256Base64url bytes) correlationId) key.privateKey, .ok message.envelope⟩]) ∧
      message.payload = payload := by
  rw [signEnvelope, runs_ofExcept_bind_ok] at run
  obtain ⟨bytes, hashed, run⟩ := run
  dsimp only at run
  rw [Act.randomUUID, runs_reply_bind_iff] at run
  obtain ⟨jti, _, rfl, run⟩ := run
  rw [Act.date, runs_reply_bind_iff] at run
  obtain ⟨nowMs, _, rfl, run⟩ := run
  rw [runs_bind_ok] at run
  obtain ⟨correlationId, naming, _, rfl, named, run⟩ := run
  rw [runs_ofExcept_bind_ok] at run
  obtain ⟨key, active, run⟩ := run
  rw [runs_bind_ok] at run
  obtain ⟨envelope, signing, _, rfl, sign, run⟩ := run
  rw [Act.runs_signJwt_iff] at sign
  obtain ⟨rfl, same⟩ := runs_pure_iff.mp run
  cases same
  refine ⟨bytes, key, jti, nowMs, correlationId, naming, hashed, ?_, named, ?_, rfl⟩
  · cases current with
    | none => cases active
    | some current => rw [Except.ok.inj active]
  · rw [sign]
    simp

/-- Nothing but the envelope is signed. -/
theorem signEnvelope_signs {P : Platform} {current : Option ActiveKey} {payload : EnvelopePayload}
    {options : SignEnvelopeOptions} {message : SignedMessage} {trace : List Event}
    (run : Runs (signEnvelope P current payload options) trace (.ok message)) {header claims : Obj}
    {key : PrivateKey} {reply : Except Fault String}
    (member : ⟨.signJwt header claims key, reply⟩ ∈ trace) :
    ∃ bytes active iat jti correlationId, payloadBytes P payload = .ok bytes ∧
      current = some active ∧ header = envelopeHeader active ∧ key = active.privateKey ∧
      claims = envelopeClaims options iat jti (P.sha256Base64url bytes) correlationId := by
  obtain ⟨bytes, active, jti, nowMs, correlationId, naming, hashed, present, named, rfl, -⟩ :=
    signEnvelope_run run
  have unsigned : ⟨.signJwt header claims key, reply⟩ ∉ naming := by
    intro inside
    unfold correlationIdOf at named
    split at named
    · rw [(runs_pure_iff.mp named).1] at inside
      cases inside
    · obtain ⟨_, rfl, -⟩ := Act.runs_randomUUID_iff.mp named
      simp at inside
  simp only [List.mem_cons, List.mem_append, unsigned, Effect.Event.mk.injEq, reduceCtorEq,
    false_and, false_or, List.not_mem_nil, or_false, Op.signJwt.injEq] at member
  obtain ⟨⟨rfl, rfl, rfl⟩, -⟩ := member
  exact ⟨bytes, active, toSeconds nowMs, jti, correlationId, hashed, present, rfl, rfl, rfl⟩

end S2s
