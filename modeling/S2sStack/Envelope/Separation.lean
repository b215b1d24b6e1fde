import S2sStack.Dpop.ProofRoundTrip

set_option autoImplicit false

/- One key that signs envelopes and DPoP proofs: what is accepted under it. -/
namespace S2s

open Effect Effect.Program
open Js (Json Obj)

/-- The claims that `signEnvelope` sets itself. -/
def envelopeClaimNames : List String :=
  ["iss", "iat", "jti", "body_hash", "correlation_id", "queue_arn", "action", "scopes"]

/-- No additional claim has the name of one of these. -/
def SignEnvelopeOptions.KeepsProtocol (options : SignEnvelopeOptions) : Prop :=
  ∀ field ∈ options.additionalClaims.getD [], field.1 ∉ envelopeClaimNames

/-- What happens to the key, and to what it has signed. -/
inductive KeyUse where
  | envelope (payload : EnvelopePayload) (options : SignEnvelopeOptions) (trace : List Event)
      (message : SignedMessage)
  | proof (options : SignDPoPOptions) (trace : List ClientEvent) (dpop : DPoPProof)
  /-- Anybody presents anything to `verifyEnvelope`. -/
  | verify (dedupTtlSeconds : Nat) (given : String) (payload : EnvelopePayload)
      (options : VerifyEnvelopeOptions) (trace : List Event)
      (outcome : Except Fault VerifiedEnvelope)

namespace KeyUse

def Valid (P : Platform) (key : ActiveKey) : KeyUse → Prop
  | envelope payload options trace message =>
      options.KeepsProtocol ∧ Runs (signEnvelope P (some key) payload options) trace (.ok message)
  | proof options trace dpop =>
      (∀ reply, ⟨.activeKey, reply⟩ ∈ trace → reply = .ok key) ∧
        Runs (signDPoP P options) trace (.ok dpop)
  | verify dedupTtlSeconds given payload options trace outcome =>
      Runs (verifyEnvelope P dedupTtlSeconds given payload options) trace outcome

/-- The token is signed with this header and these claims. -/
def Signs (header claims : Obj) (key : PrivateKey) (token : String) : KeyUse → Prop
  | envelope _ _ trace _ => ⟨.signJwt header claims key, .ok token⟩ ∈ trace
  | proof _ trace _ => ⟨.signJwt header claims key, .ok token⟩ ∈ trace
  | verify _ _ _ _ _ _ => False

def Presents (token : String) : KeyUse → Prop
  | envelope _ _ _ _ => False
  | proof _ _ _ => False
  | verify _ given _ _ _ _ => token = given

end KeyUse

/-- An honest process with one key, and an adversary without it: what verifies under the key has
claims that were signed before. -/
structure SharedKeyRun (P : Platform) where
  key : ActiveKey
  uses : List KeyUse
  valid : ∀ use ∈ uses, use.Valid P key
  published : P.importJWK (.obj key.publicJwk) (.str "ES256") = .ok key.privateKey.publicKey
  signed : ∀ use ∈ uses, ∀ header claims token, use.Signs header claims key.privateKey token →
    SignedJwt P header claims key.privateKey token
  unforgeable : ∀ before use after, uses = before ++ use :: after → ∀ token, use.Presents token →
    ∀ options payload, P.jwtVerify token key.privateKey.publicKey options = .ok payload →
      ∃ signing ∈ before, ∃ header claims original,
        signing.Signs header claims key.privateKey original ∧ payload.claims = claims
  hashes : Function.Injective P.sha256Base64url

/-- The texts that `JSON.stringify` gives for the payloads are the same. -/
def SameJson (P : Platform) (payload other : EnvelopePayload) : Prop :=
  (shippedPayload payload).map P.stringify = (shippedPayload other).map P.stringify

/-- The payloads have the same JSON text; a `Buffer` and an object are the same where the bytes of
the one are the JSON text of the other. -/
def SamePayload (P : Platform) : EnvelopePayload → EnvelopePayload → Prop
  | .object value, .object other => P.stringify value = P.stringify other
  | .buffer bytes, .buffer other => bytes = other
  | .buffer bytes, .object value => bytes = (P.stringify value).toUTF8
  | .object value, .buffer bytes => bytes = (P.stringify value).toUTF8
  | _, _ => False

theorem samePayload_of_bytes {P : Platform} {payload other : EnvelopePayload} {bytes : ByteArray}
    (one : payloadBytes P payload = .ok bytes) (two : payloadBytes P other = .ok bytes) :
    SamePayload P payload other := by
  cases payload with
  | buffer own =>
      cases one
      cases other with
      | buffer _ => exact (Except.ok.inj two).symm
      | object value => exact (Except.ok.inj two).symm
      | undefined => cases two
  | object value =>
      cases one
      cases other with
      | buffer _ => exact Except.ok.inj two
      | object value' => exact String.toByteArray_inj.mp (Except.ok.inj two).symm
      | undefined => cases two
  | undefined => cases one

/-- Additional claims of other names leave a claim of the protocol as it is. -/
theorem SignEnvelopeOptions.KeepsProtocol.claim_eq {options : SignEnvelopeOptions}
    (keeps : options.KeepsProtocol) {name : String} (own : name ∈ envelopeClaimNames)
    (value : Option Json) : options.claim name value = value := by
  apply held_of_quiet
  intro field member
  have other : field.1 ≠ name := by
    rintro rfl
    exact keeps field member own
  exact if_neg other

namespace SharedKeyRun

variable {P : Platform} (run : SharedKeyRun P)

/-- Every message that is accepted with this key in its header is one that was signed before: its
payload is like the one that was signed, and the rest is the same. -/
def Genuine (alike : EnvelopePayload → EnvelopePayload → Prop) : Prop :=
  ∀ before after dedupTtlSeconds envelope payload options trace verified,
    run.uses = before ++
      .verify dedupTtlSeconds envelope payload options trace (.ok verified) :: after →
    envelopeKey P envelope = .ok run.key.privateKey.publicKey →
    ∃ signedPayload signedOptions signing message,
      .envelope signedPayload signedOptions signing message ∈ before ∧
      alike payload signedPayload ∧ options.expectedQueueArn = signedOptions.queueArn ∧
      verified.action = signedOptions.action ∧
      verified.claims.get? "scopes" = some (strings signedOptions.scopes) ∧
      verified.principal = servicePrincipal signedOptions.clientId

/-- No proof is accepted as an envelope, and no envelope as a proof. -/
structure Separate : Prop where
  proofs : ∀ options signing dpop, .proof options signing dpop ∈ run.uses →
    ∀ dedupTtlSeconds payload options trace verified,
      ¬ Runs (verifyEnvelope P dedupTtlSeconds dpop.proof payload options) trace (.ok verified)
  envelopes : ∀ payload options signing message,
    .envelope payload options signing message ∈ run.uses →
    ∀ deps input trace result, input.dpopProof = message.envelope →
      ¬ Runs (verifyDPoP P deps input) trace (.ok result)

variable {run}

/-- What is signed in an envelope. -/
theorem envelope_signs {payload : EnvelopePayload} {options : SignEnvelopeOptions}
    {trace : List Event} {message : SignedMessage} {header claims : Obj} {key : PrivateKey}
    {token : String} (valid : (KeyUse.envelope payload options trace message).Valid P run.key)
    (signs : (KeyUse.envelope payload options trace message).Signs header claims key token) :
    ∃ bytes iat jti correlationId, payloadBytes P payload = .ok bytes ∧
      claims = envelopeClaims options iat jti (P.sha256Base64url bytes) correlationId := by
  obtain ⟨bytes, active, iat, jti, correlationId, hashed, -, -, -, same⟩ :=
    signEnvelope_signs valid.2 signs
  exact ⟨bytes, iat, jti, correlationId, hashed, same⟩

/-- What is signed in a proof. -/
theorem proof_signs {options : SignDPoPOptions} {trace : List ClientEvent} {dpop : DPoPProof}
    {header claims : Obj} {key : PrivateKey} {token : String}
    (valid : (KeyUse.proof options trace dpop).Valid P run.key)
    (signs : (KeyUse.proof options trace dpop).Signs header claims key token) :
    ∃ jti signedAt, ProofLookups P options jti signedAt claims := by
  obtain ⟨_, jti, ath, signedAt, -, -, -, hashed, rfl⟩ := (signDPoP_run valid.2).of_signJwt signs
  exact ⟨jti, signedAt, dpopClaims_lookups hashed⟩

/-- An envelope of this run is signed under a header that is none of a proof. -/
theorem envelope_header {payload : EnvelopePayload} {options : SignEnvelopeOptions}
    {trace : List Event} {message : SignedMessage}
    (member : .envelope payload options trace message ∈ run.uses) :
    P.decodeProtectedHeader message.envelope = .ok (envelopeHeader run.key) := by
  have valid := run.valid _ member
  obtain ⟨bytes, active, jti, nowMs, correlationId, naming, -, present, -, shape, -⟩ :=
    signEnvelope_run valid.2
  cases present
  have signs : (KeyUse.envelope payload options trace message).Signs (envelopeHeader run.key)
      (envelopeClaims options (toSeconds nowMs) jti (P.sha256Base64url bytes) correlationId)
      run.key.privateKey message.envelope := by
    simp [KeyUse.Signs, shape]
  exact (run.signed _ member _ _ _ signs).header

/-- A proof of this run is signed with the key that its header carries. -/
theorem proof_signed {options : SignDPoPOptions} {trace : List ClientEvent} {dpop : DPoPProof}
    (member : .proof options trace dpop ∈ run.uses) :
    ∃ jti signedAt claims, ProofLookups P options jti signedAt claims ∧
      SignedJwt P (dpopHeader run.key) claims run.key.privateKey dpop.proof := by
  have valid := run.valid _ member
  have signing := signDPoP_run valid.2
  generalize ended : Except.ok dpop = outcome at signing
  cases signing with
  | unhashed jti fault hashed => cases ended
  | keyless jti ath err hashed => cases ended
  | signed jti ath key signedAt reply hashed =>
      cases reply with
      | error err => cases ended
      | ok proof =>
          have own : key = run.key := Except.ok.inj (valid.1 (.ok key) (by simp))
          rw [own] at member
          have signs := run.signed _ member (dpopHeader run.key)
            (dpopClaims options jti ath signedAt) proof (by simp [KeyUse.Signs])
          have same : dpop.proof = proof := congrArg DPoPProof.proof (Except.ok.inj ended)
          rw [same]
          exact ⟨jti, signedAt, _, dpopClaims_lookups hashed, signs⟩

/-- What an envelope of a signer says, where no additional claim overrides it. -/
theorem genuine_of_claims {signedOptions : SignEnvelopeOptions} {iat : Nat}
    {jti bodyHash correlationId : String} (keeps : signedOptions.KeepsProtocol)
    {payload : EnvelopePayload} {options : VerifyEnvelopeOptions} {currentDate nowMs : Millis}
    {signed : JwtPayload} {envelope : String}
    (checked : CheckedEnvelope P envelope payload options currentDate nowMs signed)
    (same : signed.claims = envelopeClaims signedOptions iat jti bodyHash correlationId) :
    options.expectedQueueArn = signedOptions.queueArn ∧
      Js.toText (signed.claims.get? "action") = signedOptions.action ∧
      signed.claims.get? "scopes" = some (strings signedOptions.scopes) ∧
      Js.toText (signed.claims.get? "iss") = servicePrincipal signedOptions.clientId ∧
      ∃ bytes, payloadBytes P payload = .ok bytes ∧ P.sha256Base64url bytes = bodyHash := by
  have lookups : SentEnvelope.ClaimLookups signedOptions iat bodyHash signed.claims := by
    rw [same]
    exact SentEnvelope.envelopeClaims_lookups
  have queue := checkQueueArn_ok_iff.mp checked.queue
  obtain ⟨bytes, hashed, body⟩ := checkBodyHash_ok_iff.mp checked.body
  rw [lookups.queueArn, keeps.claim_eq (by decide)] at queue
  rw [lookups.bodyHash, keeps.claim_eq (by decide)] at body
  rw [lookups.action, lookups.scopes, lookups.iss, keeps.claim_eq (by decide),
    keeps.claim_eq (by decide), keeps.claim_eq (by decide)]
  have arn : signedOptions.queueArn = options.expectedQueueArn :=
    Json.str.inj (Option.some.inj queue)
  have hash : bodyHash = P.sha256Base64url bytes := Json.str.inj (Option.some.inj body)
  exact ⟨arn.symm, rfl, rfl, rfl, bytes, hashed, hash.symm⟩

theorem genuine : run.Genuine (SamePayload P) := by
  intro before after dedupTtlSeconds envelope payload options trace verified split carried
  have valid := run.valid _ (by rw [split]; exact List.mem_append_right _ List.mem_cons_self)
  obtain ⟨currentDate, nowMs, signed, _, _, checked, -, -, rfl⟩ := verifyEnvelope_ok valid
  obtain ⟨key, found, signature⟩ := checked.signature
  rw [carried] at found
  cases found
  obtain ⟨signing, member, header, claims, original, signs, same⟩ :=
    run.unforgeable before _ after split envelope rfl _ signed signature
  have validSigning := run.valid signing (by simp [split, member])
  cases signing with
  | envelope signedPayload signedOptions signing message =>
      obtain ⟨bytes, iat, jti, correlationId, hashed, shape⟩ := envelope_signs validSigning signs
      rw [shape] at same
      obtain ⟨queue, action, scopes, principal, received, rehashed, hash⟩ :=
        genuine_of_claims validSigning.1 checked same
      have bytesSame : received = bytes := run.hashes hash
      rw [bytesSame] at rehashed
      exact ⟨signedPayload, signedOptions, signing, message, member,
        samePayload_of_bytes rehashed hashed, queue, action, scopes, principal⟩
  | proof signedOptions signing dpop =>
      -- a proof has no queue
      obtain ⟨jti, signedAt, lookups⟩ := proof_signs validSigning signs
      have queue := checkQueueArn_ok_iff.mp checked.queue
      rw [same, lookups.queueArn] at queue
      cases queue
  | verify _ _ _ _ _ _ => exact signs.elim

theorem separate : run.Separate where
  proofs := by
    intro options signing dpop member dedupTtlSeconds payload verifyOptions trace verified accepts
    obtain ⟨jti, signedAt, claims, lookups, signature⟩ := proof_signed member
    obtain ⟨currentDate, nowMs, signed, _, _, checked, -, -, -⟩ := verifyEnvelope_ok accepts
    obtain ⟨key, found, verifies⟩ := checked.signature
    have carried : envelopeKey P dpop.proof = .ok run.key.privateKey.publicKey := by
      rw [envelopeKey, signature.header]
      exact run.published
    rw [carried] at found
    cases found
    obtain ⟨same, -⟩ := signature.read currentDate signed verifies
    have queue := checkQueueArn_ok_iff.mp checked.queue
    rw [same, lookups.queueArn] at queue
    cases queue
  envelopes := by
    intro payload options signing message member deps input trace result given accepts
    obtain ⟨jwk, key, currentDate, signed, nowMs, jti, thumbprint, _, proof, -, -, -⟩ :=
      verifyDPoP_ok accepts
    -- the header of an envelope is of another type
    obtain ⟨header, decoded, carried⟩ := proof.header
    rw [given, envelope_header member] at decoded
    cases decoded
    cases carried

/-- With one key for both, a message that is accepted is one of the signer's, and envelopes and
proofs stay apart. -/
theorem genuine_and_separate : run.Genuine (SamePayload P) ∧ run.Separate :=
  ⟨run.genuine, run.separate⟩

end SharedKeyRun

section BufferPayload

def plainOptions : SignEnvelopeOptions where
  action := "loan.decision.submit"
  queueArn := "queue"
  scopes := ["lending/write"]
  clientId := "calling-service"
  correlationId := some "correlation-1"

def bufferBytes : ByteArray := "[1]".toUTF8

def bufferClaims : Obj :=
  envelopeClaims plainOptions 1000 "drawn" (hexDigest bufferBytes) "correlation-1"

/-- The JSON text `[1]`, and that of the `Buffer` with its bytes. -/
def bufferTable : TokenTable where
  tokens := [⟨"envelope", envelopeHeader overridingKey,
    JwtPayload.ofClaims bufferClaims (by decide +kernel), ⟨1⟩⟩]
  texts := [("[1]", .arr [.num 1]),
    ("\x7b\"type\":\"Buffer\",\"data\":[91,49,93]\x7d", bufferJson bufferBytes)]

def bufferMessage : SignedMessage where
  envelope := "envelope"
  payload := .buffer bufferBytes
  jti := "drawn"
  iat := 1000
  bodyHash := hexDigest bufferBytes
  envelopeSizeBytes := 11

def bufferSigning : Act SignedMessage :=
  signEnvelope bufferTable.hashing (some overridingKey) (.buffer bufferBytes) plainOptions

theorem bufferSigning_outcome : overriddenServices.outcome bufferSigning = .ok bufferMessage := by
  rfl

theorem bufferSigning_trace : overriddenServices.trace bufferSigning =
    [⟨.randomUUID, "drawn"⟩, ⟨.date, 1000000⟩,
      ⟨.signJwt (envelopeHeader overridingKey) bufferClaims ⟨1⟩, .ok "envelope"⟩] := by
  decide +kernel

/-- The adversary presents the array in place of the bytes. -/
def arrayVerifying : Act VerifiedEnvelope :=
  verifyEnvelope bufferTable.hashing 86400 "envelope" (.object (.arr [.num 1]))
    { expectedQueueArn := "queue" }

theorem arrayVerifying_accepts :
    ∃ verified, overriddenServices.outcome arrayVerifying = .ok verified := by
  have accepted : (overriddenServices.outcome arrayVerifying).toBool = true := by decide +kernel
  cases ended : overriddenServices.outcome arrayVerifying with
  | error fault =>
      rw [ended] at accepted
      cases accepted
  | ok verified => exact ⟨verified, rfl⟩

theorem bufferEnvelope_signed : SignedJwt bufferTable.hashing (envelopeHeader overridingKey)
    bufferClaims ⟨1⟩ "envelope" where
  header := rfl
  accepted _ _ := ⟨_, rfl⟩
  read moment payload verified := by
    have numeric := payload.numericDates
    cases verified
    exact ⟨rfl, .of_undated numeric rfl rfl moment⟩

theorem bufferPayload_differs :
    ¬ SameJson bufferTable.hashing (.object (.arr [.num 1])) (.buffer bufferBytes) := by
  unfold SameJson
  decide +kernel

def bufferUse : KeyUse :=
  .envelope (.buffer bufferBytes) plainOptions (overriddenServices.trace bufferSigning)
    bufferMessage

def arrayUse : KeyUse :=
  .verify 86400 "envelope" (.object (.arr [.num 1])) { expectedQueueArn := "queue" }
    (overriddenServices.trace arrayVerifying) (overriddenServices.outcome arrayVerifying)

theorem bufferUse_signs {header claims : Obj} {key : PrivateKey} {token : String}
    (signs : bufferUse.Signs header claims key token) :
    header = envelopeHeader overridingKey ∧ claims = bufferClaims ∧ key = ⟨1⟩ ∧
      token = "envelope" := by
  change (⟨.signJwt header claims key, .ok token⟩ : Event) ∈
    overriddenServices.trace bufferSigning at signs
  rw [bufferSigning_trace] at signs
  simp only [List.mem_cons, Effect.Event.mk.injEq, reduceCtorEq, false_and, false_or,
    List.not_mem_nil, or_false, Op.signJwt.injEq] at signs
  obtain ⟨⟨rfl, rfl, rfl⟩, same⟩ := signs
  cases same
  exact ⟨rfl, rfl, rfl, rfl⟩

def bufferRun : SharedKeyRun bufferTable.hashing where
  key := overridingKey
  uses := [bufferUse, arrayUse]
  valid := by
    intro use member
    simp only [List.mem_cons, List.not_mem_nil, or_false] at member
    obtain rfl | rfl := member
    · refine ⟨fun field inside => absurd inside List.not_mem_nil, ?_⟩
      rw [← bufferSigning_outcome]
      exact SteadyServices.runs _ _
    · exact SteadyServices.runs _ _
  published := rfl
  signed := by
    intro use member header claims token signs
    simp only [List.mem_cons, List.not_mem_nil, or_false] at member
    obtain rfl | rfl := member
    · obtain ⟨rfl, rfl, -, rfl⟩ := bufferUse_signs signs
      exact bufferEnvelope_signed
    · exact signs.elim
  unforgeable := by
    intro before use after split token presents options payload verified
    obtain ⟨rfl, rfl⟩ | ⟨rfl, rfl⟩ := History.split_pair split
    · exact presents.elim
    · cases (show token = "envelope" from presents)
      have tabled : bufferTable.verify "envelope" overridingKey.privateKey.publicKey options =
          .ok payload := verified
      obtain ⟨row, found, -, rfl⟩ := TokenTable.verify_ok tabled
      cases found
      refine ⟨bufferUse, List.mem_cons_self, envelopeHeader overridingKey, bufferClaims, "envelope",
        ?_, rfl⟩
      change _ ∈ overriddenServices.trace bufferSigning
      rw [bufferSigning_trace]
      simp [overridingKey]
  hashes := hexDigest_injective

/-- An array is accepted for the signed bytes of its JSON text. -/
theorem bufferRun_mistaken : ¬ ∀ (P : Platform) (run : SharedKeyRun P),
    run.Genuine (SameJson P) ∧ run.Separate := by
  intro holds
  obtain ⟨verified, accepted⟩ := arrayVerifying_accepts
  obtain ⟨signedPayload, _, _, _, member, alike, -⟩ := (holds _ bufferRun).1 [bufferUse] [] 86400
    "envelope" (.object (.arr [.num 1])) { expectedQueueArn := "queue" }
    (overriddenServices.trace arrayVerifying) verified (by rw [← accepted]; rfl) rfl
  cases List.mem_singleton.mp member
  exact bufferPayload_differs alike

/-- What holds of this message is that the array is the JSON of the signed bytes. -/
theorem bufferRun_genuine :
    bufferRun.Genuine (SamePayload bufferTable.hashing) ∧ bufferRun.Separate :=
  bufferRun.genuine_and_separate

end BufferPayload

end S2s
