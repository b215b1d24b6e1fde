import S2sStack.Effect.Provenance
import S2sStack.Envelope.Consumer
import S2sStack.TokenTable

set_option autoImplicit false

/- `routes/async.ts` and `consumers/sqsConsumer.ts`: a signed envelope on its way through a queue. -/
namespace S2s

open Effect Effect.Program
open Js (Json Obj)

/-- `buffer.toJSON()` -/
def bufferJson (bytes : ByteArray) : Json :=
  .obj [("type", .str "Buffer"), ("data", .arr (bytes.toList.map fun byte => .num byte.toNat))]

/-- A payload as a member of a message; `undefined` is left out. -/
def shippedPayload : EnvelopePayload → Option Json
  | .buffer bytes => some (bufferJson bytes)
  | .object value => some value
  | .undefined => none

/-- `{ envelope: signed.envelope, payload: signed.payload }` -/
def queueMessage (message : SignedMessage) : Json :=
  .obj (("envelope", .str message.envelope) ::
    (shippedPayload message.payload).toList.map fun payload => ("payload", payload))

/-- The verification of a queue message, the first part of what the consumer does with it. -/
def receiveEnvelope (P : Platform) (dedupTtlSeconds : Nat) (options : VerifyEnvelopeOptions)
    (message : SqsMessage) : Act VerifiedEnvelope := do
  let (envelope, payload) ← ofExcept (parseMessage P message)
  verifyEnvelope P dedupTtlSeconds envelope payload options

theorem judgeMessage_eq (P : Platform) (config : ConsumerConfig) (message : SqsMessage) :
    judgeMessage P config message =
      receiveEnvelope P config.dedupTtlSeconds { expectedQueueArn := config.queueArn } message >>=
        fun verified => Act.authorize (envelopeAuthorizeInput config verified) := by
  rw [judgeMessage, receiveEnvelope]
  cases parseMessage P message with
  | error fault => rfl
  | ok parsed => rfl

section Claims

variable {name : String}

/-- The value of a claim: what the additional claims say of it, or the envelope's own. -/
def SignEnvelopeOptions.claim (options : SignEnvelopeOptions) (name : String)
    (own : Option Json) : Option Json :=
  held (fun field => if field.1 = name then some field.2 else none) own
    (options.additionalClaims.getD [])

theorem get?_assign (base : Obj) (field : String × Option Json) :
    (assign base field).get? name =
      (if field.1 = name then some field.2 else none).getD (base.get? name) := by
  obtain ⟨key, value⟩ := field
  by_cases same : key = name
  · subst same
    cases value with
    | some json => simp [assign]
    | none => simp [assign, Obj.get?_without_self]
  · cases value with
    | some json => simp [assign, same, Obj.get?_set_ne]
    | none =>
        have kept : name ∉ [key] := by
          intro member
          exact same (List.mem_singleton.mp member).symm
        simp [assign, same, Obj.get?_without _ kept]

theorem get?_spread (base : Obj) (extra : ClaimRecord) :
    (spread base extra).get? name =
      held (fun field => if field.1 = name then some field.2 else none) (base.get? name) extra := by
  induction extra generalizing base with
  | nil => rfl
  | cons field rest ih =>
      change (spread (assign base field) rest).get? name = _
      rw [ih, get?_assign]
      rfl

end Claims

/-- What `jwtVerify` asks of the dates of a token. -/
structure DatesHold (claims : Obj) (moment : Millis) : Prop where
  numeric : ∀ name ∈ ["exp", "nbf", "iat"], ∀ value, claims.get? name = some value →
    ∃ number, value = .num number
  begun : ∀ number, claims.get? "nbf" = some (.num number) → number ≤ (toSeconds moment : Nat)
  unexpired : ∀ number, claims.get? "exp" = some (.num number) →
    ((toSeconds moment : Nat) : Rat) < number

theorem DatesHold.of_undated {claims : Obj} (numeric : ∀ name ∈ ["exp", "nbf", "iat"], ∀ value,
    claims.get? name = some value → ∃ number, value = .num number)
    (noStart : claims.get? "nbf" = none) (noEnd : claims.get? "exp" = none) (moment : Millis) :
    DatesHold claims moment where
  numeric := numeric
  begun := by
    intro number found
    rw [noStart] at found
    cases found
  unexpired := by
    intro number found
    rw [noEnd] at found
    cases found

/-- What a token of `SignJWT` is to the functions that read it. -/
structure SignedJwt (P : Platform) (header claims : Obj) (key : PrivateKey) (token : String) :
    Prop where
  header : P.decodeProtectedHeader token = .ok header
  accepted : ∀ moment, DatesHold claims moment → ∃ payload, P.jwtVerify token key.publicKey
    { algorithms := some ["ES256"], currentDate := moment } = .ok payload
  read : ∀ moment payload, P.jwtVerify token key.publicKey
    { algorithms := some ["ES256"], currentDate := moment } = .ok payload →
    payload.claims = claims ∧ DatesHold claims moment

/-- A message that was signed, shipped and received, within the staleness threshold and for the
first time. -/
structure SentEnvelope (P : Platform) where
  payload : EnvelopePayload
  options : SignEnvelopeOptions
  current : Option ActiveKey
  signing : List Event
  message : SignedMessage
  signs : Runs (signEnvelope P current payload options) signing (.ok message)
  signedAt : Millis
  signClock : ∀ moment, ⟨.date, moment⟩ ∈ signing → moment = signedAt
  signed : ∀ header claims key, ⟨.signJwt header claims key, .ok message.envelope⟩ ∈ signing →
    SignedJwt P header claims key message.envelope
  published : ∀ key, current = some key →
    P.importJWK (.obj key.publicJwk) (.str "ES256") = .ok key.privateKey.publicKey
  delivered : P.parseJson (P.stringify (queueMessage message)) = .ok (queueMessage message)
  receiptHandle : Option String
  dedupTtlSeconds : Nat
  verifyOptions : VerifyEnvelopeOptions
  expected : verifyOptions.expectedQueueArn = options.queueArn
  trace : List Event
  outcome : Except Fault VerifiedEnvelope
  received : Runs (receiveEnvelope P dedupTtlSeconds verifyOptions
    ⟨some (P.stringify (queueMessage message)), receiptHandle⟩) trace outcome
  /-- the clock of `jose`, and that of `verifyEnvelope` -/
  currentDate : Millis
  nowMs : Millis
  dateRead : ∀ moment, ⟨.date, moment⟩ ∈ trace → moment = currentDate
  clockRead : ∀ moment next rest, trace = ⟨.date, moment⟩ :: ⟨.now, next⟩ :: rest → next = nowMs
  timely : ((toSeconds nowMs : Nat) : Rat) - (toSeconds signedAt : Nat) ≤ verifyOptions.threshold
  firstSeen : ∀ key ttl reply, ⟨.redisSet key ttl, reply⟩ ∈ trace → reply = .ok true

namespace SentEnvelope

variable {P : Platform} (sent : SentEnvelope P)

/-- The message is accepted, and gives the signer's principal and what was signed. -/
def RoundTrips : Prop :=
  ∃ verified, sent.outcome = .ok verified ∧
    verified.principal = servicePrincipal sent.options.clientId ∧
    verified.action = sent.options.action ∧
    verified.claims.get? "scopes" = some (strings sent.options.scopes) ∧
    verified.claims.get? "queue_arn" = some (.str sent.options.queueArn)

/-- The hash that is signed. -/
def signedHash (P : Platform) (payload : EnvelopePayload) : Except Fault String :=
  (payloadBytes P payload).map P.sha256Base64url

/-- The hash of the payload as it is received. -/
def receivedHash (P : Platform) (payload : EnvelopePayload) : Option String :=
  (shippedPayload payload).map fun value => P.sha256Base64url (P.stringify value).toUTF8

/-- The additional claims leave the protocol's own claims as they are, as far as they are read;
and the payload is hashed on arrival as it was when it was signed. -/
structure Intact : Prop where
  queue : sent.options.claim "queue_arn" (some (.str sent.options.queueArn)) =
    some (.str sent.options.queueArn)
  body : ∀ hash received, signedHash P sent.payload = .ok hash →
    receivedHash P sent.payload = some received →
    sent.options.claim "body_hash" (some (.str hash)) = some (.str received)
  principal : Js.toText (sent.options.claim "iss"
    (some (.str (servicePrincipal sent.options.clientId)))) =
      servicePrincipal sent.options.clientId
  action : Js.toText (sent.options.claim "action" (some (.str sent.options.action))) =
    sent.options.action
  scopes : sent.options.claim "scopes" (some (strings sent.options.scopes)) =
    some (strings sent.options.scopes)
  issued : (sent.options.claim "iat" (some (.num (toSeconds sent.signedAt : Nat))) = none ∧
      ((toSeconds sent.nowMs : Nat) : Rat) ≤ sent.verifyOptions.threshold) ∨
    ∃ iat, sent.options.claim "iat" (some (.num (toSeconds sent.signedAt : Nat))) = some (.num iat) ∧
      ((toSeconds sent.nowMs : Nat) : Rat) - iat ≤ sent.verifyOptions.threshold
  notBefore : ∀ value, sent.options.claim "nbf" none = some value →
    ∃ number, value = .num number ∧ number ≤ (toSeconds sent.currentDate : Nat)
  expires : ∀ value, sent.options.claim "exp" none = some value →
    ∃ number, value = .num number ∧ ((toSeconds sent.currentDate : Nat) : Rat) < number

section Lookups

variable {options : SignEnvelopeOptions} {iat : Nat} {jti bodyHash correlationId : String}

/-- The claims of an envelope, name by name. -/
structure ClaimLookups (options : SignEnvelopeOptions) (iat : Nat) (bodyHash : String)
    (claims : Obj) : Prop where
  iss : claims.get? "iss" = options.claim "iss" (some (.str (servicePrincipal options.clientId)))
  iat : claims.get? "iat" = options.claim "iat" (some (.num iat))
  bodyHash : claims.get? "body_hash" = options.claim "body_hash" (some (.str bodyHash))
  queueArn : claims.get? "queue_arn" = options.claim "queue_arn" (some (.str options.queueArn))
  action : claims.get? "action" = options.claim "action" (some (.str options.action))
  scopes : claims.get? "scopes" = options.claim "scopes" (some (strings options.scopes))
  nbf : claims.get? "nbf" = options.claim "nbf" none
  exp : claims.get? "exp" = options.claim "exp" none

theorem envelopeClaims_lookups : ClaimLookups options iat bodyHash
    (envelopeClaims options iat jti bodyHash correlationId) where
  iss := get?_spread _ _
  iat := get?_spread _ _
  bodyHash := get?_spread _ _
  queueArn := get?_spread _ _
  action := get?_spread _ _
  scopes := get?_spread _ _
  nbf := get?_spread _ _
  exp := get?_spread _ _

end Lookups

variable {sent}

/-- What the message was signed with. -/
theorem exists_signed : ∃ hash key jti correlationId, signedHash P sent.payload = .ok hash ∧
    sent.current = some key ∧ sent.message.payload = sent.payload ∧
    SignedJwt P (envelopeHeader key)
      (envelopeClaims sent.options (toSeconds sent.signedAt) jti hash correlationId) key.privateKey
      sent.message.envelope := by
  obtain ⟨bytes, key, jti, nowMs, correlationId, naming, hashed, active, -, trace, same⟩ :=
    signEnvelope_run sent.signs
  have clock : nowMs = sent.signedAt := by
    apply sent.signClock
    rw [trace]
    simp
  refine ⟨P.sha256Base64url bytes, key, jti, correlationId, ?_, active, same, ?_⟩
  · rw [signedHash, hashed]
    rfl
  · apply sent.signed
    rw [trace, ← clock]
    apply List.mem_cons_of_mem
    apply List.mem_cons_of_mem
    exact List.mem_append_right naming (List.mem_singleton_self _)

/-- The consumer verifies the envelope against the payload as JSON. -/
theorem exists_received : ∃ value, shippedPayload sent.payload = some value ∧
    Runs (verifyEnvelope P sent.dedupTtlSeconds sent.message.envelope (.object value)
      sent.verifyOptions) sent.trace sent.outcome := by
  obtain ⟨hash, key, jti, correlationId, hashed, -, same, -⟩ := sent.exists_signed
  have shipped : ∃ value, shippedPayload sent.payload = some value := by
    cases kind : sent.payload with
    | buffer bytes => exact ⟨_, rfl⟩
    | object value => exact ⟨_, rfl⟩
    | undefined =>
        rw [kind] at hashed
        cases hashed
  obtain ⟨value, shipped⟩ := shipped
  refine ⟨value, shipped, ?_⟩
  have delivered := sent.delivered
  have message : queueMessage sent.message =
      .obj [("envelope", .str sent.message.envelope), ("payload", value)] := by
    rw [queueMessage, same, shipped]
    rfl
  have parsed : parseMessage P ⟨some (P.stringify (queueMessage sent.message)),
      sent.receiptHandle⟩ = .ok (sent.message.envelope, .object value) := by
    rw [message] at delivered ⊢
    simp only [parseMessage, Option.getD_some, delivered]
    rfl
  have received := sent.received
  rw [receiveEnvelope, runs_ofExcept_bind_iff parsed] at received
  exact received

theorem checkObjectHash_ok_iff {value : Json} {claims : Obj} :
    checkBodyHash P (.object value) claims = .ok () ↔
      claims.get? "body_hash" =
        some (.str (P.sha256Base64url (P.stringify value).toUTF8)) := by
  rw [checkBodyHash_ok_iff]
  simp [payloadBytes]

/-- The key that an envelope of `signEnvelope` carries is the signer's. -/
theorem envelopeKey_signed {key : ActiveKey} {claims : Obj} {token : String}
    (signed : SignedJwt P (envelopeHeader key) claims key.privateKey token)
    (published : P.importJWK (.obj key.publicJwk) (.str "ES256") = .ok key.privateKey.publicKey) :
    envelopeKey P token = .ok key.privateKey.publicKey := by
  rw [envelopeKey, signed.header]
  exact published

/-- The first sight of a message that has passed all other checks is accepted. -/
theorem admitEnvelope_firstSeen {dedupTtlSeconds : Nat} {options : VerifyEnvelopeOptions}
    {claims : Obj} {trace : List Event} {outcome : Except Fault VerifiedEnvelope}
    (run : Runs (admitEnvelope dedupTtlSeconds options claims) trace outcome)
    (firstSeen : ∀ key ttl reply, ⟨.redisSet key ttl, reply⟩ ∈ trace → reply = .ok true) :
    ∃ verified, outcome = .ok verified ∧ verified.principal = Js.toText (claims.get? "iss") ∧
      verified.action = Js.toText (claims.get? "action") ∧ verified.claims = claims := by
  have finish {rest : List Event}
      (last : Runs (do
        let verifiedAt ← Act.now
        return {
          principal := Js.toText (claims.get? "iss")
          action := Js.toText (claims.get? "action")
          claims := claims
          verifiedAt := verifiedAt } : Act VerifiedEnvelope) rest outcome) :
      ∃ verified, outcome = .ok verified ∧ verified.principal = Js.toText (claims.get? "iss") ∧
        verified.action = Js.toText (claims.get? "action") ∧ verified.claims = claims := by
    obtain ⟨verifiedAt, _, rfl, reading⟩ := runs_reply_bind_iff.mp last
    obtain ⟨-, rfl⟩ := runs_pure_iff.mp reading
    exact ⟨_, rfl, rfl, rfl, rfl⟩
  cases skips : options.skipDedup with
  | true =>
      rw [admitEnvelope, dedup, if_pos skips] at run
      exact finish run
  | false =>
      obtain ⟨reply, rest, rfl, accepted, -⟩ := runs_admitEnvelope skips run
      have claimed := firstSeen _ _ _ List.mem_cons_self
      obtain ⟨verified, rfl⟩ := accepted.mp claimed
      obtain ⟨_, _, _, _, _, last⟩ := runs_bind_ok.mp run
      exact finish last

/-- The age of a token, by a date that is a number or is not there. -/
theorem age_le_iff {claims : Obj} {name : String} {nowSec threshold : Rat}
    (numeric : ∀ value, claims.get? name = some value → ∃ number, value = .num number) :
    nowSec - dateOrZero claims name ≤ threshold ↔
      (claims.get? name = none ∧ nowSec ≤ threshold) ∨
        ∃ number, claims.get? name = some (.num number) ∧ nowSec - number ≤ threshold := by
  cases found : claims.get? name with
  | none => simp [dateOrZero, found]
  | some value =>
      obtain ⟨number, rfl⟩ := numeric value found
      simp [dateOrZero, found]

/-- What the two ends know of a message. -/
structure Ends (sent : SentEnvelope P) (hash received : String) (key : PublicKey) (value : Json)
    (claims : Obj) : Prop where
  hashed : signedHash P sent.payload = .ok hash
  rehashed : receivedHash P sent.payload = some received
  same : received = P.sha256Base64url (P.stringify value).toUTF8
  lookups : ClaimLookups sent.options (toSeconds sent.signedAt) hash claims
  carried : envelopeKey P sent.message.envelope = .ok key
  accepted : ∀ moment, DatesHold claims moment → ∃ payload, P.jwtVerify sent.message.envelope key
    { algorithms := some ["ES256"], currentDate := moment } = .ok payload
  read : ∀ moment payload, P.jwtVerify sent.message.envelope key
    { algorithms := some ["ES256"], currentDate := moment } = .ok payload →
    payload.claims = claims ∧ DatesHold claims moment
  verifies : Runs (verifyEnvelope P sent.dedupTtlSeconds sent.message.envelope (.object value)
    sent.verifyOptions) sent.trace sent.outcome

theorem exists_ends (sent : SentEnvelope P) :
    ∃ hash received key value claims, Ends sent hash received key value claims := by
  obtain ⟨hash, key, jti, correlationId, hashed, active, -, jwt⟩ := sent.exists_signed
  obtain ⟨value, shipped, run⟩ := sent.exists_received
  refine ⟨hash, P.sha256Base64url (P.stringify value).toUTF8, key.privateKey.publicKey, value, _, {
    hashed := hashed
    rehashed := by rw [receivedHash, shipped, Option.map_some]
    same := rfl
    lookups := envelopeClaims_lookups
    carried := envelopeKey_signed jwt (sent.published key active)
    accepted := jwt.accepted
    read := jwt.read
    verifies := run }⟩

namespace Ends

variable {hash received : String} {key : PublicKey} {value : Json} {claims : Obj}
  (ends : Ends sent hash received key value claims)

include ends

theorem intact_of_roundTrips (trips : sent.RoundTrips) : sent.Intact := by
  obtain ⟨verified, accepted, principal, action, scopes, queue⟩ := trips
  have run := ends.verifies
  rw [accepted] at run
  obtain ⟨currentDate, nowMs, signed, deduping, verifiedAt, checked, trace, -, rfl⟩ :=
    verifyEnvelope_ok run
  have date : currentDate = sent.currentDate := by
    apply sent.dateRead
    simp [trace]
  have clock : nowMs = sent.nowMs := sent.clockRead currentDate nowMs _ trace
  subst date clock
  obtain ⟨other, same, verifies⟩ := checked.signature
  rw [ends.carried] at same
  cases same
  obtain ⟨rfl, dates⟩ := ends.read _ _ verifies
  have fresh := checkStaleness_ok_iff.mp checked.fresh
  rw [age_le_iff (dates.numeric "iat" (by simp)), ends.lookups.iat] at fresh
  have body := checkObjectHash_ok_iff.mp checked.body
  rw [ends.lookups.bodyHash, ← ends.same] at body
  constructor
  · exact ends.lookups.queueArn.symm.trans queue
  · intro own arrived ownHash arrivedHash
    rw [ends.hashed] at ownHash
    rw [ends.rehashed] at arrivedHash
    cases ownHash
    cases arrivedHash
    exact body
  · exact (congrArg Js.toText ends.lookups.iss.symm).trans principal
  · exact (congrArg Js.toText ends.lookups.action.symm).trans action
  · exact ends.lookups.scopes.symm.trans scopes
  · exact fresh
  · intro value given
    rw [← ends.lookups.nbf] at given
    obtain ⟨number, rfl⟩ := dates.numeric "nbf" (by simp) value given
    exact ⟨number, rfl, dates.begun number given⟩
  · intro value given
    rw [← ends.lookups.exp] at given
    obtain ⟨number, rfl⟩ := dates.numeric "exp" (by simp) value given
    exact ⟨number, rfl, dates.unexpired number given⟩

theorem datesHold (intact : sent.Intact) : DatesHold claims sent.currentDate where
  numeric := by
    intro name member value given
    simp only [List.mem_cons, List.not_mem_nil, or_false] at member
    obtain rfl | rfl | rfl := member
    · rw [ends.lookups.exp] at given
      obtain ⟨number, rfl, -⟩ := intact.expires value given
      exact ⟨number, rfl⟩
    · rw [ends.lookups.nbf] at given
      obtain ⟨number, rfl, -⟩ := intact.notBefore value given
      exact ⟨number, rfl⟩
    · rw [ends.lookups.iat] at given
      obtain ⟨absent, -⟩ | ⟨number, present, -⟩ := intact.issued
      · rw [absent] at given
        cases given
      · rw [present] at given
        exact ⟨number, (Option.some.inj given).symm⟩
  begun := by
    intro number given
    rw [ends.lookups.nbf] at given
    obtain ⟨other, same, begun⟩ := intact.notBefore _ given
    cases same
    exact begun
  unexpired := by
    intro number given
    rw [ends.lookups.exp] at given
    obtain ⟨other, same, unexpired⟩ := intact.expires _ given
    cases same
    exact unexpired

theorem roundTrips_of_intact (intact : sent.Intact) : sent.RoundTrips := by
  have dates := ends.datesHold intact
  obtain ⟨signed, verifies⟩ := ends.accepted _ dates
  obtain ⟨rfl, -⟩ := ends.read _ _ verifies
  have queue : checkQueueArn sent.verifyOptions signed.claims = .ok () := by
    rw [checkQueueArn_ok_iff, ends.lookups.queueArn, intact.queue, sent.expected]
  have body : checkBodyHash P (.object value) signed.claims = .ok () := by
    rw [checkObjectHash_ok_iff, ends.lookups.bodyHash, intact.body _ _ ends.hashed ends.rehashed,
      ends.same]
  have fresh : checkStaleness sent.verifyOptions signed.claims sent.nowMs = .ok () := by
    rw [checkStaleness_ok_iff, age_le_iff (dates.numeric "iat" (by simp)), ends.lookups.iat]
    exact intact.issued
  -- the checks in their order, up to the replay record
  have run := ends.verifies
  rw [verifyEnvelope, runs_ofExcept_bind_iff ends.carried, Act.date, runs_reply_bind_iff] at run
  obtain ⟨date, rest, trace, run⟩ := run
  have sameDate : date = sent.currentDate := by
    apply sent.dateRead
    simp [trace]
  subst sameDate
  rw [runs_ofExcept_bind_iff verifies] at run
  dsimp only at run
  rw [runs_ofExcept_bind_iff queue, runs_ofExcept_bind_iff body, Act.now,
    runs_reply_bind_iff] at run
  obtain ⟨clock, more, rfl, run⟩ := run
  have sameClock : clock = sent.nowMs := sent.clockRead _ _ _ trace
  subst sameClock
  rw [runs_ofExcept_bind_iff fresh] at run
  have firstSeen : ∀ key ttl reply, ⟨.redisSet key ttl, reply⟩ ∈ more → reply = .ok true := by
    intro key ttl reply member
    apply sent.firstSeen key ttl reply
    rw [trace]
    exact List.mem_cons_of_mem _ (List.mem_cons_of_mem _ member)
  obtain ⟨verified, accepted, principal, action, same⟩ := admitEnvelope_firstSeen run firstSeen
  refine ⟨verified, accepted, ?_, ?_, ?_, ?_⟩
  · rw [principal, ends.lookups.iss, intact.principal]
  · rw [action, ends.lookups.action, intact.action]
  · rw [same, ends.lookups.scopes, intact.scopes]
  · rw [same, ends.lookups.queueArn, intact.queue]

end Ends

/-- An envelope makes the round trip exactly where nothing of it is overridden on the way. -/
theorem roundTrips_iff_intact (sent : SentEnvelope P) : sent.RoundTrips ↔ sent.Intact := by
  obtain ⟨hash, received, key, value, claims, ends⟩ := sent.exists_ends
  constructor
  · exact ends.intact_of_roundTrips
  · exact ends.roundTrips_of_intact

end SentEnvelope

section OverriddenIssuer

/-- The additional claims bring a name of their own. -/
def overridingOptions : SignEnvelopeOptions where
  action := "loan.decision.submit"
  queueArn := "queue"
  scopes := ["lending/write"]
  clientId := "calling-service"
  correlationId := some "correlation-1"
  additionalClaims := some [("iss", some (.str "ServicePrincipal::other-service"))]

def overridingKey : ActiveKey := { publicJwk := TokenTable.jwkOf ⟨1⟩, privateKey := ⟨1⟩ }

def overriddenClaims : Obj :=
  envelopeClaims overridingOptions 1000 "drawn" "hash" "correlation-1"

def decisionPayload : Json := .obj [("amount", .num 1)]

def overriddenTable : TokenTable where
  tokens := [⟨"envelope", envelopeHeader overridingKey,
    JwtPayload.ofClaims overriddenClaims (by decide +kernel), ⟨1⟩⟩]
  hashes := [("payload-text", "hash")]
  texts := [("payload-text", decisionPayload),
    ("message-text", .obj [("envelope", .str "envelope"), ("payload", decisionPayload)])]

def overriddenServices : SteadyServices where
  moment := 1000000
  keys _ := []
  signing := { privateKey := ⟨7⟩, publicJwk := [], kid := "" }
  signed := "envelope"

def overriddenSigning : Act SignedMessage :=
  signEnvelope overriddenTable.platform (some overridingKey) (.object decisionPayload)
    overridingOptions

def overriddenMessage : SignedMessage where
  envelope := "envelope"
  payload := .object decisionPayload
  jti := "drawn"
  iat := 1000
  bodyHash := "hash"
  envelopeSizeBytes := 20

theorem overriddenSigning_outcome :
    overriddenServices.outcome overriddenSigning = .ok overriddenMessage := by
  rfl

theorem overriddenSigning_trace : overriddenServices.trace overriddenSigning =
    [⟨.randomUUID, "drawn"⟩, ⟨.date, 1000000⟩,
      ⟨.signJwt (envelopeHeader overridingKey) overriddenClaims ⟨1⟩, .ok "envelope"⟩] := by
  decide +kernel

def overriddenReceiving : Act VerifiedEnvelope :=
  receiveEnvelope overriddenTable.platform 86400 { expectedQueueArn := "queue" }
    ⟨some "message-text", some "receipt"⟩

theorem overriddenReceiving_trace : overriddenServices.trace overriddenReceiving =
    [⟨.date, 1000000⟩, ⟨.now, 1000000⟩, ⟨.redisSet "env:jti:drawn" 86400, .ok true⟩,
      ⟨.now, 1000000⟩] := by
  decide +kernel

theorem overridden_signed : SignedJwt overriddenTable.platform (envelopeHeader overridingKey)
    overriddenClaims ⟨1⟩ "envelope" where
  header := rfl
  accepted _ _ := ⟨_, rfl⟩
  read moment payload verified := by
    have numeric := payload.numericDates
    cases verified
    exact ⟨rfl, .of_undated numeric rfl rfl moment⟩

theorem overridden_timely : ((toSeconds 1000000 : Nat) : Rat) - (toSeconds 1000000 : Nat) ≤
    VerifyEnvelopeOptions.threshold { expectedQueueArn := "queue" } := by
  decide +kernel

def overriddenEnvelope : SentEnvelope overriddenTable.platform where
  payload := .object decisionPayload
  options := overridingOptions
  current := some overridingKey
  signing := overriddenServices.trace overriddenSigning
  message := overriddenMessage
  signs := by
    rw [← overriddenSigning_outcome]
    exact SteadyServices.runs _ _
  signedAt := 1000000
  signClock := by
    rw [overriddenSigning_trace]
    simp
  signed := by
    intro header claims key member
    rw [overriddenSigning_trace] at member
    simp only [List.mem_cons, Effect.Event.mk.injEq, reduceCtorEq, false_and, false_or,
      List.not_mem_nil, or_false, Op.signJwt.injEq] at member
    obtain ⟨⟨rfl, rfl, rfl⟩, -⟩ := member
    exact overridden_signed
  published := by
    intro key same
    cases same
    rfl
  delivered := rfl
  receiptHandle := some "receipt"
  dedupTtlSeconds := 86400
  verifyOptions := { expectedQueueArn := "queue" }
  expected := rfl
  trace := overriddenServices.trace overriddenReceiving
  outcome := overriddenServices.outcome overriddenReceiving
  received := SteadyServices.runs _ _
  currentDate := 1000000
  nowMs := 1000000
  dateRead := by
    rw [overriddenReceiving_trace]
    simp
  clockRead := by
    rw [overriddenReceiving_trace]
    simp
  timely := overridden_timely
  firstSeen := by
    rw [overriddenReceiving_trace]
    simp

/-- The message is taken to come from the service that the additional claims name. -/
theorem overriddenEnvelope_renamed :
    ¬ ∀ (P : Platform) (sent : SentEnvelope P), sent.RoundTrips := by
  intro holds
  obtain ⟨verified, accepted, principal, -⟩ := holds _ overriddenEnvelope
  have named : (overriddenServices.outcome overriddenReceiving).map VerifiedEnvelope.principal =
      .ok "ServicePrincipal::other-service" := by decide +kernel
  rw [show overriddenServices.outcome overriddenReceiving = .ok verified from accepted] at named
  have same := (Except.ok.inj named).symm.trans principal
  exact absurd same (by decide)

end OverriddenIssuer

end S2s
