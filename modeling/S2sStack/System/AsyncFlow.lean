import S2sStack.Envelope.Delivery
import S2sStack.Envelope.RoundTrip
import S2sStack.System.Config

set_option autoImplicit false

/- `routes/async.ts`, and what becomes of its messages in receiving-service, however often the
queue delivers them. -/
namespace S2s

open Effect Effect.Program
open Js (Json Obj)

/-- What is handed to `sendMessage`. -/
structure QueuedMessage where
  queueUrl : String
  body : String
  deriving DecidableEq

inductive AsyncReply where
  | accepted (messageId : Option String) (jti : String)
  | failed (description requestId timestamp : String)
  deriving DecidableEq

def AsyncReply.status : AsyncReply → Nat
  | accepted _ _ => 202
  | failed _ _ _ => 502

def asyncOptions (config : CallingConfig) : SignEnvelopeOptions where
  action := "loan.decision.submit"
  queueArn := config.queueArn
  scopes := config.scopes
  clientId := config.clientId

def asyncPayload (req : Request) : EnvelopePayload :=
  match req.body with
  | some body => .object body
  | none => .undefined

def publishError (req : Request) (err : Fault) : Act AsyncReply := do
  let timestamp ← Act.timestamp
  return .failed err.message (issuerRequestId req) timestamp

/-- `POST /async`: the message that is sent, if any, and the reply. `sent` is the answer of SQS. -/
def asyncRoute (P : Platform) (current : Option ActiveKey) (config : CallingConfig) (req : Request)
    (sent : Except Fault (Option String)) : Act (Option QueuedMessage × AsyncReply) := do
  match ← attempt (signEnvelope P current (asyncPayload req) (asyncOptions config)) with
  | .ok signed =>
      let queued := { queueUrl := config.queueUrl, body := P.stringify (queueMessage signed) }
      match sent with
      | .ok messageId => return (some queued, .accepted messageId signed.jti)
      | .error err => do
          let reply ← publishError req err
          return (some queued, reply)
  | .error err => do
      let reply ← publishError req err
      return (none, reply)

/-- What the consumer asks the authorizer about a message of the route. -/
def asyncInput (config : CallingConfig) (consumer : ConsumerConfig) : AuthorizeInput where
  principal := servicePrincipal config.clientId
  action := "Action::loan.decision.submit"
  resource := "Resource::" ++ consumer.resourcePrefix ++ "::queue"
  token := ""
  context := some [("scopes", strings config.scopes), ("dpop_confirmed", .bool false),
    ("source_domain", .str consumer.resourcePrefix)]

/-- A message as JSON. -/
def envelopeMessage (envelope : String) (body : Json) : Json :=
  .obj [("envelope", .str envelope), ("payload", body)]

/-- A run of the route that has sent a message, with an ES256 library and a JSON round trip that
work. -/
structure Published (P : Platform) (config : CallingConfig) where
  current : Option ActiveKey
  req : Request
  sent : Except Fault (Option String)
  routing : List Event
  queued : QueuedMessage
  reply : AsyncReply
  routed : Runs (asyncRoute P current config req sent) routing (.ok (some queued, reply))
  signed : ∀ header claims key envelope, ⟨.signJwt header claims key, .ok envelope⟩ ∈ routing →
    SignedJwt P header claims key envelope
  imports : ∀ key, current = some key →
    P.importJWK (.obj key.publicJwk) (.str "ES256") = .ok key.privateKey.publicKey
  delivered : ∀ header claims key envelope body,
    ⟨.signJwt header claims key, .ok envelope⟩ ∈ routing → req.body = some body →
      P.parseJson (P.stringify (envelopeMessage envelope body)) = .ok (envelopeMessage envelope body)

/-- What a published message carries to whoever reads it. -/
structure Published.Carries {P : Platform} {config : CallingConfig} (published : Published P config)
    (envelope jti : String) (body : Json) (signedAt : Millis) (key : PublicKey) (claims : Obj) :
    Prop where
  parsed : ∀ receiptHandle, parseMessage P ⟨some published.queued.body, receiptHandle⟩ =
    .ok (envelope, .object body)
  clock : ⟨.date, signedAt⟩ ∈ published.routing
  told : ∀ messageId name, published.reply = .accepted messageId name → name = jti
  carried : envelopeKey P envelope = .ok key
  accepted : ∀ moment, ∃ payload, P.jwtVerify envelope key
    { algorithms := some ["ES256"], currentDate := moment } = .ok payload
  read : ∀ moment payload, P.jwtVerify envelope key
    { algorithms := some ["ES256"], currentDate := moment } = .ok payload → payload.claims = claims
  claims : ∃ correlationId, claims = envelopeClaims (asyncOptions config) (toSeconds signedAt) jti
    (P.sha256Base64url (P.stringify body).toUTF8) correlationId

/-- The `jti` of a message is the first that was drawn. -/
theorem signEnvelope_jti {P : Platform} {current : Option ActiveKey} {payload : EnvelopePayload}
    {options : SignEnvelopeOptions} {message : SignedMessage} {trace : List Event}
    (run : Runs (signEnvelope P current payload options) trace (.ok message)) :
    ∃ rest, trace = ⟨.randomUUID, message.jti⟩ :: rest := by
  rw [signEnvelope, runs_ofExcept_bind_ok] at run
  obtain ⟨bytes, _, run⟩ := run
  dsimp only at run
  rw [Act.randomUUID, runs_reply_bind_iff] at run
  obtain ⟨jti, _, rfl, run⟩ := run
  rw [Act.date, runs_reply_bind_iff] at run
  obtain ⟨_, _, rfl, run⟩ := run
  obtain ⟨_, _, _, rfl, _, run⟩ := runs_bind_ok.mp run
  obtain ⟨_, _, run⟩ := runs_ofExcept_bind_ok.mp run
  obtain ⟨_, _, _, rfl, _, run⟩ := runs_bind_ok.mp run
  cases (runs_pure_iff.mp run).2
  exact ⟨_, rfl⟩

namespace Published

variable {P : Platform} {config : CallingConfig} (published : Published P config)

/-- The message is the one that was signed. -/
theorem exists_message : ∃ message signing answering,
    published.routing = signing ++ answering ∧
    Runs (signEnvelope P published.current (asyncPayload published.req) (asyncOptions config))
      signing (.ok message) ∧
    published.queued.body = P.stringify (queueMessage message) ∧
    ∀ messageId name, published.reply = .accepted messageId name → name = message.jti := by
  have routed := published.routed
  rw [asyncRoute, runs_attempt_bind_iff] at routed
  obtain ⟨result, signing, answering, shape, sign, answer⟩ := routed
  cases result with
  | error err =>
      obtain ⟨_, _, _, _, _, last⟩ := runs_bind_ok.mp answer
      cases (runs_pure_iff.mp last).2
  | ok message =>
      refine ⟨message, signing, answering, shape, sign, ?_⟩
      dsimp only at answer
      split at answer
      · obtain ⟨_, same⟩ := runs_pure_iff.mp answer
        simp only [Except.ok.injEq, Prod.mk.injEq, Option.some.injEq] at same
        obtain ⟨queued, replied⟩ := same
        refine ⟨congrArg QueuedMessage.body queued, fun messageId name accepted => ?_⟩
        rw [accepted] at replied
        cases replied
        rfl
      · obtain ⟨reply, _, _, _, failed, last⟩ := runs_bind_ok.mp answer
        obtain ⟨_, same⟩ := runs_pure_iff.mp last
        simp only [Except.ok.injEq, Prod.mk.injEq, Option.some.injEq] at same
        obtain ⟨queued, replied⟩ := same
        refine ⟨congrArg QueuedMessage.body queued, fun messageId name accepted => ?_⟩
        obtain ⟨_, _, _, done⟩ := runs_reply_bind_iff.mp failed
        rw [replied, Except.ok.inj (runs_pure_iff.mp done).2] at accepted
        cases accepted

theorem exists_carries : ∃ envelope jti body signedAt key claims,
    published.Carries envelope jti body signedAt key claims := by
  obtain ⟨message, signing, answering, shape, sign, queued, told⟩ := published.exists_message
  obtain ⟨bytes, key, jti, nowMs, correlationId, naming, hashed, active, -, trace, same⟩ :=
    signEnvelope_run sign
  obtain ⟨rest, drawn⟩ := signEnvelope_jti sign
  have named : message.jti = jti := by
    rw [trace] at drawn
    cases drawn
    rfl
  obtain ⟨body, given, payload⟩ : ∃ body, published.req.body = some body ∧
      asyncPayload published.req = .object body := by
    unfold asyncPayload at hashed ⊢
    cases given : published.req.body with
    | none =>
        rw [given] at hashed
        cases hashed
    | some body => exact ⟨body, rfl, rfl⟩
  rw [payload] at hashed same
  cases hashed
  have inside : ∀ event ∈ signing, event ∈ published.routing := by
    intro event member
    rw [shape]
    exact List.mem_append_left _ member
  have signs : ⟨.signJwt (envelopeHeader key) (envelopeClaims (asyncOptions config)
      (toSeconds nowMs) jti (P.sha256Base64url (P.stringify body).toUTF8) correlationId)
      key.privateKey, .ok message.envelope⟩ ∈ published.routing := by
    apply inside
    rw [trace]
    simp
  have jwt := published.signed _ _ _ _ signs
  have written : queueMessage message = envelopeMessage message.envelope body := by
    rw [queueMessage, same]
    rfl
  have undated (moment : Millis) : DatesHold (envelopeClaims (asyncOptions config)
      (toSeconds nowMs) jti (P.sha256Base64url (P.stringify body).toUTF8) correlationId) moment := by
    refine .of_undated ?_ rfl rfl moment
    intro name member value found
    simp only [List.mem_cons, List.not_mem_nil, or_false] at member
    obtain rfl | rfl | rfl := member
    · cases found
    · cases found
    · exact ⟨_, (Option.some.inj found).symm⟩
  refine ⟨message.envelope, jti, body, nowMs, key.privateKey.publicKey, _, {
    parsed := ?_
    clock := inside _ (by simp [trace])
    told := fun messageId name accepted => (told messageId name accepted).trans named
    carried := SentEnvelope.envelopeKey_signed jwt (published.imports key active)
    accepted := fun moment => jwt.accepted moment (undated moment)
    read := fun moment payload verified => (jwt.read moment payload verified).1
    claims := ⟨correlationId, rfl⟩ }⟩
  intro receiptHandle
  have parsed := published.delivered _ _ _ _ body signs given
  rw [← written, ← queued] at parsed
  simp only [parseMessage, Option.getD_some, parsed, written]
  rfl

end Published

section Consuming

variable {P : Platform} {config : CallingConfig} {consumer : ConsumerConfig}
  {published : Published P config} {envelope jti : String} {body : Json} {signedAt : Millis}
  {key : PublicKey} {claims : Obj}

/-- Every verification of the message gets as far as its age, and no further if it is too old. -/
theorem Published.Carries.verified
    (carries : published.Carries envelope jti body signedAt key claims)
    (sameQueue : consumer.queueArn = config.queueArn) {trace : List Event}
    {outcome : Except Fault VerifiedEnvelope}
    (run : Runs (verifyEnvelope P consumer.dedupTtlSeconds envelope (.object body)
      { expectedQueueArn := consumer.queueArn }) trace outcome) :
    ∃ currentDate nowMs rest, trace = ⟨.date, currentDate⟩ :: ⟨.now, nowMs⟩ :: rest ∧
      ((∃ signed, signed.claims = claims ∧ toSeconds nowMs ≤ toSeconds signedAt + 900 ∧
          CheckedEnvelope P envelope (.object body) { expectedQueueArn := consumer.queueArn }
            currentDate nowMs signed) ∨
        (rest = [] ∧ toSeconds signedAt + 900 < toSeconds nowMs ∧
          ∃ fault, outcome = .error fault)) := by
  obtain ⟨correlationId, same⟩ := carries.claims
  rw [verifyEnvelope, runs_ofExcept_bind_iff carries.carried, Act.date, runs_reply_bind_iff] at run
  obtain ⟨currentDate, _, rfl, run⟩ := run
  obtain ⟨signed, verifies⟩ := carries.accepted currentDate
  have read := carries.read currentDate signed verifies
  have queue : checkQueueArn { expectedQueueArn := consumer.queueArn } signed.claims = .ok () := by
    rw [checkQueueArn_ok_iff, read, same, sameQueue]
    rfl
  have hashed : checkBodyHash P (.object body) signed.claims = .ok () := by
    rw [SentEnvelope.checkObjectHash_ok_iff, read, same]
    rfl
  rw [runs_ofExcept_bind_iff verifies] at run
  dsimp only at run
  rw [runs_ofExcept_bind_iff queue, runs_ofExcept_bind_iff hashed, Act.now,
    runs_reply_bind_iff] at run
  obtain ⟨nowMs, rest, rfl, run⟩ := run
  refine ⟨currentDate, nowMs, rest, rfl, ?_⟩
  have age : checkStaleness { expectedQueueArn := consumer.queueArn } signed.claims nowMs = .ok () ↔
      toSeconds nowMs ≤ toSeconds signedAt + 900 := by
    have issued : dateOrZero signed.claims "iat" = (toSeconds signedAt : Rat) := by
      rw [read, same]
      rfl
    have threshold : VerifyEnvelopeOptions.threshold { expectedQueueArn := consumer.queueArn } =
        (900 : Rat) := by
      simp [VerifyEnvelopeOptions.threshold, StalenessQueueType.defaultStaleness]
    rw [checkStaleness_ok_iff, issued, threshold, sub_le_iff_le_add, add_comm]
    exact_mod_cast Iff.rfl
  cases checked : checkStaleness { expectedQueueArn := consumer.queueArn } signed.claims nowMs with
  | ok _ =>
      exact .inl ⟨signed, read, age.mp checked, ⟨key, carries.carried, verifies⟩, queue, hashed,
        checked⟩
  | error fault =>
      have old : ¬ toSeconds nowMs ≤ toSeconds signedAt + 900 := by
        intro young
        rw [age.mpr young] at checked
        cases checked
      rw [checked] at run
      obtain ⟨rfl, rfl⟩ := runs_throwing_iff.mp run
      exact .inr ⟨rfl, Nat.lt_of_not_le old, fault, rfl⟩

/-- A delivery of the message reads both clocks, and it is put to the authorizer in time or not at
all. -/
theorem Published.Carries.judged (carries : published.Carries envelope jti body signedAt key claims)
    (sameQueue : consumer.queueArn = config.queueArn) {delivery : Delivery P consumer}
    (message : delivery.message.body = some published.queued.body) :
    ∃ date now rest, delivery.judging = date :: now :: rest ∧
      ∃ nowMs, now.event = ⟨.now, nowMs⟩ ∧
        ((toSeconds nowMs ≤ toSeconds signedAt + 900 ∧ delivery.Sound ("env:jti:" ++ jti)) ∨
          (toSeconds signedAt + 900 < toSeconds nowMs ∧ ¬ delivery.Authorizes)) := by
  have same : delivery.message = ⟨some published.queued.body, delivery.message.receiptHandle⟩ := by
    rw [← message]
  have run := delivery.judged
  rw [same, judgeMessage, runs_ofExcept_bind_iff (carries.parsed _)] at run
  have named (signed : JwtPayload) (read : signed.claims = claims) :
      "env:jti:" ++ jti = dedupKey signed.claims := by
    obtain ⟨correlationId, rfl⟩ := carries.claims
    rw [read]
    rfl
  obtain ⟨currentDate, nowMs, rest, shape, verdict⟩ : ∃ currentDate nowMs rest,
      delivery.judging.map Step.event = ⟨.date, currentDate⟩ :: ⟨.now, nowMs⟩ :: rest ∧
        ((∃ signed, signed.claims = claims ∧ toSeconds nowMs ≤ toSeconds signedAt + 900 ∧
            CheckedEnvelope P envelope (.object body) { expectedQueueArn := consumer.queueArn }
              currentDate nowMs signed) ∨
          (rest = [] ∧ toSeconds signedAt + 900 < toSeconds nowMs)) := by
    rcases runs_bind_iff.mp run with ⟨verified, before, after, split, verify, _⟩ |
      ⟨fault, verify, _⟩
    · obtain ⟨currentDate, nowMs, rest, rfl, checked | ⟨_, _, _, impossible⟩⟩ :=
        carries.verified sameQueue verify
      · exact ⟨currentDate, nowMs, rest ++ after, split, .inl checked⟩
      · cases impossible
    · obtain ⟨currentDate, nowMs, rest, split, checked | ⟨none, old, _⟩⟩ :=
        carries.verified sameQueue verify
      · exact ⟨currentDate, nowMs, rest, split, .inl checked⟩
      · exact ⟨currentDate, nowMs, rest, split, .inr ⟨none, old⟩⟩
  obtain ⟨date, _, judging, dateEvent, tail⟩ := List.map_eq_cons_iff.mp shape
  obtain ⟨now, late, rfl, nowEvent, ends⟩ := List.map_eq_cons_iff.mp tail
  refine ⟨date, now, late, judging, nowMs, nowEvent, ?_⟩
  rcases verdict with ⟨signed, read, young, checked⟩ | ⟨none, old⟩
  · exact .inl ⟨young, envelope, .object body, currentDate, nowMs, signed, rest,
      by rw [same]; exact carries.parsed _, shape, checked, named signed read⟩
  · refine .inr ⟨old, ?_⟩
    rintro ⟨step, member, input, reply, event⟩
    rw [none, List.map_eq_nil_iff] at ends
    rw [judging, ends] at member
    simp only [List.mem_cons, List.not_mem_nil, or_false] at member
    rcases member with rfl | rfl
    · cases dateEvent.symm.trans event
    · cases nowEvent.symm.trans event

/-- The authorizer is asked about the sender, with the scopes that it has signed. -/
theorem Published.Carries.asks (carries : published.Carries envelope jti body signedAt key claims)
    {delivery : Delivery P consumer} (message : delivery.message.body = some published.queued.body)
    {step : Step runtime Unit} (member : step ∈ delivery.judging) {input : AuthorizeInput}
    {reply : Except Fault AuthorizationResult} (event : step.event = ⟨.authorize input, reply⟩) :
    input = asyncInput config consumer := by
  have asked : (⟨.authorize input, reply⟩ : Event) ∈ delivery.judging.map Step.event :=
    List.mem_map.mpr ⟨step, member, event⟩
  obtain ⟨token, payload, verified, part, parsed, verify, rfl⟩ :=
    judgeMessage_authorize delivery.judged asked
  have same : delivery.message = ⟨some published.queued.body, delivery.message.receiptHandle⟩ := by
    rw [← message]
  rw [same, carries.parsed] at parsed
  cases parsed
  obtain ⟨currentDate, nowMs, signed, _, _, checked, _, _, rfl⟩ := verifyEnvelope_ok verify
  obtain ⟨other, carried, verifies⟩ := checked.signature
  rw [carries.carried] at carried
  cases carried
  obtain ⟨correlationId, shape⟩ := carries.claims
  have read := carries.read currentDate signed verifies
  rw [shape] at read
  rw [envelopeAuthorizeInput, read]
  rfl

end Consuming

namespace Published

variable {P : Platform} {config : CallingConfig} {consumer : ConsumerConfig}
  (published : Published P config)

/-- This is a delivery of the message. -/
def Delivers (delivery : Delivery P consumer) : Prop :=
  delivery.message.body = some published.queued.body

/-- The message is delivered after it was signed, and no delivery is judged for 23 hours. -/
structure Timed (run : ConsumerRun P consumer) : Prop where
  causal : ∀ delivery ∈ run.deliveries, published.Delivers delivery →
    ∀ step ∈ delivery.judging, ∀ moment, ⟨.date, moment⟩ ∈ published.routing → moment ≤ step.time
  prompt : ∀ delivery ∈ run.deliveries, published.Delivers delivery →
    ∀ first ∈ delivery.judging, ∀ second ∈ delivery.judging,
      second.time ≤ first.time + 23 * 3600 * 1000

/-- The delivery is judged within a quarter of an hour after the signature. -/
def InTime (delivery : Delivery P consumer) : Prop :=
  ∀ step ∈ delivery.judging, ∀ moment, ⟨.date, moment⟩ ∈ published.routing →
    step.time ≤ moment + 900 * 1000

variable {published} {envelope jti : String} {body : Json} {signedAt : Millis} {key : PublicKey}
  {claims : Obj} {run : ConsumerRun P consumer}

theorem now_of_judging {delivery : Delivery P consumer} (member : delivery ∈ run.deliveries)
    {step : Step runtime Unit} (judges : step ∈ delivery.judging) {moment : Millis}
    (event : step.event = ⟨.now, moment⟩) : moment = step.time := by
  apply run.clock step _ moment event
  apply run.judging_subset
  exact List.mem_flatMap.mpr ⟨delivery, member, judges⟩

/-- Two deliveries of the message are not both put to the authorizer. -/
theorem Carries.not_twice (carries : published.Carries envelope jti body signedAt key claims)
    (sameQueue : consumer.queueArn = config.queueArn)
    (aDay : consumer.dedupTtlSeconds = 24 * 60 * 60) (timed : published.Timed run)
    {before between after : List (Delivery P consumer)} {first second : Delivery P consumer}
    (split : run.deliveries = before ++ first :: between ++ second :: after)
    (one : published.Delivers first) (two : published.Delivers second)
    (authorizes : first.Authorizes) : ¬ second.Authorizes := by
  intro again
  have inFirst : first ∈ run.deliveries := by simp [split]
  have inSecond : second ∈ run.deliveries := by simp [split]
  obtain ⟨_, _, _, _, _, _, ⟨_, soundFirst⟩ | ⟨_, refused⟩⟩ := carries.judged sameQueue one
  · obtain ⟨date, now, rest, judging, nowMs, nowEvent, ⟨young, soundSecond⟩ | ⟨_, refused⟩⟩ :=
      carries.judged sameQueue two
    · obtain ⟨early, record, late, reply, shape, recordEvent, _, free⟩ :=
        first.claim_of_sound soundFirst
      obtain ⟨early', claim, late', reply', shape', claimEvent, _, _⟩ :=
        second.claim_of_sound soundSecond
      rw [free.mpr authorizes, aDay] at recordEvent
      have inRecord : record ∈ first.judging := by simp [shape]
      have inClaim : claim ∈ second.judging := by simp [shape']
      have inNow : now ∈ second.judging := by simp [judging]
      have expired := (run.authorizes_iff split soundSecond).mp again first (by simp) record inRecord
        _ recordEvent claim inClaim _ (by rw [claimEvent])
      have signed := timed.causal first inFirst one record inRecord signedAt carries.clock
      have prompt := timed.prompt second inSecond two now inNow claim inClaim
      have clock := now_of_judging inSecond inNow nowEvent
      rw [clock, toSeconds, toSeconds] at young
      omega
    · exact refused again
  · exact refused authorizes

/-- A delivery in time is put to the authorizer, unless another one has taken its record. -/
theorem Carries.authorizes (carries : published.Carries envelope jti body signedAt key claims)
    (sameQueue : consumer.queueArn = config.queueArn) {before after : List (Delivery P consumer)}
    {delivery : Delivery P consumer} (split : run.deliveries = before ++ delivery :: after)
    (delivers : published.Delivers delivery) (inTime : published.InTime delivery)
    (free : ∀ other ∈ before, ∀ record ∈ other.judging, ∀ ttl reply,
      record.event ≠ ⟨.redisSet ("env:jti:" ++ jti) ttl, reply⟩) : delivery.Authorizes := by
  have member : delivery ∈ run.deliveries := by simp [split]
  have sound : delivery.Sound ("env:jti:" ++ jti) := by
    obtain ⟨date, now, rest, judging, nowMs, nowEvent, ⟨_, sound⟩ | ⟨old, _⟩⟩ :=
      carries.judged sameQueue delivers
    · exact sound
    · have inNow : now ∈ delivery.judging := by simp [judging]
      have clock := now_of_judging member inNow nowEvent
      have young := inTime now inNow signedAt carries.clock
      rw [clock, toSeconds, toSeconds] at old
      omega
  refine (run.authorizes_iff split sound).mpr fun other inBefore record inOther ttl event => ?_
  exact absurd event (free other inBefore record inOther ttl _)

/-- A published message is put to the authorizer at most once, however often it is delivered, and
once where its first delivery comes in time. It is put there in the name of its sender, with the
scopes that the sender has signed, under the `jti` that the caller was told. -/
theorem authorized_once (published : Published P config) (run : ConsumerRun P consumer)
    (sameQueue : consumer.queueArn = config.queueArn)
    (aDay : consumer.dedupTtlSeconds = 24 * 60 * 60) (timed : published.Timed run) :
    ∃ jti, (∀ messageId name, published.reply = .accepted messageId name → name = jti) ∧
      (∀ delivery ∈ run.deliveries, published.Delivers delivery → ∀ step ∈ delivery.judging,
        ∀ input reply, step.event = ⟨.authorize input, reply⟩ →
          input = asyncInput config consumer) ∧
      (∀ before first between second after,
        run.deliveries = before ++ first :: between ++ second :: after →
          published.Delivers first → published.Delivers second → first.Authorizes →
            ¬ second.Authorizes) ∧
      ∀ before delivery after, run.deliveries = before ++ delivery :: after →
        published.Delivers delivery → published.InTime delivery →
          (∀ other ∈ before, ∀ record ∈ other.judging, ∀ ttl reply,
            record.event ≠ ⟨.redisSet ("env:jti:" ++ jti) ttl, reply⟩) → delivery.Authorizes := by
  obtain ⟨envelope, jti, body, signedAt, key, claims, carries⟩ := published.exists_carries
  refine ⟨jti, carries.told, ?_, ?_, ?_⟩
  · intro delivery _ delivers step member input reply event
    exact carries.asks delivers member event
  · intro before first between second after split one two
    exact carries.not_twice sameQueue aDay timed split one two
  · intro before delivery after split
    exact carries.authorizes sameQueue split

end Published

section Redelivered

def redeliveredKey : ActiveKey := { publicJwk := TokenTable.jwkOf ⟨1⟩, privateKey := ⟨1⟩ }

def redeliveredClaims : Obj :=
  envelopeClaims (asyncOptions sharedCalling) 1000 "drawn" "hash" "drawn"

def redeliveredBody : Json := .obj [("amount", .num 1)]

def redeliveredTable : TokenTable where
  tokens := [⟨"envelope", envelopeHeader redeliveredKey,
    JwtPayload.ofClaims redeliveredClaims (by decide +kernel), ⟨1⟩⟩]
  hashes := [("payload-text", "hash")]
  texts := [("payload-text", redeliveredBody),
    ("message-text", envelopeMessage "envelope" redeliveredBody)]

def redeliveredServices (moment : Millis) : SteadyServices where
  moment := moment
  keys _ := []
  signing := { privateKey := ⟨7⟩, publicJwk := [], kid := "" }
  signed := "envelope"

def redeliveredRequest : Request where
  method := "POST"
  protocol := "https"
  originalUrl := "/async"
  path := "/async"
  routePath := some "/async"
  headers := []
  body := some redeliveredBody

def redeliveredRoute : Act (Option QueuedMessage × AsyncReply) :=
  asyncRoute redeliveredTable.platform (some redeliveredKey) sharedCalling redeliveredRequest
    (.ok (some "message-1"))

def redeliveredQueued : QueuedMessage := { queueUrl := "https://queue", body := "message-text" }

theorem redeliveredRoute_outcome : (redeliveredServices 1000000).outcome redeliveredRoute =
    .ok (some redeliveredQueued, .accepted (some "message-1") "drawn") := by
  rfl

theorem redeliveredRoute_trace : (redeliveredServices 1000000).trace redeliveredRoute =
    [⟨.randomUUID, "drawn"⟩, ⟨.date, 1000000⟩, ⟨.randomUUID, "drawn"⟩,
      ⟨.signJwt (envelopeHeader redeliveredKey) redeliveredClaims ⟨1⟩, .ok "envelope"⟩] := by
  decide +kernel

theorem redelivered_signed : SignedJwt redeliveredTable.platform (envelopeHeader redeliveredKey)
    redeliveredClaims ⟨1⟩ "envelope" where
  header := rfl
  accepted _ _ := ⟨_, rfl⟩
  read moment payload verified := by
    have numeric := payload.numericDates
    cases verified
    exact ⟨rfl, .of_undated numeric rfl rfl moment⟩

/-- A message that is sent at 1000 s. -/
def redelivered : Published redeliveredTable.platform sharedCalling where
  current := some redeliveredKey
  req := redeliveredRequest
  sent := .ok (some "message-1")
  routing := (redeliveredServices 1000000).trace redeliveredRoute
  queued := redeliveredQueued
  reply := .accepted (some "message-1") "drawn"
  routed := by
    rw [← redeliveredRoute_outcome]
    exact SteadyServices.runs _ _
  signed := by
    intro header claims key envelope member
    rw [redeliveredRoute_trace] at member
    simp only [List.mem_cons, Effect.Event.mk.injEq, reduceCtorEq, false_and, false_or,
      List.not_mem_nil, or_false, Op.signJwt.injEq] at member
    obtain ⟨⟨rfl, rfl, rfl⟩, same⟩ := member
    cases eq_of_heq same
    exact redelivered_signed
  imports := by
    intro key same
    cases same
    rfl
  delivered := by
    intro header claims key envelope body member given
    rw [redeliveredRoute_trace] at member
    simp only [List.mem_cons, Effect.Event.mk.injEq, reduceCtorEq, false_and, false_or,
      List.not_mem_nil, or_false, Op.signJwt.injEq] at member
    obtain ⟨_, same⟩ := member
    cases eq_of_heq same
    cases given
    rfl

def ledgerConsumer : ConsumerConfig where
  queueUrl := "https://queue"
  queueArn := "arn:queue"
  resourcePrefix := "ledger"

def redeliveredMessage (receipt : String) : SqsMessage where
  body := some "message-text"
  receiptHandle := some receipt

def redeliveredEnvironment (moment : Millis) (claimed : Bool) : Environment runtime
  | _, .redisSet _ _ => .ok claimed
  | past, op => (redeliveredServices moment).environment past op

def redeliveredJudging (moment : Millis) (claimed : Bool) (receipt : String) :
    List Event × Except Fault AuthorizationResult :=
  (judgeMessage redeliveredTable.platform ledgerConsumer (redeliveredMessage receipt)).exec
    (redeliveredEnvironment moment claimed) []

def redeliveredTrace (moment : Millis) (claimed : Bool) : List Event :=
  ⟨.date, moment⟩ :: ⟨.now, moment⟩ :: ⟨.redisSet "env:jti:drawn" 86400, .ok claimed⟩ ::
    if claimed then
      [⟨.now, moment⟩, ⟨.authorize (asyncInput sharedCalling ledgerConsumer),
        .ok { decision := .allow, reasons := [], mode := .api }⟩]
    else []

/-- The message cannot be deleted after a decision. -/
def redeliveredDelivery (moment : Millis) (claimed : Bool) (receipt : String)
    (performs : (redeliveredJudging moment claimed receipt).1 = redeliveredTrace moment claimed)
    (decides : (redeliveredJudging moment claimed receipt).2.isOk = claimed) :
    Delivery redeliveredTable.platform ledgerConsumer where
  message := redeliveredMessage receipt
  judging := (redeliveredTrace moment claimed).map (fun event => ⟨(), moment, event⟩)
  decided := (redeliveredJudging moment claimed receipt).2
  deletion := if claimed then some (moment, .error (plainError "SQS unavailable")) else none
  judged := by
    have events : ((redeliveredTrace moment claimed).map
        (fun event => (⟨(), moment, event⟩ : Step runtime Unit))).map Step.event =
          redeliveredTrace moment claimed := by simp [Function.comp_def]
    rw [events, ← performs]
    exact exec_runs _ _ _
  deletes := by
    rw [decides]
    cases claimed <;> rfl

def decidedDelivery : Delivery redeliveredTable.platform ledgerConsumer :=
  redeliveredDelivery 1000000 true "receipt-1" (by decide +kernel) (by decide +kernel)

def repeatedDelivery : Delivery redeliveredTable.platform ledgerConsumer :=
  redeliveredDelivery 1030000 false "receipt-2" (by decide +kernel) (by decide +kernel)

def redeliveredSteps : History runtime Unit :=
  [⟨(), 1000000, ⟨.receiveMessages "https://queue", .ok [redeliveredMessage "receipt-1"]⟩⟩] ++
    ((redeliveredTrace 1000000 true).map (fun event => ⟨(), 1000000, event⟩) ++
      [⟨(), 1000000, ⟨.deleteMessage "https://queue" (some "receipt-1"),
        .error (plainError "SQS unavailable")⟩⟩]) ++
    [⟨(), 1030000, ⟨.receiveMessages "https://queue", .ok [redeliveredMessage "receipt-2"]⟩⟩] ++
    (redeliveredTrace 1030000 false).map (fun event => ⟨(), 1030000, event⟩)

/-- The message is received, decided on, and received again half a minute later. -/
def redeliveredRun : ConsumerRun redeliveredTable.platform ledgerConsumer where
  batches := [.single 1000000 decidedDelivery, .single 1030000 repeatedDelivery]
  ordered := by
    change redeliveredSteps.Ordered
    simp [History.Ordered, redeliveredSteps, redeliveredTrace]
  clock := by
    change ReadsClock redeliveredSteps
    simp [ReadsClock, redeliveredSteps, redeliveredTrace]
  redis := by
    have commands : redisCommands redeliveredSteps =
        [(1000000, .set "env:jti:drawn" 86400000 (some true)),
          (1030000, .set "env:jti:drawn" 86400000 (some false))] := rfl
    have vacant :
        ¬ ExpiringStore.Live ExpiringStore.State.empty 1000000 "env:jti:drawn" := by
      rintro ⟨_, impossible, _⟩
      cases impossible
    change RedisServes redeliveredSteps
    rw [RedisServes, commands]
    refine ⟨_, .cons (.stored vacant (by decide))
      (.cons (.refused ⟨87400000, ?_, by decide⟩ (by decide)) (.nil _))⟩
    rw [Function.update_self]
  answers := by
    change ∀ step ∈ redeliveredSteps, _
    simp [redeliveredSteps, redeliveredTrace]

theorem redelivered_date {moment : Millis} (read : ⟨.date, moment⟩ ∈ redelivered.routing) :
    moment = 1000000 := by
  obtain ⟨_, rfl⟩ := SteadyServices.replied read
  rfl

theorem redelivered_deliveries {delivery : Delivery redeliveredTable.platform ledgerConsumer}
    (member : delivery ∈ redeliveredRun.deliveries) :
    delivery = decidedDelivery ∨ delivery = repeatedDelivery := by
  change delivery ∈ [decidedDelivery, repeatedDelivery] at member
  simpa using member

theorem decided_time {step : Step runtime Unit} (member : step ∈ decidedDelivery.judging) :
    step.time = 1000000 := by
  obtain ⟨_, _, rfl⟩ := List.mem_map.mp member
  rfl

theorem repeated_time {step : Step runtime Unit} (member : step ∈ repeatedDelivery.judging) :
    step.time = 1030000 := by
  obtain ⟨_, _, rfl⟩ := List.mem_map.mp member
  rfl

theorem redelivered_timed : redelivered.Timed redeliveredRun where
  causal := by
    intro delivery member _ step judges moment read
    rw [redelivered_date read]
    obtain rfl | rfl := redelivered_deliveries member
    · rw [decided_time judges]
    · rw [repeated_time judges]
      decide
  prompt := by
    intro delivery member _ first inFirst second inSecond
    obtain rfl | rfl := redelivered_deliveries member
    · rw [decided_time inFirst, decided_time inSecond]
      decide
    · rw [repeated_time inFirst, repeated_time inSecond]
      decide

/-- It is put to the authorizer by the first delivery, and not by the second. -/
theorem redelivered_authorized : decidedDelivery.Authorizes ∧ ¬ repeatedDelivery.Authorizes := by
  obtain ⟨jti, _, _, once, reached⟩ :=
    Published.authorized_once redelivered redeliveredRun rfl rfl redelivered_timed
  have inTime : redelivered.InTime decidedDelivery := by
    intro step judges moment read
    rw [decided_time judges, redelivered_date read]
    decide
  have first : decidedDelivery.Authorizes :=
    reached [] decidedDelivery [repeatedDelivery] rfl rfl inTime (by simp)
  exact ⟨first, once [] decidedDelivery [] repeatedDelivery [] rfl rfl rfl first⟩

end Redelivered

end S2s
