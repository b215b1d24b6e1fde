import S2sStack.Envelope.Verify

set_option autoImplicit false

/- `consumers/sqsConsumer.ts`: one batch of queue messages. -/
namespace S2s

open Effect Effect.Program
open Js (Json Obj)

structure ConsumerConfig where
  queueUrl : String
  queueArn : String
  resourcePrefix : String
  /-- `createVerifyEnvelope({ redis })` keeps the default of a day. -/
  dedupTtlSeconds : Nat := 24 * 60 * 60

structure BatchResult where
  processed : Nat
  denied : Nat
  failed : Nat
  deriving DecidableEq, Repr

/-- The envelope and the payload of a message. `jose` refuses an envelope that is not a text. -/
def parseMessage (P : Platform) (message : SqsMessage) : Except Fault (String × EnvelopePayload) := do
  match ← P.parseJson (message.body.getD "\x7b\x7d") with
  | .null => .error (plainError "Cannot read properties of null (reading 'envelope')")
  | .obj parsed =>
      match Obj.get? "envelope" parsed with
      | some (.str envelope) =>
          .ok (envelope, match Obj.get? "payload" parsed with
            | some payload => .object payload
            | none => .undefined)
      | _ => .error (plainError "Token must be a string")
  | _ => .error (plainError "Token must be a string")

/-- `claims.scopes ?? []` -/
def envelopeScopes (claims : Obj) : Json :=
  (Js.nullish (claims.get? "scopes")).getD (.arr [])

/-- `authorize` of `envelopeAuth.ts` calls the authorizer with an empty token. -/
def envelopeAuthorizeInput (config : ConsumerConfig) (verified : VerifiedEnvelope) :
    AuthorizeInput where
  principal := verified.principal
  action := "Action::" ++ verified.action
  resource := "Resource::" ++ config.resourcePrefix ++ "::queue"
  token := ""
  context := some [("scopes", envelopeScopes verified.claims), ("dpop_confirmed", .bool false),
    ("source_domain", .str config.resourcePrefix)]

/-- The decision on one message. -/
def judgeMessage (P : Platform) (config : ConsumerConfig) (message : SqsMessage) :
    Act AuthorizationResult := do
  let (envelope, payload) ← ofExcept (parseMessage P message)
  let verified ← verifyEnvelope P config.dedupTtlSeconds envelope payload
    { expectedQueueArn := config.queueArn }
  Act.authorize (envelopeAuthorizeInput config verified)

/-- The body of the loop. A message that cannot be deleted counts as failed as well. -/
def processMessage (P : Platform) (config : ConsumerConfig) (result : BatchResult)
    (message : SqsMessage) : Act BatchResult := do
  let judged ← attempt (judgeMessage P config message)
  match judged with
  | .error _ => return { result with failed := result.failed + 1 }
  | .ok decision =>
      let counted :=
        if decision.decision = .allow then { result with processed := result.processed + 1 }
        else { result with denied := result.denied + 1 }
      let deleted ← attempt (Act.deleteMessage config.queueUrl message.receiptHandle)
      match deleted with
      | .ok _ => return counted
      | .error _ => return { counted with failed := counted.failed + 1 }

def processMessages (P : Platform) (config : ConsumerConfig) :
    BatchResult → List SqsMessage → Act BatchResult
  | result, [] => return result
  | result, message :: rest => do
      let counted ← processMessage P config result message
      processMessages P config counted rest

def processOneBatch (P : Platform) (config : ConsumerConfig) : Act BatchResult := do
  let messages ← Act.receiveMessages config.queueUrl
  processMessages P config { processed := 0, denied := 0, failed := 0 } messages

/-- The consumer asks for a decision on a verified envelope only. -/
theorem judgeMessage_authorize {P : Platform} {config : ConsumerConfig} {message : SqsMessage}
    {trace : List Event} {outcome : Except Fault AuthorizationResult}
    {input : AuthorizeInput} {reply : Except Fault AuthorizationResult}
    (run : Runs (judgeMessage P config message) trace outcome)
    (asked : ⟨.authorize input, reply⟩ ∈ trace) :
    ∃ envelope payload verified part, parseMessage P message = .ok (envelope, payload) ∧
      Runs (verifyEnvelope P config.dedupTtlSeconds envelope payload
        { expectedQueueArn := config.queueArn }) part (.ok verified) ∧
      input = envelopeAuthorizeInput config verified := by
  obtain ⟨⟨envelope, payload⟩, parsed, run⟩ := runs_ofExcept_bind_of_mem run asked
  replace run := run.skip (within_verifyEnvelope P _ envelope payload _) asked not_false
  clear asked
  obtain ⟨verified, part, _, rfl, verify, run, asked⟩ := run
  rw [Act.runs_authorize_iff] at run
  rw [run, List.mem_singleton] at asked
  cases asked
  exact ⟨envelope, payload, verified, part, parsed, verify, rfl⟩

/-- The consumer asks for a decision on a name exactly if the envelope of the message passes
the checks with that name in its `iss`. -/
theorem judgeMessage_asks_iff {P : Platform} {config : ConsumerConfig} {message : SqsMessage}
    {envelope : String} {payload : EnvelopePayload} {trace : List Event}
    {outcome : Except Fault AuthorizationResult}
    (parsed : parseMessage P message = .ok (envelope, payload))
    (run : Runs (judgeMessage P config message) trace outcome) (principal : String) :
    (∃ input reply, ⟨.authorize input, reply⟩ ∈ trace ∧ input.principal = principal) ↔
      ∃ signed, PassesChecks P config.dedupTtlSeconds envelope payload
          { expectedQueueArn := config.queueArn } trace signed ∧
        Js.toText (signed.claims.get? "iss") = principal := by
  rw [judgeMessage, runs_ofExcept_bind_iff parsed, runs_bind_iff] at run
  rcases run with ⟨verified, part, rest, rfl, verify, ask⟩ | ⟨fault, verify, _⟩
  · rw [Act.runs_authorize_iff] at ask
    obtain ⟨signed, passes, named⟩ := passesChecks_of_verified verify
    have asked : (∃ input reply, (⟨.authorize input, reply⟩ : Event) ∈ part ++ rest ∧
        input.principal = principal) ↔ verified.principal = principal := by
      constructor
      · rintro ⟨input, reply, member, rfl⟩
        rcases List.mem_append.mp member with early | last
        · exact (within_verifyEnvelope P _ _ _ _ _ _ verify _ early).elim
        · rw [ask, List.mem_singleton] at last
          cases last
          rfl
      · rintro rfl
        refine ⟨envelopeAuthorizeInput config verified, outcome, ?_, rfl⟩
        rw [ask]
        exact List.mem_append_right part (List.mem_singleton_self _)
    rw [asked, ← named]
    constructor
    · intro same
      exact ⟨signed, passes.append rest, same⟩
    · rintro ⟨again, passesAgain, same⟩
      rw [(passes.append rest).unique passesAgain]
      exact same
  · have unasked : ¬ ∃ input reply, (⟨.authorize input, reply⟩ : Event) ∈ trace ∧
        input.principal = principal := by
      rintro ⟨input, reply, member, _⟩
      exact within_verifyEnvelope P _ _ _ _ _ _ verify _ member
    refine iff_of_false unasked fun passes => ?_
    obtain ⟨_, impossible, _⟩ := (verifyEnvelope_accepts_iff verify principal).mpr passes
    cases impossible

/-- The operations of judging a message. -/
def isJudgingOp : Op → Prop
  | .authorize _ => True
  | op => isVerificationOp op

theorem within_judgeMessage (P : Platform) (config : ConsumerConfig) (message : SqsMessage) :
    Within isJudgingOp (judgeMessage P config message) := by
  refine Within.bind (Within.ofExcept _) fun parsed => ?_
  refine Within.bind ?_ fun verified => Within.command trivial
  refine (within_verifyEnvelope P _ _ _ _).mono fun op isVerification => ?_
  cases op with
  | authorize input => exact trivial
  | _ => exact isVerification

theorem judgeMessage_ok {P : Platform} {config : ConsumerConfig} {message : SqsMessage}
    {trace : List Event} {decision : AuthorizationResult}
    (run : Runs (judgeMessage P config message) trace (.ok decision)) :
    ∃ input, ⟨.authorize input, .ok decision⟩ ∈ trace := by
  rw [judgeMessage, runs_ofExcept_bind_ok] at run
  obtain ⟨⟨envelope, payload⟩, _, run⟩ := run
  rw [runs_bind_ok] at run
  obtain ⟨verified, before, after, rfl, _, ask⟩ := run
  rw [Act.runs_authorize_iff] at ask
  rw [ask]
  exact ⟨_, List.mem_append_right before (List.mem_singleton_self _)⟩

/-- A checked message is put to the authorizer exactly if the record of its envelope is free. -/
theorem judgeMessage_of_checked {P : Platform} {config : ConsumerConfig} {message : SqsMessage}
    {envelope : String} {payload : EnvelopePayload} {currentDate nowMs : Millis}
    {signed : JwtPayload} {trace : List Event} {outcome : Except Fault AuthorizationResult}
    (parsed : parseMessage P message = .ok (envelope, payload))
    (checked : CheckedEnvelope P envelope payload { expectedQueueArn := config.queueArn } currentDate
      nowMs signed)
    (run : Runs (judgeMessage P config message) (⟨.date, currentDate⟩ :: ⟨.now, nowMs⟩ :: trace)
      outcome) :
    ∃ reply rest, trace = ⟨.redisSet (dedupKey signed.claims) config.dedupTtlSeconds, reply⟩ :: rest ∧
      (∀ event ∈ rest, ∀ key ttl, event.op ≠ .redisSet key ttl) ∧
      (reply = .ok true ↔ ∃ input answer, ⟨.authorize input, answer⟩ ∈ rest) := by
  rw [judgeMessage, runs_ofExcept_bind_iff parsed, runs_bind_iff] at run
  rcases run with ⟨verified, before, after, split, verify, ask⟩ | ⟨fault, verify, rfl⟩
  · obtain ⟨_, _, _, _, _, _, rfl, _⟩ := verifyEnvelope_ok verify
    rw [List.cons_append, List.cons_append] at verify split
    simp only [List.cons_append, List.cons.injEq] at split
    obtain ⟨date, now, rfl⟩ := split
    cases date
    cases now
    have admitting := checked.runs_iff.mp verify
    obtain ⟨reply, rest, claimed, accepted, quiet⟩ := runs_admitEnvelope rfl admitting
    rw [Act.runs_authorize_iff] at ask
    refine ⟨reply, rest ++ after, by rw [claimed, List.cons_append], ?_, ?_⟩
    · intro event member key ttl
      rcases List.mem_append.mp member with early | last
      · simp [quiet event early]
      · rw [ask] at last
        simp [List.mem_singleton.mp last]
    refine iff_of_true (accepted.mpr ⟨verified, rfl⟩)
      ⟨envelopeAuthorizeInput config verified, outcome, ?_⟩
    rw [ask]
    exact List.mem_append_right rest (List.mem_singleton_self _)
  · rw [checked.runs_iff] at verify
    obtain ⟨reply, rest, rfl, accepted, quiet⟩ := runs_admitEnvelope rfl verify
    refine ⟨reply, rest, rfl, fun event member => by simp [quiet event member], iff_of_false ?_ ?_⟩
    · intro claimed
      obtain ⟨_, impossible⟩ := accepted.mp claimed
      cases impossible
    · rintro ⟨input, answer, asked⟩
      cases quiet _ asked

theorem runs_deleteMessage_iff {queueUrl : String} {receiptHandle : Option String}
    {trace : List Event} {outcome : Except Fault Unit} :
    Runs (Act.deleteMessage queueUrl receiptHandle) trace outcome ↔
      trace = [⟨.deleteMessage queueUrl receiptHandle, outcome⟩] := by
  simp only [Act.deleteMessage, runs_command_iff, id_eq, exists_eq_right']

end S2s
