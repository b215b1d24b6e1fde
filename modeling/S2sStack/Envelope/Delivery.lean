import S2sStack.Dpop.RedisHistory
import S2sStack.Envelope.Consumer
import S2sStack.TokenTable

set_option autoImplicit false

/- Batches one after the other: what happens to each message that is received, and to one
that is received again. -/
namespace S2s

open Effect Effect.Program
open Js (Json Obj)

def BatchResult.zero : BatchResult := { processed := 0, denied := 0, failed := 0 }

def BatchResult.total (result : BatchResult) : Nat :=
  result.processed + result.denied + result.failed

/-- One message of a batch: the judging of it, and its deletion after a decision. -/
structure Delivery (P : Platform) (config : ConsumerConfig) where
  message : SqsMessage
  judging : History runtime Unit
  decided : Except Fault AuthorizationResult
  /-- the time of the `DeleteMessage` call, and its reply -/
  deletion : Option (Nat × Except Fault Unit)
  judged : Runs (judgeMessage P config message) (judging.map Step.event) decided
  deletes : deletion.isSome = decided.isOk

namespace Delivery

variable {P : Platform} {config : ConsumerConfig} (delivery : Delivery P config)

def deleting : History runtime Unit :=
  delivery.deletion.toList.map (fun sent =>
    ⟨(), sent.1, ⟨.deleteMessage config.queueUrl delivery.message.receiptHandle, sent.2⟩⟩)

def steps : History runtime Unit := delivery.judging ++ delivery.deleting

/-- The message is still in the queue after a decision. -/
def deleteFailed : Bool := delivery.deletion.any (fun sent => !sent.2.isOk)

def countDecision (result : BatchResult) : Except Fault AuthorizationResult → BatchResult
  | .ok decision =>
      if decision.decision = .allow then { result with processed := result.processed + 1 }
      else { result with denied := result.denied + 1 }
  | .error _ => { result with failed := result.failed + 1 }

/-- What the batch counts for the message. -/
def count (result : BatchResult) : BatchResult :=
  let counted := countDecision result delivery.decided
  if delivery.deleteFailed then { counted with failed := counted.failed + 1 } else counted

theorem countDecision_total (result : BatchResult) (decided : Except Fault AuthorizationResult) :
    (countDecision result decided).total = result.total + 1 := by
  cases decided with
  | error fault => simp only [countDecision, BatchResult.total]; omega
  | ok decision =>
      simp only [countDecision, BatchResult.total]
      split <;> simp only <;> omega

/-- A message that cannot be deleted is counted twice. -/
theorem count_total (result : BatchResult) :
    (delivery.count result).total = result.total + 1 + if delivery.deleteFailed then 1 else 0 := by
  have counted := countDecision_total result delivery.decided
  unfold BatchResult.total at counted
  simp only [count, BatchResult.total]
  cases delivery.deleteFailed with
  | true => simp only [↓reduceIte]; omega
  | false => simp only [Bool.false_eq_true, ↓reduceIte]; omega

theorem runs_processMessage_iff {message : SqsMessage} {result : BatchResult}
    {steps : History runtime Unit} {outcome : Except Fault BatchResult} :
    Runs (processMessage P config result message) (steps.map Step.event) outcome ↔
      ∃ delivery : Delivery P config, delivery.message = message ∧ delivery.steps = steps ∧
        outcome = .ok (delivery.count result) := by
  constructor
  · intro run
    rw [processMessage, runs_attempt_bind_iff] at run
    obtain ⟨judged, before, after, split, judge, run⟩ := run
    obtain ⟨judging, late, rfl, rfl, rfl⟩ := List.map_eq_append_iff.mp split
    cases judged with
    | error fault =>
        obtain ⟨done, rfl⟩ := runs_pure_iff.mp run
        refine ⟨⟨message, judging, .error fault, none, judge, rfl⟩, rfl, ?_, rfl⟩
        simp [steps, deleting, List.map_eq_nil_iff.mp done]
    | ok decision =>
        dsimp only at run
        obtain ⟨deleted, first, rest', split, deletion, rest⟩ := runs_attempt_bind_iff.mp run
        rw [runs_deleteMessage_iff] at deletion
        have counted : rest' = [] ∧ outcome = .ok (count ⟨message, judging, .ok decision,
            some (0, deleted), judge, rfl⟩ result) := by
          cases deleted with
          | ok _ => exact runs_pure_iff.mp rest
          | error fault => exact runs_pure_iff.mp rest
        obtain ⟨rfl, rfl⟩ := counted
        rw [deletion, List.append_nil, List.map_eq_singleton_iff] at split
        obtain ⟨step, rfl, event⟩ := split
        refine ⟨⟨message, judging, .ok decision, some (step.time, deleted), judge, rfl⟩, rfl,
          ?_, rfl⟩
        simp [steps, deleting, ← event]
  · rintro ⟨⟨message, judging, decided, deletion, judged, deletes⟩, rfl, rfl, rfl⟩
    rw [processMessage, steps, List.map_append]
    refine Runs.bind (runs_attempt_iff.mpr ⟨_, judged, rfl⟩) ?_
    cases decided with
    | error fault =>
        cases deletion with
        | none => exact .done _
        | some sent => cases deletes
    | ok decision =>
        cases deletion with
        | none => cases deletes
        | some sent =>
            obtain ⟨time, reply⟩ := sent
            have delete : Runs (attempt (Act.deleteMessage config.queueUrl message.receiptHandle))
                [⟨.deleteMessage config.queueUrl message.receiptHandle, reply⟩] (.ok reply) :=
              runs_attempt_iff.mpr ⟨_, runs_deleteMessage_iff.mpr rfl, rfl⟩
            change Runs _ ([_] ++ []) _
            refine Runs.bind delete ?_
            cases reply with
            | ok _ => exact .done _
            | error fault => exact .done _

theorem runs_processMessages_iff {messages : List SqsMessage} {result : BatchResult}
    {steps : History runtime Unit} {outcome : Except Fault BatchResult} :
    Runs (processMessages P config result messages) (steps.map Step.event) outcome ↔
      ∃ deliveries : List (Delivery P config), deliveries.map Delivery.message = messages ∧
        deliveries.flatMap Delivery.steps = steps ∧
        outcome = .ok (deliveries.foldl (fun result delivery => delivery.count result) result) := by
  induction messages generalizing result steps with
  | nil =>
      rw [processMessages, runs_pure_iff]
      constructor
      · rintro ⟨done, rfl⟩
        exact ⟨[], rfl, (List.map_eq_nil_iff.mp done).symm, rfl⟩
      · rintro ⟨deliveries, none, rfl, rfl⟩
        rw [List.map_eq_nil_iff.mp none]
        exact ⟨rfl, rfl⟩
  | cons message rest ih =>
      rw [processMessages, runs_bind_iff]
      constructor
      · rintro (⟨counted, before, after, split, process, more⟩ | ⟨fault, process, _⟩)
        · obtain ⟨first, others, rfl, rfl, rfl⟩ := List.map_eq_append_iff.mp split
          obtain ⟨delivery, rfl, rfl, same⟩ := runs_processMessage_iff.mp process
          cases same
          obtain ⟨deliveries, rfl, rfl, rfl⟩ := ih.mp more
          exact ⟨delivery :: deliveries, rfl, rfl, rfl⟩
        · obtain ⟨_, _, _, impossible⟩ := runs_processMessage_iff.mp process
          cases impossible
      · rintro ⟨deliveries, named, rfl, rfl⟩
        cases deliveries with
        | nil => cases named
        | cons delivery others =>
            simp only [List.map_cons, List.cons.injEq] at named
            obtain ⟨rfl, rfl⟩ := named
            refine .inl ⟨delivery.count result, delivery.steps.map Step.event,
              (others.flatMap Delivery.steps).map Step.event, by simp, ?_, ?_⟩
            · exact runs_processMessage_iff.mpr ⟨delivery, rfl, rfl, rfl⟩
            · exact ih.mpr ⟨others, rfl, rfl, rfl⟩

theorem runs_processOneBatch {deliveries : List (Delivery P config)} {messages : List SqsMessage}
    (delivered : deliveries.map Delivery.message = messages) :
    Runs (processOneBatch P config)
      (⟨.receiveMessages config.queueUrl, .ok messages⟩ ::
        (deliveries.flatMap Delivery.steps).map Step.event)
      (.ok (deliveries.foldl (fun result delivery => delivery.count result) .zero)) := by
  rw [← List.singleton_append]
  refine Runs.bind (Act.runs_receiveMessages_iff.mpr rfl) ?_
  exact runs_processMessages_iff.mpr ⟨deliveries, delivered, rfl, rfl⟩

end Delivery

/-- A run of `processOneBatch`, message by message. -/
structure Batch (P : Platform) (config : ConsumerConfig) where
  time : Nat
  received : Except Fault (List SqsMessage)
  deliveries : List (Delivery P config)
  outcome : Except Fault BatchResult
  delivered : deliveries.map Delivery.message = received.toOption.getD []
  ran : Runs (processOneBatch P config)
    (⟨.receiveMessages config.queueUrl, received⟩ ::
      (deliveries.flatMap Delivery.steps).map Step.event) outcome

namespace Batch

variable {P : Platform} {config : ConsumerConfig}

def steps (batch : Batch P config) : History runtime Unit :=
  ⟨(), batch.time, ⟨.receiveMessages config.queueUrl, batch.received⟩⟩ ::
    batch.deliveries.flatMap Delivery.steps

/-- Every run of `processOneBatch` is such a batch. -/
theorem exists_of_runs {steps : History runtime Unit} {outcome : Except Fault BatchResult}
    (run : Runs (processOneBatch P config) (steps.map Step.event) outcome) :
    ∃ batch : Batch P config, batch.steps = steps ∧ batch.outcome = outcome := by
  have ran := run
  rcases runs_bind_iff.mp run with ⟨messages, before, after, split, receive, rest⟩ |
    ⟨fault, receive, _⟩
  · obtain ⟨first, others, rfl, rfl, rfl⟩ := List.map_eq_append_iff.mp split
    rw [Act.runs_receiveMessages_iff, List.map_eq_singleton_iff] at receive
    obtain ⟨step, rfl, event⟩ := receive
    obtain ⟨deliveries, rfl, rfl, _⟩ := Delivery.runs_processMessages_iff.mp rest
    rw [List.map_append, List.map_singleton, event] at ran
    refine ⟨⟨step.time, .ok _, deliveries, outcome, rfl, ran⟩, ?_, rfl⟩
    simp [steps, ← event]
  · rw [Act.runs_receiveMessages_iff] at receive
    rw [receive] at ran
    obtain ⟨step, rfl, event⟩ := List.map_eq_singleton_iff.mp receive
    refine ⟨⟨step.time, .error fault, [], outcome, rfl, ran⟩, ?_, rfl⟩
    simp [steps, ← event]

theorem judging_of_authorize {batch : Batch P config} {step : Step runtime Unit}
    {input : AuthorizeInput} {reply : Except Fault AuthorizationResult} (member : step ∈ batch.steps)
    (event : step.event = ⟨.authorize input, reply⟩) :
    ∃ delivery ∈ batch.deliveries, step ∈ delivery.judging := by
  rcases List.mem_cons.mp member with rfl | inside
  · cases event
  obtain ⟨delivery, delivered, inside⟩ := List.mem_flatMap.mp inside
  rcases List.mem_append.mp inside with judged | deletes
  · exact ⟨delivery, delivered, judged⟩
  · obtain ⟨sent, _, rfl⟩ := List.mem_map.mp deletes
    cases event

/-- Every decision that a batch asks for is asked in judging one of its messages. -/
theorem authorize_of_runs {trace : List Event} {outcome : Except Fault BatchResult}
    {input : AuthorizeInput} {reply : Except Fault AuthorizationResult}
    (run : Runs (processOneBatch P config) trace outcome)
    (asked : ⟨.authorize input, reply⟩ ∈ trace) :
    ∃ messages, ⟨.receiveMessages config.queueUrl, .ok messages⟩ ∈ trace ∧
      ∃ message ∈ messages, ∃ judging decided, judging ⊆ trace ∧
        Runs (judgeMessage P config message) judging decided ∧
        ⟨.authorize input, reply⟩ ∈ judging := by
  have timed : (trace.map (Step.mk () 0)).map Step.event = trace := by
    rw [List.map_map]
    exact List.map_id' trace
  rw [← timed] at run
  obtain ⟨batch, steps, -⟩ := exists_of_runs run
  have events : trace = ⟨.receiveMessages config.queueUrl, batch.received⟩ ::
      (batch.deliveries.flatMap Delivery.steps).map Step.event := by
    rw [← timed, ← steps]
    rfl
  rw [events] at asked
  obtain ⟨step, member, event⟩ : ∃ step ∈ batch.steps, step.event = ⟨.authorize input, reply⟩ :=
    List.mem_map.mp asked
  obtain ⟨delivery, delivered, judged⟩ := judging_of_authorize member event
  have named : delivery.message ∈ batch.received.toOption.getD [] := by
    rw [← batch.delivered]
    exact List.mem_map.mpr ⟨delivery, delivered, rfl⟩
  cases received : batch.received with
  | error fault =>
      rw [received] at named
      cases named
  | ok messages =>
      rw [received] at named events
      refine ⟨messages, by simp [events], delivery.message, named, delivery.judging.map Step.event,
        delivery.decided, ?_, delivery.judged, List.mem_map.mpr ⟨step, judged, event⟩⟩
      intro part found
      obtain ⟨judging, within, rfl⟩ := List.mem_map.mp found
      rw [events]
      apply List.mem_cons_of_mem
      apply List.mem_map_of_mem
      exact List.mem_flatMap.mpr ⟨delivery, delivered, List.mem_append_left _ within⟩

theorem length_deliveries {batch : Batch P config} {messages : List SqsMessage}
    (received : batch.received = .ok messages) : batch.deliveries.length = messages.length := by
  have delivered := batch.delivered
  rw [received] at delivered
  rw [← List.length_map Delivery.message, delivered]
  rfl

/-- The counts of a batch are those of its messages. -/
theorem outcome_eq {batch : Batch P config} {messages : List SqsMessage}
    (received : batch.received = .ok messages) :
    batch.outcome =
      .ok (batch.deliveries.foldl (fun result delivery => delivery.count result) .zero) := by
  have delivered := batch.delivered
  have ran := batch.ran
  rw [received] at delivered ran
  exact ran.result_eq (Delivery.runs_processOneBatch delivered)

end Batch

/-- One batch after the other, in front of one Redis that answers every command. -/
structure ConsumerRun (P : Platform) (config : ConsumerConfig) where
  batches : List (Batch P config)
  ordered : History.Ordered (batches.flatMap Batch.steps)
  clock : ReadsClock (batches.flatMap Batch.steps)
  redis : RedisServes (batches.flatMap Batch.steps)
  answers : ∀ step ∈ batches.flatMap Batch.steps, ∀ key ttl reply,
    step.event = ⟨.redisSet key ttl, reply⟩ → ∃ claimed, reply = .ok claimed

namespace Delivery

variable {P : Platform} {config : ConsumerConfig} (delivery : Delivery P config)

def AuthorizeThrew : Prop :=
  ∃ step ∈ delivery.judging, ∃ input fault, step.event = ⟨.authorize input, .error fault⟩

def Authorizes : Prop :=
  ∃ step ∈ delivery.judging, ∃ input reply, step.event = ⟨.authorize input, reply⟩

/-- The message is validly signed and not stale, and this is the key of its envelope. -/
def Sound (key : String) : Prop :=
  ∃ envelope payload currentDate nowMs signed rest,
    parseMessage P delivery.message = .ok (envelope, payload) ∧
    delivery.judging.map Step.event = ⟨.date, currentDate⟩ :: ⟨.now, nowMs⟩ :: rest ∧
    CheckedEnvelope P envelope payload { expectedQueueArn := config.queueArn } currentDate nowMs
      signed ∧
    key = dedupKey signed.claims

theorem judging_op {step : Step runtime Unit} (member : step ∈ delivery.judging) :
    isJudgingOp step.event.op :=
  within_judgeMessage P config _ _ _ delivery.judged step.event (List.mem_map_of_mem member)

/-- A sound message claims the record of its envelope, and is authorized if it was free. -/
theorem claim_of_sound {key : String} (sound : delivery.Sound key) :
    ∃ early claim late reply, delivery.judging = early ++ claim :: late ∧
      claim.event = ⟨.redisSet key config.dedupTtlSeconds, reply⟩ ∧
      (∀ step ∈ early ++ late, ∀ other ttl, step.event.op ≠ .redisSet other ttl) ∧
      (reply = .ok true ↔ delivery.Authorizes) := by
  obtain ⟨envelope, payload, currentDate, nowMs, signed, rest, parsed, shape, checked, rfl⟩ := sound
  have judged := delivery.judged
  rw [shape] at judged
  obtain ⟨reply, last, rfl, quiet, asked⟩ := judgeMessage_of_checked parsed checked judged
  obtain ⟨date, _, judging, dateEvent, shape⟩ := List.map_eq_cons_iff.mp shape
  obtain ⟨now, _, rfl, nowEvent, shape⟩ := List.map_eq_cons_iff.mp shape
  obtain ⟨claim, late, rfl, claimEvent, rfl⟩ := List.map_eq_cons_iff.mp shape
  refine ⟨[date, now], claim, late, reply, judging, claimEvent, ?_, ?_⟩
  · intro step member other ttl
    simp only [List.mem_append, List.mem_cons, List.not_mem_nil, or_false] at member
    rcases member with (rfl | rfl) | later
    · simp [dateEvent]
    · simp [nowEvent]
    · exact quiet step.event (List.mem_map_of_mem later) other ttl
  · rw [asked]
    constructor
    · rintro ⟨input, answer, member⟩
      obtain ⟨step, later, event⟩ := List.mem_map.mp member
      exact ⟨step, by simp [judging, later], input, answer, event⟩
    · rintro ⟨step, member, input, answer, event⟩
      simp only [judging, List.mem_cons] at member
      rcases member with rfl | rfl | rfl | later
      · cases dateEvent.symm.trans event
      · cases nowEvent.symm.trans event
      · cases claimEvent.symm.trans event
      · exact ⟨input, answer, List.mem_map.mpr ⟨step, later, event⟩⟩

/-- A step that is not part of the judging follows all of it, and is the deletion. -/
theorem deleted_after {early late : History runtime Unit} {step : Step runtime Unit}
    (split : delivery.steps = early ++ step :: late) (unjudged : step ∉ delivery.judging) :
    delivery.judging ⊆ early ∧ step ∈ delivery.deleting := by
  rw [steps, List.append_eq_append_iff] at split
  rcases split with ⟨middle, rfl, deleting⟩ | ⟨middle, judging, rest⟩
  · exact ⟨List.subset_append_left _ _, by simp [deleting]⟩
  · cases middle with
    | nil =>
        rw [List.nil_append] at rest
        rw [List.append_nil] at judging
        exact ⟨by rw [judging]; exact List.Subset.refl _, by simp [← rest]⟩
    | cons found others =>
        rw [List.cons_append, List.cons.injEq] at rest
        exact absurd (by simp [judging, rest.1]) unjudged

/-- A message that is deleted was decided. -/
theorem decided_of_deleting {step : Step runtime Unit} (deleting : step ∈ delivery.deleting) :
    ∃ decided ∈ delivery.judging, ∃ input decision,
      decided.event = ⟨.authorize input, .ok decision⟩ := by
  have deletes := delivery.deletes
  cases sent : delivery.deletion with
  | none => simp [Delivery.deleting, sent] at deleting
  | some reply =>
      rw [sent] at deletes
      have judged := delivery.judged
      cases outcome : delivery.decided with
      | error fault =>
          rw [outcome] at deletes
          cases deletes
      | ok decision =>
          rw [outcome] at judged
          obtain ⟨input, member⟩ := judgeMessage_ok judged
          obtain ⟨decided, inJudging, event⟩ := List.mem_map.mp member
          exact ⟨decided, inJudging, input, decision, event⟩

end Delivery

namespace ConsumerRun

variable {P : Platform} {config : ConsumerConfig} (run : ConsumerRun P config)

def history : History runtime Unit := run.batches.flatMap Batch.steps

def deliveries : List (Delivery P config) := run.batches.flatMap Batch.deliveries

/-- A message is received again, and no decision was reached in between. -/
structure Redelivers (before : List (Delivery P config)) (first second : Delivery P config)
    (between : List (Delivery P config)) : Prop where
  order : ∃ after, run.deliveries = before ++ first :: between ++ second :: after
  message : second.message.body = first.message.body
  undecided : ∀ delivery ∈ between, delivery.message.body = first.message.body →
    ∃ fault, delivery.decided = .error fault

/-- A message whose `authorize` call threw is authorized again. -/
def Reauthorizes : Prop :=
  ∀ before first second between key, run.Redelivers before first second between →
    first.AuthorizeThrew → second.Sound key → second.Authorizes

/-- A message is deleted only after a decision was reached for it. -/
def DeletesDecided : Prop :=
  ∀ before step after, run.history = before ++ step :: after → ∀ queueUrl receiptHandle,
    step.event.op = .deleteMessage queueUrl receiptHandle →
      ∃ delivery ∈ run.deliveries, delivery.message.receiptHandle = receiptHandle ∧
        ∃ decided ∈ before, decided ∈ delivery.judging ∧
          ∃ input decision, decided.event = ⟨.authorize input, .ok decision⟩

/-- The counts of a batch add up to the number of messages received. -/
def CountsOnce : Prop :=
  ∀ batch ∈ run.batches, ∀ messages, batch.received = .ok messages →
    ∃ result, batch.outcome = .ok result ∧ result.total = messages.length

/-- A message whose `authorize` call threw comes back when all records of its `jti` have
expired. -/
def RecordsExpired : Prop :=
  ∀ before first second between key, run.Redelivers before first second between →
    first.AuthorizeThrew → second.Sound key →
      ∀ earlier ∈ before ++ first :: between, ∀ record ∈ earlier.judging, ∀ ttl,
        record.event = ⟨.redisSet key ttl, .ok true⟩ →
          ∀ claim ∈ second.judging, ∀ claimTtl, claim.event.op = .redisSet key claimTtl →
            record.time + ttl * 1000 ≤ claim.time

/-- No `DeleteMessage` call throws. -/
def DeletesSucceed : Prop := ∀ delivery ∈ run.deliveries, delivery.deleteFailed = false

section Counts

theorem total_foldl (deliveries : List (Delivery P config)) (result : BatchResult) :
    (deliveries.foldl (fun result delivery => delivery.count result) result).total =
      result.total + deliveries.length + deliveries.countP Delivery.deleteFailed := by
  induction deliveries generalizing result with
  | nil => simp
  | cons delivery rest ih =>
      rw [List.foldl_cons, ih, Delivery.count_total, List.length_cons, List.countP_cons]
      omega

theorem countsOnce_iff : run.CountsOnce ↔ run.DeletesSucceed := by
  constructor
  · intro counts delivery member
    obtain ⟨batch, inRun, inBatch⟩ := List.mem_flatMap.mp member
    cases received : batch.received with
    | error fault =>
        have delivered := batch.delivered
        rw [received] at delivered
        rw [List.map_eq_nil_iff.mp delivered] at inBatch
        cases inBatch
    | ok messages =>
        obtain ⟨result, outcome, total⟩ := counts batch inRun messages received
        rw [Batch.outcome_eq received, Except.ok.injEq] at outcome
        rw [← outcome, total_foldl, Batch.length_deliveries received] at total
        have none_failed : batch.deliveries.countP Delivery.deleteFailed = 0 := by
          simp only [BatchResult.zero, BatchResult.total] at total
          omega
        rw [← Bool.not_eq_true]
        exact List.countP_eq_zero.mp none_failed delivery inBatch
  · intro succeed batch inRun messages received
    refine ⟨_, Batch.outcome_eq received, ?_⟩
    have none_failed : batch.deliveries.countP Delivery.deleteFailed = 0 := by
      apply List.countP_eq_zero.mpr
      intro delivery inBatch failed
      have succeeded := succeed delivery (List.mem_flatMap.mpr ⟨batch, inRun, inBatch⟩)
      rw [failed] at succeeded
      cases succeeded
    rw [total_foldl, Batch.length_deliveries received, none_failed]
    simp [BatchResult.zero, BatchResult.total]

end Counts

section Records

/-- The steps of the run that reach Redis. -/
def judging : History runtime Unit := run.deliveries.flatMap Delivery.judging

theorem redisCommands_flatMap {α : Type} (items : List α) (steps : α → History runtime Unit) :
    redisCommands (items.flatMap steps) =
      items.flatMap (fun item => redisCommands (steps item)) := by
  induction items with
  | nil => rfl
  | cons item rest ih => rw [List.flatMap_cons, redisCommands_append, ih, List.flatMap_cons]

theorem redisCommands_judging : redisCommands run.judging = redisCommands run.history := by
  have delivered (delivery : Delivery P config) :
      redisCommands delivery.steps = redisCommands delivery.judging := by
    rw [Delivery.steps, redisCommands_append]
    cases deletion : delivery.deletion with
    | none => simp [Delivery.deleting, deletion, redisCommands]
    | some sent => simp [Delivery.deleting, deletion, redisCommands, redisCommand]
  have batched (batch : Batch P config) : redisCommands batch.steps =
      batch.deliveries.flatMap (fun delivery => redisCommands delivery.judging) := by
    rw [Batch.steps, ← List.singleton_append, redisCommands_append, redisCommands_flatMap]
    simp only [delivered]
    rfl
  rw [judging, history, deliveries, redisCommands_flatMap, redisCommands_flatMap,
    List.flatMap_assoc]
  simp only [batched]

theorem judging_subset {step : Step runtime Unit} (member : step ∈ run.judging) :
    step ∈ run.history := by
  obtain ⟨delivery, inRun, inDelivery⟩ := List.mem_flatMap.mp member
  obtain ⟨batch, inBatches, inBatch⟩ := List.mem_flatMap.mp inRun
  refine List.mem_flatMap.mpr ⟨batch, inBatches, List.mem_cons_of_mem _ ?_⟩
  exact List.mem_flatMap.mpr ⟨delivery, inBatch, List.mem_append_left _ inDelivery⟩

theorem judging_redis : RedisServes run.judging := by
  rw [RedisServes, redisCommands_judging]
  exact run.redis

theorem judging_no_delete (key : String) :
    ∀ step ∈ run.judging, step.event.op ≠ .redisDel key := by
  intro step member deleted
  obtain ⟨delivery, _, inDelivery⟩ := List.mem_flatMap.mp member
  have judges := delivery.judging_op inDelivery
  rw [deleted] at judges
  exact judges

/-- The claim of a sound message is accepted exactly if all records of its key have expired. -/
theorem authorizes_iff {earlier after : List (Delivery P config)} {delivery : Delivery P config}
    {key : String} (split : run.deliveries = earlier ++ delivery :: after)
    (sound : delivery.Sound key) :
    delivery.Authorizes ↔ ∀ other ∈ earlier, ∀ record ∈ other.judging, ∀ ttl,
      record.event = ⟨.redisSet key ttl, .ok true⟩ →
        ∀ claim ∈ delivery.judging, ∀ claimTtl, claim.event.op = .redisSet key claimTtl →
          record.time + ttl * 1000 ≤ claim.time := by
  obtain ⟨early, claim, late, reply, judged, claimEvent, quiet, free⟩ :=
    delivery.claim_of_sound sound
  have claimSplit : run.judging = (earlier.flatMap Delivery.judging ++ early) ++
      claim :: (late ++ after.flatMap Delivery.judging) := by
    simp [judging, split, judged]
  have answered (step : Step runtime Unit) (member : step ∈ run.judging) {ttl : Nat}
      {given : Except Fault Bool} (event : step.event = ⟨.redisSet key ttl, given⟩) :
      ∃ claimed, given = .ok claimed :=
    run.answers step (run.judging_subset member) key ttl given event
  obtain ⟨claimed, rfl⟩ := answered claim (by simp [claimSplit]) claimEvent
  have accepted_iff := run.judging_redis.accepted_iff (run.judging_no_delete key) claimSplit
    claimEvent fun step member ttl reply event =>
      answered step (by rw [claimSplit]; exact List.mem_append_left _ member) event
  have claims : (Except.ok claimed : Except Fault Bool) = .ok true ↔ claimed = true := by simp
  rw [← free, claims, accepted_iff]
  constructor
  · intro expired other member record inOther ttl event step inDelivery claimTtl set
    -- the delivery claims the key once
    have only_claim : step = claim := by
      rw [judged, List.mem_append, List.mem_cons] at inDelivery
      rcases inDelivery with first | rfl | last
      · exact absurd set (quiet step (List.mem_append_left _ first) key claimTtl)
      · rfl
      · exact absurd set (quiet step (List.mem_append_right _ last) key claimTtl)
    rw [only_claim]
    apply expired record _ ttl event
    exact List.mem_append_left _ (List.mem_flatMap.mpr ⟨other, member, inOther⟩)
  · intro expired record member ttl event
    have inEarlier : record ∈ earlier.flatMap Delivery.judging := by
      apply (List.mem_append.mp member).resolve_right
      intro inEarly
      exact quiet record (List.mem_append_left _ inEarly) key ttl (by rw [event])
    obtain ⟨other, otherMember, inOther⟩ := List.mem_flatMap.mp inEarlier
    exact expired other otherMember record inOther ttl event claim (by simp [judged]) _
      (by rw [claimEvent])

theorem reauthorizes_iff : run.Reauthorizes ↔ run.RecordsExpired := by
  constructor
  · intro reauthorizes before first second between key redelivers threw sound
    obtain ⟨after, split⟩ := redelivers.order
    exact (run.authorizes_iff split sound).mp
      (reauthorizes before first second between key redelivers threw sound)
  · intro expired before first second between key redelivers threw sound
    obtain ⟨after, split⟩ := redelivers.order
    exact (run.authorizes_iff split sound).mpr
      (expired before first second between key redelivers threw sound)

end Records

section Deletions

/-- Where a list of lists is split, one of them is. -/
theorem flatMap_split {α β : Type} {items : List α} {parts : α → List β} {before after : List β}
    {found : β} (split : items.flatMap parts = before ++ found :: after) :
    ∃ item ∈ items, ∃ start rest, parts item = start ++ found :: rest ∧ start ⊆ before := by
  induction items generalizing before with
  | nil => simp at split
  | cons item others ih =>
      rw [List.flatMap_cons, List.append_eq_append_iff] at split
      have later {earlier : List β} (rest_split : others.flatMap parts = earlier ++ found :: after)
          (within : earlier ⊆ before) :
          ∃ other ∈ item :: others, ∃ start rest, parts other = start ++ found :: rest ∧
            start ⊆ before := by
        obtain ⟨other, member, start, rest, found_split, early⟩ := ih rest_split
        exact ⟨other, List.mem_cons_of_mem item member, start, rest, found_split,
          List.Subset.trans early within⟩
      rcases split with ⟨middle, rfl, rest_split⟩ | ⟨middle, item_split, rest_split⟩
      · exact later rest_split (List.subset_append_right _ _)
      · cases middle with
        | nil =>
            have others_split : others.flatMap parts = [] ++ found :: after := rest_split.symm
            exact later others_split (List.nil_subset _)
        | cons _ _ =>
            rw [List.cons_append, List.cons.injEq] at rest_split
            obtain ⟨rfl, _⟩ := rest_split
            exact ⟨item, List.mem_cons_self, before, _, item_split, List.Subset.refl _⟩

theorem deletesDecided : run.DeletesDecided := by
  intro before step after split queueUrl receiptHandle deletes
  obtain ⟨batch, inRun, start, rest, batchSplit, within⟩ := flatMap_split split
  rw [Batch.steps] at batchSplit
  cases start with
  | nil =>
      rw [List.nil_append, List.cons.injEq] at batchSplit
      rw [← batchSplit.1] at deletes
      cases deletes
  | cons receive start =>
      rw [List.cons_append, List.cons.injEq] at batchSplit
      obtain ⟨delivery, inBatch, early, late, deliverySplit, inStart⟩ := flatMap_split batchSplit.2
      have unjudged : step ∉ delivery.judging := by
        intro judging
        have judges := delivery.judging_op judging
        rw [deletes] at judges
        exact judges
      obtain ⟨judgedEarly, deleting⟩ := delivery.deleted_after deliverySplit unjudged
      obtain ⟨decided, inJudging, decision⟩ := delivery.decided_of_deleting deleting
      have handle : delivery.message.receiptHandle = receiptHandle := by
        obtain ⟨sent, _, rfl⟩ := List.mem_map.mp deleting
        cases deletes
        rfl
      refine ⟨delivery, List.mem_flatMap.mpr ⟨batch, inRun, inBatch⟩, handle, decided, ?_, inJudging,
        decision⟩
      exact within (List.mem_cons_of_mem _ (inStart (judgedEarly inJudging)))

end Deletions

/-- No message is lost or counted twice exactly in the runs where messages come back late
enough and all deletions succeed. Deleting follows a decision in every run. -/
theorem delivers_iff :
    (run.Reauthorizes ∧ run.DeletesDecided ∧ run.CountsOnce) ↔
      (run.RecordsExpired ∧ run.DeletesSucceed) := by
  rw [reauthorizes_iff, countsOnce_iff, and_iff_right run.deletesDecided]

end ConsumerRun

section Outage

def outageClaims : Obj :=
  [("iss", .str "ServicePrincipal::calling-service"), ("iat", .num 1000), ("jti", .str "jti-1"),
    ("body_hash", .str "hash"), ("queue_arn", .str "queue"), ("action", .str "submit")]

def outageBody : Json := .obj [("amount", .num 1)]

def outageTable : TokenTable where
  tokens := [⟨"envelope", envelopeHeader { publicJwk := TokenTable.jwkOf ⟨1⟩, privateKey := ⟨1⟩ },
    JwtPayload.ofClaims outageClaims rfl, ⟨1⟩⟩]
  hashes := [("payload-text", "hash")]
  texts := [("payload-text", outageBody),
    ("message-text", .obj [("envelope", .str "envelope"), ("payload", outageBody)])]

def outageConfig : ConsumerConfig where
  queueUrl := "https://queue"
  queueArn := "queue"
  resourcePrefix := "ledger"

def outageMessage (receipt : String) : SqsMessage where
  body := some "message-text"
  receiptHandle := some receipt

def outageServices (moment : Millis) : SteadyServices where
  moment := moment
  keys _ := []
  signing := { privateKey := ⟨7⟩, publicJwk := [], kid := "" }
  signed := ""

/-- The policy store is out of reach. -/
def outageEnvironment (moment : Millis) (claimed : Bool) : Environment runtime
  | _, .redisSet _ _ => .ok claimed
  | _, .authorize _ => .error (plainError "AVP unavailable")
  | past, op => (outageServices moment).environment past op

def outageJudging (moment : Millis) (claimed : Bool) (receipt : String) :
    List Event × Except Fault AuthorizationResult :=
  (judgeMessage outageTable.platform outageConfig (outageMessage receipt)).exec
    (outageEnvironment moment claimed) []

def outageInput : AuthorizeInput := envelopeAuthorizeInput outageConfig
  { principal := "ServicePrincipal::calling-service", action := "submit", claims := outageClaims,
    verifiedAt := 1000000 }

def outageTrace (moment : Millis) (claimed : Bool) : List Event :=
  ⟨.date, moment⟩ :: ⟨.now, moment⟩ :: ⟨.redisSet (dedupKey outageClaims) 86400, .ok claimed⟩ ::
    if claimed then [⟨.now, moment⟩, ⟨.authorize outageInput, .error (plainError "AVP unavailable")⟩]
    else []

def outageDelivery (moment : Millis) (claimed : Bool) (receipt : String)
    (performs : (outageJudging moment claimed receipt).1 = outageTrace moment claimed)
    (fails : (outageJudging moment claimed receipt).2.isOk = false) :
    Delivery outageTable.platform outageConfig where
  message := outageMessage receipt
  judging := (outageTrace moment claimed).map (fun event => ⟨(), moment, event⟩)
  decided := (outageJudging moment claimed receipt).2
  deletion := none
  judged := by
    have events : ((outageTrace moment claimed).map
        (fun event => (⟨(), moment, event⟩ : Step runtime Unit))).map Step.event =
          outageTrace moment claimed := by simp [Function.comp_def]
    rw [events, ← performs]
    exact exec_runs _ _ _
  deletes := fails.symm

def firstDelivery : Delivery outageTable.platform outageConfig :=
  outageDelivery 1000000 true "receipt-1" (by decide +kernel) (by decide +kernel)

def secondDelivery : Delivery outageTable.platform outageConfig :=
  outageDelivery 1030000 false "receipt-2" (by decide +kernel) (by decide +kernel)

def Batch.single {P : Platform} {config : ConsumerConfig} (time : Nat)
    (delivery : Delivery P config) : Batch P config where
  time := time
  received := .ok [delivery.message]
  deliveries := [delivery]
  outcome := .ok (delivery.count .zero)
  delivered := rfl
  ran := Delivery.runs_processOneBatch rfl

def outageSteps : History runtime Unit :=
  [⟨(), 1000000, ⟨.receiveMessages "https://queue", .ok [outageMessage "receipt-1"]⟩⟩] ++
    (outageTrace 1000000 true).map (fun event => ⟨(), 1000000, event⟩) ++
    [⟨(), 1030000, ⟨.receiveMessages "https://queue", .ok [outageMessage "receipt-2"]⟩⟩] ++
    (outageTrace 1030000 false).map (fun event => ⟨(), 1030000, event⟩)

/-- A message is received while the policy store is out of reach, and again half a minute later. -/
def outageRun : ConsumerRun outageTable.platform outageConfig where
  batches := [.single 1000000 firstDelivery, .single 1030000 secondDelivery]
  ordered := by
    change outageSteps.Ordered
    simp [History.Ordered, outageSteps, outageTrace]
  clock := by
    change ReadsClock outageSteps
    simp [ReadsClock, outageSteps, outageTrace]
  redis := by
    have commands : redisCommands outageSteps =
        [(1000000, .set (dedupKey outageClaims) 86400000 (some true)),
          (1030000, .set (dedupKey outageClaims) 86400000 (some false))] := rfl
    have vacant :
        ¬ ExpiringStore.Live ExpiringStore.State.empty 1000000 (dedupKey outageClaims) := by
      rintro ⟨_, impossible, _⟩
      cases impossible
    change RedisServes outageSteps
    rw [RedisServes, commands]
    refine ⟨_, .cons (.stored vacant (by decide))
      (.cons (.refused ⟨87400000, ?_, by decide⟩ (by decide)) (.nil _))⟩
    rw [Function.update_self]
  answers := by
    change ∀ step ∈ outageSteps, _
    simp [outageSteps, outageTrace]

theorem outage_not_reauthorized :
    ¬ (outageRun.Reauthorizes ∧ outageRun.DeletesDecided ∧ outageRun.CountsOnce) := by
  rintro ⟨reauthorizes, _⟩
  have redelivers : outageRun.Redelivers [] firstDelivery secondDelivery [] := {
    order := ⟨[], rfl⟩
    message := rfl
    undecided := by simp }
  have threw : firstDelivery.AuthorizeThrew := by
    refine ⟨⟨(), 1000000, ⟨.authorize outageInput, .error (plainError "AVP unavailable")⟩⟩, ?_, _, _,
      rfl⟩
    change _ ∈ (outageTrace 1000000 true).map _
    simp [outageTrace]
  have sound : secondDelivery.Sound (dedupKey outageClaims) := by
    refine ⟨"envelope", .object outageBody, 1030000, 1030000, JwtPayload.ofClaims outageClaims rfl,
      _, rfl, rfl, ⟨⟨⟨1⟩, rfl, rfl⟩, rfl, ?_, ?_⟩, rfl⟩
    · decide +kernel
    · decide +kernel
  obtain ⟨step, member, input, reply, event⟩ :=
    reauthorizes [] firstDelivery secondDelivery [] _ redelivers threw sound
  change step ∈ (outageTrace 1030000 false).map _ at member
  simp only [outageTrace, Bool.false_eq_true, ↓reduceIte, List.map_cons, List.map_nil,
    List.mem_cons, List.not_mem_nil, or_false] at member
  rcases member with rfl | rfl | rfl <;> cases event

end Outage

end S2s
