import S2sStack.Dpop.RedisHistory
import S2sStack.Envelope.Verify
import S2sStack.TokenTable
import Mathlib.Data.Rat.Cast.Order
import Mathlib.Tactic.Linarith
import Mathlib.Tactic.Tauto

set_option autoImplicit false

/- How long an envelope is remembered, against how long it is accepted. -/
namespace S2s

open Effect Effect.Program
open Js (Json Obj)

/-- `deps.dedupTtlSeconds ?? 24 * 60 * 60` -/
def dedupTtl (dedupTtlSeconds : Option Nat) : Nat := dedupTtlSeconds.getD (24 * 60 * 60)

/-- One call with the default thresholds, at one reading of the clock. -/
structure EnvelopeCall (P : Platform) where
  envelope : String
  payload : EnvelopePayload
  options : VerifyEnvelopeOptions
  instant : Nat
  trace : List Event
  outcome : Except Fault VerifiedEnvelope
  ran : Runs (verifyEnvelope P (dedupTtl none) envelope payload options) trace outcome
  clock : ∀ moment, ⟨.now, moment⟩ ∈ trace → moment = instant
  defaultThreshold : options.stalenessThresholdSeconds = none
  dedups : options.skipDedup = false

namespace EnvelopeCall

variable {P : Platform} (call : EnvelopeCall P)

def steps : History runtime Unit := call.trace.map (fun event => ⟨(), call.instant, event⟩)

def Accepts : Prop := ∃ verified, call.outcome = .ok verified

/-- The envelope passes every check but the one of its `jti`. -/
def Passes : Prop :=
  ∃ currentDate signed rest, call.trace = ⟨.date, currentDate⟩ :: ⟨.now, call.instant⟩ :: rest ∧
    CheckedEnvelope P call.envelope call.payload call.options currentDate call.instant signed

end EnvelopeCall

/-- The key under which an envelope is remembered. -/
def envelopeDedupKey (P : Platform) (envelope : String) : String :=
  match P.decodeJwt envelope with
  | .ok claims => dedupKey claims
  | .error _ => ""

/-- Calls one after the other, in front of one Redis. -/
structure DedupRun (P : Platform) where
  calls : List (EnvelopeCall P)
  ordered : calls.Pairwise (fun earlier later => earlier.instant ≤ later.instant)
  redis : RedisServes (calls.flatMap EnvelopeCall.steps)

namespace DedupRun

variable {P : Platform} (run : DedupRun P)

/-- The calls of one envelope, in their order. -/
def Repeats (first second : EnvelopeCall P) : Prop :=
  first.envelope = second.envelope ∧
    ∃ before between after, run.calls = before ++ first :: between ++ second :: after

def AcceptsOnce : Prop :=
  ∀ first second, run.Repeats first second → first.Accepts → ¬ second.Accepts

/-- No envelope passes the checks of two calls a day or more apart. -/
def WithinADay : Prop :=
  ∀ first second, run.Repeats first second → first.Passes → second.Passes →
    second.instant < first.instant + 86400000

/-- Redis answers every command. -/
def Answers : Prop :=
  ∀ call ∈ run.calls, ∀ key ttl reply, ⟨.redisSet key ttl, reply⟩ ∈ call.trace →
    ∃ claimed, reply = .ok claimed

/-- No two envelopes share a `jti`. -/
def DistinctJtis : Prop :=
  ∀ first ∈ run.calls, ∀ second ∈ run.calls,
    envelopeDedupKey P first.envelope = envelopeDedupKey P second.envelope →
      first.envelope = second.envelope

end DedupRun

section Calls

variable {P : Platform} {call : EnvelopeCall P}

/-- What a call performs after its checks: it claims the key, and accepts if it was free. -/
theorem EnvelopeCall.claim_of_passes (agrees : P.PayloadAgrees) (passes : call.Passes) :
    ∃ currentDate reply rest,
      call.trace = ⟨.date, currentDate⟩ :: ⟨.now, call.instant⟩ ::
        ⟨.redisSet (envelopeDedupKey P call.envelope) (dedupTtl none), reply⟩ :: rest ∧
      (reply = .ok true ↔ call.Accepts) ∧ ∀ event ∈ rest, event.op = .now := by
  obtain ⟨currentDate, signed, rest, shape, checked⟩ := passes
  have ran := call.ran
  rw [shape, checked.runs_iff] at ran
  obtain ⟨reply, last, rfl, accepted, quiet⟩ := runs_admitEnvelope call.dedups ran
  obtain ⟨key, _, signature⟩ := checked.signature
  have named : envelopeDedupKey P call.envelope = dedupKey signed.claims := by
    rw [envelopeDedupKey, agrees _ _ _ _ signature]
  rw [named]
  exact ⟨currentDate, reply, last, shape, accepted, quiet⟩

theorem EnvelopeCall.Accepts.passes (accepts : call.Accepts) : call.Passes := by
  obtain ⟨verified, accepted⟩ := accepts
  have ran := call.ran
  rw [accepted] at ran
  obtain ⟨currentDate, nowMs, signed, deduping, verifiedAt, checked, shape, _⟩ :=
    verifyEnvelope_ok ran
  have reading : nowMs = call.instant := call.clock nowMs (by simp [shape])
  subst reading
  exact ⟨currentDate, signed, _, shape, checked⟩

/-- A call that claims a key has checked its envelope, and accepts it if the key was free. -/
theorem EnvelopeCall.passes_of_claim (agrees : P.PayloadAgrees) {key : String} {ttl : Nat}
    {reply : Except Fault Bool} (claim : ⟨.redisSet key ttl, reply⟩ ∈ call.trace) :
    call.Passes ∧ key = envelopeDedupKey P call.envelope ∧ ttl = dedupTtl none ∧
      (reply = .ok true ↔ call.Accepts) := by
  obtain ⟨currentDate, nowMs, signed, rest, shape, checked, _⟩ := checked_of_claim call.ran claim
  have reading : nowMs = call.instant := call.clock nowMs (by simp [shape])
  subst reading
  have passes : call.Passes := ⟨currentDate, signed, rest, shape, checked⟩
  obtain ⟨_, given, last, claimed, accepted, quiet⟩ := EnvelopeCall.claim_of_passes agrees passes
  rw [claimed] at claim
  have same : (⟨.redisSet key ttl, reply⟩ : Event) =
      ⟨.redisSet (envelopeDedupKey P call.envelope) (dedupTtl none), given⟩ := by
    simp only [List.mem_cons] at claim
    rcases claim with impossible | impossible | same | later
    · cases impossible
    · cases impossible
    · exact same
    · cases quiet _ later
  cases same
  exact ⟨passes, rfl, rfl, accepted⟩

theorem EnvelopeCall.no_delete {step : Step runtime Unit} (member : step ∈ call.steps)
    (key : String) : step.event.op ≠ .redisDel key := by
  intro deleted
  obtain ⟨event, inside, rfl⟩ := List.mem_map.mp member
  have verifies := within_verifyEnvelope P _ _ _ _ _ _ call.ran event inside
  rw [deleted] at verifies
  cases verifies

/-- The step of a checked call that claims its key. -/
theorem EnvelopeCall.steps_of_passes (agrees : P.PayloadAgrees) (passes : call.Passes) :
    ∃ early late reply, call.steps = early ++ ⟨(), call.instant,
        ⟨.redisSet (envelopeDedupKey P call.envelope) (dedupTtl none), reply⟩⟩ :: late ∧
      (∀ step ∈ early, ∀ key ttl, step.event.op ≠ .redisSet key ttl) ∧
      (reply = .ok true ↔ call.Accepts) := by
  obtain ⟨currentDate, reply, rest, shape, accepted, _⟩ :=
    EnvelopeCall.claim_of_passes agrees passes
  refine ⟨[⟨(), call.instant, ⟨.date, currentDate⟩⟩, ⟨(), call.instant, ⟨.now, call.instant⟩⟩],
    rest.map (fun event => ⟨(), call.instant, event⟩), reply, ?_, ?_, accepted⟩
  · simp [EnvelopeCall.steps, shape]
  · simp

end Calls

namespace DedupRun

variable {P : Platform} (run : DedupRun P)

theorem day : dedupTtl none * 1000 = 86400000 := rfl

/-- Two acceptances of one envelope are a day apart. -/
theorem apart (agrees : P.PayloadAgrees) {first second : EnvelopeCall P}
    (repeats : run.Repeats first second) (firstAccepts : first.Accepts)
    (secondAccepts : second.Accepts) : first.instant + 86400000 ≤ second.instant := by
  obtain ⟨same, before, between, after, split⟩ := repeats
  obtain ⟨firstEarly, firstLate, firstReply, firstSteps, _, firstFree⟩ :=
    EnvelopeCall.steps_of_passes agrees firstAccepts.passes
  obtain ⟨secondEarly, secondLate, secondReply, secondSteps, _, secondFree⟩ :=
    EnvelopeCall.steps_of_passes agrees secondAccepts.passes
  rw [firstFree.mpr firstAccepts] at firstSteps
  rw [secondFree.mpr secondAccepts, ← same] at secondSteps
  have kept : ∀ step ∈ run.calls.flatMap EnvelopeCall.steps,
      step.event.op ≠ .redisDel (envelopeDedupKey P first.envelope) := by
    intro step member
    obtain ⟨call, _, inside⟩ := List.mem_flatMap.mp member
    exact EnvelopeCall.no_delete inside _
  have history : run.calls.flatMap EnvelopeCall.steps =
      (before.flatMap EnvelopeCall.steps ++ firstEarly) ++
        ⟨(), first.instant, ⟨.redisSet (envelopeDedupKey P first.envelope) (dedupTtl none),
          .ok true⟩⟩ :: (firstLate ++ between.flatMap EnvelopeCall.steps ++ secondEarly) ++
        ⟨(), second.instant, ⟨.redisSet (envelopeDedupKey P first.envelope) (dedupTtl none),
          .ok true⟩⟩ :: (secondLate ++ after.flatMap EnvelopeCall.steps) := by
    simp [split, firstSteps, secondSteps]
  have apart := run.redis.apart kept history rfl rfl
  rwa [day] at apart

/-- A checked envelope that is not accepted was accepted less than a day before. -/
theorem accepted_before (agrees : P.PayloadAgrees) (answers : run.Answers)
    {before after : List (EnvelopeCall P)} {call : EnvelopeCall P}
    (split : run.calls = before ++ call :: after) (passes : call.Passes)
    (refused : ¬ call.Accepts) :
    ∃ earlier ∈ before, envelopeDedupKey P earlier.envelope = envelopeDedupKey P call.envelope ∧
      earlier.Accepts ∧ call.instant < earlier.instant + 86400000 := by
  obtain ⟨early, late, reply, steps, unclaimed, free⟩ := EnvelopeCall.steps_of_passes agrees passes
  have answered (caller : EnvelopeCall P) (member : caller ∈ run.calls) {key : String} {ttl : Nat}
      {given : Except Fault Bool} {time : Nat}
      (inside : ⟨(), time, ⟨.redisSet key ttl, given⟩⟩ ∈ caller.steps) :
      ⟨.redisSet key ttl, given⟩ ∈ caller.trace ∧ ∃ claimed, given = .ok claimed := by
    obtain ⟨event, inside, same⟩ := List.mem_map.mp inside
    cases same
    exact ⟨inside, answers caller member key ttl given inside⟩
  have claimed_false : reply = .ok false := by
    have inside : ⟨(), call.instant, ⟨.redisSet (envelopeDedupKey P call.envelope)
        (dedupTtl none), reply⟩⟩ ∈ call.steps := by simp [steps]
    obtain ⟨_, claimed, rfl⟩ := answered call (by simp [split]) inside
    cases claimed with
    | false => rfl
    | true => exact absurd (free.mp rfl) refused
  subst claimed_false
  have history : run.calls.flatMap EnvelopeCall.steps =
      (before.flatMap EnvelopeCall.steps ++ early) ++
        ⟨(), call.instant, ⟨.redisSet (envelopeDedupKey P call.envelope) (dedupTtl none),
          .ok false⟩⟩ :: (late ++ after.flatMap EnvelopeCall.steps) := by
    simp [split, steps]
  obtain ⟨first, member, ttl, given, event, stored, young⟩ := run.redis.refused_by history rfl
  have inBefore : first ∈ before.flatMap EnvelopeCall.steps := by
    apply (List.mem_append.mp member).resolve_right
    intro inEarly
    exact unclaimed first inEarly _ _ (by rw [event])
  obtain ⟨earlier, earlierMember, inside⟩ := List.mem_flatMap.mp inBefore
  obtain ⟨_, time, _⟩ := first
  obtain rfl : time = earlier.instant := by
    obtain ⟨_, _, same⟩ := List.mem_map.mp inside
    cases same
    rfl
  cases event
  obtain ⟨claim, claimed, rfl⟩ := answered earlier (by simp [split, earlierMember]) inside
  obtain ⟨_, sameKey, rfl, accepted⟩ := EnvelopeCall.passes_of_claim agrees claim
  refine ⟨earlier, earlierMember, sameKey.symm, ?_, ?_⟩
  · cases claimed with
    | true => exact accepted.mp rfl
    | false => exact absurd rfl stored
  · rwa [day] at young

theorem instant_le {before after : List (EnvelopeCall P)} {call : EnvelopeCall P}
    (split : run.calls = before ++ call :: after) :
    ∀ earlier ∈ before, earlier.instant ≤ call.instant := by
  have ordered := run.ordered
  rw [split, List.pairwise_append] at ordered
  intro earlier member
  exact ordered.2.2 earlier member call List.mem_cons_self

/-- By the time a checked call ends, its envelope has been accepted. -/
theorem accepted_by (agrees : P.PayloadAgrees) (answers : run.Answers) (distinct : run.DistinctJtis)
    {before after : List (EnvelopeCall P)} {call : EnvelopeCall P}
    (split : run.calls = before ++ call :: after) (passes : call.Passes) :
    ∃ accepting ∈ before ++ [call], accepting.envelope = call.envelope ∧ accepting.Accepts ∧
      call.instant < accepting.instant + 86400000 := by
  by_cases accepts : call.Accepts
  · exact ⟨call, by simp, rfl, accepts, by omega⟩
  · obtain ⟨earlier, member, sameKey, accepted, young⟩ :=
      run.accepted_before agrees answers split passes accepts
    have same := distinct earlier (by simp [split, member]) call (by simp [split]) sameKey
    exact ⟨earlier, by simp [member], same, accepted, young⟩

/-- Every envelope is accepted once where none passes the checks of two calls a day apart. That
is needed too, where `jti`s are distinct and Redis answers. -/
theorem acceptsOnce_of_withinADay (agrees : P.PayloadAgrees) :
    (run.WithinADay → run.AcceptsOnce) ∧
      (run.Answers → run.DistinctJtis → run.AcceptsOnce → run.WithinADay) := by
  constructor
  · intro within first second repeats firstAccepts secondAccepts
    have early := within first second repeats firstAccepts.passes secondAccepts.passes
    have late := run.apart agrees repeats firstAccepts secondAccepts
    omega
  · rintro answers distinct once first second ⟨same, before, between, after, split⟩ firstPasses
      secondPasses
    by_contra late
    have firstSplit : run.calls = before ++ first :: (between ++ second :: after) := by simp [split]
    obtain ⟨one, oneMember, oneSame, oneAccepts, _⟩ :=
      run.accepted_by agrees answers distinct firstSplit firstPasses
    obtain ⟨other, otherMember, otherSame, otherAccepts, young⟩ :=
      run.accepted_by agrees answers distinct split secondPasses
    -- the later acceptance is after the first call, which is a day before the second one
    have otherLater : other ∈ between ++ [second] := by
      have early : ∀ call ∈ before ++ [first], call.instant ≤ first.instant := by
        intro call member
        rcases List.mem_append.mp member with inBefore | last
        · exact run.instant_le firstSplit call inBefore
        · rw [List.mem_singleton.mp last]
      have notEarly : other ∉ before ++ [first] := by
        intro member
        have bound := early other member
        omega
      simp only [List.append_assoc, List.cons_append, List.mem_append, List.mem_cons,
        List.not_mem_nil, or_false, not_or] at otherMember notEarly ⊢
      tauto
    obtain ⟨start, middle, oneSplit⟩ := List.append_of_mem oneMember
    obtain ⟨next, rest, otherSplit⟩ := List.append_of_mem otherLater
    have repeats : run.Repeats one other := by
      refine ⟨by rw [oneSame, otherSame, same], start, middle ++ next, rest ++ after, ?_⟩
      calc run.calls = (before ++ [first]) ++ (between ++ [second]) ++ after := by simp [split]
        _ = _ := by simp [oneSplit, otherSplit]
    exact once one other repeats oneAccepts otherAccepts

/-- The `iat` of an envelope. -/
def envelopeIat (P : Platform) (envelope : String) : Rat :=
  match P.decodeJwt envelope with
  | .ok claims => dateOrZero claims "iat"
  | .error _ => 0

/-- No envelope outlives its record that is not dated ahead, in a queue with a threshold below
a day. -/
theorem withinADay_of_dated (agrees : P.PayloadAgrees)
    (dated : ∀ call ∈ run.calls, envelopeIat P call.envelope ≤ toSeconds call.instant)
    (live : ∀ call ∈ run.calls, call.options.queueType ≠ some .dlq) : run.WithinADay := by
  rintro first second ⟨same, before, between, after, split⟩ _ ⟨_, signed, _, _, checked⟩
  obtain ⟨key, _, signature⟩ := checked.signature
  have started := dated first (by simp [split])
  have fresh := checkStaleness_ok_iff.mp checked.fresh
  have carried : envelopeIat P first.envelope = dateOrZero signed.claims "iat" := by
    rw [same, envelopeIat, agrees _ _ _ _ signature]
  have short : second.options.threshold ≤ 900 := by
    have notDlq := live second (by simp [split])
    rw [VerifyEnvelopeOptions.threshold, second.defaultThreshold, Option.getD_none]
    cases given : second.options.queueType with
    | none => norm_num [StalenessQueueType.defaultStaleness]
    | some queueType =>
        cases queueType with
        | dlq => exact absurd given notDlq
        | sqsStandard => norm_num [StalenessQueueType.defaultStaleness]
        | sqsFifo => norm_num [StalenessQueueType.defaultStaleness]
        | eventbridge => norm_num [StalenessQueueType.defaultStaleness]
  have bound : (toSeconds second.instant : Rat) ≤ toSeconds first.instant + 900 := by linarith
  have seconds : toSeconds second.instant ≤ toSeconds first.instant + 900 := by exact_mod_cast bound
  unfold toSeconds at seconds
  omega

end DedupRun

section Replay

def deadLetterClaims : Obj :=
  [("iss", .str "ServicePrincipal::calling-service"), ("iat", .num 1000), ("jti", .str "jti-1"),
    ("body_hash", .str "hash"), ("queue_arn", .str "queue"), ("action", .str "submit")]

def deadLetterTable : TokenTable where
  tokens := [⟨"envelope", envelopeHeader { publicJwk := TokenTable.jwkOf ⟨1⟩, privateKey := ⟨1⟩ },
    JwtPayload.ofClaims deadLetterClaims rfl, ⟨1⟩⟩]
  hashes := [("payload-text", "hash")]
  texts := [("payload-text", .obj [("amount", .num 1)])]

def deadLetterServices (moment : Millis) : SteadyServices where
  moment := moment
  keys _ := []
  signing := { privateKey := ⟨7⟩, publicJwk := [], kid := "" }
  signed := ""

/-- The services of one call, with what Redis replies to its record. -/
def deadLetterEnvironment (moment : Millis) (claimed : Bool) : Environment runtime
  | _, .redisSet _ _ => .ok claimed
  | past, op => (deadLetterServices moment).environment past op

/-- A call of the dead-letter queue, whose threshold is a day. -/
def deadLetterOptions : VerifyEnvelopeOptions where
  expectedQueueArn := "queue"
  queueType := some .dlq

def deadLetterVerify : Act VerifiedEnvelope :=
  verifyEnvelope deadLetterTable.platform (dedupTtl none) "envelope"
    (.object (.obj [("amount", .num 1)])) deadLetterOptions

def deadLetterKey : String := envelopeDedupKey deadLetterTable.platform "envelope"

/-- What a call performs that gets to its record. -/
def deadLetterTrace (instant : Nat) (claimed : Bool) : List Event :=
  ⟨.date, instant⟩ :: ⟨.now, instant⟩ ::
    ⟨.redisSet deadLetterKey (dedupTtl none), .ok claimed⟩ ::
      if claimed then [⟨.now, instant⟩] else []

def deadLetterCall (instant : Nat) (claimed : Bool)
    (performs : (deadLetterVerify.exec (deadLetterEnvironment instant claimed) []).1 =
      deadLetterTrace instant claimed) :
    EnvelopeCall deadLetterTable.platform where
  envelope := "envelope"
  payload := .object (.obj [("amount", .num 1)])
  options := deadLetterOptions
  instant := instant
  trace := deadLetterTrace instant claimed
  outcome := (deadLetterVerify.exec (deadLetterEnvironment instant claimed) []).2
  ran := by
    rw [← performs]
    exact exec_runs _ _ _
  clock := by cases claimed <;> simp [deadLetterTrace]
  defaultThreshold := rfl
  dedups := rfl

def signedCall : EnvelopeCall deadLetterTable.platform :=
  deadLetterCall 1000000 true (by decide +kernel)

def minuteLaterCall : EnvelopeCall deadLetterTable.platform :=
  deadLetterCall 1060000 false (by decide +kernel)

def dayLaterCall : EnvelopeCall deadLetterTable.platform :=
  deadLetterCall 87400000 true (by decide +kernel)

theorem deadLetter_vacant :
    ¬ ExpiringStore.Live ExpiringStore.State.empty 1000000 deadLetterKey := by
  rintro ⟨_, impossible, _⟩
  cases impossible

theorem deadLetter_serves :
    RedisServes ([signedCall, dayLaterCall].flatMap EnvelopeCall.steps) := by
  have commands : redisCommands ([signedCall, dayLaterCall].flatMap EnvelopeCall.steps) =
      [(1000000, .set deadLetterKey 86400000 (some true)),
        (87400000, .set deadLetterKey 86400000 (some true))] := rfl
  rw [RedisServes, commands]
  refine ⟨_, .cons (.stored deadLetter_vacant (by decide))
    (.cons (.stored ?_ (by decide)) (.nil _))⟩
  rintro ⟨expiry, stored, young⟩
  simp only [Function.update_self, Option.some.injEq] at stored
  omega

/-- An envelope is verified when it is signed, and again to the second a day later. -/
def deadLetterRun : DedupRun deadLetterTable.platform where
  calls := [signedCall, dayLaterCall]
  ordered := by simp [signedCall, dayLaterCall, deadLetterCall]
  redis := deadLetter_serves

theorem deadLetter_twice :
    ∃ P : Platform, P.PayloadAgrees ∧ ∃ run : DedupRun P, ¬ run.AcceptsOnce := by
  refine ⟨_, deadLetterTable.platform_agrees, deadLetterRun, fun once => ?_⟩
  have accepted {outcome : Except Fault VerifiedEnvelope} (ok : outcome.isOk = true) :
      ∃ verified, outcome = .ok verified := by
    cases outcome with
    | ok verified => exact ⟨verified, rfl⟩
    | error fault => cases ok
  have signed : signedCall.Accepts := accepted (by decide +kernel)
  have dayLater : dayLaterCall.Accepts := accepted (by decide +kernel)
  exact once signedCall dayLaterCall ⟨rfl, [], [], [], rfl⟩ signed dayLater

/-- The same envelope a minute later. -/
def replayedRun : DedupRun deadLetterTable.platform where
  calls := [signedCall, minuteLaterCall]
  ordered := by simp [signedCall, minuteLaterCall, deadLetterCall]
  redis := by
    have commands : redisCommands ([signedCall, minuteLaterCall].flatMap EnvelopeCall.steps) =
        [(1000000, .set deadLetterKey 86400000 (some true)),
          (1060000, .set deadLetterKey 86400000 (some false))] := rfl
    rw [RedisServes, commands]
    refine ⟨_, .cons (.stored deadLetter_vacant (by decide))
      (.cons (.refused ⟨87400000, ?_, by decide⟩ (by decide)) (.nil _))⟩
    rw [Function.update_self]

theorem replayed_acceptsOnce : replayedRun.AcceptsOnce := by
  apply (replayedRun.acceptsOnce_of_withinADay deadLetterTable.platform_agrees).1
  have instants : ∀ call ∈ replayedRun.calls, 1000000 ≤ call.instant ∧ call.instant ≤ 1060000 := by
    simp [replayedRun, signedCall, minuteLaterCall, deadLetterCall]
  rintro first second ⟨_, before, between, after, split⟩ _ _
  have early := instants first (by simp [split])
  have late := instants second (by simp [split])
  omega

end Replay

end S2s
