import S2sStack.Client.Flows
import Mathlib.Algebra.Order.Field.Basic
import Mathlib.Algebra.Order.Ring.Rat
import Mathlib.Tactic.Linarith

set_option autoImplicit false

/- `acquireTokenRaw.ts` and `acquireTokenRetry.ts`: the token endpoint of Cognito, asked again
after a delay that grows. -/
namespace S2s

open Effect Effect.Program
open Js (Json Obj)

structure AcquireTokenRawInput where
  cognitoDomain : String
  clientId : String
  clientSecret : String
  scopes : List String

/-- A value of `Math.random()`. -/
structure RandomDraw where
  value : Rat
  nonneg : 0 ≤ value
  belowOne : value < 1

inductive RetryOp where
  | fetch (request : OutboundRequest)
  | random
  /-- `sleep(ms)`, where `none` is `NaN` -/
  | sleep (ms : Option Rat)

@[reducible] def RetryOp.Reply : RetryOp → Type
  | fetch _ => Except LibraryError HttpResponse
  | random => RandomDraw
  | sleep _ => Unit

abbrev retrying : Signature := ⟨RetryOp, RetryOp.Reply⟩

abbrev RetryEvent := Effect.Event retrying

/-- A `CognitoTokenError`, or any other `Error`. -/
inductive TokenError where
  | cognito (status : Nat) (body : String)
  | other (fault : Fault)
  deriving DecidableEq

/-- `err instanceof CognitoTokenError`, and its status is a retryable one -/
def TokenError.retryable : TokenError → Bool
  | cognito status _ => status = 429 ∨ (500 ≤ status ∧ status < 600)
  | other _ => false

def cognitoRequest (L : ClientLibrary) (input : AcquireTokenRawInput) : OutboundRequest where
  url := Js.dropTrailingSlash input.cognitoDomain ++ "/oauth2/token"
  method := "POST"
  headers := [
    ("authorization", "Basic " ++ L.textToBase64 (input.clientId ++ ":" ++ input.clientSecret)),
    ("content-type", "application/x-www-form-urlencoded"),
    ("accept", "application/json")]
  body := L.searchText [("grant_type", "client_credentials"),
    ("scope", " ".intercalate input.scopes)]

/-- What `acquireTokenRaw` makes of the reply to its request. -/
def tokenOutcome (P : Platform) : Except LibraryError HttpResponse → Except TokenError Json
  | .error err => .error (.other err.fault)
  | .ok response =>
      if response.status ≠ 200 then
        let text := match response.body with
          | .ok text => text
          | .error _ => ""
        .error (.cognito response.status text)
      else (response.json P).mapError .other

def acquireTokenRaw (P : Platform) (L : ClientLibrary) (input : AcquireTokenRawInput) :
    Program retrying TokenError Json :=
  command (.fetch (cognitoRequest L input)) (tokenOutcome P)

structure RetryConfig where
  maxRetries : Rat
  baseDelayMs : Rat
  maxDelayMs : Rat

namespace RetryConfig

/-- `Math.min(maxDelayMs, baseDelayMs * 2 ** attempt)`. From 1024 on the power is `Infinity`,
and zero times that is `NaN`. -/
def cappedDelay (cfg : RetryConfig) (attempt : Nat) : Option Rat :=
  if attempt < 1024 then some (min cfg.maxDelayMs (cfg.baseDelayMs * 2 ^ attempt))
  else if cfg.baseDelayMs = 0 then none
  else some cfg.maxDelayMs

/-- `base + Math.floor(Math.random() * base)` -/
def delay (cfg : RetryConfig) (attempt : Nat) (random : RandomDraw) : Option Rat :=
  (cfg.cappedDelay attempt).map fun base => base + (random.value * base).floor

end RetryConfig

/-- `new Error('acquireTokenWithRetry exhausted')` -/
def retriesExhausted : TokenError := .other (plainError "acquireTokenWithRetry exhausted")

/-- The iterations `attempt`, `attempt + 1`, .. of the loop. -/
def retryFrom (P : Platform) (L : ClientLibrary) (input : AcquireTokenRawInput)
    (cfg : RetryConfig) (attempt : Nat) (lastErr : Option TokenError) :
    Program retrying TokenError Json :=
  if _within : (attempt : Rat) ≤ cfg.maxRetries then
    Program.attempt (acquireTokenRaw P L input) >>= fun outcome =>
      match outcome with
      | .ok token => .done (.ok token)
      | .error err =>
          if !err.retryable then throwing err
          else if (attempt : Rat) = cfg.maxRetries then throwing err
          else
            command .random .ok >>= fun random =>
              command (.sleep (cfg.delay attempt random)) .ok >>= fun _ =>
                retryFrom P L input cfg (attempt + 1) (some err)
  else throwing (lastErr.getD retriesExhausted)
termination_by (cfg.maxRetries.floor + 1 - attempt).toNat
decreasing_by
  have reached : (attempt : Int) ≤ cfg.maxRetries.floor := Rat.le_floor_iff.mpr (by assumption)
  omega

def acquireTokenWithRetry (P : Platform) (L : ClientLibrary) (input : AcquireTokenRawInput)
    (cfg : RetryConfig) : Program retrying TokenError Json :=
  retryFrom P L input cfg 0 none

/-- What each call of `acquireTokenRaw` came to, in order. -/
def callOutcomes (P : Platform) (trace : List RetryEvent) : List (Except TokenError Json) :=
  trace.filterMap fun event =>
    match event with
    | ⟨.fetch _, reply⟩ => some (tokenOutcome P reply)
    | _ => none

section Runs

variable {P : Platform} {L : ClientLibrary} {input : AcquireTokenRawInput} {cfg : RetryConfig}
  {attempt : Nat} {lastErr : Option TokenError} {trace : List RetryEvent}
  {outcome : Except TokenError Json}

theorem acquireTokenRaw_runs_iff : Runs (acquireTokenRaw P L input) trace outcome ↔
    ∃ reply, trace = [⟨.fetch (cognitoRequest L input), reply⟩] ∧
      outcome = tokenOutcome P reply := by
  rw [acquireTokenRaw, runs_command_iff]

/-- An iteration ends the loop with what its call came to, or sleeps before the next one. -/
theorem retryFrom_within (within : (attempt : Rat) ≤ cfg.maxRetries)
    (run : Runs (retryFrom P L input cfg attempt lastErr) trace outcome) :
    ∃ reply, (trace = [⟨.fetch (cognitoRequest L input), reply⟩] ∧
        outcome = tokenOutcome P reply ∧
        ∀ err, tokenOutcome P reply = .error err → err.retryable = true →
          (attempt : Rat) = cfg.maxRetries) ∨
      ∃ err random rest, tokenOutcome P reply = .error err ∧ err.retryable = true ∧
        (attempt : Rat) < cfg.maxRetries ∧
        trace = ⟨.fetch (cognitoRequest L input), reply⟩ :: ⟨.random, random⟩ ::
          ⟨.sleep (cfg.delay attempt random), ()⟩ :: rest ∧
        Runs (retryFrom P L input cfg (attempt + 1) (some err)) rest outcome := by
  rw [retryFrom, dif_pos within, runs_attempt_bind_iff] at run
  obtain ⟨inner, before, after, rfl, called, run⟩ := run
  obtain ⟨reply, rfl, rfl⟩ := acquireTokenRaw_runs_iff.mp called
  refine ⟨reply, ?_⟩
  cases answered : tokenOutcome P reply with
  | ok token =>
      rw [answered] at run
      obtain ⟨rfl, rfl⟩ := runs_done_iff.mp run
      exact .inl ⟨rfl, rfl, fun err impossible => nomatch impossible⟩
  | error err =>
      rw [answered] at run
      dsimp only at run
      cases again : err.retryable with
      | false =>
          rw [again] at run
          obtain ⟨rfl, rfl⟩ := runs_throwing_iff.mp run
          refine .inl ⟨rfl, rfl, fun other same retried => ?_⟩
          cases same
          rw [again] at retried
          cases retried
      | true =>
          rw [again, Bool.not_true, if_neg Bool.false_ne_true] at run
          by_cases last : (attempt : Rat) = cfg.maxRetries
          · rw [if_pos last] at run
            obtain ⟨rfl, rfl⟩ := runs_throwing_iff.mp run
            exact .inl ⟨rfl, rfl, fun _ _ _ => last⟩
          · rw [if_neg last, runs_reply_bind_iff] at run
            obtain ⟨random, _, rfl, run⟩ := run
            rw [runs_reply_bind_iff] at run
            obtain ⟨_, rest, rfl, run⟩ := run
            exact .inr ⟨err, random, rest, rfl, again, lt_of_le_of_ne within last, rfl, run⟩

theorem retryFrom_exhausted (beyond : cfg.maxRetries < attempt)
    (run : Runs (retryFrom P L input cfg attempt lastErr) trace outcome) :
    trace = [] ∧ outcome = .error (lastErr.getD retriesExhausted) := by
  rw [retryFrom, dif_neg (not_le.mpr beyond)] at run
  exact runs_throwing_iff.mp run

/-- The calls from an attempt on: retryable failures, then the one whose outcome is the result. -/
structure Retried (P : Platform) (cfg : RetryConfig) (attempt : Nat) (trace : List RetryEvent)
    (outcome : Except TokenError Json) (failures : List TokenError) : Prop where
  calls : callOutcomes P trace = failures.map .error ++ [outcome]
  retryable : ∀ err ∈ failures, err.retryable = true
  bounded : (attempt + failures.length : Nat) ≤ cfg.maxRetries
  persistent : ∀ err, outcome = .error err → err.retryable = true →
    cfg.maxRetries < (attempt + failures.length : Nat) + 1
  sleeps : ∀ event ∈ trace, ∀ ms, event.op = .sleep ms →
    ∃ (number : Nat) (random : RandomDraw), (number : Rat) < cfg.maxRetries ∧
      ms = cfg.delay number random

theorem retryFrom_retried (within : (attempt : Rat) ≤ cfg.maxRetries)
    (run : Runs (retryFrom P L input cfg attempt lastErr) trace outcome) :
    ∃ failures, Retried P cfg attempt trace outcome failures := by
  -- Induction on the iterations that are left.
  induction left : (cfg.maxRetries.floor + 1 - attempt).toNat
    generalizing attempt lastErr trace with
  | zero =>
      have reached : (attempt : Int) ≤ cfg.maxRetries.floor := Rat.le_floor_iff.mpr within
      omega
  | succ left ih =>
      obtain ⟨reply, ⟨rfl, rfl, gaveUp⟩ |
        ⟨err, random, rest, failed, again, below, rfl, rerun⟩⟩ := retryFrom_within within run
      · refine ⟨[], rfl, by simp, by simpa using within, ?_, ?_⟩
        · intro err failed again
          have last := gaveUp err failed again
          simp [last]
        · intro event member ms slept
          cases List.mem_singleton.mp member
          cases slept
      · -- The sleep of this iteration comes before those of the rest.
        have sleeps (later : ∀ event ∈ rest, ∀ ms, event.op = .sleep ms →
            ∃ (number : Nat) (random : RandomDraw), (number : Rat) < cfg.maxRetries ∧
              ms = cfg.delay number random) :
            ∀ event ∈ (⟨.fetch (cognitoRequest L input), reply⟩ :: ⟨.random, random⟩ ::
              ⟨.sleep (cfg.delay attempt random), ()⟩ :: rest : List RetryEvent),
              ∀ ms, event.op = .sleep ms →
                ∃ (number : Nat) (random : RandomDraw), (number : Rat) < cfg.maxRetries ∧
                  ms = cfg.delay number random := by
          intro event member ms slept
          simp only [List.mem_cons] at member
          rcases member with rfl | rfl | rfl | inRest
          · cases slept
          · cases slept
          · cases slept
            exact ⟨attempt, random, below, rfl⟩
          · exact later event inRest ms slept
        have called : callOutcomes P (⟨.fetch (cognitoRequest L input), reply⟩ ::
            ⟨.random, random⟩ :: ⟨.sleep (cfg.delay attempt random), ()⟩ :: rest) =
              .error err :: callOutcomes P rest := by
          simp [callOutcomes, failed]
        by_cases more : ((attempt + 1 : Nat) : Rat) ≤ cfg.maxRetries
        · obtain ⟨failures, retried⟩ := ih more rerun (by omega)
          refine ⟨err :: failures, ?_, ?_, ?_, ?_, sleeps retried.sleeps⟩
          · rw [called, retried.calls, List.map_cons, List.cons_append]
          · simpa [again] using retried.retryable
          · have bounded := retried.bounded
            rw [List.length_cons]
            rwa [show attempt + (failures.length + 1) = attempt + 1 + failures.length by omega]
          · intro last failed again
            have persistent := retried.persistent last failed again
            rw [List.length_cons]
            rwa [show attempt + (failures.length + 1) = attempt + 1 + failures.length by omega]
        · obtain ⟨rfl, rfl⟩ := retryFrom_exhausted (not_le.mp more) rerun
          refine ⟨[], ?_, by simp, by simpa using within, ?_, sleeps (by simp)⟩
          · rw [called]
            rfl
          · intro _ _ _
            have beyond := not_le.mp more
            simpa using beyond

/-- The cap and the jitter below it. -/
theorem delay_bounds {number : Nat} {random : RandomDraw} (base : 0 ≤ cfg.baseDelayMs)
    (cap : 0 ≤ cfg.maxDelayMs) (finite : 0 < cfg.baseDelayMs ∨ cfg.maxRetries ≤ 1024)
    (below : (number : Rat) < cfg.maxRetries) :
    ∃ value, cfg.delay number random = some value ∧ 0 ≤ value ∧ value ≤ 2 * cfg.maxDelayMs := by
  obtain ⟨capped, found, nonneg, most⟩ : ∃ capped, cfg.cappedDelay number = some capped ∧
      0 ≤ capped ∧ capped ≤ cfg.maxDelayMs := by
    unfold RetryConfig.cappedDelay
    by_cases small : number < 1024
    · have grown : 0 ≤ cfg.baseDelayMs * 2 ^ number := mul_nonneg base (by positivity)
      exact ⟨_, if_pos small, le_min cap grown, min_le_left _ _⟩
    · rw [if_neg small]
      have large : (1024 : Rat) ≤ number := by exact_mod_cast not_lt.mp small
      have positive : cfg.baseDelayMs ≠ 0 := by
        rcases finite with positive | few
        · exact positive.ne'
        · exact absurd (lt_of_lt_of_le below few) (not_lt.mpr large)
      exact ⟨_, if_neg positive, cap, le_refl _⟩
  have jitterNonneg : 0 ≤ random.value * capped := mul_nonneg random.nonneg nonneg
  have jitterMost : random.value * capped ≤ capped :=
    mul_le_of_le_one_left nonneg random.belowOne.le
  have floorNonneg : (0 : Rat) ≤ (random.value * capped).floor := by
    have least : (0 : Int) ≤ (random.value * capped).floor := Rat.le_floor_iff.mpr (by simpa)
    exact_mod_cast least
  have floorMost : ((random.value * capped).floor : Rat) ≤ capped :=
    (Rat.floor_le _).trans jitterMost
  refine ⟨capped + (random.value * capped).floor, ?_, ?_, ?_⟩
  · rw [RetryConfig.delay, found]
    rfl
  · linarith
  · linarith

end Runs

/-- Cognito is asked at most `maxRetries + 1` times, until it answers or fails in a way that is not
retried; the last outcome is the result. A sleep is the capped delay and a jitter below it. -/
theorem acquireTokenWithRetry_bounds (P : Platform) (L : ClientLibrary)
    (input : AcquireTokenRawInput) (cfg : RetryConfig) (retries : 0 ≤ cfg.maxRetries)
    (base : 0 ≤ cfg.baseDelayMs) (cap : 0 ≤ cfg.maxDelayMs) (env : Environment retrying)
    (past : List RetryEvent) :
    let run := exec env past (acquireTokenWithRetry P L input cfg)
    ((callOutcomes P run.1).length : Rat) ≤ cfg.maxRetries + 1 ∧
      (∃ failures : List TokenError, callOutcomes P run.1 = failures.map .error ++ [run.2] ∧
        (∀ err ∈ failures, err.retryable = true) ∧
        ∀ err, run.2 = .error err → err.retryable = true →
          cfg.maxRetries < (callOutcomes P run.1).length) ∧
      (0 < cfg.baseDelayMs ∨ cfg.maxRetries ≤ 1024 →
        ∀ event ∈ run.1, ∀ ms, event.op = .sleep ms →
          ∃ value, ms = some value ∧ 0 ≤ value ∧ value ≤ 2 * cfg.maxDelayMs) := by
  intro run
  have runs : Runs (retryFrom P L input cfg 0 none) run.1 run.2 := exec_runs env _ past
  obtain ⟨failures, retried⟩ := retryFrom_retried (by simpa using retries) runs
  have counted : (callOutcomes P run.1).length = failures.length + 1 := by
    rw [retried.calls, List.length_append, List.length_map, List.length_singleton]
  have bounded := retried.bounded
  rw [Nat.zero_add] at bounded
  refine ⟨?_, ⟨failures, retried.calls, retried.retryable, ?_⟩, ?_⟩
  · rw [counted, Nat.cast_add_one]
    exact add_le_add_left bounded 1
  · intro err failed again
    have persistent := retried.persistent err failed again
    rw [Nat.zero_add] at persistent
    rwa [counted, Nat.cast_add_one]
  · intro finite event member ms slept
    obtain ⟨number, random, below, rfl⟩ := retried.sleeps event member ms slept
    exact delay_bounds base cap finite below

section Overload

theorem half_draw : (0 : Rat) ≤ 1 / 2 ∧ (1 / 2 : Rat) < 1 := by
  constructor <;> norm_num

/-- Cognito answers 503 to everything, and `Math.random()` is one half. -/
def overloaded : Environment retrying
  | _, .fetch _ => .ok { status := 503, headers := [], body := .ok "" }
  | _, .random => { value := 1 / 2, nonneg := half_draw.1, belowOne := half_draw.2 }
  | _, .sleep _ => ()

def retryTable : TokenTable where
  tokens := []

def retryLibrary : ClientLibrary where
  toLatticeLibrary := taskRoleLibrary
  textToBase64 _ := "Y2FsbGluZy1zZXJ2aWNlOnMzY3JldA=="

def retryInput : AcquireTokenRawInput where
  cognitoDomain := "https://auth.example.com/"
  clientId := "calling-service"
  clientSecret := "s3cret"
  scopes := ["ledger/write"]

/-- One retry, after a delay that has reached its cap. -/
def cappedRetry : RetryConfig where
  maxRetries := 1
  baseDelayMs := 100
  maxDelayMs := 100

/-- The jitter comes on top of the cap: 150 ms are slept where `maxDelayMs` is 100. -/
theorem overloaded_sleeps_longer :
    ∃ ms, (⟨.sleep (some ms), ()⟩ : RetryEvent) ∈ (exec overloaded []
        (acquireTokenWithRetry retryTable.platform retryLibrary retryInput cappedRetry)).1 ∧
      ¬ ms ≤ cappedRetry.maxDelayMs := by
  refine ⟨150, ?_, by decide +kernel⟩
  have computed : cappedRetry.delay 0 (overloaded [] .random) = some 150 := by decide +kernel
  rw [acquireTokenWithRetry, retryFrom, dif_pos (by decide +kernel), ← computed]
  exact List.mem_cons_of_mem _ (List.mem_cons_of_mem _ List.mem_cons_self)

/-- At most two calls, and no sleep of more than 200 ms. -/
theorem overloaded_bounds :
    let run := exec overloaded []
      (acquireTokenWithRetry retryTable.platform retryLibrary retryInput cappedRetry)
    ((callOutcomes retryTable.platform run.1).length : Rat) ≤ 1 + 1 ∧
      ∀ event ∈ run.1, ∀ ms, event.op = .sleep ms →
        ∃ value, ms = some value ∧ 0 ≤ value ∧ value ≤ 2 * 100 := by
  intro run
  obtain ⟨calls, _, sleeps⟩ := acquireTokenWithRetry_bounds retryTable.platform retryLibrary
    retryInput cappedRetry (by decide +kernel) (by decide +kernel) (by decide +kernel) overloaded []
  exact ⟨calls, sleeps (.inl (by decide +kernel))⟩

end Overload

end S2s
