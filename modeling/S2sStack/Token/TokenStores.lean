import S2sStack.Token.CacheRuns
import Mathlib.Tactic.Linarith

set_option autoImplicit false

/- Token caches of several processes in front of one Redis. -/
namespace S2s

open Effect (History Step held)
open Effect.Program

/-- A call of one cache, or of `acquire` over it. -/
inductive CacheCall where
  | set (clientId : String) (entry : CachedToken)
  | get (clientId : String) (scopes : List String)
  | getStale (clientId : String) (scopes : List String)
  | acquire (clientId : String) (scopes : List String) (forceRefresh : Bool)
  | clearL1

/-- The call, with the token that it returns if it returns one. -/
def CacheCall.program (P : Platform) : CacheCall → Caching (Option TokenResult)
  | set clientId entry => TokenCache.set P clientId entry >>= fun _ => pure none
  | get clientId scopes => TokenCache.get P clientId scopes
  | getStale clientId scopes => TokenCache.getStale P clientId scopes
  | acquire clientId scopes forceRefresh =>
      S2s.acquire P clientId scopes forceRefresh >>= fun token => pure (some token)
  | clearL1 => Caching.l1Clear >>= fun _ => pure none

theorem toSeconds_le (nowMs : Millis) : 1000 * ((toSeconds nowMs : Nat) : Rat) ≤ nowMs := by
  have whole : 1000 * toSeconds nowMs ≤ nowMs := by
    unfold toSeconds
    omega
  exact_mod_cast whole

/-- A record that is stored when its life is computed outlives its token. -/
theorem expiresAt_le_ttl (expiresAt : Rat) (nowMs : Millis) :
    1000 * expiresAt ≤ nowMs + 1000 * ttlSeconds expiresAt nowMs := by
  have seconds := toSeconds_le nowMs
  have life : expiresAt - (toSeconds nowMs : Nat) ≤ ttlSeconds expiresAt nowMs := le_max_right _ _
  linarith

/-- What is stored in Redis until the end of its life. -/
structure CacheRecord where
  entry : CachedToken
  storedAt : Millis
  ttlSeconds : Rat

def CacheRecord.Alive (record : CacheRecord) (time : Millis) : Prop :=
  (time : Rat) < record.storedAt + 1000 * record.ttlSeconds

instance (record : CacheRecord) (time : Millis) : Decidable (record.Alive time) :=
  inferInstanceAs (Decidable (_ < _))

/-- The entry that Redis gives out at this time. -/
def liveEntry (time : Millis) (record : Option CacheRecord) : Option CachedToken :=
  (record.filter fun found => found.Alive time).map CacheRecord.entry

section Runs

variable {P : Platform} {Thread Instance : Type} [DecidableEq Thread] [DecidableEq Instance]

abbrev CacheStep (Thread : Type) := Step tokenCaching Thread

/-- What a step writes under a key of the map that a thread reads. -/
def storesEntry (instanceOf : Thread → Instance) (thread : Thread) (key : String)
    (step : CacheStep Thread) : Option (Option CachedToken) :=
  if instanceOf step.thread = instanceOf thread then
    match step.event.op with
    | .l1Set other entry => if other = key then some (some entry) else none
    | .l1Delete other => if other = key then some none else none
    | .l1Clear => some none
    | _ => none
  else none

/-- The record that a step stores under a key, if it does. A `SET` that came back with an error
may have been carried out. -/
def storesRecord (applied : CacheStep Thread → Bool) (key : String) (step : CacheStep Thread) :
    Option (Option CacheRecord) :=
  match step.event with
  | ⟨.redisSet other entry ttlSeconds, reply⟩ =>
      if other = key ∧ (reply = .ok () ∨ applied step = true) then
        some (some ⟨entry, step.time, ttlSeconds⟩)
      else none
  | _ => none

/-- Concurrent calls of caches in several processes, which share one Redis and its clock. -/
structure TokenCacheRun (P : Platform) (Thread Instance : Type) [DecidableEq Thread]
    [DecidableEq Instance] where
  history : History tokenCaching Thread
  instanceOf : Thread → Instance
  call : Thread → CacheCall
  running : ∀ thread, ((call thread).program P).Performs (history.trace thread)
  ordered : history.Ordered
  /-- the `SET` commands that were carried out although they came back with an error -/
  applied : CacheStep Thread → Bool
  clock : ∀ step ∈ history, ∀ moment, step.event = ⟨.now, moment⟩ → moment = step.time
  readsL1 : ∀ before step after, history = before ++ step :: after → ∀ key found,
    step.event = ⟨.l1Get key, found⟩ →
    found = held (storesEntry instanceOf step.thread key) none before
  readsRedis : ∀ before step after, history = before ++ step :: after → ∀ key found,
    step.event = ⟨.redisGet key, .ok found⟩ →
    found = liveEntry step.time (held (storesRecord applied key) none before)
  /-- Redis takes a whole number of seconds. -/
  wholeTtl : ∀ step ∈ history, ∀ key entry ttlSeconds,
    step.event = ⟨.redisSet key entry ttlSeconds, .ok ()⟩ → ttlSeconds.isInt = true

namespace TokenCacheRun

variable (run : TokenCacheRun P Thread Instance)

/-- The call has returned this token. -/
def Returns (thread : Thread) (token : TokenResult) : Prop :=
  Runs ((run.call thread).program P) (run.history.trace thread) (.ok (some token))

variable {run} in
theorem returns_acquire_iff {thread : Thread} {token : TokenResult} {clientId : String}
    {scopes : List String} {forceRefresh : Bool}
    (called : run.call thread = .acquire clientId scopes forceRefresh) :
    run.Returns thread token ↔
      Runs (acquire P clientId scopes forceRefresh) (run.history.trace thread) (.ok token) := by
  rw [Returns, called, CacheCall.program, runs_bind_ok]
  constructor
  · rintro ⟨value, before, after, whole, acquired, rest⟩
    obtain ⟨rfl, same⟩ := runs_pure_iff.mp rest
    cases same
    rwa [whole, List.append_nil]
  · intro acquired
    exact ⟨token, _, [], (List.append_nil _).symm, acquired, .done _⟩

/-- The call has asked Cognito. -/
def AsksCognito (thread : Thread) : Prop :=
  ∃ event ∈ run.history.trace thread, ∃ clientId scopes, event.op = .cognito clientId scopes

end TokenCacheRun

theorem liveEntry_eq_some_iff {time : Millis} {record : Option CacheRecord} {entry : CachedToken} :
    liveEntry time record = some entry ↔
      ∃ found, record = some found ∧ found.Alive time ∧ found.entry = entry := by
  cases record with
  | none => simp [liveEntry]
  | some found =>
      by_cases alive : found.Alive time
      · simp [liveEntry, Option.filter, alive]
      · simp [liveEntry, Option.filter, alive]

/-- What Redis gives out it would have given out before. -/
theorem liveEntry_earlier {earlier later : Millis} {record : Option CacheRecord}
    {entry : CachedToken} (order : earlier ≤ later) (found : liveEntry later record = some entry) :
    liveEntry earlier record = some entry := by
  obtain ⟨held, present, alive, same⟩ := liveEntry_eq_some_iff.mp found
  have moments : (earlier : Rat) ≤ later := by exact_mod_cast order
  exact liveEntry_eq_some_iff.mpr ⟨held, present, lt_of_le_of_lt moments alive, same⟩

omit [DecidableEq Thread] in
theorem storesEntry_eq_some {instanceOf : Thread → Instance} {thread : Thread} {key : String}
    {step : CacheStep Thread} {entry : CachedToken}
    (stores : storesEntry instanceOf thread key step = some (some entry)) :
    step.event.op = .l1Set key entry := by
  obtain ⟨other, time, op, reply⟩ := step
  simp only [storesEntry, Option.ite_none_right_eq_some] at stores
  obtain ⟨-, stores⟩ := stores
  cases op with
  | l1Set place found =>
      simp only [Option.ite_none_right_eq_some] at stores
      obtain ⟨rfl, same⟩ := stores
      cases same
      rfl
  | l1Delete place =>
      simp only [Option.ite_none_right_eq_some] at stores
      cases stores.2
  | l1Clear => cases stores
  | _ => cases stores

omit [DecidableEq Thread] in
theorem storesRecord_eq_some {applied : CacheStep Thread → Bool} {key : String}
    {step : CacheStep Thread} {record : CacheRecord}
    (stores : storesRecord applied key step = some (some record)) :
    step.event.op = .redisSet key record.entry record.ttlSeconds ∧ record.storedAt = step.time := by
  obtain ⟨thread, time, op, reply⟩ := step
  cases op with
  | redisSet other entry ttlSeconds =>
      simp only [storesRecord, Option.ite_none_right_eq_some] at stores
      obtain ⟨⟨rfl, _⟩, same⟩ := stores
      cases same
      exact ⟨rfl, rfl⟩
  | _ => cases stores

omit [DecidableEq Thread] in
theorem storesRecord_eq_none {applied : CacheStep Thread → Bool} {key : String}
    {step : CacheStep Thread}
    (other : ∀ entry ttlSeconds, step.event.op ≠ .redisSet key entry ttlSeconds) :
    storesRecord applied key step = none := by
  cases stores : storesRecord applied key step with
  | none => rfl
  | some found =>
      cases found with
      | some record => exact absurd (storesRecord_eq_some stores).1 (other _ _)
      | none =>
          obtain ⟨thread, time, op, reply⟩ := step
          cases op with
          | redisSet _ _ _ =>
              simp only [storesRecord, Option.ite_none_right_eq_some] at stores
              cases stores.2
          | _ => cases stores

end Runs

end S2s
