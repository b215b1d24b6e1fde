import S2sStack.Token.CacheHits
import Mathlib.Tactic.Ring

set_option autoImplicit false

/- How long the token caches give a token out. -/
namespace S2s

open Effect (Along History Step held held_last_write held_written)
open Effect.Program

/-- When Redis drops a record whose life was computed at one time and which was stored at
another. -/
def recordEnd (expiresAt : Rat) (nowMs storedAt : Millis) : Rat :=
  max (storedAt + 1000) (1000 * expiresAt + (storedAt - 1000 * (toSeconds nowMs : Nat)))

theorem recordEnd_eq (expiresAt : Rat) (nowMs storedAt : Millis) :
    storedAt + 1000 * ttlSeconds expiresAt nowMs = recordEnd expiresAt nowMs storedAt := by
  rw [recordEnd, ttlSeconds, mul_max_of_nonneg _ _ (by norm_num), ← max_add_add_left]
  ring_nf

/-- A `SET` comes right after the clock reading from which its life is computed. -/
def TtlFromClock (before : List CacheEvent) (event : CacheEvent) : Prop :=
  ∀ key entry ttl, event.op = .redisSet key entry ttl →
    ∃ past nowMs, before = past ++ [⟨.now, nowMs⟩, ⟨.l1Set key entry, ()⟩] ∧
      ttl = ttlSeconds entry.expiresAt nowMs

/-- An operation that stores nothing in Redis. -/
def LeavesRedis (op : CacheOp) : Prop := ∀ key entry ttl, op ≠ .redisSet key entry ttl

section Programs

variable {P : Platform} {clientId : String} {scopes : List String} {past : List CacheEvent}

theorem get_leavesRedis : Within LeavesRedis (TokenCache.get P clientId scopes) :=
  get_onlyLooks.mono fun _ looks => looks.2

theorem getStale_leavesRedis : Within LeavesRedis (TokenCache.getStale P clientId scopes) := by
  intro trace outcome run
  obtain ⟨reply, rfl, -⟩ := getStale_runs_iff.mp run
  simp [LeavesRedis]

theorem provides_of_leavesRedis {α : Type} {program : Caching α}
    (leaves : Within LeavesRedis program) :
    Provides TtlFromClock past program (fun _ _ => True) := by
  apply Provides.of_within leaves
  intro before event free key entry ttl stores
  exact absurd stores (free key entry ttl)

theorem set_provides (entry : CachedToken) :
    Provides TtlFromClock past (TokenCache.set P clientId entry) (fun _ _ => True) := by
  intro trace outcome run
  refine ⟨?_, fun _ _ => trivial⟩
  obtain ⟨nowMs, rfl⟩ := set_runs_iff.mp run
  intro before event after split key other ttl stores
  match before, split with
  | [], same =>
      cases same
      cases stores
  | [_], same =>
      cases same
      cases stores
  | [_, _], same =>
      cases same
      cases stores
      exact ⟨past, nowMs, rfl, rfl⟩
  | _ :: _ :: _ :: _, same => simp at same

theorem acquireFresh_provides :
    Provides TtlFromClock past (acquireFresh P clientId scopes) (fun _ _ => True) := by
  apply Provides.bind (provides_of_leavesRedis (Within.command (by simp [LeavesRedis])))
  intro _ response _
  apply Provides.bind (provides_of_leavesRedis (Within.command (by simp [LeavesRedis])))
  intro _ nowMs _
  apply Provides.bind (set_provides (response.token scopes nowMs))
  intro _ _ _
  exact Provides.done fun _ _ => trivial

theorem acquireStale_leavesRedis {err : Fault} :
    Within LeavesRedis (acquireStale P clientId scopes err) := by
  apply Within.bind getStale_leavesRedis
  intro stale
  cases stale with
  | none => exact Within.done _
  | some token => exact Within.done _

theorem acquire_provides {forceRefresh : Bool} :
    Provides TtlFromClock past (acquire P clientId scopes forceRefresh) (fun _ _ => True) := by
  have looking : Within LeavesRedis (cachedToken P clientId scopes forceRefresh) := by
    cases forceRefresh with
    | true => exact Within.done _
    | false => exact get_leavesRedis
  apply Provides.bind (provides_of_leavesRedis looking)
  intro _ cached _
  cases cached with
  | some token => exact Provides.done fun _ _ => trivial
  | none =>
      apply Provides.catching acquireFresh_provides
      intro _ err
      exact provides_of_leavesRedis acquireStale_leavesRedis

theorem call_provides (call : CacheCall) :
    Provides TtlFromClock [] (call.program P) (fun _ _ => True) := by
  have returning {α : Type} {result : α} {trace : List CacheEvent} :
      Provides TtlFromClock trace (pure result : Caching α) (fun _ _ => True) :=
    Provides.done fun _ _ => trivial
  cases call with
  | set clientId entry => exact Provides.bind (set_provides entry) fun _ _ _ => returning
  | get clientId scopes => exact provides_of_leavesRedis get_leavesRedis
  | getStale clientId scopes => exact provides_of_leavesRedis getStale_leavesRedis
  | acquire clientId scopes forceRefresh =>
      exact Provides.bind acquire_provides fun _ _ _ => returning
  | clearL1 =>
      apply provides_of_leavesRedis
      exact Within.bind (Within.command (by simp [LeavesRedis])) fun _ => Within.done _

theorem get_hit_runs {nowMs : Millis} {entry : CachedToken} (fresh : entry.Fresh nowMs) :
    Runs (TokenCache.get P clientId scopes)
      [⟨.now, nowMs⟩, ⟨.l1Get (TokenCache.cacheKey P clientId scopes), some entry⟩]
      (.ok (some { entry with tokenSource := .cacheL1 })) := by
  rw [TokenCache.get, Caching.now, runs_reply_bind_iff]
  refine ⟨nowMs, _, rfl, ?_⟩
  rw [Caching.l1Get, runs_reply_bind_iff]
  refine ⟨some entry, [], rfl, ?_⟩
  simp only [fresh, ↓reduceIte]
  exact .done _

end Programs

namespace TokenCacheRun

variable {P : Platform} {Thread Instance : Type} [DecidableEq Thread] [DecidableEq Instance]
  (run : TokenCacheRun P Thread Instance)

/-- No token is given out for fresh within the buffer before its end, by the clock reading of the
lookup, and none is given out as a last resort after its end. -/
structure NeverServesExpired : Prop where
  fresh : ∀ thread token (nowMs : Millis), run.Returns thread token → ¬ run.AsksCognito thread →
    ⟨.now, nowMs⟩ ∈ run.history.trace thread →
    (nowMs : Rat) < 1000 * (token.expiresAt - bufferSeconds)
  stale : ∀ thread token, run.Returns thread token →
    (∃ clientId scopes, run.call thread = .getStale clientId scopes) ∨
      (run.AsksCognito thread ∧ token.tokenSource ≠ .cognito) →
    ∀ before step after, run.history = before ++ step :: after → step.thread = thread →
      History.trace after thread = [] → (step.time : Rat) < 1000 * token.expiresAt

/-- A step of a lookup that has read the clock and has not asked Cognito. -/
def LooksUp (before : History tokenCaching Thread) (step : CacheStep Thread) (key : String)
    (nowMs : Millis) : Prop :=
  (step.event.op = .l1Get key ∨ step.event.op = .redisGet key) ∧
    ⟨.now, nowMs⟩ ∈ History.trace before step.thread ∧
    ∀ event ∈ History.trace before step.thread, ∀ clientId scopes,
      event.op ≠ .cognito clientId scopes

/-- A step that reads Redis without a look at the clock, or after Cognito has failed. -/
def ReadsStale (before : History tokenCaching Thread) (step : CacheStep Thread) (key : String) :
    Prop :=
  step.event.op = .redisGet key ∧
    (History.trace before step.thread = [] ∨
      ∃ event ∈ History.trace before step.thread, ∃ clientId scopes,
        event.op = .cognito clientId scopes)

/-- No lookup reads the clock in the part of a second that rounding hides, for a token that has
been written under its key; and no stale read comes between the end of the token stored last
and the end of its record. -/
structure Timely : Prop where
  lookups : ∀ before step after, run.history = before ++ step :: after → ∀ key nowMs,
    LooksUp before step key nowMs → ∀ write ∈ before, ∀ entry,
    (write.event.op = .l1Set key entry ∨ ∃ ttl, write.event.op = .redisSet key entry ttl) →
    entry.expiresAt - bufferSeconds ≤ (toSeconds nowMs : Nat) ∨
      (nowMs : Rat) < 1000 * (entry.expiresAt - bufferSeconds)
  staleReads : ∀ earlier write later read after,
    run.history = (earlier ++ write :: later) ++ read :: after → ∀ key,
    ReadsStale (earlier ++ write :: later) read key → ∀ record,
    storesRecord run.applied key write = some (some record) →
    (∀ step ∈ later, storesRecord run.applied key step = none) → ∀ past nowMs,
    History.trace earlier write.thread = past ++
      [⟨.now, nowMs⟩, ⟨.l1Set key record.entry, ()⟩] →
    (read.time : Rat) < 1000 * record.entry.expiresAt ∨
      recordEnd record.entry.expiresAt nowMs write.time ≤ read.time

variable {run} {before after : History tokenCaching Thread} {step : CacheStep Thread}
  {key : String} {entry : CachedToken}

/-- A record lives from its clock reading on. -/
theorem stored_life (split : run.history = before ++ step :: after) {record : CacheRecord}
    (stores : storesRecord run.applied key step = some (some record)) :
    ∃ past nowMs, History.trace before step.thread = past ++
        [⟨.now, nowMs⟩, ⟨.l1Set key record.entry, ()⟩] ∧
      record.storedAt + 1000 * record.ttlSeconds =
        recordEnd record.entry.expiresAt nowMs step.time := by
  obtain ⟨sets, storedAt⟩ := storesRecord_eq_some stores
  have preceded := (call_provides (run.call step.thread)).preceded (run.running step.thread)
  obtain ⟨past, nowMs, own, life⟩ := History.needs_of_preceded preceded split _ _ _ sets
  refine ⟨past, nowMs, own, ?_⟩
  rw [storedAt, life, recordEnd_eq]

/-- What the map gives a lookup was written under its key. -/
theorem l1_written {found : Option CachedToken} (split : run.history = before ++ step :: after)
    (reads : step.event = ⟨.l1Get key, found⟩) (present : found = some entry) :
    ∃ write ∈ before, write.event.op = .l1Set key entry := by
  have read := run.readsL1 _ _ _ split _ _ reads
  rw [present] at read
  obtain ⟨start, -⟩ | ⟨write, member, wrote⟩ := held_written read.symm
  · cases start
  · exact ⟨write, member, storesEntry_eq_some wrote⟩

/-- What Redis gives was stored last under its key, and its life is not over. -/
theorem redis_stored {raw : Option CachedToken} (split : run.history = before ++ step :: after)
    (reads : step.event = ⟨.redisGet key, .ok raw⟩) (present : raw = some entry) :
    ∃ earlier write later record, before = earlier ++ write :: later ∧
      storesRecord run.applied key write = some (some record) ∧ record.entry = entry ∧
      record.Alive step.time ∧ ∀ other ∈ later, storesRecord run.applied key other = none := by
  have read := run.readsRedis _ _ _ split _ _ reads
  rw [present] at read
  obtain ⟨record, found, alive, same⟩ := liveEntry_eq_some_iff.mp read.symm
  have written : ¬ ∀ other ∈ before, storesRecord run.applied key other = none := by
    intro quiet
    rw [Effect.held_of_quiet quiet] at found
    cases found
  obtain ⟨earlier, write, later, parts, wrote, quiet⟩ := held_last_write found written
  exact ⟨earlier, write, later, record, parts, wrote, same, alive, quiet⟩

namespace Timely

variable (timely : run.Timely)

include timely

/-- What a lookup takes for fresh has more than the buffer left. -/
theorem fresh_entry {nowMs : Millis} (split : run.history = before ++ step :: after)
    (looks : LooksUp before step key nowMs) {write : CacheStep Thread} (member : write ∈ before)
    (wrote : write.event.op = .l1Set key entry ∨
      ∃ ttl, write.event.op = .redisSet key entry ttl)
    (fresh : entry.Fresh nowMs) : (nowMs : Rat) < 1000 * (entry.expiresAt - bufferSeconds) := by
  obtain hidden | early := timely.lookups _ _ _ split key nowMs looks write member entry wrote
  · exact absurd fresh (not_lt.mpr hidden)
  · exact early

theorem stale_entry {raw : Option CachedToken} (split : run.history = before ++ step :: after)
    (reads : step.event = ⟨.redisGet key, .ok raw⟩) (present : raw = some entry)
    (stale : ReadsStale before step key) : (step.time : Rat) < 1000 * entry.expiresAt := by
  obtain ⟨earlier, write, later, record, rfl, wrote, rfl, alive, quiet⟩ :=
    redis_stored split reads present
  have writeSplit : run.history = earlier ++ write :: (later ++ step :: after) := by
    rw [split]
    simp
  obtain ⟨past, nowMs, own, life⟩ := stored_life writeSplit wrote
  obtain early | late :=
    timely.staleReads _ _ _ _ _ split key stale record wrote quiet past nowMs own
  · exact early
  · unfold CacheRecord.Alive at alive
    rw [life] at alive
    exact absurd alive (not_lt.mpr late)

section Lookups

variable {thread : Thread} {clientId : String} {scopes : List String} {token : TokenResult}
  {nowMs : Millis} {front rest : List CacheEvent}

omit timely in
/-- What a call reads behind its clock, with no question to Cognito yet. -/
theorem exists_looksUp {event : CacheEvent} (whole : run.history.trace thread = front ++ event :: rest)
    (clock : ⟨.now, nowMs⟩ ∈ front)
    (quiet : ∀ event ∈ front, ∀ clientId scopes, event.op ≠ .cognito clientId scopes)
    (reads : event.op = .l1Get key ∨ event.op = .redisGet key) :
    ∃ before step after, run.history = before ++ step :: after ∧ step.event = event ∧
      LooksUp before step key nowMs := by
  obtain ⟨before, step, after, split, rfl, performed, previous, -⟩ := History.split_of_trace whole
  refine ⟨before, step, after, split, performed, ?_, ?_, ?_⟩
  · rwa [performed]
  · rwa [previous]
  · rwa [previous]

/-- A hit in the map. -/
theorem l1_hit (whole : run.history.trace thread = front ++ ⟨.l1Get key, some entry⟩ :: rest)
    (clock : ⟨.now, nowMs⟩ ∈ front)
    (quiet : ∀ event ∈ front, ∀ clientId scopes, event.op ≠ .cognito clientId scopes)
    (fresh : entry.Fresh nowMs) : (nowMs : Rat) < 1000 * (entry.expiresAt - bufferSeconds) := by
  obtain ⟨before, step, after, split, performed, looks⟩ :=
    exists_looksUp whole clock quiet (.inl rfl)
  obtain ⟨write, member, wrote⟩ := l1_written split performed rfl
  exact timely.fresh_entry split looks member (.inl wrote) fresh

/-- A hit in Redis. -/
theorem redis_hit
    (whole : run.history.trace thread = front ++ ⟨.redisGet key, .ok (some entry)⟩ :: rest)
    (clock : ⟨.now, nowMs⟩ ∈ front)
    (quiet : ∀ event ∈ front, ∀ clientId scopes, event.op ≠ .cognito clientId scopes)
    (fresh : entry.Fresh nowMs) : (nowMs : Rat) < 1000 * (entry.expiresAt - bufferSeconds) := by
  obtain ⟨before, step, after, split, performed, looks⟩ :=
    exists_looksUp whole clock quiet (.inr rfl)
  obtain ⟨earlier, write, later, record, parts, wrote, same, -, -⟩ :=
    redis_stored split performed rfl
  have stores := (storesRecord_eq_some wrote).1
  rw [same] at stores
  exact timely.fresh_entry split looks (by simp [parts]) (.inr ⟨_, stores⟩) fresh

/-- A lookup that has found something. -/
theorem looked_up (looked : Runs (TokenCache.get P clientId scopes) (run.history.trace thread)
      (.ok (some token)))
    (reading : ⟨.now, nowMs⟩ ∈ run.history.trace thread) :
    (nowMs : Rat) < 1000 * (token.expiresAt - bufferSeconds) := by
  obtain ⟨moment, lookup⟩ := lookup_run looked
  rw [lookup.moment reading]
  have quiet := not_asksCognito looked
  have silent : ∀ event ∈ run.history.trace thread, ∀ clientId scopes,
      event.op ≠ .cognito clientId scopes :=
    fun event member clientId scopes asks => quiet ⟨event, member, clientId, scopes, asks⟩
  generalize trace_eq : run.history.trace thread = trace at lookup silent
  cases lookup with
  | l1 entry fresh =>
      have whole : run.history.trace thread = [⟨.now, moment⟩] ++
          ⟨.l1Get (TokenCache.cacheKey P clientId scopes), some entry⟩ :: [] := trace_eq
      exact timely.l1_hit whole (by simp) (by simp) fresh
  | redis entry missing fresh looks =>
      apply timely.redis_hit trace_eq List.mem_cons_self _ fresh
      intro event member
      exact silent event (List.mem_append_left _ member)

end Lookups

end Timely

theorem returns_getStale {thread : Thread} {token : TokenResult} {clientId : String}
    {scopes : List String} (called : run.call thread = .getStale clientId scopes)
    (returned : run.Returns thread token) :
    run.history.trace thread =
      [⟨.redisGet (TokenCache.cacheKey P clientId scopes), .ok (some token.toCachedToken)⟩] := by
  rw [Returns, called, CacheCall.program, getStale_runs_iff] at returned
  obtain ⟨reply, own, same⟩ := returned
  cases reply with
  | error _ => cases same
  | ok raw =>
      cases raw with
      | none => cases same
      | some parsed =>
          cases same
          exact own

/-- A call that gives out nothing returns no token. -/
theorem no_token {α : Type} {program : Caching α} {trace : List CacheEvent} {token : TokenResult} :
    ¬ Runs (program >>= fun _ => (pure none : Caching (Option TokenResult))) trace
      (.ok (some token)) := by
  intro run
  obtain ⟨_, _, _, _, _, rest⟩ := runs_bind_ok.mp run
  cases (runs_pure_iff.mp rest).2

/-- A token that is returned without a question to Cognito, by a call that has read the clock, was
found by a lookup. -/
theorem exists_lookup {thread : Thread} {token : TokenResult} {nowMs : Millis}
    (returned : run.Returns thread token) (quiet : ¬ run.AsksCognito thread)
    (reading : ⟨.now, nowMs⟩ ∈ run.history.trace thread) :
    ∃ clientId scopes, Runs (TokenCache.get P clientId scopes) (run.history.trace thread)
      (.ok (some token)) := by
  cases called : run.call thread with
  | set clientId entry =>
      rw [Returns, called] at returned
      exact absurd returned no_token
  | clearL1 =>
      rw [Returns, called] at returned
      exact absurd returned no_token
  | getStale clientId scopes =>
      rw [returns_getStale called returned] at reading
      simp at reading
  | get clientId scopes =>
      rw [Returns, called] at returned
      exact ⟨clientId, scopes, returned⟩
  | acquire clientId scopes forceRefresh =>
      have acquired := (returns_acquire_iff called).mp returned
      generalize trace_eq : run.history.trace thread = trace at acquired
      have shape := acquire_run acquired
      generalize outcome_eq : (Except.ok token : Except Fault _) = outcome at shape
      cases shape with
      | hit trace other _ looked =>
          cases outcome_eq
          exact ⟨clientId, scopes, looked⟩
      | unread _ err _ _ => cases outcome_eq
      | granted early late other _ fresh =>
          rw [← List.append_nil late] at trace_eq
          exact absurd (asksCognito trace_eq fresh) quiet
      | degraded early asking late err _ _ fresh _ =>
          exact absurd (asksCognito trace_eq fresh) quiet

/-- A token that is given out as a last resort was read from Redis in the last step of its call. -/
theorem exists_stale_read {thread : Thread} {token : TokenResult}
    (returned : run.Returns thread token)
    (degraded : (∃ clientId scopes, run.call thread = .getStale clientId scopes) ∨
      (run.AsksCognito thread ∧ token.tokenSource ≠ .cognito)) :
    ∃ key front, run.history.trace thread =
        front ++ [⟨.redisGet key, .ok (some token.toCachedToken)⟩] ∧
      (front = [] ∨ ∃ event ∈ front, ∃ clientId scopes, event.op = .cognito clientId scopes) := by
  have asked (notStale : ∀ clientId scopes, run.call thread ≠ .getStale clientId scopes) :
      run.AsksCognito thread ∧ token.tokenSource ≠ .cognito := by
    cases degraded with
    | inl stale =>
        obtain ⟨clientId, scopes, called⟩ := stale
        exact absurd called (notStale clientId scopes)
    | inr asked => exact asked
  cases called : run.call thread with
  | set clientId entry =>
      rw [Returns, called] at returned
      exact absurd returned no_token
  | clearL1 =>
      rw [Returns, called] at returned
      exact absurd returned no_token
  | getStale clientId scopes => exact ⟨_, [], returns_getStale called returned, .inl rfl⟩
  | get clientId scopes =>
      rw [Returns, called] at returned
      exact absurd (asked (by simp [called])).1 (not_asksCognito returned)
  | acquire clientId scopes forceRefresh =>
      obtain ⟨asks, source⟩ := asked (by simp [called])
      have acquired := (returns_acquire_iff called).mp returned
      generalize trace_eq : run.history.trace thread = trace at acquired
      have shape := acquire_run acquired
      generalize outcome_eq : (Except.ok token : Except Fault _) = outcome at shape
      cases shape with
      | hit trace other _ looked =>
          cases outcome_eq
          rw [← trace_eq] at looked
          exact absurd asks (not_asksCognito looked)
      | unread _ err _ _ => cases outcome_eq
      | granted early late other _ fresh =>
          cases outcome_eq
          exact absurd (acquireFresh_source fresh) source
      | degraded early asking late err _ _ fresh failed =>
          subst outcome_eq
          obtain ⟨reply, rfl, returns⟩ := acquireStale_run failed
          obtain ⟨parsed, rfl, rfl⟩ := returns token rfl
          obtain ⟨refused, asks⟩ := acquireFresh_asks fresh
          refine ⟨_, early ++ asking, by rw [List.append_assoc], .inr ?_⟩
          exact ⟨_, List.mem_append_right early asks, _, _, rfl⟩

/-- Timely reads are never answered with an expired token. -/
theorem neverServesExpired (timely : run.Timely) : run.NeverServesExpired where
  fresh := by
    intro thread token nowMs returned quiet reading
    obtain ⟨clientId, scopes, looked⟩ := exists_lookup returned quiet reading
    exact timely.looked_up looked reading
  stale := by
    intro thread token returned degraded before step after split own ends
    obtain ⟨key, front, whole, last⟩ := exists_stale_read returned degraded
    obtain ⟨previous, performed⟩ := History.last_step split own ends whole
    rw [← own] at previous
    have stale : ReadsStale before step key := by
      refine ⟨by rw [performed], ?_⟩
      rwa [previous]
    exact timely.stale_entry split performed rfl stale

end TokenCacheRun

section Stored

inductive StoredThread where
  | storing
  | looking
  | degrading
  deriving DecidableEq

def minuteToken : CachedToken where
  accessToken := "access-token"
  expiresAt := 1060
  scopes := ["a"]

def minuteKey : String := TokenCache.cacheKey digests.platform "client" ["a"]

def minuteCall : StoredThread → CacheCall
  | .storing => .set "client" minuteToken
  | .looking => .get "client" ["a"]
  | .degrading => .getStale "client" ["a"]

/-- A token for a minute is stored, looked up at once, and read as a last resort. -/
def minuteHistory (setAt readAt : Millis) : History tokenCaching StoredThread :=
  [⟨.storing, setAt, ⟨.now, setAt⟩⟩, ⟨.storing, setAt, ⟨.l1Set minuteKey minuteToken, ()⟩⟩,
    ⟨.storing, setAt, ⟨.redisSet minuteKey minuteToken 60, .ok ()⟩⟩,
    ⟨.looking, setAt, ⟨.now, setAt⟩⟩,
    ⟨.looking, setAt, ⟨.l1Get minuteKey, some minuteToken⟩⟩,
    ⟨.degrading, readAt, ⟨.redisGet minuteKey, .ok (some minuteToken)⟩⟩]

theorem minuteHistory_last (setAt readAt : Millis) : minuteHistory setAt readAt =
    (minuteHistory setAt readAt).take 5 ++
      ⟨.degrading, readAt, ⟨.redisGet minuteKey, .ok (some minuteToken)⟩⟩ :: [] := rfl

/-- The read comes before Redis has dropped the record. -/
structure WithinMinute (setAt readAt : Millis) : Prop where
  moment : toSeconds setAt = 1000
  ordered : setAt ≤ readAt
  alive : (readAt : Rat) < setAt + 60000

variable {setAt readAt : Millis} (minute : WithinMinute setAt readAt)

def minuteResult : StoredThread → Option TokenResult
  | .storing => none
  | .looking => some { minuteToken with tokenSource := .cacheL1 }
  | .degrading => some { minuteToken with tokenSource := .cacheL2 }

include minute

theorem minute_runs (thread : StoredThread) :
    Runs ((minuteCall thread).program digests.platform)
      (History.trace (minuteHistory setAt readAt) thread) (.ok (minuteResult thread)) := by
  cases thread with
  | storing =>
      have life : ttlSeconds minuteToken.expiresAt setAt = 60 := by
        rw [ttlSeconds, minute.moment]
        norm_num [minuteToken]
      apply runs_bind_ok.mpr
      refine ⟨(), _, [], (List.append_nil _).symm, set_runs_iff.mpr ⟨setAt, ?_⟩, .done _⟩
      rw [life]
      rfl
  | looking =>
      have fresh : minuteToken.Fresh setAt := by
        unfold CachedToken.Fresh
        rw [minute.moment]
        norm_num [minuteToken, bufferSeconds]
      exact get_hit_runs fresh
  | degrading =>
      apply getStale_runs_iff.mpr
      exact ⟨.ok (some minuteToken), rfl, rfl⟩

omit minute in
theorem minute_readsL1 : Along (fun before step => ∀ key found,
    step.event = ⟨.l1Get key, found⟩ →
      found = held (storesEntry (fun _ => ()) step.thread key) none before)
    [] (minuteHistory setAt readAt) := by
  simp [Along, minuteHistory, held, storesEntry]

theorem minute_readsRedis : Along (fun before step => ∀ key found,
    step.event = ⟨.redisGet key, .ok found⟩ →
      found = liveEntry step.time (held (storesRecord (fun _ => false) key) none before))
    [] (minuteHistory setAt readAt) := by
  have alive : CacheRecord.Alive ⟨minuteToken, setAt, 60⟩ readAt := by
    have early := minute.alive
    unfold CacheRecord.Alive
    linarith
  simp [Along, minuteHistory, held, storesRecord, liveEntry, Option.filter, alive]

/-- One process and one key. -/
def minuteRun : TokenCacheRun digests.platform StoredThread Unit where
  history := minuteHistory setAt readAt
  instanceOf _ := ()
  call := minuteCall
  running thread := (minute_runs minute thread).performs
  ordered := by
    have ordered := minute.ordered
    simp [History.Ordered, minuteHistory, ordered]
  applied _ := false
  clock := by simp [minuteHistory]
  readsL1 _ _ _ split := minute_readsL1.at_split split
  readsRedis _ _ _ split := (minute_readsRedis minute).at_split split
  wholeTtl := by
    have whole : (60 : Rat).isInt = true := by decide
    simp [minuteHistory, whole]

omit minute in
theorem minute_written : ∀ step ∈ minuteHistory setAt readAt, ∀ key entry,
    (step.event.op = .l1Set key entry ∨ ∃ ttl, step.event.op = .redisSet key entry ttl) →
      entry = minuteToken := by
  simp +contextual [minuteHistory, eq_comm]

/-- A minute is timely as long as its reads come before the token ends. -/
theorem minuteRun_timely (early : setAt < 1030000) (inTime : readAt < 1060000) :
    (minuteRun minute).Timely where
  lookups := by
    intro before step after split key nowMs looks write member entry wrote
    have inside : write ∈ minuteHistory setAt readAt := by
      rw [show minuteHistory setAt readAt = before ++ step :: after from split]
      simp [member]
    rw [minute_written write inside key entry wrote]
    obtain ⟨clock, ticking, -, ticks⟩ := History.mem_trace.mp looks.2.1
    have moment : nowMs = setAt := by
      have known : ∀ step ∈ minuteHistory setAt readAt, ∀ moment,
          step.event = ⟨.now, moment⟩ → moment = setAt := by simp [minuteHistory]
      apply known clock _ nowMs ticks
      rw [show minuteHistory setAt readAt = before ++ step :: after from split]
      simp [ticking]
    right
    rw [moment]
    norm_num [minuteToken, bufferSeconds]
    exact early
  staleReads := by
    intro earlier write later read after split key _ record wrote _ past nowMs _
    have whole : minuteHistory setAt readAt = (earlier ++ write :: later) ++ read :: after := split
    have inside : write ∈ minuteHistory setAt readAt := by simp [whole]
    have token := minute_written write inside key record.entry
      (.inr ⟨_, (storesRecord_eq_some wrote).1⟩)
    have times : ∀ step ∈ minuteHistory setAt readAt, step.time ≤ readAt := by
      have ordered := minute.ordered
      simp [minuteHistory, ordered]
    have latest := times read (by simp [whole])
    left
    rw [token]
    norm_num [minuteToken]
    exact lt_of_le_of_lt latest inTime

omit minute

theorem promptMinute : WithinMinute 1000000 1000400 := ⟨rfl, by decide, by norm_num⟩

theorem promptMinute_served : (minuteRun promptMinute).NeverServesExpired :=
  TokenCacheRun.neverServesExpired (minuteRun_timely promptMinute (by decide) (by decide))

/-- Set half a second after a whole second, the record outlives its token by as much. -/
theorem lateMinute : WithinMinute 1000500 1060200 := ⟨rfl, by decide, by norm_num⟩

theorem lateMinute_served :
    ¬ ∀ (P : Platform) (run : TokenCacheRun P StoredThread Unit), run.NeverServesExpired := by
  intro holds
  have served := (holds _ (minuteRun lateMinute)).stale .degrading
    { minuteToken with tokenSource := .cacheL2 } (minute_runs lateMinute .degrading)
    (.inl ⟨"client", ["a"], rfl⟩)
  have early := served _ _ [] (minuteHistory_last _ _) rfl rfl
  norm_num [minuteToken] at early

end Stored

end S2s
