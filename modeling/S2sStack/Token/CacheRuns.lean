import S2sStack.Token.TokenCache

set_option autoImplicit false

/- What each call of the token cache does. -/
namespace S2s

open Effect.Program

section Runs

variable {P : Platform} {clientId : String} {scopes : List String} {trace : List CacheEvent}

/-- What `set` does: its map always takes the entry, and Redis may refuse it. -/
theorem set_runs_iff {entry : CachedToken} {outcome : Except Fault Unit} :
    Runs (TokenCache.set P clientId entry) trace outcome ↔
      ∃ nowMs : Millis, trace = [⟨.now, nowMs⟩,
        ⟨.l1Set (TokenCache.cacheKey P clientId entry.scopes) entry, ()⟩,
        ⟨.redisSet (TokenCache.cacheKey P clientId entry.scopes) entry
          (ttlSeconds entry.expiresAt nowMs),
          outcome⟩] := by
  rw [TokenCache.set, Caching.now, runs_reply_bind_iff]
  constructor
  · rintro ⟨nowMs, _, rfl, run⟩
    rw [Caching.l1Set, runs_reply_bind_iff] at run
    obtain ⟨_, _, rfl, run⟩ := run
    rw [Caching.redisSet, runs_command_iff] at run
    obtain ⟨reply, rfl, rfl⟩ := run
    exact ⟨nowMs, rfl⟩
  · rintro ⟨nowMs, rfl⟩
    refine ⟨nowMs, _, rfl, ?_⟩
    rw [Caching.l1Set, runs_reply_bind_iff]
    refine ⟨(), _, rfl, ?_⟩
    exact runs_command_iff.mpr ⟨outcome, rfl, rfl⟩

/-- What a lookup in Redis does after the map has given nothing. -/
inductive ReadThroughRun (key : String) (nowMs : Millis) :
    List CacheEvent → Except Fault (Option TokenResult) → Prop
  | failed (err : Fault) : ReadThroughRun key nowMs [⟨.redisGet key, .error err⟩] (.error err)
  | absent : ReadThroughRun key nowMs [⟨.redisGet key, .ok none⟩] (.ok none)
  | old (parsed : CachedToken) : ¬ parsed.Fresh nowMs →
      ReadThroughRun key nowMs [⟨.redisGet key, .ok (some parsed)⟩] (.ok none)
  | found (parsed : CachedToken) : parsed.Fresh nowMs →
      ReadThroughRun key nowMs [⟨.redisGet key, .ok (some parsed)⟩, ⟨.l1Set key parsed, ()⟩]
        (.ok (some { parsed with tokenSource := .cacheL2 }))

theorem readThrough_run {key : String} {nowMs : Millis}
    {outcome : Except Fault (Option TokenResult)}
    (run : Runs (TokenCache.readThrough key nowMs) trace outcome) :
    ReadThroughRun key nowMs trace outcome := by
  rw [TokenCache.readThrough, Caching.redisGet, runs_command_bind_iff] at run
  obtain ⟨reply, rest, rfl, ⟨raw, replied, run⟩ | ⟨err, replied, rfl, rfl⟩⟩ := run
  · have same : reply = .ok raw := replied
    subst same
    cases raw with
    | none =>
        obtain ⟨rfl, rfl⟩ := runs_pure_iff.mp run
        exact .absent
    | some parsed =>
        by_cases fresh : parsed.Fresh nowMs
        · simp only [fresh, ↓reduceIte] at run
          rw [Caching.l1Set, runs_reply_bind_iff] at run
          obtain ⟨_, _, rfl, run⟩ := run
          obtain ⟨rfl, rfl⟩ := runs_pure_iff.mp run
          exact .found parsed fresh
        · simp only [fresh, ↓reduceIte] at run
          obtain ⟨rfl, rfl⟩ := runs_pure_iff.mp run
          exact .old parsed fresh
  · have same : reply = .error err := replied
    subst same
    exact .failed err

/-- What `get` does: its map has a fresh entry, or it drops an old one and asks Redis. -/
inductive GetRun (key : String) : List CacheEvent → Except Fault (Option TokenResult) → Prop
  | hit (nowMs : Millis) (entry : CachedToken) : entry.Fresh nowMs →
      GetRun key [⟨.now, nowMs⟩, ⟨.l1Get key, some entry⟩]
        (.ok (some { entry with tokenSource := .cacheL1 }))
  | dropped (nowMs : Millis) (entry : CachedToken) (rest : List CacheEvent)
      (outcome : Except Fault (Option TokenResult)) : ¬ entry.Fresh nowMs →
      ReadThroughRun key nowMs rest outcome →
      GetRun key (⟨.now, nowMs⟩ :: ⟨.l1Get key, some entry⟩ :: ⟨.l1Delete key, ()⟩ :: rest) outcome
  | missed (nowMs : Millis) (rest : List CacheEvent)
      (outcome : Except Fault (Option TokenResult)) : ReadThroughRun key nowMs rest outcome →
      GetRun key (⟨.now, nowMs⟩ :: ⟨.l1Get key, none⟩ :: rest) outcome

theorem get_run {outcome : Except Fault (Option TokenResult)}
    (run : Runs (TokenCache.get P clientId scopes) trace outcome) :
    GetRun (TokenCache.cacheKey P clientId scopes) trace outcome := by
  rw [TokenCache.get, Caching.now, runs_reply_bind_iff] at run
  obtain ⟨nowMs, _, rfl, run⟩ := run
  rw [Caching.l1Get, runs_reply_bind_iff] at run
  obtain ⟨l1, rest, rfl, run⟩ := run
  cases l1 with
  | none => exact .missed nowMs rest outcome (readThrough_run run)
  | some entry =>
      by_cases fresh : entry.Fresh nowMs
      · simp only [fresh, ↓reduceIte] at run
        obtain ⟨rfl, rfl⟩ := runs_pure_iff.mp run
        exact .hit nowMs entry fresh
      · simp only [fresh, ↓reduceIte] at run
        rw [Caching.l1Delete, runs_reply_bind_iff] at run
        obtain ⟨_, later, rfl, run⟩ := run
        exact .dropped nowMs entry later outcome fresh (readThrough_run run)

/-- What a lookup does that finds a token at this clock reading. -/
inductive LookupRun (key : String) (nowMs : Millis) : List CacheEvent → TokenResult → Prop
  | l1 (entry : CachedToken) : entry.Fresh nowMs →
      LookupRun key nowMs [⟨.now, nowMs⟩, ⟨.l1Get key, some entry⟩]
        { entry with tokenSource := .cacheL1 }
  | redis (entry : CachedToken) (missing : List CacheEvent) : entry.Fresh nowMs →
      (∀ event ∈ missing, event.op = .l1Get key ∨ event.op = .l1Delete key) →
      LookupRun key nowMs ((⟨.now, nowMs⟩ :: missing) ++
          [⟨.redisGet key, .ok (some entry)⟩, ⟨.l1Set key entry, ()⟩])
        { entry with tokenSource := .cacheL2 }

theorem lookup_run {token : TokenResult}
    (run : Runs (TokenCache.get P clientId scopes) trace (.ok (some token))) :
    ∃ nowMs, LookupRun (TokenCache.cacheKey P clientId scopes) nowMs trace token := by
  have shape := get_run run
  generalize outcome_eq : (Except.ok (some token) : Except Fault _) = outcome at shape
  cases shape with
  | hit nowMs entry fresh =>
      cases outcome_eq
      exact ⟨nowMs, .l1 entry fresh⟩
  | dropped nowMs entry rest _ _ through =>
      subst outcome_eq
      cases through with
      | found parsed fresh =>
          refine ⟨nowMs, .redis parsed [⟨.l1Get _, some entry⟩, ⟨.l1Delete _, ()⟩] fresh ?_⟩
          simp
  | missed nowMs rest _ through =>
      subst outcome_eq
      cases through with
      | found parsed fresh =>
          refine ⟨nowMs, .redis parsed [⟨.l1Get _, none⟩] fresh ?_⟩
          simp

theorem LookupRun.moment {key : String} {nowMs moment : Millis} {token : TokenResult}
    (lookup : LookupRun key nowMs trace token) (reading : ⟨.now, moment⟩ ∈ trace) :
    moment = nowMs := by
  cases lookup with
  | l1 entry _ => simpa using reading
  | redis entry missing _ looks =>
      simp only [List.cons_append, List.mem_cons, List.mem_append, Effect.Event.mk.injEq,
        reduceCtorEq, false_and, List.not_mem_nil, or_false] at reading
      cases reading with
      | inl clock => simpa using clock
      | inr inside =>
          obtain looking | dropping := looks _ inside
          · cases looking
          · cases dropping

theorem LookupRun.source {key : String} {nowMs : Millis} {token : TokenResult}
    (lookup : LookupRun key nowMs trace token) : token.tokenSource ≠ .cognito := by
  cases lookup <;> simp

/-- An operation that neither asks Cognito nor stores anything in Redis. -/
def CacheOp.OnlyLooks (op : CacheOp) : Prop :=
  (∀ clientId scopes, op ≠ .cognito clientId scopes) ∧
    ∀ key entry ttlSeconds, op ≠ .redisSet key entry ttlSeconds

theorem get_onlyLooks : Within CacheOp.OnlyLooks (TokenCache.get P clientId scopes) := by
  intro trace outcome run
  have through {nowMs : Millis} {rest : List CacheEvent}
      (reading : ReadThroughRun (TokenCache.cacheKey P clientId scopes) nowMs rest outcome) :
      ∀ event ∈ rest, event.op.OnlyLooks := by
    cases reading <;> simp [CacheOp.OnlyLooks]
  have shape := get_run run
  cases shape with
  | hit nowMs entry _ => simp [CacheOp.OnlyLooks]
  | dropped nowMs entry rest _ _ reading => simpa [CacheOp.OnlyLooks] using through reading
  | missed nowMs rest _ reading => simpa [CacheOp.OnlyLooks] using through reading

theorem getStale_runs_iff {outcome : Except Fault (Option TokenResult)} :
    Runs (TokenCache.getStale P clientId scopes) trace outcome ↔
      ∃ reply, trace = [⟨.redisGet (TokenCache.cacheKey P clientId scopes), reply⟩] ∧
        outcome = reply.map (Option.map fun parsed => { parsed with tokenSource := .cacheL2 }) := by
  rw [TokenCache.getStale, Caching.redisGet, runs_command_bind_iff]
  constructor
  · rintro ⟨reply, rest, rfl, ⟨raw, replied, run⟩ | ⟨err, replied, rfl, rfl⟩⟩
    · have same : reply = .ok raw := replied
      subst same
      obtain ⟨rfl, rfl⟩ := runs_pure_iff.mp run
      exact ⟨.ok raw, rfl, rfl⟩
    · have same : reply = .error err := replied
      subst same
      exact ⟨.error err, rfl, rfl⟩
  · rintro ⟨reply, rfl, rfl⟩
    cases reply with
    | ok raw => exact ⟨.ok raw, [], rfl, .inl ⟨raw, rfl, .done _⟩⟩
    | error err => exact ⟨.error err, [], rfl, .inr ⟨err, rfl, rfl, rfl⟩⟩

/-- What the `try` block of `acquire` does. -/
inductive FreshRun (P : Platform) (clientId : String) (scopes : List String) :
    List CacheEvent → Except Fault TokenResult → Prop
  | refused (err : Fault) :
      FreshRun P clientId scopes [⟨.cognito clientId scopes, .error err⟩] (.error err)
  | stored (response : CognitoTokenResponse) (nowMs : Millis) (rest : List CacheEvent)
      (outcome : Except Fault Unit) :
      Runs (TokenCache.set P clientId (response.token scopes nowMs)) rest outcome →
      FreshRun P clientId scopes
        (⟨.cognito clientId scopes, .ok response⟩ :: ⟨.now, nowMs⟩ :: rest)
        (outcome.map fun _ => { response.token scopes nowMs with tokenSource := .cognito })

theorem acquireFresh_run {outcome : Except Fault TokenResult}
    (run : Runs (acquireFresh P clientId scopes) trace outcome) :
    FreshRun P clientId scopes trace outcome := by
  rw [acquireFresh, Caching.cognito, runs_command_bind_iff] at run
  obtain ⟨reply, rest, rfl, ⟨response, replied, run⟩ | ⟨err, replied, rfl, rfl⟩⟩ := run
  · have same : reply = .ok response := replied
    subst same
    rw [Caching.now, runs_reply_bind_iff] at run
    obtain ⟨nowMs, later, rfl, run⟩ := run
    rw [runs_bind_iff] at run
    obtain ⟨_, before, after, rfl, storing, run⟩ | ⟨err, storing, rfl⟩ := run
    · obtain ⟨rfl, rfl⟩ := runs_pure_iff.mp run
      rw [List.append_nil]
      exact .stored response nowMs before _ storing
    · exact .stored response nowMs later _ storing
  · have same : reply = .error err := replied
    subst same
    exact .refused err

/-- The cache has given `acquire` nothing, or was not asked. -/
def Missed (P : Platform) (clientId : String) (scopes : List String) (forceRefresh : Bool)
    (trace : List CacheEvent) : Prop :=
  if forceRefresh then trace = [] else Runs (TokenCache.get P clientId scopes) trace (.ok none)

/-- What `acquire` does: the cache answers or throws; or Cognito is asked, and a failure after
that is answered from Redis. -/
inductive AcquireRun (P : Platform) (clientId : String) (scopes : List String)
    (forceRefresh : Bool) : List CacheEvent → Except Fault TokenResult → Prop
  | hit (trace : List CacheEvent) (token : TokenResult) : forceRefresh = false →
      Runs (TokenCache.get P clientId scopes) trace (.ok (some token)) →
      AcquireRun P clientId scopes forceRefresh trace (.ok token)
  | unread (trace : List CacheEvent) (err : Fault) : forceRefresh = false →
      Runs (TokenCache.get P clientId scopes) trace (.error err) →
      AcquireRun P clientId scopes forceRefresh trace (.error err)
  | granted (before after : List CacheEvent) (token : TokenResult) :
      Missed P clientId scopes forceRefresh before →
      Runs (acquireFresh P clientId scopes) after (.ok token) →
      AcquireRun P clientId scopes forceRefresh (before ++ after) (.ok token)
  | degraded (before asking after : List CacheEvent) (err : Fault)
      (outcome : Except Fault TokenResult) : Missed P clientId scopes forceRefresh before →
      Runs (acquireFresh P clientId scopes) asking (.error err) →
      Runs (acquireStale P clientId scopes err) after outcome →
      AcquireRun P clientId scopes forceRefresh (before ++ (asking ++ after)) outcome

theorem acquire_run {forceRefresh : Bool} {outcome : Except Fault TokenResult}
    (run : Runs (acquire P clientId scopes forceRefresh) trace outcome) :
    AcquireRun P clientId scopes forceRefresh trace outcome := by
  rw [acquire, runs_bind_iff] at run
  obtain ⟨cached, before, after, rfl, looked, run⟩ | ⟨err, looked, rfl⟩ := run
  · cases cached with
    | some token =>
        obtain ⟨rfl, rfl⟩ := runs_pure_iff.mp run
        cases forceRefresh with
        | false =>
            rw [List.append_nil]
            exact .hit before token rfl looked
        | true => cases (runs_pure_iff.mp looked).2
    | none =>
        have missed : Missed P clientId scopes forceRefresh before := by
          cases forceRefresh with
          | false => exact looked
          | true => exact (runs_pure_iff.mp looked).1
        rw [runs_catching_iff] at run
        obtain ⟨token, asking, rfl⟩ | ⟨err, asking, later, rfl, failed, run⟩ := run
        · exact .granted before after token missed asking
        · exact .degraded before asking later err outcome missed failed run
  · cases forceRefresh with
    | false => exact .unread trace err rfl looked
    | true => cases (runs_pure_iff.mp looked).2

theorem acquireStale_run {err : Fault} {outcome : Except Fault TokenResult}
    (run : Runs (acquireStale P clientId scopes err) trace outcome) :
    ∃ reply, trace = [⟨.redisGet (TokenCache.cacheKey P clientId scopes), reply⟩] ∧
      ∀ token, outcome = .ok token →
        ∃ parsed, reply = .ok (some parsed) ∧ token = { parsed with tokenSource := .cacheL2 } := by
  rw [acquireStale, runs_bind_iff] at run
  obtain ⟨stale, before, after, rfl, reading, run⟩ | ⟨fault, reading, rfl⟩ := run
  · obtain ⟨reply, rfl, same⟩ := getStale_runs_iff.mp reading
    cases stale with
    | none =>
        obtain ⟨rfl, rfl⟩ := runs_throwing_iff.mp run
        refine ⟨reply, rfl, ?_⟩
        intro token impossible
        cases impossible
    | some found =>
        obtain ⟨rfl, rfl⟩ := runs_pure_iff.mp run
        refine ⟨reply, rfl, ?_⟩
        intro token returned
        cases returned
        cases reply with
        | error _ => cases same
        | ok raw =>
            cases raw with
            | none => cases same
            | some parsed =>
                cases same
                exact ⟨parsed, rfl, rfl⟩
  · obtain ⟨reply, rfl, same⟩ := getStale_runs_iff.mp reading
    refine ⟨reply, rfl, ?_⟩
    intro token impossible
    cases impossible

end Runs

end S2s
