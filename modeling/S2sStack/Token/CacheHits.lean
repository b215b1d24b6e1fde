import S2sStack.Token.TokenStores
import S2sStack.TokenTable

set_option autoImplicit false

/- A second `acquire` of the token that a first one has stored. -/
namespace S2s

open Effect (Along History Step held held_append held_of_quiet held_written)
open Effect.Program

/-- The trace of an `acquire` that Cognito has answered. -/
structure GrantedTrace (P : Platform) (clientId : String) (scopes : List String)
    (token : TokenResult) where
  lookedAt : Millis
  l1 : Option CachedToken
  drops : List CacheEvent
  raw : Option CachedToken
  response : CognitoTokenResponse
  answeredAt : Millis
  storedAt : Millis
  stale : ∀ entry, l1 = some entry → ¬ entry.Fresh lookedAt
  dropped : l1 ≠ none → ⟨.l1Delete (TokenCache.cacheKey P clientId scopes), ()⟩ ∈ drops
  onlyDrops : ∀ event ∈ drops, event = ⟨.l1Delete (TokenCache.cacheKey P clientId scopes), ()⟩
  old : ∀ entry, raw = some entry → ¬ entry.Fresh lookedAt
  scopes_eq : token.scopes = response.grantedScopes scopes

namespace GrantedTrace

variable {P : Platform} {clientId : String} {scopes : List String} {token : TokenResult}
  (granted : GrantedTrace P clientId scopes token)

/-- From the lookup in Redis on. -/
def asking : List CacheEvent :=
  [⟨.cognito clientId scopes, .ok granted.response⟩, ⟨.now, granted.answeredAt⟩,
    ⟨.now, granted.storedAt⟩]

def storing : List CacheEvent :=
  [⟨.redisSet (TokenCache.cacheKey P clientId token.scopes) token.toCachedToken
    (ttlSeconds token.expiresAt granted.storedAt), .ok ()⟩]

def trace : List CacheEvent :=
  ⟨.now, granted.lookedAt⟩ :: ⟨.l1Get (TokenCache.cacheKey P clientId scopes), granted.l1⟩ ::
    (granted.drops ++ ⟨.redisGet (TokenCache.cacheKey P clientId scopes), .ok granted.raw⟩ ::
      (granted.asking ++
        ⟨.l1Set (TokenCache.cacheKey P clientId token.scopes) token.toCachedToken, ()⟩ ::
          granted.storing))

variable {granted}

/-- The only key under which the call stores anything is that of the granted scopes. -/
theorem stores_granted {event : CacheEvent} {key : String} {entry : CachedToken}
    (member : event ∈ granted.trace) :
    (event.op = .l1Set key entry → key = TokenCache.cacheKey P clientId token.scopes) ∧
      ∀ ttlSeconds, event.op = .redisSet key entry ttlSeconds →
        key = TokenCache.cacheKey P clientId token.scopes := by
  simp only [trace, asking, storing, List.mem_cons, List.mem_append, List.not_mem_nil,
    or_false] at member
  obtain rfl | rfl | drop | rfl | (rfl | rfl | rfl) | rfl | rfl := member
  · simp
  · simp
  · rw [granted.onlyDrops event drop]
    simp
  · simp
  · simp
  · simp
  · simp
  · constructor
    · intro sets
      injection sets with named _
      exact named.symm
    · simp
  · constructor
    · simp
    · intro ttlSeconds sets
      injection sets with named _ _
      exact named.symm

/-- Cognito has answered once. -/
theorem response_iff {response : CognitoTokenResponse} :
    ⟨.cognito clientId scopes, .ok response⟩ ∈ granted.trace ↔ response = granted.response := by
  have inDrops : ⟨.cognito clientId scopes, .ok response⟩ ∉ granted.drops := by
    intro member
    have drop := granted.onlyDrops _ member
    cases drop
  simp [trace, asking, storing, inDrops]

end GrantedTrace

section Granted

variable {P : Platform} {clientId : String} {scopes : List String}

/-- What `get` does where it has nothing. -/
theorem get_none_run {trace : List CacheEvent}
    (run : Runs (TokenCache.get P clientId scopes) trace (.ok none)) :
    ∃ (nowMs : Millis) (l1 : Option CachedToken) (drops : List CacheEvent)
      (raw : Option CachedToken),
      trace = ⟨.now, nowMs⟩ :: ⟨.l1Get (TokenCache.cacheKey P clientId scopes), l1⟩ ::
        (drops ++ [⟨.redisGet (TokenCache.cacheKey P clientId scopes), .ok raw⟩]) ∧
      (∀ entry, l1 = some entry → ¬ entry.Fresh nowMs) ∧
      (l1 ≠ none → ⟨.l1Delete (TokenCache.cacheKey P clientId scopes), ()⟩ ∈ drops) ∧
      (∀ event ∈ drops, event = ⟨.l1Delete (TokenCache.cacheKey P clientId scopes), ()⟩) ∧
      ∀ entry, raw = some entry → ¬ entry.Fresh nowMs := by
  have nothing {nowMs : Millis} {rest : List CacheEvent}
      (through : ReadThroughRun (TokenCache.cacheKey P clientId scopes) nowMs rest (.ok none)) :
      ∃ raw, rest = [⟨.redisGet (TokenCache.cacheKey P clientId scopes), .ok raw⟩] ∧
        ∀ entry, raw = some entry → ¬ entry.Fresh nowMs := by
    cases through with
    | absent => exact ⟨none, rfl, by simp⟩
    | old parsed stale =>
        refine ⟨some parsed, rfl, ?_⟩
        intro entry same
        cases same
        exact stale
  have shape := get_run run
  cases shape with
  | dropped nowMs entry rest _ stale through =>
      obtain ⟨raw, rfl, old⟩ := nothing through
      refine ⟨nowMs, some entry, [⟨.l1Delete (TokenCache.cacheKey P clientId scopes), ()⟩], raw, rfl,
        ?_,
        by simp, by simp, old⟩
      intro other same
      cases same
      exact stale
  | missed nowMs rest _ through =>
      obtain ⟨raw, rfl, old⟩ := nothing through
      exact ⟨nowMs, none, [], raw, rfl, by simp, by simp, by simp, old⟩

/-- The first thing after the cache has given nothing is to ask Cognito. -/
theorem acquireFresh_asks {trace : List CacheEvent} {outcome : Except Fault TokenResult}
    (run : Runs (acquireFresh P clientId scopes) trace outcome) :
    ∃ reply, ⟨.cognito clientId scopes, reply⟩ ∈ trace := by
  have shape := acquireFresh_run run
  cases shape with
  | refused err => exact ⟨.error err, List.mem_cons_self⟩
  | stored response nowMs rest outcome _ => exact ⟨.ok response, List.mem_cons_self⟩

theorem acquireFresh_source {trace : List CacheEvent} {token : TokenResult}
    (run : Runs (acquireFresh P clientId scopes) trace (.ok token)) :
    token.tokenSource = .cognito := by
  have shape := acquireFresh_run run
  generalize outcome_eq : (Except.ok token : Except Fault _) = outcome at shape
  cases shape with
  | refused err => cases outcome_eq
  | stored response nowMs rest stored _ =>
      cases stored with
      | error _ => cases outcome_eq
      | ok _ =>
          cases outcome_eq
          rfl

theorem granted_trace {trace : List CacheEvent} {token : TokenResult}
    (run : Runs (acquire P clientId scopes false) trace (.ok token))
    (source : token.tokenSource = .cognito) :
    ∃ granted : GrantedTrace P clientId scopes token, trace = granted.trace := by
  have shape := acquire_run run
  generalize outcome_eq : (Except.ok token : Except Fault _) = outcome at shape
  cases shape with
  | hit _ other _ hit =>
      cases outcome_eq
      obtain ⟨nowMs, lookup⟩ := lookup_run hit
      exact absurd source lookup.source
  | unread _ err _ _ => cases outcome_eq
  | granted before after other missed asking =>
      cases outcome_eq
      obtain ⟨nowMs, l1, drops, raw, rfl, stale, dropped, onlyDrops, old⟩ := get_none_run missed
      have shape := acquireFresh_run asking
      generalize result_eq : (Except.ok token : Except Fault _) = result at shape
      cases shape with
      | refused err => cases result_eq
      | stored response answeredAt rest outcome storing =>
          obtain ⟨storedAt, rfl⟩ := set_runs_iff.mp storing
          cases outcome with
          | error _ => cases result_eq
          | ok _ =>
              cases result_eq
              refine ⟨⟨nowMs, l1, drops, raw, response, answeredAt, storedAt, stale, dropped,
                onlyDrops, old, rfl⟩, ?_⟩
              simp [GrantedTrace.trace, GrantedTrace.asking, GrantedTrace.storing]
  | degraded before asking after err _ missed failed stale =>
      subst outcome_eq
      obtain ⟨reply, -, returned⟩ := acquireStale_run stale
      obtain ⟨parsed, -, same⟩ := returned token rfl
      rw [same] at source
      cases source

end Granted

theorem TokenCacheRun.asksCognito {P : Platform} {Thread Instance : Type} [DecidableEq Thread]
    [DecidableEq Instance] {run : TokenCacheRun P Thread Instance} {thread : Thread}
    {clientId : String} {scopes : List String} {before asking after : List CacheEvent}
    {outcome : Except Fault TokenResult}
    (split : run.history.trace thread = before ++ (asking ++ after))
    (fresh : Runs (acquireFresh P clientId scopes) asking outcome) : run.AsksCognito thread := by
  obtain ⟨reply, member⟩ := acquireFresh_asks fresh
  refine ⟨⟨.cognito clientId scopes, reply⟩, ?_, _, _, rfl⟩
  rw [split]
  exact List.mem_append_right _ (List.mem_append_left _ member)

/-- A call that only looks into the cache has not asked Cognito. -/
theorem TokenCacheRun.not_asksCognito {P : Platform} {Thread Instance : Type} [DecidableEq Thread]
    [DecidableEq Instance] {run : TokenCacheRun P Thread Instance} {thread : Thread}
    {clientId : String} {scopes : List String} {outcome : Except Fault (Option TokenResult)}
    (looked : Runs (TokenCache.get P clientId scopes) (run.history.trace thread) outcome) :
    ¬ run.AsksCognito thread := by
  intro asks
  obtain ⟨event, member, client, wanted, cognito⟩ := asks
  exact (get_onlyLooks _ _ looked event member).1 client wanted cognito

/-- An `acquire` that Cognito has answered, and after it another one for the same client and the
same scopes over the same cache, while the token is fresh and Redis answers. Nobody else stores a
token for these keys in the meantime; the map may lose its entries. -/
structure SecondAcquire (P : Platform) (Thread Instance : Type) [DecidableEq Thread]
    [DecidableEq Instance] extends TokenCacheRun P Thread Instance where
  first : Thread
  second : Thread
  clientId : String
  scopes : List String
  token : TokenResult
  past : History tokenCaching Thread
  early : History tokenCaching Thread
  late : History tokenCaching Thread
  parts : history = past ++ early ++ late
  firstPast : past.trace first = []
  firstLate : late.trace first = []
  secondPast : past.trace second = []
  secondEarly : early.trace second = []
  firstCall : call first = .acquire clientId scopes false
  secondCall : call second = .acquire clientId scopes false
  sameCache : instanceOf second = instanceOf first
  granted : toTokenCacheRun.Returns first token
  fromCognito : token.tokenSource = .cognito
  finished : ∃ outcome, Runs (acquire P clientId scopes false) (history.trace second) outcome
  fresh : ∀ step ∈ history, step.thread = second →
    (step.time : Rat) < 1000 * (token.expiresAt - bufferSeconds)
  healthy : ∀ key err, ⟨.redisGet key, .error err⟩ ∉ history.trace second
  undisturbed : ∀ step ∈ early ++ late, step.thread ≠ first → step.thread ≠ second →
    ∀ key ∈ [TokenCache.cacheKey P clientId scopes, TokenCache.cacheKey P clientId token.scopes],
      storesRecord applied key step = none ∧
        ∀ entry, storesEntry instanceOf first key step ≠ some (some entry)

namespace SecondAcquire

variable {P : Platform} {Thread Instance : Type} [DecidableEq Thread] [DecidableEq Instance]
  (run : SecondAcquire P Thread Instance)

/-- The second `acquire` returns the token of the first one and does not ask Cognito. -/
def AnsweredFromCache : Prop :=
  (∃ answer, run.Returns run.second answer ∧ answer.toCachedToken = run.token.toCachedToken) ∧
    ¬ run.AsksCognito run.second

/-- The key under which the second `acquire` looks. -/
def wanted : String := TokenCache.cacheKey P run.clientId run.scopes

/-- The key under which the first one has stored its token. -/
def stored : String := TokenCache.cacheKey P run.clientId run.token.scopes

theorem trace_first : run.history.trace run.first = run.early.trace run.first := by
  rw [run.parts, History.trace_append, History.trace_append, run.firstPast, run.firstLate,
    List.nil_append, List.append_nil]

theorem first_trace : ∃ granted : GrantedTrace P run.clientId run.scopes run.token,
    run.early.trace run.first = granted.trace := by
  have returned := (run.returns_acquire_iff run.firstCall).mp run.granted
  obtain ⟨granted, same⟩ := granted_trace returned run.fromCognito
  exact ⟨granted, run.trace_first.symm.trans same⟩

theorem second_trace : run.history.trace run.second = run.late.trace run.second := by
  rw [run.parts, History.trace_append, History.trace_append, run.secondPast, run.secondEarly,
    List.nil_append, List.nil_append]

omit run in
/-- More than the buffer before its end a token is fresh for every clock that counts seconds. -/
theorem fresh_of_lt {entry : CachedToken} {nowMs : Millis}
    (early : (nowMs : Rat) < 1000 * (entry.expiresAt - bufferSeconds)) : entry.Fresh nowMs := by
  have seconds := toSeconds_le nowMs
  unfold CachedToken.Fresh
  linarith

/-- The steps between one of the first call and one of the second. -/
structure Between (firstRest secondDone : List CacheEvent) (between : History tokenCaching Thread) :
    Prop where
  inside : between ⊆ run.early ++ run.late
  firstTrace : between.trace run.first = firstRest
  secondTrace : between.trace run.second = secondDone

variable {run} {firstDone firstRest secondDone secondRest : List CacheEvent}
  {event other : CacheEvent} {between : History tokenCaching Thread}

theorem exists_between (one : run.early.trace run.first = firstDone ++ event :: firstRest)
    (two : run.late.trace run.second = secondDone ++ other :: secondRest) :
    ∃ before step between later after,
      run.history = before ++ step :: (between ++ later :: after) ∧ step.thread = run.first ∧
        step.event = event ∧ later.thread = run.second ∧ later.event = other ∧
        History.trace before run.first = firstDone ∧ run.Between firstRest secondDone between := by
  obtain ⟨before, step, rest, early, own, performed, previous, following⟩ :=
    History.split_of_trace one
  obtain ⟨front, later, after, late, secondOwn, secondPerformed, preceding, -⟩ :=
    History.split_of_trace two
  have quietLate : History.trace front run.first = [] := by
    have whole := run.firstLate
    rw [late, History.trace_append, List.append_eq_nil_iff] at whole
    exact whole.1
  have quietEarly : History.trace rest run.second = [] := by
    have whole := run.secondEarly
    have split : run.early = (before ++ [step]) ++ rest := by simp [early]
    rw [split, History.trace_append, List.append_eq_nil_iff] at whole
    exact whole.2
  refine ⟨run.past ++ before, step, rest ++ front, later, after, ?_, own, performed, secondOwn,
    secondPerformed, ?_, ?_⟩
  · rw [run.parts, early, late]
    simp
  · rw [History.trace_append, run.firstPast, List.nil_append, previous]
  · constructor
    · rw [early, late]
      intro inner member
      obtain inRest | inFront := List.mem_append.mp member
      · simp [inRest]
      · simp [inFront]
    · rw [History.trace_append, quietLate, List.append_nil, following]
    · rw [History.trace_append, quietEarly, List.nil_append, preceding]

/-- Nothing is stored for the second call in between, where the two calls store nothing. -/
theorem Between.no_entry (mid : run.Between firstRest secondDone between) (key : String)
    (ours : key ∈ [run.wanted, run.stored])
    (none_first : ∀ event ∈ firstRest, ∀ entry, event.op ≠ .l1Set key entry)
    (none_second : ∀ event ∈ secondDone, ∀ entry, event.op ≠ .l1Set key entry) :
    ∀ step ∈ between, ∀ entry,
      storesEntry run.instanceOf run.second key step ≠ some (some entry) := by
  intro step member entry stores
  have performed := storesEntry_eq_some stores
  by_cases byFirst : step.thread = run.first
  · apply none_first step.event _ entry performed
    rw [← mid.firstTrace]
    exact History.mem_trace.mpr ⟨step, member, byFirst, rfl⟩
  · by_cases bySecond : step.thread = run.second
    · apply none_second step.event _ entry performed
      rw [← mid.secondTrace]
      exact History.mem_trace.mpr ⟨step, member, bySecond, rfl⟩
    · have quiet := (run.undisturbed step (mid.inside member) byFirst bySecond key ours).2 entry
      apply quiet
      rwa [storesEntry, ← run.sameCache]

theorem Between.no_record (mid : run.Between firstRest secondDone between) (key : String)
    (ours : key ∈ [run.wanted, run.stored])
    (none_first : ∀ event ∈ firstRest, ∀ entry ttlSeconds, event.op ≠ .redisSet key entry ttlSeconds)
    (none_second : ∀ event ∈ secondDone, ∀ entry ttlSeconds,
      event.op ≠ .redisSet key entry ttlSeconds) :
    ∀ step ∈ between, storesRecord run.applied key step = none := by
  intro step member
  by_cases byFirst : step.thread = run.first
  · apply storesRecord_eq_none
    apply none_first
    rw [← mid.firstTrace]
    exact History.mem_trace.mpr ⟨step, member, byFirst, rfl⟩
  · by_cases bySecond : step.thread = run.second
    · apply storesRecord_eq_none
      apply none_second
      rw [← mid.secondTrace]
      exact History.mem_trace.mpr ⟨step, member, bySecond, rfl⟩
    · exact (run.undisturbed step (mid.inside member) byFirst bySecond key ours).1

section SameKey

variable (granted : GrantedTrace P run.clientId run.scopes run.token)
  (firstTrace : run.early.trace run.first = granted.trace) (same : run.wanted = run.stored)

include firstTrace same

/-- Under one key the map has the stored token, or has lost it. -/
theorem l1_token {found : Option CachedToken} {entry : CachedToken}
    (two : run.late.trace run.second = secondDone ++ ⟨.l1Get run.wanted, found⟩ :: secondRest)
    (quiet : ∀ event ∈ secondDone, ∀ entry, event.op ≠ .l1Set run.wanted entry)
    (present : found = some entry) : entry = run.token.toCachedToken := by
  have one : run.early.trace run.first = (⟨.now, granted.lookedAt⟩ ::
      ⟨.l1Get run.wanted, granted.l1⟩ :: (granted.drops ++
        ⟨.redisGet run.wanted, .ok granted.raw⟩ :: granted.asking)) ++
      ⟨.l1Set run.stored run.token.toCachedToken, ()⟩ :: granted.storing := by
    rw [firstTrace, GrantedTrace.trace]
    simp [wanted, stored]
  obtain ⟨before, step, between, later, after, split, own, performed, secondOwn, secondPerformed,
    -, mid⟩ := exists_between one two
  have whole : run.history = (before ++ step :: between) ++ later :: after := by simp [split]
  have read := run.readsL1 _ _ _ whole _ _ secondPerformed
  have parts : before ++ step :: between = (before ++ [step]) ++ between := by simp
  rw [present, secondOwn, parts, held_append] at read
  obtain ⟨start, -⟩ | ⟨writing, member, wrote⟩ := held_written read.symm
  · have stores : storesEntry run.instanceOf run.second run.wanted step =
        some (some run.token.toCachedToken) := by
      rw [storesEntry, own, run.sameCache, performed, same]
      simp
    rw [held_append, held, List.foldl_cons, List.foldl_nil, stores] at start
    exact (Option.some.inj start).symm
  · have none_stored := mid.no_entry run.wanted (by simp [wanted])
      (by simp [GrantedTrace.storing]) quiet writing member entry
    exact absurd wrote none_stored

/-- Under one key Redis has the stored token, while it is fresh. -/
theorem redis_token {raw : Option CachedToken}
    (two : run.late.trace run.second = secondDone ++ ⟨.redisGet run.wanted, .ok raw⟩ :: secondRest)
    (quiet : ∀ event ∈ secondDone, ∀ entry ttlSeconds,
      event.op ≠ .redisSet run.wanted entry ttlSeconds) : raw = some run.token.toCachedToken := by
  have one : run.early.trace run.first = (⟨.now, granted.lookedAt⟩ ::
      ⟨.l1Get run.wanted, granted.l1⟩ :: (granted.drops ++
        ⟨.redisGet run.wanted, .ok granted.raw⟩ :: (granted.asking ++
          [⟨.l1Set run.stored run.token.toCachedToken, ()⟩]))) ++
      ⟨.redisSet run.stored run.token.toCachedToken
        (ttlSeconds run.token.expiresAt granted.storedAt), .ok ()⟩ :: [] := by
    rw [firstTrace, GrantedTrace.trace, GrantedTrace.storing]
    simp [wanted, stored]
  obtain ⟨before, step, between, later, after, split, own, performed, secondOwn, secondPerformed,
    previous, mid⟩ := exists_between one two
  have whole : run.history = (before ++ step :: between) ++ later :: after := by simp [split]
  have read := run.readsRedis _ _ _ whole _ _ secondPerformed
  have parts : before ++ step :: between = (before ++ [step]) ++ between := by simp
  have quietBetween := mid.no_record run.wanted (by simp [wanted]) (by simp) quiet
  have stores : storesRecord run.applied run.wanted step =
      some (some ⟨run.token.toCachedToken, step.time,
        ttlSeconds run.token.expiresAt granted.storedAt⟩) := by
    rw [storesRecord, performed, same]
    simp
  rw [parts, held_append, held_of_quiet quietBetween, held_append, held, List.foldl_cons,
    List.foldl_nil, stores] at read
  rw [read, Option.getD_some, liveEntry_eq_some_iff]
  refine ⟨_, rfl, ?_, rfl⟩
  -- the record outlives the token
  have written : granted.storedAt ≤ step.time := by
    have reading : ⟨.now, granted.storedAt⟩ ∈ History.trace before run.first := by
      rw [previous]
      simp [GrantedTrace.asking]
    exact run.ordered.reading_le run.clock split reading
  have fresh := run.fresh later (by simp [split]) secondOwn
  have outlives := expiresAt_le_ttl run.token.expiresAt granted.storedAt
  have moments : (granted.storedAt : Rat) ≤ step.time := by exact_mod_cast written
  unfold CacheRecord.Alive
  unfold bufferSeconds at fresh
  linarith

/-- So the lookup of the second call finds the token. -/
theorem finds_token {looking rest : List CacheEvent} {outcome : Except Fault (Option TokenResult)}
    (two : run.late.trace run.second = looking ++ rest)
    (looked : Runs (TokenCache.get P run.clientId run.scopes) looking outcome) :
    ∃ answer, outcome = .ok (some answer) ∧
      answer.toCachedToken = run.token.toCachedToken := by
  have current {nowMs : Millis} (clock : ⟨.now, nowMs⟩ ∈ looking) : run.token.Fresh nowMs := by
    have member : ⟨.now, nowMs⟩ ∈ run.history.trace run.second := by
      rw [second_trace, two]
      exact List.mem_append_left _ clock
    obtain ⟨reading, inside, own, ticks⟩ := History.mem_trace.mp member
    have fresh := run.fresh reading inside own
    rw [← run.clock reading inside nowMs ticks] at fresh
    exact fresh_of_lt fresh
  have through {nowMs : Millis} {reading : List CacheEvent} (front : List CacheEvent)
      (split : looking = front ++ reading) (clock : ⟨.now, nowMs⟩ ∈ front)
      (quiet : ∀ event ∈ front, ∀ entry ttlSeconds,
        event.op ≠ .redisSet run.wanted entry ttlSeconds)
      (found : ReadThroughRun run.wanted nowMs reading outcome) :
      ∃ answer, outcome = .ok (some answer) ∧
        answer.toCachedToken = run.token.toCachedToken := by
    have fresh : run.token.Fresh nowMs := by
      apply current
      rw [split]
      exact List.mem_append_left _ clock
    rw [split, List.append_assoc] at two
    cases found with
    | failed err =>
        exfalso
        apply run.healthy run.wanted err
        rw [second_trace, two]
        simp
    | absent =>
        have raw := redis_token granted firstTrace same two quiet
        cases raw
    | old parsed stale =>
        have raw := redis_token granted firstTrace same two quiet
        cases raw
        exact absurd fresh stale
    | found parsed _ =>
        rw [List.cons_append] at two
        have raw := redis_token granted firstTrace same two quiet
        cases raw
        exact ⟨_, rfl, rfl⟩
  have shape := get_run looked
  cases shape with
  | hit nowMs entry _ =>
      have reading : run.late.trace run.second =
          [⟨.now, nowMs⟩] ++ ⟨.l1Get run.wanted, some entry⟩ :: rest := two
      exact ⟨_, rfl, l1_token granted firstTrace same reading (by simp) rfl⟩
  | dropped nowMs entry reading _ _ found =>
      exact through [⟨.now, nowMs⟩, ⟨.l1Get run.wanted, some entry⟩, ⟨.l1Delete run.wanted, ()⟩]
        rfl (by simp) (by simp) found
  | missed nowMs reading _ found =>
      exact through [⟨.now, nowMs⟩, ⟨.l1Get run.wanted, none⟩] rfl (by simp) (by simp) found

end SameKey

section OtherKey

variable (granted : GrantedTrace P run.clientId run.scopes run.token)
  (firstTrace : run.early.trace run.first = granted.trace) (different : run.wanted ≠ run.stored)

include firstTrace different

/-- What the first call has looked for and not found, the map does not have later either. -/
theorem l1_absent {found : Option CachedToken}
    (two : run.late.trace run.second = secondDone ++ ⟨.l1Get run.wanted, found⟩ :: secondRest)
    (quiet : ∀ event ∈ secondDone, ∀ entry, event.op ≠ .l1Set run.wanted entry) : found = none := by
  have one : run.early.trace run.first = [⟨.now, granted.lookedAt⟩] ++
      ⟨.l1Get run.wanted, granted.l1⟩ :: (granted.drops ++
        ⟨.redisGet run.wanted, .ok granted.raw⟩ :: (granted.asking ++
          ⟨.l1Set run.stored run.token.toCachedToken, ()⟩ :: granted.storing)) := by
    rw [firstTrace, GrantedTrace.trace]
    simp [wanted, stored]
  obtain ⟨before, step, between, later, after, split, own, performed, secondOwn, secondPerformed,
    -, mid⟩ := exists_between one two
  cases found with
  | none => rfl
  | some entry =>
      exfalso
      have whole : run.history = (before ++ step :: between) ++ later :: after := by simp [split]
      have read := run.readsL1 _ _ _ whole _ _ secondPerformed
      have parts : before ++ step :: between = before ++ ([step] ++ between) := by simp
      rw [secondOwn, parts, held_append] at read
      obtain ⟨start, silent⟩ | ⟨writing, member, wrote⟩ := held_written read.symm
      · -- the first call has found the entry, and has dropped it
        have first_read := run.readsL1 _ _ _ split _ _ performed
        have same_map : storesEntry run.instanceOf step.thread run.wanted =
            storesEntry run.instanceOf run.second run.wanted := by
          funext other
          rw [storesEntry, storesEntry, own, run.sameCache]
        rw [same_map, start] at first_read
        have dropped := granted.dropped (by simp [first_read])
        have inBetween : ⟨.l1Delete run.wanted, ()⟩ ∈ History.trace between run.first := by
          rw [mid.firstTrace]
          exact List.mem_append_left _ dropped
        obtain ⟨dropping, inside, byFirst, drops⟩ := History.mem_trace.mp inBetween
        have writes := silent dropping (by simp [inside])
        rw [storesEntry, byFirst, run.sameCache, drops] at writes
        simp at writes
      · obtain reading | inBetween := List.mem_append.mp member
        · rw [List.mem_singleton.mp reading] at wrote
          have sets := storesEntry_eq_some wrote
          rw [performed] at sets
          cases sets
        · refine mid.no_entry run.wanted (by simp [wanted]) ?_ quiet writing inBetween entry wrote
          intro event inRest other sets
          have inTrace : event ∈ granted.trace := by
            rw [← firstTrace, one]
            simp only [List.mem_append, List.mem_cons] at inRest ⊢
            exact .inr (.inr inRest)
          exact different ((GrantedTrace.stores_granted inTrace).1 sets)

/-- What Redis had for the first call was too old, and is so later. -/
theorem redis_old {raw : Option CachedToken} {nowMs : Millis} {entry : CachedToken}
    (two : run.late.trace run.second = secondDone ++ ⟨.redisGet run.wanted, .ok raw⟩ :: secondRest)
    (quiet : ∀ event ∈ secondDone, ∀ entry ttlSeconds,
      event.op ≠ .redisSet run.wanted entry ttlSeconds)
    (reading : ⟨.now, nowMs⟩ ∈ secondDone) (present : raw = some entry) : ¬ entry.Fresh nowMs := by
  have one : run.early.trace run.first = (⟨.now, granted.lookedAt⟩ ::
      ⟨.l1Get run.wanted, granted.l1⟩ :: granted.drops) ++
        ⟨.redisGet run.wanted, .ok granted.raw⟩ :: (granted.asking ++
          ⟨.l1Set run.stored run.token.toCachedToken, ()⟩ :: granted.storing) := by
    rw [firstTrace, GrantedTrace.trace]
    simp [wanted, stored]
  obtain ⟨before, step, between, later, after, split, own, performed, secondOwn, secondPerformed,
    previous, mid⟩ := exists_between one two
  have whole : run.history = (before ++ step :: between) ++ later :: after := by simp [split]
  have read := run.readsRedis _ _ _ whole _ _ secondPerformed
  have first_read := run.readsRedis _ _ _ split _ _ performed
  have quietBetween : ∀ other ∈ [step] ++ between,
      storesRecord run.applied run.wanted other = none := by
    intro other member
    obtain own | inBetween := List.mem_append.mp member
    · apply storesRecord_eq_none
      rw [List.mem_singleton.mp own, performed]
      simp
    · refine mid.no_record run.wanted (by simp [wanted]) ?_ quiet other inBetween
      intro event inRest entry ttlSeconds sets
      have inTrace : event ∈ granted.trace := by
        rw [← firstTrace, one]
        simp only [List.mem_append, List.mem_cons] at inRest ⊢
        exact .inr (.inr inRest)
      exact different ((GrantedTrace.stores_granted inTrace).2 ttlSeconds sets)
  have parts : before ++ step :: between = before ++ ([step] ++ between) := by simp
  rw [present, parts, held_append, held_of_quiet quietBetween] at read
  have order : step.time ≤ later.time := run.ordered.le_after split (by simp)
  have found : granted.raw = some entry := by
    rw [first_read]
    exact liveEntry_earlier order read.symm
  -- the second call reads the clock after the first one has
  have clocks : granted.lookedAt ≤ nowMs := by
    have firstReading : ⟨.now, granted.lookedAt⟩ ∈ History.trace before run.first := by
      rw [previous]
      exact List.mem_cons_self
    rw [← mid.secondTrace] at reading
    exact run.ordered.reading_le_reading run.clock split firstReading reading
  intro fresh
  exact granted.old entry found (fresh.earlier clocks)

/-- So the lookup of the second call finds nothing. -/
theorem finds_nothing {looking rest : List CacheEvent} {answer : TokenResult}
    (two : run.late.trace run.second = looking ++ rest)
    (looked : Runs (TokenCache.get P run.clientId run.scopes) looking (.ok (some answer))) :
    False := by
  obtain ⟨nowMs, lookup⟩ := lookup_run looked
  cases lookup with
  | l1 entry fresh =>
      have reading : run.late.trace run.second =
          [⟨.now, nowMs⟩] ++ ⟨.l1Get run.wanted, some entry⟩ :: rest := two
      have absent := l1_absent granted firstTrace different reading (by simp)
      cases absent
  | redis entry missing fresh looks =>
      rw [List.append_assoc, List.cons_append] at two
      have quiet : ∀ event ∈ ⟨.now, nowMs⟩ :: missing, ∀ other ttlSeconds,
          event.op ≠ .redisSet run.wanted other ttlSeconds := by
        intro event member other ttlSeconds stores
        obtain rfl | inside := List.mem_cons.mp member
        · cases stores
        · obtain looking | dropping := looks event inside
          · cases looking.symm.trans stores
          · cases dropping.symm.trans stores
      exact redis_old granted firstTrace different two quiet List.mem_cons_self rfl fresh

end OtherKey

/-- What Cognito has granted to the first call has the key of what was asked for. -/
def GrantsSameKey (run : SecondAcquire P Thread Instance) : Prop :=
  ∀ response, ⟨.cognito run.clientId run.scopes, .ok response⟩ ∈ run.history.trace run.first →
    TokenCache.cacheKey P run.clientId (response.grantedScopes run.scopes) =
      TokenCache.cacheKey P run.clientId run.scopes

theorem grantsSameKey_iff {granted : GrantedTrace P run.clientId run.scopes run.token}
    (firstTrace : run.early.trace run.first = granted.trace) :
    run.GrantsSameKey ↔ run.wanted = run.stored := by
  have own : run.history.trace run.first = granted.trace := run.trace_first.trans firstTrace
  simp only [GrantsSameKey, own, GrantedTrace.response_iff, forall_eq, wanted, stored,
    granted.scopes_eq, eq_comm]

/-- The cache answers exactly where what Cognito has granted is stored under the key of what was
asked for. -/
theorem answeredFromCache_iff (run : SecondAcquire P Thread Instance) :
    run.AnsweredFromCache ↔ run.GrantsSameKey := by
  obtain ⟨granted, firstTrace⟩ := run.first_trace
  rw [grantsSameKey_iff firstTrace]
  constructor
  · intro ⟨⟨answer, returned, _⟩, quiet⟩
    by_contra different
    have acquired := (run.returns_acquire_iff run.secondCall).mp returned
    generalize trace_eq : run.history.trace run.second = trace at acquired
    have shape := acquire_run acquired
    generalize outcome_eq : (Except.ok answer : Except Fault _) = outcome at shape
    cases shape with
    | hit trace token _ looked =>
        rw [second_trace] at trace_eq
        exact finds_nothing granted firstTrace different
          (trace_eq.trans (List.append_nil trace).symm) looked
    | unread _ err _ _ => cases outcome_eq
    | granted before after token _ fresh =>
        rw [← List.append_nil after] at trace_eq
        exact quiet (TokenCacheRun.asksCognito trace_eq fresh)
    | degraded before asking after err _ _ fresh _ =>
        exact quiet (TokenCacheRun.asksCognito trace_eq fresh)
  · intro same
    obtain ⟨outcome, acquired⟩ := run.finished
    have whole := acquired
    generalize trace_eq : run.history.trace run.second = trace at acquired
    have shape := acquire_run acquired
    rw [second_trace] at trace_eq
    cases shape with
    | hit trace token _ looked =>
        have split := trace_eq.trans (List.append_nil trace).symm
        obtain ⟨answer, found, theToken⟩ := finds_token granted firstTrace same split looked
        cases found
        rw [← trace_eq, ← second_trace] at looked
        exact ⟨⟨token, (run.returns_acquire_iff run.secondCall).mpr whole, theToken⟩,
          TokenCacheRun.not_asksCognito looked⟩
    | unread trace err _ looked =>
        have split := trace_eq.trans (List.append_nil trace).symm
        obtain ⟨answer, found, -⟩ := finds_token granted firstTrace same split looked
        cases found
    | granted before after token missed _ =>
        obtain ⟨answer, found, -⟩ := finds_token granted firstTrace same trace_eq missed
        cases found
    | degraded before asking after err _ missed _ _ =>
        obtain ⟨answer, found, -⟩ := finds_token granted firstTrace same trace_eq missed
        cases found

end SecondAcquire

section Widened

def digests : TokenTable where
  tokens := []
  hashes := [
    ("a", "ca978112ca1bbdcafac231b39a23dc4da786eff8147c4e72b9807785afee48bb"),
    ("a,b", "1eb7c54d52831bbfe8942af0b1c56b7409523a59ed6ca99c1174fef7eb32c1b5")]

/-- Cognito grants a second scope. -/
def wideResponse : CognitoTokenResponse := ⟨"access-token", 3600, some "a b"⟩

def wideToken : TokenResult where
  accessToken := "access-token"
  expiresAt := 4600
  scopes := ["a", "b"]
  tokenSource := .cognito

theorem wideToken_eq {nowMs : Millis} (moment : toSeconds nowMs = 1000) :
    wideResponse.token ["a"] nowMs = wideToken.toCachedToken := by
  have scopes : wideResponse.grantedScopes ["a"] = ["a", "b"] := by decide
  rw [CognitoTokenResponse.token, scopes, moment]
  norm_num [wideResponse, wideToken]

theorem wideToken_ttl {nowMs : Millis} (moment : toSeconds nowMs = 1000) :
    ttlSeconds wideToken.expiresAt nowMs = 3600 := by
  rw [ttlSeconds, moment]
  norm_num [wideToken]

def narrowKey : String := TokenCache.cacheKey digests.platform "client" ["a"]

def wideKey : String := TokenCache.cacheKey digests.platform "client" ["a", "b"]

theorem keys_differ : wideKey ≠ narrowKey := by
  have narrow : Js.sortTexts ["a"] = ["a"] := List.mergeSort_of_pairwise (by decide)
  have wide : Js.sortTexts ["a", "b"] = ["a", "b"] := List.mergeSort_of_pairwise (by decide)
  rw [wideKey, narrowKey, TokenCache.cacheKey, TokenCache.cacheKey, wide, narrow]
  decide +kernel

/-- The map and Redis are empty, and Cognito answers. -/
def widening (nowMs : Millis) : Environment tokenCaching
  | _, .now => nowMs
  | _, .l1Get _ => none
  | _, .redisGet _ => .ok none
  | _, .cognito _ _ => .ok wideResponse
  | _, .redisSet _ _ _ => .ok ()
  | _, .l1Set _ _ | _, .l1Delete _ | _, .l1Clear => ()

def widenedTrace (nowMs : Millis) : List CacheEvent :=
  [⟨.now, nowMs⟩, ⟨.l1Get narrowKey, none⟩, ⟨.redisGet narrowKey, .ok none⟩,
    ⟨.cognito "client" ["a"], .ok wideResponse⟩, ⟨.now, nowMs⟩, ⟨.now, nowMs⟩,
    ⟨.l1Set wideKey wideToken.toCachedToken, ()⟩,
    ⟨.redisSet wideKey wideToken.toCachedToken 3600, .ok ()⟩]

theorem widenedTrace_runs {nowMs : Millis} (moment : toSeconds nowMs = 1000) :
    Runs (acquire digests.platform "client" ["a"] false) (widenedTrace nowMs) (.ok wideToken) := by
  let token := wideResponse.token ["a"] nowMs
  have yields : Yields (widening nowMs) [] (acquire digests.platform "client" ["a"] false)
      ([⟨.now, nowMs⟩, ⟨.l1Get narrowKey, none⟩, ⟨.redisGet narrowKey, .ok none⟩,
        ⟨.cognito "client" ["a"], .ok wideResponse⟩, ⟨.now, nowMs⟩, ⟨.now, nowMs⟩,
        ⟨.l1Set (TokenCache.cacheKey digests.platform "client" token.scopes) token, ()⟩,
        ⟨.redisSet (TokenCache.cacheKey digests.platform "client" token.scopes) token
          (ttlSeconds token.expiresAt nowMs), .ok ()⟩])
      (.ok { token with tokenSource := .cognito }) := rfl
  have same : token = wideToken.toCachedToken := wideToken_eq moment
  rw [same, wideToken_ttl moment] at yields
  exact yields.runs

def widenedEarly : History tokenCaching Bool := (widenedTrace 1000000).map (Step.mk false 1000000)

def widenedLate : History tokenCaching Bool := (widenedTrace 1000500).map (Step.mk true 1000500)

theorem widened_readsL1 : Along (fun before step => ∀ key found,
    step.event = ⟨.l1Get key, found⟩ →
      found = held (storesEntry (fun _ => ()) step.thread key) none before)
    [] (widenedEarly ++ widenedLate) := by
  simp [Along, widenedEarly, widenedLate, widenedTrace, held, storesEntry, keys_differ]

theorem widened_readsRedis : Along (fun before step => ∀ key found,
    step.event = ⟨.redisGet key, .ok found⟩ →
      found = liveEntry step.time (held (storesRecord (fun _ => false) key) none before))
    [] (widenedEarly ++ widenedLate) := by
  simp [Along, widenedEarly, widenedLate, widenedTrace, held, storesRecord, keys_differ, liveEntry]

theorem widened_trace (thread : Bool) : History.trace (widenedEarly ++ widenedLate) thread =
    widenedTrace (if thread then 1000500 else 1000000) := by
  rw [widenedEarly, widenedLate, History.trace_append, History.trace_of_thread,
    History.trace_of_thread]
  cases thread <;> simp

theorem widened_runs (thread : Bool) :
    Runs (acquire digests.platform "client" ["a"] false)
      (History.trace (widenedEarly ++ widenedLate) thread) (.ok wideToken) := by
  rw [widened_trace]
  apply widenedTrace_runs
  cases thread <;> simp [toSeconds]

theorem widened_calls (thread : Bool) :
    Runs ((CacheCall.acquire "client" ["a"] false).program digests.platform)
      (History.trace (widenedEarly ++ widenedLate) thread) (.ok (some wideToken)) := by
  rw [CacheCall.program, runs_bind_ok]
  exact ⟨wideToken, _, [], (List.append_nil _).symm, widened_runs thread, .done _⟩

/-- Two calls for one scope, with no one else around. -/
def widenedRun : SecondAcquire digests.platform Bool Unit where
  history := widenedEarly ++ widenedLate
  instanceOf _ := ()
  call _ := .acquire "client" ["a"] false
  running thread := (widened_calls thread).performs
  ordered := by simp [History.Ordered, widenedEarly, widenedLate, widenedTrace]
  applied _ := false
  clock := by simp [widenedEarly, widenedLate, widenedTrace]
  readsL1 _ _ _ split := widened_readsL1.at_split split
  readsRedis _ _ _ split := widened_readsRedis.at_split split
  wholeTtl := by
    have whole : (3600 : Rat).isInt = true := by decide
    simp [widenedEarly, widenedLate, widenedTrace, whole]
  first := false
  second := true
  clientId := "client"
  scopes := ["a"]
  token := wideToken
  past := []
  early := widenedEarly
  late := widenedLate
  parts := rfl
  firstPast := rfl
  firstLate := by simp [widenedLate, History.trace_of_thread]
  secondPast := rfl
  secondEarly := by simp [widenedEarly, History.trace_of_thread]
  firstCall := rfl
  secondCall := rfl
  sameCache := rfl
  granted := widened_calls false
  fromCognito := rfl
  finished := ⟨_, widened_runs true⟩
  fresh := by
    norm_num [widenedEarly, widenedLate, widenedTrace, wideToken, bufferSeconds]
  healthy := by
    intro key err
    rw [widened_trace]
    simp [widenedTrace]
  undisturbed := by
    intro step _ notFirst notSecond
    exact absurd (Bool.eq_true_of_not_eq_false notFirst) notSecond

/-- Half a second later the same scope is asked of Cognito again. -/
theorem widened_asksAgain :
    ¬ ∀ (P : Platform) (run : SecondAcquire P Bool Unit), run.AnsweredFromCache := by
  intro holds
  apply (holds _ widenedRun).2
  refine ⟨⟨.cognito "client" ["a"], .ok wideResponse⟩, ?_, "client", ["a"], rfl⟩
  change _ ∈ History.trace (widenedEarly ++ widenedLate) true
  rw [widened_trace]
  simp [widenedTrace]

end Widened
end S2s
