import S2sStack.Effect.Evolution
import S2sStack.Token.CacheHits

set_option autoImplicit false

/- `acquire` where Redis or Cognito fails. -/
namespace S2s

open Effect Effect.Program

/-- The map of a process and the records of Redis. -/
structure CacheLayers where
  l1 : String → Option CachedToken
  redis : String → Option CachedToken

/-- What an event does to both layers. A write that fails may have been applied, and reads of Redis
are free: they may fail, records expire, and other processes write. -/
def LayerStep (layers : CacheLayers) : CacheEvent → CacheLayers → Prop
  | ⟨.l1Get key, found⟩, next => found = layers.l1 key ∧ next = layers
  | ⟨.l1Set key entry, _⟩, next =>
      next = { layers with l1 := Function.update layers.l1 key (some entry) }
  | ⟨.l1Delete key, _⟩, next => next = { layers with l1 := Function.update layers.l1 key none }
  | ⟨.l1Clear, _⟩, next => next = { layers with l1 := fun _ => none }
  | ⟨.redisSet key entry _, .ok _⟩, next =>
      next = { layers with redis := Function.update layers.redis key (some entry) }
  | ⟨.redisSet key entry _, .error _⟩, next => next = layers ∨
      next = { layers with redis := Function.update layers.redis key (some entry) }
  | ⟨.redisGet _, _⟩, next => next = layers
  | ⟨.now, _⟩, next => next = layers
  | ⟨.cognito _ _, _⟩, next => next = layers

abbrev Layered : CacheLayers → List CacheEvent → CacheLayers → Prop := Evolves LayerStep

section Shapes

variable {P : Platform} {clientId : String} {scopes : List String} {trace : List CacheEvent}

/-- The second read of Redis decides how `acquire` ends after a failure. -/
def staleOutcome (err : Fault) : Except Fault (Option CachedToken) → Except Fault TokenResult
  | .ok (some parsed) => .ok { parsed with tokenSource := .cacheL2 }
  | .ok none => .error err
  | .error fault => .error fault

theorem acquireStale_outcome {err : Fault} {outcome : Except Fault TokenResult}
    (run : Runs (acquireStale P clientId scopes err) trace outcome) :
    ∃ reply, trace = [⟨.redisGet (TokenCache.cacheKey P clientId scopes), reply⟩] ∧
      outcome = staleOutcome err reply := by
  rw [acquireStale, runs_bind_iff] at run
  obtain ⟨stale, before, after, rfl, reading, run⟩ | ⟨fault, reading, rfl⟩ := run
  · obtain ⟨reply, rfl, same⟩ := getStale_runs_iff.mp reading
    cases reply with
    | error _ => cases same
    | ok raw =>
        cases raw with
        | none =>
            cases same
            obtain ⟨rfl, rfl⟩ := runs_throwing_iff.mp run
            exact ⟨_, rfl, rfl⟩
        | some parsed =>
            cases same
            obtain ⟨rfl, rfl⟩ := runs_pure_iff.mp run
            exact ⟨_, rfl, rfl⟩
  · obtain ⟨reply, rfl, same⟩ := getStale_runs_iff.mp reading
    cases reply with
    | error _ =>
        cases same
        exact ⟨_, rfl, rfl⟩
    | ok raw => cases same

theorem staleOutcome_source {err : Fault} {reply : Except Fault (Option CachedToken)}
    {token : TokenResult} (served : staleOutcome err reply = .ok token) :
    (∃ parsed, reply = .ok (some parsed)) ∧ token.tokenSource ≠ .cognito := by
  cases reply with
  | error _ => cases served
  | ok raw =>
      cases raw with
      | none => cases served
      | some parsed =>
          cases served
          exact ⟨⟨parsed, rfl⟩, by simp⟩

theorem staleOutcome_throws (err : Fault) {reply : Except Fault (Option CachedToken)}
    (unserved : ∀ record, reply ≠ .ok (some record)) :
    ∃ fault, staleOutcome err reply = .error fault := by
  cases reply with
  | error fault => exact ⟨fault, rfl⟩
  | ok raw =>
      cases raw with
      | none => exact ⟨err, rfl⟩
      | some record => exact absurd rfl (unserved record)

/-- A lookup that finds no token: with an empty map it changes nothing, and an old entry of the map
is dropped. -/
inductive FoundNothing (key : String) (layers : CacheLayers) (nowMs : Millis)
    (reply : Except Fault (Option CachedToken)) : List CacheEvent → CacheLayers → Prop
  | empty : layers.l1 key = none → FoundNothing key layers nowMs reply
      [⟨.now, nowMs⟩, ⟨.l1Get key, none⟩, ⟨.redisGet key, reply⟩] layers
  | dropped (entry : CachedToken) : layers.l1 key = some entry → ¬ entry.Fresh nowMs →
      FoundNothing key layers nowMs reply
        [⟨.now, nowMs⟩, ⟨.l1Get key, some entry⟩, ⟨.l1Delete key, ()⟩, ⟨.redisGet key, reply⟩]
        { layers with l1 := Function.update layers.l1 key none }

theorem readThrough_nothing {key : String} {nowMs : Millis}
    {outcome : Except Fault (Option TokenResult)} (run : ReadThroughRun key nowMs trace outcome)
    (nothing : ∀ token, outcome ≠ .ok (some token)) :
    ∃ reply, trace = [⟨.redisGet key, reply⟩] ∧
      ∀ record, reply = .ok (some record) → ¬ record.Fresh nowMs := by
  cases run with
  | failed err => exact ⟨_, rfl, by simp⟩
  | absent => exact ⟨_, rfl, by simp⟩
  | old parsed aged =>
      refine ⟨_, rfl, ?_⟩
      rintro record ⟨⟩
      exact aged
  | found parsed fresh => exact absurd rfl (nothing _)

theorem get_nothing {outcome : Except Fault (Option TokenResult)} {layers next : CacheLayers}
    (run : Runs (TokenCache.get P clientId scopes) trace outcome)
    (nothing : ∀ token, outcome ≠ .ok (some token)) (evolves : Layered layers trace next) :
    ∃ nowMs reply, (∀ record, reply = .ok (some record) → ¬ record.Fresh nowMs) ∧
      FoundNothing (TokenCache.cacheKey P clientId scopes) layers nowMs reply trace next := by
  cases get_run run with
  | hit nowMs entry _ => exact absurd rfl (nothing _)
  | dropped nowMs entry rest _ aged reading =>
      obtain ⟨reply, rfl, old⟩ := readThrough_nothing reading nothing
      simp only [evolves_cons_iff, evolves_nil_iff, LayerStep, exists_eq_left] at evolves
      obtain ⟨_, ⟨stored, rfl⟩, rfl⟩ := evolves
      exact ⟨nowMs, reply, old, .dropped entry stored.symm aged⟩
  | missed nowMs rest _ reading =>
      obtain ⟨reply, rfl, old⟩ := readThrough_nothing reading nothing
      simp only [evolves_cons_iff, evolves_nil_iff, LayerStep, exists_eq_left] at evolves
      obtain ⟨_, ⟨stored, rfl⟩, rfl⟩ := evolves
      exact ⟨nowMs, reply, old, .empty stored.symm⟩

/-- The map changes where an entry is dropped. -/
theorem FoundNothing.kept_iff {key : String} {layers next : CacheLayers} {nowMs : Millis}
    {reply : Except Fault (Option CachedToken)}
    (found : FoundNothing key layers nowMs reply trace next) :
    next = layers ↔ layers.l1 key = none := by
  cases found with
  | empty absent => simp [absent]
  | dropped entry stored _ =>
      rw [stored]
      constructor
      · intro same
        have dropped := congrArg (fun layers => layers.l1 key) same
        rw [stored] at dropped
        simp at dropped
      · intro impossible
        cases impossible

theorem FoundNothing.reply_eq {key : String} {layers next : CacheLayers} {nowMs : Millis}
    {reply other : Except Fault (Option CachedToken)}
    (found : FoundNothing key layers nowMs reply trace next)
    (member : ⟨.redisGet key, other⟩ ∈ trace) : other = reply := by
  cases found <;> simpa using member

/-- A lookup that finds a token beside an old entry of the map has found a fresh record. -/
theorem get_found {token : TokenResult} {layers next : CacheLayers} {entry : CachedToken}
    {nowMs : Millis} {rest : List CacheEvent}
    (run : Runs (TokenCache.get P clientId scopes) trace (.ok (some token)))
    (evolves : Layered layers trace next) (starts : trace = ⟨.now, nowMs⟩ :: rest)
    (stored : layers.l1 (TokenCache.cacheKey P clientId scopes) = some entry)
    (aged : ¬ entry.Fresh nowMs) :
    ∃ record, ⟨.redisGet (TokenCache.cacheKey P clientId scopes), .ok (some record)⟩ ∈ trace ∧
      record.Fresh nowMs := by
  obtain ⟨moment, lookup⟩ := lookup_run run
  cases lookup with
  | l1 found fresh =>
      cases starts
      simp only [evolves_cons_iff, LayerStep, exists_eq_left] at evolves
      obtain ⟨_, ⟨same, -⟩, -⟩ := evolves
      rw [stored] at same
      cases same
      exact absurd fresh aged
  | redis record missing fresh _ =>
      cases starts
      exact ⟨record, by simp, fresh⟩

theorem Missed.onlyLooks {forceRefresh : Bool} (missed : Missed P clientId scopes forceRefresh trace) :
    ∀ event ∈ trace, event.op.OnlyLooks := by
  cases forceRefresh with
  | true =>
      cases missed
      simp
  | false => exact get_onlyLooks _ _ missed

/-- What `acquire` performs once Cognito has granted a token. -/
def grantedEvents (P : Platform) (clientId : String) (scopes : List String)
    (response : CognitoTokenResponse) (nowMs later : Millis) (stored : Except Fault Unit) :
    List CacheEvent :=
  let token := response.token scopes nowMs
  let key := TokenCache.cacheKey P clientId token.scopes
  [⟨.cognito clientId scopes, .ok response⟩, ⟨.now, nowMs⟩, ⟨.now, later⟩, ⟨.l1Set key token, ()⟩,
    ⟨.redisSet key token (ttlSeconds token.expiresAt later), stored⟩]

theorem unstored_mem (front : List CacheEvent) (response : CognitoTokenResponse)
    (nowMs later : Millis) (err : Fault) (behind : List CacheEvent) :
    ∃ key entry ttlSeconds, ⟨.redisSet key entry ttlSeconds, .error err⟩ ∈
      front ++ (grantedEvents P clientId scopes response nowMs later (.error err) ++ behind) := by
  have last : ⟨.redisSet _ _ _, .error err⟩ ∈
      grantedEvents P clientId scopes response nowMs later (.error err) := List.mem_of_getLast? rfl
  exact ⟨_, _, _, List.mem_append_right _ (List.mem_append_left _ last)⟩

/-- A call of `acquire` by the replies that it gets. -/
inductive CallShape (P : Platform) (clientId : String) (scopes : List String)
    (forceRefresh : Bool) : List CacheEvent → Except Fault TokenResult → Prop
  | answered (trace : List CacheEvent) (token : TokenResult) : forceRefresh = false →
      Runs (TokenCache.get P clientId scopes) trace (.ok (some token)) →
      CallShape P clientId scopes forceRefresh trace (.ok token)
  | unread (trace : List CacheEvent) (err : Fault) : forceRefresh = false →
      Runs (TokenCache.get P clientId scopes) trace (.error err) →
      CallShape P clientId scopes forceRefresh trace (.error err)
  | granted (before : List CacheEvent) (response : CognitoTokenResponse) (nowMs later : Millis) :
      Missed P clientId scopes forceRefresh before →
      CallShape P clientId scopes forceRefresh
        (before ++ grantedEvents P clientId scopes response nowMs later (.ok ()))
        (.ok { response.token scopes nowMs with tokenSource := .cognito })
  | unstored (before : List CacheEvent) (response : CognitoTokenResponse) (nowMs later : Millis)
      (err : Fault) (reply : Except Fault (Option CachedToken)) :
      Missed P clientId scopes forceRefresh before →
      CallShape P clientId scopes forceRefresh
        (before ++ (grantedEvents P clientId scopes response nowMs later (.error err) ++
          [⟨.redisGet (TokenCache.cacheKey P clientId scopes), reply⟩]))
        (staleOutcome err reply)
  | refused (before : List CacheEvent) (err : Fault)
      (reply : Except Fault (Option CachedToken)) :
      Missed P clientId scopes forceRefresh before →
      CallShape P clientId scopes forceRefresh
        (before ++ [⟨.cognito clientId scopes, .error err⟩,
          ⟨.redisGet (TokenCache.cacheKey P clientId scopes), reply⟩])
        (staleOutcome err reply)

theorem acquire_shape {forceRefresh : Bool} {outcome : Except Fault TokenResult}
    (run : Runs (acquire P clientId scopes forceRefresh) trace outcome) :
    CallShape P clientId scopes forceRefresh trace outcome := by
  cases acquire_run run with
  | hit _ token unforced looked => exact .answered _ token unforced looked
  | unread _ err unforced looked => exact .unread _ err unforced looked
  | granted before after token missed asking =>
      have shape := acquireFresh_run asking
      generalize outcome_eq : (Except.ok token : Except Fault _) = outcome at shape
      cases shape with
      | refused err => cases outcome_eq
      | stored response nowMs rest stored storing =>
          cases stored with
          | error err => cases outcome_eq
          | ok _ =>
              cases outcome_eq
              obtain ⟨later, rfl⟩ := set_runs_iff.mp storing
              exact .granted before response nowMs later missed
  | degraded before asking after err _ missed failed stale =>
      obtain ⟨reply, rfl, rfl⟩ := acquireStale_outcome stale
      have shape := acquireFresh_run failed
      generalize outcome_eq : (Except.error err : Except Fault TokenResult) = outcome at shape
      cases shape with
      | refused err =>
          cases outcome_eq
          exact .refused before _ reply missed
      | stored response nowMs rest stored storing =>
          cases stored with
          | ok _ => cases outcome_eq
          | error fault =>
              cases outcome_eq
              obtain ⟨later, rfl⟩ := set_runs_iff.mp storing
              exact .unstored before response nowMs later _ reply missed

/-- Some source has a token: Redis a fresh one, Cognito a new one, or Redis any at the end. -/
inductive SourceLeft (P : Platform) (clientId : String) (scopes : List String)
    (trace : List CacheEvent) (nowMs : Millis) : Prop
  | fresh (record : CachedToken) :
      ⟨.redisGet (TokenCache.cacheKey P clientId scopes), .ok (some record)⟩ ∈ trace →
      record.Fresh nowMs → SourceLeft P clientId scopes trace nowMs
  | granted (response : CognitoTokenResponse) :
      ⟨.cognito clientId scopes, .ok response⟩ ∈ trace → SourceLeft P clientId scopes trace nowMs
  | stale (front back : List CacheEvent) (reply : Except Fault CognitoTokenResponse)
      (record : CachedToken) : trace = front ++ ⟨.cognito clientId scopes, reply⟩ :: back →
      ⟨.redisGet (TokenCache.cacheKey P clientId scopes), .ok (some record)⟩ ∈ back →
      SourceLeft P clientId scopes trace nowMs

section NoSource

variable {layers next : CacheLayers} {nowMs : Millis} {reply : Except Fault (Option CachedToken)}
  (found : FoundNothing (TokenCache.cacheKey P clientId scopes) layers nowMs reply trace next)
  (old : ∀ record, reply = .ok (some record) → ¬ record.Fresh nowMs)
  (quiet : ∀ event ∈ trace, event.op.OnlyLooks)
include found old quiet

theorem not_sourceLeft_unread : ¬ SourceLeft P clientId scopes trace nowMs := by
  rintro (⟨record, member, fresh⟩ | ⟨response, member⟩ | ⟨front, back, last, record, rfl, member⟩)
  · exact old record (found.reply_eq member).symm fresh
  · exact (quiet _ member).1 _ _ rfl
  · exact (quiet ⟨.cognito clientId scopes, last⟩ (by simp)).1 _ _ rfl

theorem not_sourceLeft_refused (err : Fault) {last : Except Fault (Option CachedToken)}
    (unserved : ∀ record, last ≠ .ok (some record)) :
    ¬ SourceLeft P clientId scopes (trace ++ [⟨.cognito clientId scopes, .error err⟩,
      ⟨.redisGet (TokenCache.cacheKey P clientId scopes), last⟩]) nowMs := by
  rintro (⟨record, member, fresh⟩ | ⟨response, member⟩ | ⟨front, back, again, record, split, member⟩)
  · obtain early | late := List.mem_append.mp member
    · exact old record (found.reply_eq early).symm fresh
    · exact unserved record (by simpa [eq_comm] using late)
  · obtain early | late := List.mem_append.mp member
    · exact (quiet _ early).1 _ _ rfl
    · simp at late
  · obtain ⟨middle, -, behind⟩ | ⟨-, -, rfl⟩ | ⟨middle, rfl, -⟩ := History.compare_splits split
    · have asked : ⟨.cognito clientId scopes, again⟩ ∈
          [(⟨.redisGet (TokenCache.cacheKey P clientId scopes), last⟩ : CacheEvent)] := by
        rw [behind]
        simp
      simp at asked
    · exact unserved record (by simpa [eq_comm] using member)
    · exact (quiet ⟨.cognito clientId scopes, again⟩ (by simp)).1 _ _ rfl

end NoSource

end Shapes

/-- A call of `acquire` over both layers of the cache. -/
structure AcquireCall (P : Platform) (clientId : String) (scopes : List String)
    (forceRefresh : Bool) where
  before : CacheLayers
  after : CacheLayers
  trace : List CacheEvent
  outcome : Except Fault TokenResult
  run : Runs (acquire P clientId scopes forceRefresh) trace outcome
  layered : Layered before trace after

namespace AcquireCall

variable {P : Platform} {clientId : String} {scopes : List String} {forceRefresh : Bool}
  (call : AcquireCall P clientId scopes forceRefresh)

/-- A token that Cognito grants is returned. -/
def ReturnsGranted : Prop :=
  ∀ response, ⟨.cognito clientId scopes, .ok response⟩ ∈ call.trace →
    ∃ nowMs, ⟨.now, nowMs⟩ ∈ call.trace ∧
      call.outcome = .ok { response.token scopes nowMs with tokenSource := .cognito }

/-- Where Cognito was asked, a token that it has not granted is returned only if it failed. -/
def StaleForCognito : Prop :=
  ∀ token, call.outcome = .ok token → token.tokenSource ≠ .cognito →
    (∃ reply, ⟨.cognito clientId scopes, reply⟩ ∈ call.trace) →
    ∃ err, ⟨.cognito clientId scopes, .error err⟩ ∈ call.trace

def ThrowKeepsLayers : Prop :=
  ∀ err, call.outcome = .error err → call.after = call.before

/-- Redis takes a token that Cognito has granted. -/
def TakesGranted : Prop :=
  ∀ key entry ttlSeconds err, ⟨.redisSet key entry ttlSeconds, .error err⟩ ∉ call.trace

/-- Where an old entry is dropped from the map, some source has a token. -/
def ReplacesOld : Prop :=
  forceRefresh = false → ∀ entry nowMs rest,
    call.before.l1 (TokenCache.cacheKey P clientId scopes) = some entry →
    call.trace = ⟨.now, nowMs⟩ :: rest → ¬ entry.Fresh nowMs →
    SourceLeft P clientId scopes call.trace nowMs

variable {call}

theorem returnsGranted_iff : call.ReturnsGranted ↔ call.TakesGranted := by
  obtain ⟨before, after, trace, outcome, run, layered⟩ := call
  simp only [ReturnsGranted, TakesGranted]
  cases acquire_shape run with
  | answered _ token _ looked =>
      have quiet := get_onlyLooks _ _ looked
      constructor
      · intro _ key entry ttlSeconds err member
        exact (quiet _ member).2 _ _ _ rfl
      · intro _ response member
        exact absurd rfl ((quiet _ member).1 _ _)
  | unread _ err _ looked =>
      have quiet := get_onlyLooks _ _ looked
      constructor
      · intro _ key entry ttlSeconds err member
        exact (quiet _ member).2 _ _ _ rfl
      · intro _ response member
        exact absurd rfl ((quiet _ member).1 _ _)
  | granted front granted nowMs later missed =>
      constructor
      · intro _ key entry ttlSeconds err member
        obtain early | late := List.mem_append.mp member
        · exact (missed.onlyLooks _ early).2 _ _ _ rfl
        · simp [grantedEvents] at late
      · intro _ response member
        obtain early | late := List.mem_append.mp member
        · exact absurd rfl ((missed.onlyLooks _ early).1 _ _)
        · have same : response = granted := by simpa [grantedEvents] using late
          subst same
          exact ⟨nowMs, by simp [grantedEvents], rfl⟩
  | unstored front granted nowMs later err reply missed =>
      constructor
      · intro returns
        obtain ⟨moment, -, same⟩ := returns granted (by simp [grantedEvents])
        exact absurd rfl (staleOutcome_source same).2
      · intro takes
        obtain ⟨key, entry, ttlSeconds, member⟩ := unstored_mem front granted nowMs later err _
        exact absurd member (takes key entry ttlSeconds err)
  | refused front err reply missed =>
      constructor
      · intro _ key entry ttlSeconds fault member
        obtain early | late := List.mem_append.mp member
        · exact (missed.onlyLooks _ early).2 _ _ _ rfl
        · simp at late
      · intro _ response member
        obtain early | late := List.mem_append.mp member
        · exact absurd rfl ((missed.onlyLooks _ early).1 _ _)
        · simp at late

theorem TakesGranted.staleForCognito (takes : call.TakesGranted) : call.StaleForCognito := by
  obtain ⟨before, after, trace, outcome, run, layered⟩ := call
  intro token returned other asked
  simp only at returned asked ⊢
  cases acquire_shape run with
  | answered _ _ _ looked =>
      obtain ⟨reply, member⟩ := asked
      exact absurd rfl ((get_onlyLooks _ _ looked _ member).1 _ _)
  | unread _ err _ looked => cases returned
  | granted front response nowMs later missed =>
      cases returned
      exact absurd rfl other
  | unstored front response nowMs later err reply missed =>
      obtain ⟨key, entry, ttlSeconds, member⟩ := unstored_mem front response nowMs later err _
      exact absurd member (takes key entry ttlSeconds err)
  | refused front err reply missed => exact ⟨err, by simp⟩

/-- Where nothing has been stored, a call that throws keeps the layers unless it has dropped an
entry. -/
theorem TakesGranted.throwKeeps_iff (takes : call.TakesGranted) :
    call.ThrowKeepsLayers ↔ call.ReplacesOld := by
  obtain ⟨before, after, trace, outcome, run, layered⟩ := call
  simp only [ThrowKeepsLayers, ReplacesOld]
  cases acquire_shape run with
  | answered _ token unforced looked =>
      refine iff_of_true (fun _ impossible => by cases impossible) ?_
      intro _ entry nowMs rest stored starts aged
      obtain ⟨record, member, fresh⟩ := get_found looked layered starts stored aged
      exact .fresh record member fresh
  | unread _ err unforced looked =>
      obtain ⟨nowMs, reply, old, found⟩ := get_nothing looked (by simp) layered
      constructor
      · intro keeps _ entry _ _ stored
        rw [found.kept_iff.mp (keeps err rfl)] at stored
        cases stored
      · rintro replaces _ ⟨⟩
        have noSource := not_sourceLeft_unread found old (get_onlyLooks _ _ looked)
        cases found with
        | empty _ => rfl
        | dropped entry stored aged =>
            exact absurd (replaces unforced entry nowMs _ stored rfl aged) noSource
  | granted front response nowMs later missed =>
      refine iff_of_true (fun _ impossible => by cases impossible) ?_
      intro _ _ _ _ _ _ _
      exact .granted response (by simp [grantedEvents])
  | unstored front response nowMs later err reply missed =>
      obtain ⟨key, entry, ttlSeconds, member⟩ := unstored_mem front response nowMs later err _
      exact absurd member (takes key entry ttlSeconds err)
  | refused front err last missed =>
      obtain ⟨middle, looking, asking⟩ := evolves_append_iff.mp layered
      simp only [evolves_cons_iff, evolves_nil_iff, LayerStep, exists_eq_left] at asking
      subst asking
      cases forceRefresh with
      | true =>
          cases missed
          refine iff_of_true (fun _ _ => evolves_nil_iff.mp looking) ?_
          intro forced
          cases forced
      | false =>
          obtain ⟨nowMs, reply, old, found⟩ := get_nothing missed (by simp) looking
          have quiet := missed.onlyLooks
          by_cases served : ∃ record, last = .ok (some record)
          · obtain ⟨record, rfl⟩ := served
            refine iff_of_true (fun _ impossible => by cases impossible) ?_
            intro _ _ _ _ _ _ _
            exact .stale front _ _ record rfl (by simp)
          · have unserved : ∀ record, last ≠ .ok (some record) := fun record same =>
              served ⟨record, same⟩
            obtain ⟨fault, thrown⟩ := staleOutcome_throws err unserved
            have noSource := not_sourceLeft_refused found old quiet err unserved
            constructor
            · intro keeps _ entry _ _ stored
              rw [found.kept_iff.mp (keeps fault thrown)] at stored
              cases stored
            · intro replaces _ _
              cases found with
              | empty _ => rfl
              | dropped entry stored aged =>
                  exact absurd (replaces rfl entry nowMs _ stored rfl aged) noSource

/-- `acquire` returns what Cognito grants, degrades only for Cognito and leaves the cache alone when
it throws, exactly where Redis takes what Cognito grants and some source replaces an old entry of
the map. -/
theorem degrades_iff (call : AcquireCall P clientId scopes forceRefresh) :
    (call.ReturnsGranted ∧ call.StaleForCognito ∧ call.ThrowKeepsLayers) ↔
      (call.TakesGranted ∧ call.ReplacesOld) := by
  constructor
  · intro ⟨returns, _, keeps⟩
    have takes := returnsGranted_iff.mp returns
    exact ⟨takes, takes.throwKeeps_iff.mp keeps⟩
  · intro ⟨takes, replaces⟩
    exact ⟨returnsGranted_iff.mpr takes, takes.staleForCognito, takes.throwKeeps_iff.mpr replaces⟩

end AcquireCall

section Lent

def lentResponse : CognitoTokenResponse := ⟨"access-token", 3600, none⟩

def emptyLayers : CacheLayers := ⟨fun _ => none, fun _ => none⟩

/-- Both layers are empty, Cognito answers, and Redis answers a write in this way. -/
def lending (stored : Except Fault Unit) : Environment tokenCaching
  | _, .now => 1000
  | _, .l1Get _ => none
  | _, .redisGet _ => .ok none
  | _, .cognito _ _ => .ok lentResponse
  | _, .redisSet _ _ _ => stored
  | _, .l1Set _ _ | _, .l1Delete _ | _, .l1Clear => ()

def lentKey : String := TokenCache.cacheKey digests.platform "client" ["a"]

def lentToken : CachedToken := lentResponse.token ["a"] 1000

def lentEvents (stored : Except Fault Unit) : List CacheEvent :=
  [⟨.now, 1000⟩, ⟨.l1Get lentKey, none⟩, ⟨.redisGet lentKey, .ok none⟩] ++
    grantedEvents digests.platform "client" ["a"] lentResponse 1000 1000 stored

def keptCall : AcquireCall digests.platform "client" ["a"] false where
  before := emptyLayers
  after := ⟨Function.update emptyLayers.l1 lentKey (some lentToken),
    Function.update emptyLayers.redis lentKey (some lentToken)⟩
  trace := lentEvents (.ok ())
  outcome := .ok { lentToken with tokenSource := .cognito }
  run := (show Yields (lending (.ok ())) [] _ _ _ from rfl).runs
  layered := .cons rfl (.cons ⟨rfl, rfl⟩ (.cons rfl (.cons rfl (.cons rfl (.cons rfl (.cons rfl
    (.cons rfl (.nil _))))))))

theorem keptCall_degrades :
    keptCall.ReturnsGranted ∧ keptCall.StaleForCognito ∧ keptCall.ThrowKeepsLayers := by
  apply keptCall.degrades_iff.mpr
  constructor
  · intro key entry ttlSeconds err
    simp [keptCall, lentEvents, grantedEvents]
  · intro _ entry _ _ impossible
    cases impossible

def full : Fault := plainError "OOM command not allowed when used memory > 'maxmemory'."

/-- Redis refuses the token, which is kept in the map only: the call throws. -/
def lostCall : AcquireCall digests.platform "client" ["a"] false where
  before := emptyLayers
  after := ⟨Function.update emptyLayers.l1 lentKey (some lentToken), emptyLayers.redis⟩
  trace := lentEvents (.error full) ++ [⟨.redisGet lentKey, .ok none⟩]
  outcome := .error full
  run := (show Yields (lending (.error full)) [] _ _ _ from rfl).runs
  layered := .cons rfl (.cons ⟨rfl, rfl⟩ (.cons rfl (.cons rfl (.cons rfl (.cons rfl (.cons rfl
    (.cons (.inl rfl) (.cons rfl (.nil _)))))))))

theorem lostCall_fails :
    ¬ (lostCall.ReturnsGranted ∧ lostCall.StaleForCognito ∧ lostCall.ThrowKeepsLayers) := by
  intro ⟨returns, _⟩
  obtain ⟨nowMs, -, impossible⟩ := returns lentResponse
    (by simp [lostCall, lentEvents, grantedEvents])
  cases impossible

end Lent

end S2s
