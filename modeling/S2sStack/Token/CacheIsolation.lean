import S2sStack.Token.CacheExpiry
import S2sStack.Js.Sorting

set_option autoImplicit false

/- Which tokens the caches give out for which client and scopes. -/
namespace S2s

open Effect (Along History Program Step held)
open Effect.Program

/-- What is known of SHA-256 in hexadecimal. -/
structure HexDigests (P : Platform) : Prop where
  injective : Function.Injective P.sha256Hex
  hex : ∀ bytes, ':' ∉ (P.sha256Hex bytes).toList

/-- The parts around the last of the separators. -/
theorem append_separator_inj {Entry : Type} {separator : Entry} {before before' after after' : List Entry}
    (absent : separator ∉ after) (absent' : separator ∉ after')
    (same : before ++ separator :: after = before' ++ separator :: after') :
    before = before' ∧ after = after' := by
  obtain ⟨middle, -, rfl⟩ | ⟨rfl, -, rfl⟩ | ⟨middle, -, rfl⟩ := History.compare_splits same
  · simp at absent
  · exact ⟨rfl, rfl⟩
  · simp at absent'

/-- Two keys are the same for one client and lists that are joined to one text. -/
theorem cacheKey_eq_iff {P : Platform} (sha : HexDigests P) {clientId clientId' : String}
    {scopes scopes' : List String} :
    TokenCache.cacheKey P clientId scopes = TokenCache.cacheKey P clientId' scopes' ↔
      clientId = clientId' ∧ Js.commaPieces scopes = Js.commaPieces scopes' := by
  rw [← Js.joined_eq_iff]
  constructor
  · intro same
    have spelled := congrArg String.toList same
    simp only [TokenCache.cacheKey, String.toList_append, List.append_assoc,
      List.append_cancel_left_eq] at spelled
    obtain ⟨clients, hashes⟩ :=
      append_separator_inj (sha.hex _) (sha.hex _) spelled
    have texts := sha.injective (String.toList_inj.mp hashes)
    exact ⟨String.toList_inj.mp clients, String.toByteArray_inj.mp texts⟩
  · rintro ⟨rfl, joined⟩
    rw [TokenCache.cacheKey, TokenCache.cacheKey, joined]

/-- Which client is used with which scopes. -/
abbrev Vocabulary := String → List String → Prop

/-- No two lists of one client fall into the same pieces, unless one is the other in another
order. -/
def Unambiguous (used : Vocabulary) : Prop :=
  ∀ clientId scopes scopes', used clientId scopes → used clientId scopes' →
    Js.commaPieces scopes = Js.commaPieces scopes' → scopes.Perm scopes'

/-- Keys are the same exactly for one client and one multiset of scopes. -/
def KeysExact (P : Platform) (used : Vocabulary) : Prop :=
  ∀ clientId scopes clientId' scopes', used clientId scopes → used clientId' scopes' →
    (TokenCache.cacheKey P clientId scopes = TokenCache.cacheKey P clientId' scopes' ↔
      clientId = clientId' ∧ scopes.Perm scopes')

theorem keysExact_iff {P : Platform} (sha : HexDigests P) {used : Vocabulary} :
    KeysExact P used ↔ Unambiguous used := by
  constructor
  · intro exact_keys clientId scopes scopes' one other pieces
    have same := (cacheKey_eq_iff sha).mpr ⟨Eq.refl clientId, pieces⟩
    exact ((exact_keys clientId scopes clientId scopes' one other).mp same).2
  · intro unambiguous clientId scopes clientId' scopes' one other
    rw [cacheKey_eq_iff sha]
    constructor
    · rintro ⟨rfl, pieces⟩
      exact ⟨rfl, unambiguous clientId scopes scopes' one other pieces⟩
    · rintro ⟨rfl, perm⟩
      exact ⟨rfl, Js.commaPieces_of_perm perm⟩

/-- Lists with a scope in them and without a comma are never mixed up. -/
def plainVocabulary : Vocabulary :=
  fun _ scopes => scopes ≠ [] ∧ ∀ scope ∈ scopes, ',' ∉ scope.toList

theorem plainVocabulary_unambiguous : Unambiguous plainVocabulary := by
  intro clientId scopes scopes' one other pieces
  rw [Js.commaPieces_plain one.1 one.2, Js.commaPieces_plain other.1 other.2] at pieces
  have sorted := List.map_injective_iff.mpr (fun _ _ => String.toList_inj.mp) pieces
  exact Js.sortTexts_eq_iff.mp sorted

/-- The call stores this token for this client, after these events. -/
def CacheCall.Sets : CacheCall → List CacheEvent → String → CachedToken → Prop
  | set clientId entry, _, client, stored => clientId = client ∧ entry = stored
  | acquire clientId scopes _, before, client, stored =>
      clientId = client ∧ ∃ response nowMs,
        ⟨.cognito clientId scopes, .ok response⟩ ∈ before ∧ stored = response.token scopes nowMs
  | _, _, _, _ => False

/-- What is written is what was set under its key, or comes from Redis into the map. -/
def Sourced (P : Platform) (sets : List CacheEvent → String → CachedToken → Prop)
    (before : List CacheEvent) (event : CacheEvent) : Prop :=
  ∀ key entry,
    (event.op = .l1Set key entry → ⟨.redisGet key, .ok (some entry)⟩ ∈ before ∨
      ∃ clientId, key = TokenCache.cacheKey P clientId entry.scopes ∧ sets before clientId entry) ∧
    ∀ ttl, event.op = .redisSet key entry ttl →
      ∃ clientId, key = TokenCache.cacheKey P clientId entry.scopes ∧ sets before clientId entry

/-- An operation that writes to neither layer. -/
def CacheOp.Writeless (op : CacheOp) : Prop :=
  (∀ key entry, op ≠ .l1Set key entry) ∧ ∀ key entry ttl, op ≠ .redisSet key entry ttl

section Programs

variable {P : Platform} {clientId : String} {scopes : List String} {past : List CacheEvent}
  {sets : List CacheEvent → String → CachedToken → Prop}

theorem sourced_of_writeless {before : List CacheEvent} {event : CacheEvent}
    (writeless : event.op.Writeless) : Sourced P sets before event := by
  intro key entry
  constructor
  · intro stores
    exact absurd stores (writeless.1 key entry)
  · intro ttl stores
    exact absurd stores (writeless.2 key entry ttl)

theorem provides_of_writeless {α : Type} {program : Caching α}
    (within : Within CacheOp.Writeless program) :
    Provides (Sourced P sets) past program (fun _ _ => True) :=
  Provides.of_within within fun _ _ writeless => sourced_of_writeless writeless

theorem getStale_writeless : Within CacheOp.Writeless (TokenCache.getStale P clientId scopes) := by
  intro trace outcome run
  obtain ⟨reply, rfl, -⟩ := getStale_runs_iff.mp run
  simp [CacheOp.Writeless]

theorem readThrough_sourced {key : String} {nowMs : Millis} :
    Provides (Sourced P sets) past (TokenCache.readThrough key nowMs) (fun _ _ => True) := by
  have reading : Provides (Sourced P sets) past (Caching.redisGet key)
      (fun trace raw => ⟨.redisGet key, .ok raw⟩ ∈ trace) := by
    apply Provides.command
    · intro reply
      exact sourced_of_writeless (by simp [CacheOp.Writeless])
    · rintro reply raw same
      have replied : reply = .ok raw := same
      simp [replied]
  apply Provides.bind reading
  intro trace raw found
  cases raw with
  | none => exact Provides.done fun _ _ => trivial
  | some parsed =>
      by_cases fresh : parsed.Fresh nowMs
      · simp only [fresh, ↓reduceIte]
        have keeping : Provides (Sourced P sets) (past ++ trace) (Caching.l1Set key parsed)
            (fun _ _ => True) := by
          apply Provides.command
          · intro reply other entry
            constructor
            · intro stores
              cases stores
              exact .inl found
            · simp
          · exact fun _ _ _ => trivial
        apply Provides.bind keeping
        intro _ _ _
        exact Provides.done fun _ _ => trivial
      · simp only [fresh, ↓reduceIte]
        exact Provides.done fun _ _ => trivial

theorem get_sourced :
    Provides (Sourced P sets) past (TokenCache.get P clientId scopes) (fun _ _ => True) := by
  have quiet {op : CacheOp} (writeless : op.Writeless) {trace : List CacheEvent} :
      Provides (Sourced P sets) trace (Program.command op .ok : Caching (op.Reply))
        (fun _ _ => True) :=
    provides_of_writeless (Within.command writeless)
  apply Provides.bind (quiet (by simp [CacheOp.Writeless]))
  intro _ nowMs _
  apply Provides.bind (quiet (by simp [CacheOp.Writeless]))
  intro _ l1 _
  cases l1 with
  | none => exact readThrough_sourced
  | some entry =>
      by_cases fresh : entry.Fresh nowMs
      · simp only [fresh, ↓reduceIte]
        exact Provides.done fun _ _ => trivial
      · simp only [fresh, ↓reduceIte]
        apply Provides.bind (quiet (by simp [CacheOp.Writeless]))
        intro _ _ _
        exact readThrough_sourced

theorem set_sourced {entry : CachedToken} (given : ∀ later, sets (past ++ later) clientId entry) :
    Provides (Sourced P sets) past (TokenCache.set P clientId entry) (fun _ _ => True) := by
  intro trace outcome run
  refine ⟨?_, fun _ _ => trivial⟩
  obtain ⟨nowMs, rfl⟩ := set_runs_iff.mp run
  intro before event after split key other
  match before, split with
  | [], same =>
      cases same
      simp
  | [_], same =>
      cases same
      refine ⟨?_, by simp⟩
      intro stores
      cases stores
      exact .inr ⟨clientId, rfl, given _⟩
  | [_, _], same =>
      cases same
      refine ⟨by simp, ?_⟩
      intro ttl stores
      cases stores
      exact ⟨clientId, rfl, given _⟩
  | _ :: _ :: _ :: _, same => simp at same

theorem acquireFresh_sourced {forceRefresh : Bool} :
    Provides (Sourced P (CacheCall.acquire clientId scopes forceRefresh).Sets) past
      (acquireFresh P clientId scopes) (fun _ _ => True) := by
  have asking : Provides (Sourced P (CacheCall.acquire clientId scopes forceRefresh).Sets) past
      (Caching.cognito clientId scopes)
      (fun trace response => ⟨.cognito clientId scopes, .ok response⟩ ∈ trace) := by
    apply Provides.command
    · intro reply
      exact sourced_of_writeless (by simp [CacheOp.Writeless])
    · rintro reply response same
      have replied : reply = .ok response := same
      simp [replied]
  apply Provides.bind asking
  intro trace response answered
  apply Provides.bind (provides_of_writeless (Within.command (by simp [CacheOp.Writeless])))
  intro reading nowMs _
  have given : ∀ later, (CacheCall.acquire clientId scopes forceRefresh).Sets
      (past ++ trace ++ reading ++ later) clientId (response.token scopes nowMs) := by
    intro later
    refine ⟨rfl, response, nowMs, ?_, rfl⟩
    simp only [List.append_assoc] at answered ⊢
    rw [← List.append_assoc]
    exact List.mem_append_left _ answered
  apply Provides.bind (set_sourced given)
  intro _ _ _
  exact Provides.done fun _ _ => trivial

/-- Whatever a call writes it sets, or has read from Redis. -/
theorem call_sourced (call : CacheCall) :
    Provides (Sourced P call.Sets) [] (call.program P) (fun _ _ => True) := by
  cases call with
  | set clientId entry =>
      apply Provides.bind (set_sourced fun _ => ⟨rfl, rfl⟩)
      intro _ _ _
      exact Provides.done fun _ _ => trivial
  | get clientId scopes => exact get_sourced
  | getStale clientId scopes => exact provides_of_writeless getStale_writeless
  | acquire clientId scopes forceRefresh =>
      have acquiring : Provides (Sourced P (CacheCall.acquire clientId scopes forceRefresh).Sets) []
          (acquire P clientId scopes forceRefresh) (fun _ _ => True) := by
        have looking : Provides (Sourced P (CacheCall.acquire clientId scopes forceRefresh).Sets) []
            (cachedToken P clientId scopes forceRefresh) (fun _ _ => True) := by
          cases forceRefresh with
          | true => exact Provides.done fun _ _ => trivial
          | false => exact get_sourced
        apply Provides.bind looking
        intro _ cached _
        cases cached with
        | some token => exact Provides.done fun _ _ => trivial
        | none =>
            apply Provides.catching acquireFresh_sourced
            intro _ err
            apply Provides.bind (provides_of_writeless getStale_writeless)
            intro _ stale _
            cases stale with
            | none => exact Provides.done fun _ _ => trivial
            | some token => exact Provides.done fun _ _ => trivial
      apply Provides.bind acquiring
      intro _ _ _
      exact Provides.done fun _ _ => trivial
  | clearL1 =>
      apply provides_of_writeless
      exact Within.bind (Within.command (by simp [CacheOp.Writeless])) fun _ => Within.done _

end Programs

/-- The call only uses this vocabulary, and so do the scopes that Cognito grants it. -/
def CacheCall.Over (used : Vocabulary) (trace : List CacheEvent) : CacheCall → Prop
  | set clientId entry => used clientId entry.scopes
  | get clientId scopes => used clientId scopes
  | getStale clientId scopes => used clientId scopes
  | acquire clientId scopes _ => used clientId scopes ∧
      ∀ response, ⟨.cognito clientId scopes, .ok response⟩ ∈ trace →
        used clientId (response.grantedScopes scopes)
  | clearL1 => True

/-- The call asks the cache for a token of this client with these scopes. -/
def CacheCall.LooksFor (clientId : String) (scopes : List String) (call : CacheCall) : Prop :=
  call = .get clientId scopes ∨ call = .getStale clientId scopes ∨
    ∃ forceRefresh, call = .acquire clientId scopes forceRefresh

namespace TokenCacheRun

variable {P : Platform} {Thread Instance : Type} [DecidableEq Thread] [DecidableEq Instance]
  (run : TokenCacheRun P Thread Instance)

def Over (used : Vocabulary) : Prop :=
  ∀ thread, (run.call thread).Over used (run.history.trace thread)

/-- A token of this client was set, with the scopes it carries, by a step among these. -/
def WasSet (before : History tokenCaching Thread) (clientId : String) (token : CachedToken) :
    Prop :=
  ∃ early step late, before = early ++ step :: late ∧
    (run.call step.thread).Sets (History.trace early step.thread) clientId token

/-- What comes out of the cache was set before for the same client and the same multiset of
scopes. -/
def Isolated : Prop :=
  ∀ thread token clientId scopes, run.Returns thread token → token.tokenSource ≠ .cognito →
    (run.call thread).LooksFor clientId scopes →
    ∀ before step after, run.history = before ++ step :: after → step.thread = thread →
      History.trace after thread = [] →
      token.scopes.Perm scopes ∧ run.WasSet before clientId token.toCachedToken

variable {run} {before after : History tokenCaching Thread} {step : CacheStep Thread}
  {key clientId : String} {entry : CachedToken}

theorem WasSet.append (wasSet : run.WasSet before clientId entry)
    (later : History tokenCaching Thread) : run.WasSet (before ++ later) clientId entry := by
  obtain ⟨early, step, late, rfl, sets⟩ := wasSet
  exact ⟨early, step, late ++ later, by simp, sets⟩

/-- Only what the vocabulary has is ever set. -/
theorem WasSet.used {used : Vocabulary} (covered : run.Over used)
    (split : run.history = before ++ after) (wasSet : run.WasSet before clientId entry) :
    used clientId entry.scopes := by
  obtain ⟨early, step, late, rfl, sets⟩ := wasSet
  have within := covered step.thread
  cases called : run.call step.thread with
  | set client stored =>
      rw [called] at sets within
      obtain ⟨rfl, rfl⟩ := sets
      exact within
  | acquire client scopes forceRefresh =>
      rw [called] at sets within
      obtain ⟨rfl, response, nowMs, answered, rfl⟩ := sets
      apply within.2 response
      rw [split, List.append_assoc, History.trace_append]
      exact List.mem_append_left _ answered
  | get client scopes =>
      rw [called] at sets
      exact sets.elim
  | getStale client scopes =>
      rw [called] at sets
      exact sets.elim
  | clearL1 =>
      rw [called] at sets
      exact sets.elim

theorem step_sourced (split : run.history = before ++ step :: after) :
    Sourced P (run.call step.thread).Sets (History.trace before step.thread) step.event :=
  History.needs_of_preceded
    ((call_sourced (run.call step.thread)).preceded (run.running step.thread)) split

/-- What Redis gives under a key was set under it. -/
theorem redis_wasSet {raw : Option CachedToken} (split : run.history = before ++ step :: after)
    (reads : step.event = ⟨.redisGet key, .ok raw⟩) (present : raw = some entry) :
    ∃ client, key = TokenCache.cacheKey P client entry.scopes ∧ run.WasSet before client entry := by
  obtain ⟨earlier, write, later, record, rfl, wrote, rfl, -, -⟩ := redis_stored split reads present
  have writeSplit : run.history = earlier ++ write :: (later ++ step :: after) := by
    rw [split]
    simp
  obtain ⟨client, named, sets⟩ :=
    (step_sourced writeSplit key record.entry).2 _ (storesRecord_eq_some wrote).1
  exact ⟨client, named, earlier, write, later, rfl, sets⟩

/-- And so was what the map gives. -/
theorem l1_wasSet {found : Option CachedToken} (split : run.history = before ++ step :: after)
    (reads : step.event = ⟨.l1Get key, found⟩) (present : found = some entry) :
    ∃ client, key = TokenCache.cacheKey P client entry.scopes ∧ run.WasSet before client entry := by
  obtain ⟨write, member, wrote⟩ := l1_written split reads present
  obtain ⟨earlier, later, rfl⟩ := List.append_of_mem member
  have writeSplit : run.history = earlier ++ write :: (later ++ step :: after) := by
    rw [split]
    simp
  obtain read | ⟨client, named, sets⟩ := (step_sourced writeSplit key entry).1 wrote
  · obtain ⟨reading, inside, -, performed⟩ := History.mem_trace.mp read
    obtain ⟨front, rest, rfl⟩ := List.append_of_mem inside
    have readSplit : run.history =
        front ++ reading :: (rest ++ write :: (later ++ step :: after)) := by
      rw [writeSplit]
      simp
    obtain ⟨client, named, wasSet⟩ := redis_wasSet readSplit performed rfl
    refine ⟨client, named, ?_⟩
    simpa using wasSet.append (reading :: rest ++ write :: later)
  · exact ⟨client, named, earlier, write, later, rfl, sets⟩

/-- A token that does not come from Cognito was read under the key of its call. -/
theorem exists_read {thread : Thread} {token : TokenResult} {scopes : List String}
    (returned : run.Returns thread token) (cached : token.tokenSource ≠ .cognito)
    (looks : (run.call thread).LooksFor clientId scopes) :
    ∃ event ∈ run.history.trace thread,
      event = ⟨.l1Get (TokenCache.cacheKey P clientId scopes), some token.toCachedToken⟩ ∨
        event = ⟨.redisGet (TokenCache.cacheKey P clientId scopes),
          .ok (some token.toCachedToken)⟩ := by
  have found {trace : List CacheEvent} (parts : ∀ event ∈ trace, event ∈ run.history.trace thread)
      (looked : Runs (TokenCache.get P clientId scopes) trace (.ok (some token))) :
      ∃ event ∈ run.history.trace thread,
        event = ⟨.l1Get (TokenCache.cacheKey P clientId scopes), some token.toCachedToken⟩ ∨
          event = ⟨.redisGet (TokenCache.cacheKey P clientId scopes),
            .ok (some token.toCachedToken)⟩ := by
    obtain ⟨nowMs, lookup⟩ := lookup_run looked
    cases lookup with
    | l1 entry _ => exact ⟨_, parts _ (by simp), .inl rfl⟩
    | redis entry missing _ _ => exact ⟨_, parts _ (by simp), .inr rfl⟩
  obtain called | called | ⟨forceRefresh, called⟩ := looks
  · rw [Returns, called] at returned
    exact found (fun _ member => member) returned
  · have own := returns_getStale called returned
    exact ⟨_, by rw [own]; exact List.mem_singleton_self _, .inr rfl⟩
  · have acquired := (returns_acquire_iff called).mp returned
    generalize trace_eq : run.history.trace thread = trace at acquired
    have shape := acquire_run acquired
    generalize outcome_eq : (Except.ok token : Except Fault _) = outcome at shape
    cases shape with
    | hit trace other _ looked =>
        cases outcome_eq
        exact trace_eq ▸ found (by simp [trace_eq]) looked
    | unread _ err _ _ => cases outcome_eq
    | granted early late other _ fresh =>
        cases outcome_eq
        exact absurd (acquireFresh_source fresh) cached
    | degraded early asking late err _ _ _ failed =>
        subst outcome_eq
        obtain ⟨reply, rfl, returns⟩ := acquireStale_run failed
        obtain ⟨parsed, rfl, rfl⟩ := returns token rfl
        exact ⟨_, by simp, .inr rfl⟩

/-- With an unambiguous vocabulary, what is read under the key of a call was set for it. -/
theorem isolated {used : Vocabulary} (sha : HexDigests P) (unambiguous : Unambiguous used)
    (covered : run.Over used) : run.Isolated := by
  intro thread token clientId scopes returned cached looks before last after split own ends
  obtain ⟨event, member, reads⟩ := exists_read returned cached looks
  obtain ⟨reading, inside, ownReading, performed⟩ := History.mem_trace.mp member
  obtain ⟨front, rest, readSplit⟩ := List.append_of_mem inside
  have wasSet : ∃ client, TokenCache.cacheKey P clientId scopes =
      TokenCache.cacheKey P client token.scopes ∧ run.WasSet front client token.toCachedToken := by
    cases reads with
    | inl l1 => exact l1_wasSet readSplit (performed.trans l1) rfl
    | inr redis => exact redis_wasSet readSplit (performed.trans redis) rfl
  obtain ⟨client, sameKey, setBefore⟩ := wasSet
  have wanted : used clientId scopes := by
    have within := covered thread
    obtain called | called | ⟨forceRefresh, called⟩ := looks
    · rwa [called] at within
    · rwa [called] at within
    · rw [called] at within
      exact within.1
  have stored := setBefore.used covered readSplit
  obtain ⟨rfl, perm⟩ :=
    ((keysExact_iff sha).mpr unambiguous _ _ _ _ wanted stored).mp sameKey
  refine ⟨perm.symm, ?_⟩
  -- the token was read no later than in the last step of the call
  obtain ⟨middle, rfl, -⟩ | ⟨rfl, -, -⟩ | ⟨middle, parts, rest_eq⟩ :=
    History.compare_splits (readSplit.symm.trans split)
  · simpa using setBefore.append (reading :: middle)
  · exact setBefore
  · have late : reading ∈ after := by simp [rest_eq]
    exact absurd ends (History.trace_ne_nil late ownReading)

end TokenCacheRun

section Mixed

variable {P : Platform} {clientId : String} {scopes scopes' : List String}

def mixedToken (scopes : List String) : CachedToken where
  accessToken := "access-token"
  expiresAt := 1060
  scopes := scopes

def mixedCall (clientId : String) (scopes scopes' : List String) : Bool → CacheCall
  | true => .set clientId (mixedToken scopes)
  | false => .get clientId scopes'

/-- A token is set, and a lookup with other scopes finds it in the map. -/
def mixedHistory (key : String) (scopes : List String) : History tokenCaching Bool :=
  [⟨true, 1000000, ⟨.now, 1000000⟩⟩, ⟨true, 1000000, ⟨.l1Set key (mixedToken scopes), ()⟩⟩,
    ⟨true, 1000000, ⟨.redisSet key (mixedToken scopes) 60, .ok ()⟩⟩,
    ⟨false, 1000000, ⟨.now, 1000000⟩⟩,
    ⟨false, 1000000, ⟨.l1Get key, some (mixedToken scopes)⟩⟩]

def mixedResult (scopes : List String) : Bool → Option TokenResult
  | true => none
  | false => some { mixedToken scopes with tokenSource := .cacheL1 }

variable (same : TokenCache.cacheKey P clientId scopes = TokenCache.cacheKey P clientId scopes')

include same

theorem mixed_runs (thread : Bool) :
    Runs ((mixedCall clientId scopes scopes' thread).program P)
      (History.trace (mixedHistory (TokenCache.cacheKey P clientId scopes) scopes) thread)
      (.ok (mixedResult scopes thread)) := by
  cases thread with
  | true =>
      have life : ttlSeconds (mixedToken scopes).expiresAt 1000000 = 60 := by
        norm_num [mixedToken, ttlSeconds, toSeconds]
      apply runs_bind_ok.mpr
      refine ⟨(), _, [], (List.append_nil _).symm, set_runs_iff.mpr ⟨1000000, ?_⟩, .done _⟩
      rw [life]
      rfl
  | false =>
      have fresh : (mixedToken scopes).Fresh 1000000 := by
        norm_num [CachedToken.Fresh, mixedToken, bufferSeconds, toSeconds]
      rw [same]
      exact get_hit_runs fresh

omit same in
theorem mixed_readsL1 (key : String) : Along (fun before step => ∀ wanted found,
    step.event = ⟨.l1Get wanted, found⟩ →
      found = held (storesEntry (fun _ => ()) step.thread wanted) none before)
    [] (mixedHistory key scopes) := by
  simp [Along, mixedHistory, held, storesEntry]

/-- One process in which two lists have one key. -/
def mixedRun : TokenCacheRun P Bool Unit where
  history := mixedHistory (TokenCache.cacheKey P clientId scopes) scopes
  instanceOf _ := ()
  call := mixedCall clientId scopes scopes'
  running thread := (mixed_runs same thread).performs
  ordered := by simp [History.Ordered, mixedHistory]
  applied _ := false
  clock := by simp [mixedHistory]
  readsL1 _ _ _ split := (mixed_readsL1 _).at_split split
  readsRedis before step after split key found reads := by
    have member : step ∈ mixedHistory (TokenCache.cacheKey P clientId scopes) scopes := by
      simp [split]
    simp [mixedHistory] at member
    obtain rfl | rfl | rfl | rfl | rfl := member <;> cases reads
  wholeTtl := by
    have whole : (60 : Rat).isInt = true := by decide
    simp [mixedHistory, whole]

theorem mixedRun_isolated (isolated : (mixedRun same).Isolated) : scopes.Perm scopes' := by
  have returned := mixed_runs same false
  exact (isolated false _ clientId scopes' returned (by simp) (.inl rfl)
    ((mixedHistory (TokenCache.cacheKey P clientId scopes) scopes).take 4) _ [] rfl rfl rfl).1

theorem mixedRun_over {used : Vocabulary} (one : used clientId scopes)
    (other : used clientId scopes') : (mixedRun same).Over used := by
  intro thread
  cases thread with
  | true => exact one
  | false => exact other

end Mixed

/-- In every run over this vocabulary, whatever the processes and their calls. -/
def AlwaysIsolated (P : Platform) (used : Vocabulary) : Prop :=
  ∀ (Thread Instance : Type) [DecidableEq Thread] [DecidableEq Instance]
    (run : TokenCacheRun P Thread Instance), run.Over used → run.Isolated

/-- The keys tell the vocabulary apart, and the caches keep it apart, exactly if no two lists of a
client have the same comma-separated pieces without being one multiset. -/
theorem cacheIsolation_iff {P : Platform} (sha : HexDigests P) (used : Vocabulary) :
    (KeysExact P used ↔ Unambiguous used) ∧ (AlwaysIsolated P used ↔ Unambiguous used) := by
  refine ⟨keysExact_iff sha, ?_, ?_⟩
  · intro isolated clientId scopes scopes' one other pieces
    have same := (cacheKey_eq_iff sha).mpr ⟨Eq.refl clientId, pieces⟩
    exact mixedRun_isolated same (isolated _ _ (mixedRun same) (mixedRun_over same one other))
  · intro unambiguous Thread Instance _ _ run covered
    exact TokenCacheRun.isolated sha unambiguous covered

section CommaScope

def hexPlatform : Platform :=
  { digests.platform with sha256Hex bytes := String.ofList (bytes.data.toList.flatMap hexByte) }

theorem digitChar_ne_colon : ∀ digit : Fin 16, Nat.digitChar digit ≠ ':' := by
  decide

theorem hexPlatform_digests : HexDigests hexPlatform where
  injective := hexDigest_injective
  hex := by
    intro bytes colon
    simp only [hexPlatform, String.toList_ofList, List.mem_flatMap, hexByte, List.mem_cons,
      List.not_mem_nil, or_false] at colon
    obtain ⟨byte, -, high | low⟩ := colon
    · have limit := byte.toNat_lt
      exact digitChar_ne_colon ⟨byte.toNat / 16, by omega⟩ high.symm
    · exact digitChar_ne_colon ⟨byte.toNat % 16, Nat.mod_lt _ (by decide)⟩ low.symm

theorem plainScopes_isolated :
    KeysExact hexPlatform plainVocabulary ∧ AlwaysIsolated hexPlatform plainVocabulary :=
  have exactly := cacheIsolation_iff hexPlatform_digests plainVocabulary
  ⟨exactly.1.mpr plainVocabulary_unambiguous, exactly.2.mpr plainVocabulary_unambiguous⟩

theorem commaScope_pieces : Js.commaPieces ["a,b"] = Js.commaPieces ["a", "b"] := by
  have one : Js.sortTexts ["a,b"] = ["a,b"] := List.mergeSort_of_pairwise (by decide)
  have two : Js.sortTexts ["a", "b"] = ["a", "b"] := List.mergeSort_of_pairwise (by decide)
  rw [Js.commaPieces, Js.commaPieces, one, two]
  decide

/-- The scope `a,b` has the key of the scopes `a` and `b`. -/
theorem commaScope_key (P : Platform) :
    TokenCache.cacheKey P "client" ["a,b"] = TokenCache.cacheKey P "client" ["a", "b"] := by
  rw [TokenCache.cacheKey, TokenCache.cacheKey, Js.joined_eq_iff.mpr commaScope_pieces]

theorem commaScope_mixedUp : HexDigests hexPlatform ∧
    TokenCache.cacheKey hexPlatform "client" ["a,b"] =
      TokenCache.cacheKey hexPlatform "client" ["a", "b"] ∧
    ¬ ["a,b"].Perm ["a", "b"] ∧ ¬ (mixedRun (commaScope_key hexPlatform)).Isolated := by
  have different : ¬ ["a,b"].Perm ["a", "b"] := by decide
  refine ⟨hexPlatform_digests, commaScope_key _, different, ?_⟩
  exact fun isolated => different (mixedRun_isolated _ isolated)

end CommaScope

end S2s
