import S2sStack.Effect.Counts
import S2sStack.Effect.Provenance
import S2sStack.Token.JwksManager

set_option autoImplicit false

/- Calls of one JWKS manager whose fetches are in flight together. -/
namespace S2s

open Effect Effect.Program
open Js (Obj)

def storedKeys : JwksEvent → Option (Option (List Obj))
  | ⟨.store keys, _⟩ => some (some keys)
  | _ => none

def storedAtMs : JwksEvent → Option Millis
  | ⟨.store _, cachedAtMs⟩ => some cachedAtMs
  | _ => none

/-- The key set that the issuer serves with an answer that can be read. -/
def servedKeys : JwksEvent → Option (Option (List Obj))
  | ⟨.fetch _, reply⟩ =>
      match readJwks reply with
      | .ok keys => some (some keys)
      | .error _ => none
  | _ => none

def isServed (event : JwksEvent) : Bool := (servedKeys event).isSome

def isStored (event : JwksEvent) : Bool := (storedKeys event).isSome

@[simp] theorem isServed_iff {event : JwksEvent} : isServed event ↔ servedKeys event ≠ none :=
  Option.isSome_iff_ne_none

@[simp] theorem isStored_iff {event : JwksEvent} : isStored event ↔ storedKeys event ≠ none :=
  Option.isSome_iff_ne_none

theorem servedKeys_fetch {jwksUri : String} {reply : Except Fault JwksResponse} {keys : List Obj}
    (read : readJwks reply = .ok keys) :
    servedKeys ⟨.fetch jwksUri, reply⟩ = some (some keys) := by
  simp [servedKeys, read]

namespace JwksManager

variable {opts : JwksManagerOptions} {forceRefresh : Bool} {trace : List JwksEvent}

/-- What is stored has been served before. -/
def StoreNeeds (before : List JwksEvent) (event : JwksEvent) : Prop :=
  ∀ keys, storedKeys event = some keys → ∃ served ∈ before, servedKeys served = some keys

theorem getKeys_preceded (performs : (getKeys opts forceRefresh).Performs trace) :
    Preceded StoreNeeds trace := by
  obtain ⟨rest, outcome, run⟩ := performs
  apply Preceded.of_append 
  have looks (found : JwksLook) : Preceded StoreNeeds [⟨.look, found⟩] := by
    apply Preceded.single
    intro keys impossible
    cases impossible
  have fetches (reply : Except Fault JwksResponse) :
      Preceded StoreNeeds [⟨.fetch opts.jwksUri, reply⟩] := by
    apply Preceded.single
    intro keys impossible
    cases impossible
  have grows (earlier before : List JwksEvent) (event : JwksEvent)
      (needs : StoreNeeds before event) : StoreNeeds (earlier ++ before) event := by
    intro keys stores
    obtain ⟨served, inside, same⟩ := needs keys stores
    exact ⟨served, List.mem_append_right _ inside, same⟩
  have shape := getKeys_run run
  generalize trace ++ rest = whole at shape
  cases shape with
  | cached found keys _ _ => exact looks found
  | fetched found more _ fetch =>
      apply (looks found).append grows
      cases fetch with
      | failed reply _ _ => exact fetches reply
      | stored reply keys cachedAtMs read =>
          apply (fetches reply).append_after
          apply Preceded.single
          rintro _ ⟨⟩
          exact ⟨⟨.fetch opts.jwksUri, reply⟩, by simp, servedKeys_fetch read⟩

/-- A call is served one set at most. -/
theorem served_once (performs : (getKeys opts forceRefresh).Performs trace) :
    trace.countP isServed ≤ 1 := by
  obtain ⟨rest, outcome, run⟩ := performs
  have whole : AtMost isServed 1 (getKeys opts forceRefresh) := by
    have fetching : AtMost isServed 1 (fetchOnce opts) := by
      refine AtMost.bind 1 0 (AtMost.command _ _) fun keys => ?_
      exact AtMost.bind 0 0 (AtMost.command_other fun _ => rfl) fun _ => AtMost.done _
    refine AtMost.bind 0 1 (AtMost.command_other fun _ => rfl) fun found => ?_
    split
    · exact fetching
    · split
      · exact fetching
      · exact (AtMost.done _).mono (Nat.zero_le 1)
  have bounded := whole _ _ run
  rw [List.countP_append] at bounded
  omega

end JwksManager

/-- Any interleaving of calls on one manager. A fetch stands where the issuer answers it, its store
where the answer has arrived. -/
structure JwksRun (opts : JwksManagerOptions) (Thread : Type) [DecidableEq Thread] where
  forceRefresh : Thread → Bool
  history : History jwksManager Thread
  performs : ∀ thread,
    (JwksManager.getKeys opts (forceRefresh thread)).Performs (history.trace thread)
  ordered : history.Ordered
  looks : ∀ before step after found, history = before ++ step :: after →
    step.event = ⟨.look, found⟩ →
    found = ⟨held (fun step => storedKeys step.event) none before,
      held (fun step => storedAtMs step.event) 0 before, step.time⟩
  stamps : ∀ step ∈ history, ∀ keys cachedAtMs,
    step.event = ⟨.store keys, cachedAtMs⟩ → cachedAtMs = step.time

namespace JwksRun

variable {opts : JwksManagerOptions} {Thread : Type} [DecidableEq Thread]
  (run : JwksRun opts Thread)

def Serves (thread : Thread) (step : Step jwksManager Thread) : Prop :=
  step.thread = thread ∧ isServed step.event

def Stores (thread : Thread) (step : Step jwksManager Thread) : Prop :=
  step.thread = thread ∧ isStored step.event

/-- The issuer serves one call before another. -/
def ServedBefore (one other : Thread) : Prop :=
  ∃ past first more second rest, run.history = past ++ first :: (more ++ second :: rest) ∧
    Serves one first ∧ Serves other second

/-- The fetch of one call completes before that of another. -/
def StoredBefore (one other : Thread) : Prop :=
  ∃ past first more second rest, run.history = past ++ first :: (more ++ second :: rest) ∧
    Stores one first ∧ Stores other second

/-- `cached` -/
def cached (past : History jwksManager Thread) : Option (List Obj) :=
  held (fun step => storedKeys step.event) none past

/-- The call whose set is cached. -/
def cachedBy (past : History jwksManager Thread) : Option Thread :=
  held (fun step => (storedKeys step.event).map fun _ => some step.thread) none past

/-- The set that the issuer has served last. -/
def newest (past : History jwksManager Thread) : Option (List Obj) :=
  held (fun step => servedKeys step.event) none past

/-- No fetch that has been served is still outstanding. -/
def Settled (past : History jwksManager Thread) : Prop :=
  ∀ step ∈ past, isServed step.event → ∃ store ∈ past, Stores step.thread store

/-- A set that was served earlier never takes the place of one that was served later. -/
def NeverBackwards : Prop :=
  ∀ past more rest one other, run.history = past ++ more ++ rest → cachedBy past = some one →
    cachedBy (past ++ more) = some other → ¬ run.ServedBefore other one

/-- Whenever no fetch is outstanding, the set that was served last is cached. -/
def SettlesNewest : Prop :=
  ∀ past rest, run.history = past ++ rest → Settled past → cached past = newest past

/-- The fetches complete in the order in which the issuer served them. -/
def InOrder : Prop :=
  ∀ one other, run.ServedBefore one other → ¬ run.StoredBefore other one

variable {run}

variable (run) in
/-- A call is not served twice. -/
theorem not_servedBefore_self (thread : Thread) : ¬ run.ServedBefore thread thread := by
  rintro ⟨past, first, more, second, rest, split, ⟨own, serves⟩, same, again⟩
  have once := JwksManager.served_once (run.performs thread)
  have parts : History.trace run.history thread = History.trace past thread ++
      first.event :: (History.trace more thread ++ second.event :: History.trace rest thread) := by
    rw [split, History.trace_append, History.trace_cons, if_pos own, History.trace_append,
      History.trace_cons, if_pos same]
  rw [parts, List.countP_append, List.countP_cons_of_pos serves, List.countP_append,
    List.countP_cons_of_pos again] at once
  omega

variable (run) in
/-- The answer to a call. -/
theorem served_unique {one other : Step jwksManager Thread} {thread : Thread}
    (inOne : one ∈ run.history) (inOther : other ∈ run.history) (isOne : Serves thread one)
    (isOther : Serves thread other) : one = other := by
  by_contra different
  apply not_servedBefore_self run thread
  obtain ⟨past, more, rest, split⟩ | ⟨past, more, rest, split⟩ :=
    History.exists_split_two inOne inOther different
  · exact ⟨past, one, more, other, rest, by simp [split], isOne, isOther⟩
  · exact ⟨past, other, more, one, rest, by simp [split], isOther, isOne⟩

omit [DecidableEq Thread] in
/-- Behind the last of a kind there is none of it. -/
theorem mem_front (kind : Step jwksManager Thread → Prop) {log front back : History jwksManager Thread}
    {last step : Step jwksManager Thread} (split : log = front ++ last :: back)
    (none : ∀ other ∈ back, ¬ kind other) (member : step ∈ log) (is : kind step)
    (different : step.thread ≠ last.thread) : step ∈ front := by
  rw [split, List.mem_append, List.mem_cons] at member
  obtain early | rfl | late := member
  · exact early
  · exact absurd rfl different
  · exact absurd is (none step late)

/-- A stored set was served to the same call before. -/
theorem served_of_stored {before after : History jwksManager Thread}
    {store : Step jwksManager Thread} {keys : Option (List Obj)}
    (split : run.history = before ++ store :: after) (stores : storedKeys store.event = some keys) :
    ∃ fetch ∈ before, fetch.thread = store.thread ∧ servedKeys fetch.event = some keys := by
  have preceded := JwksManager.getKeys_preceded (run.performs store.thread)
  obtain ⟨served, inside, same⟩ := History.needs_of_preceded preceded split keys stores
  obtain ⟨fetch, member, own, rfl⟩ := History.mem_trace.mp inside
  exact ⟨fetch, member, own, same⟩

omit [DecidableEq Thread] in
theorem cachedBy_concat (past : History jwksManager Thread) {store : Step jwksManager Thread}
    {thread : Thread} (stores : Stores thread store) : cachedBy (past ++ [store]) = some thread := by
  obtain ⟨own, isStore⟩ := stores
  obtain ⟨keys, wrote⟩ := Option.isSome_iff_exists.mp isStore
  rw [cachedBy, held_append]
  simp [held, wrote, own]

omit [DecidableEq Thread] in
/-- The last store of a history, where a set is cached. -/
theorem cachedBy_last {past : History jwksManager Thread} {thread : Thread}
    (found : cachedBy past = some thread) : ∃ front store back, past = front ++ store :: back ∧
      Stores thread store ∧ ∀ other ∈ back, ¬ isStored other.event := by
  obtain ⟨impossible, -⟩ | ⟨wrote, inside, write⟩ := held_written found
  · cases impossible
  · have written : ¬ ∀ step ∈ past,
        ((storedKeys step.event).map fun _ => some step.thread) = none := by
      intro quiet
      rw [quiet wrote inside] at write
      cases write
    obtain ⟨front, store, back, split, stores, quiet⟩ := held_last_write found written
    obtain ⟨keys, isStore, own⟩ := Option.map_eq_some_iff.mp stores
    refine ⟨front, store, back, split, ⟨Option.some.inj own, by simp [isStore]⟩, ?_⟩
    intro other behind
    simpa using quiet other behind

theorem InOrder.neverBackwards (inOrder : run.InOrder) : run.NeverBackwards := by
  intro past more rest one other split before after served
  by_cases same : other = one
  · subst same
    exact not_servedBefore_self run _ served
  · obtain ⟨early, first, late, splitFirst, ⟨own, stores⟩, -⟩ := cachedBy_last before
    obtain ⟨front, second, back, splitSecond, storesSecond, quiet⟩ := cachedBy_last after
    have member : first ∈ past ++ more := by simp [splitFirst]
    have different : first.thread ≠ second.thread := by
      rw [own, storesSecond.1]
      exact fun equal => same equal.symm
    obtain ⟨start, middle, rfl⟩ :=
      List.append_of_mem (mem_front _ splitSecond quiet member stores different)
    refine inOrder other one served ⟨start, first, middle, second, back ++ rest, ?_, ⟨own, stores⟩,
      storesSecond⟩
    rw [split, splitSecond]
    simp

theorem NeverBackwards.inOrder (forwards : run.NeverBackwards) : run.InOrder := by
  rintro one other served ⟨past, first, more, second, rest, split, storesFirst, storesSecond⟩
  have before := cachedBy_concat past storesFirst
  have after := cachedBy_concat (past ++ [first] ++ more) storesSecond
  rw [List.append_assoc (past ++ [first])] at after
  exact forwards (past ++ [first]) (more ++ [second]) rest other one (by simp [split]) before after
    served

/-- Before the issuer has served a set there is none to store. -/
theorem unstored_of_unserved {past rest : History jwksManager Thread}
    (split : run.history = past ++ rest)
    (unserved : ∀ step ∈ past, servedKeys step.event = none) :
    ∀ step ∈ past, storedKeys step.event = none := by
  intro step member
  cases stores : storedKeys step.event with
  | none => rfl
  | some keys =>
      obtain ⟨before, after, rfl⟩ := List.append_of_mem member
      have whole : run.history = before ++ step :: (after ++ rest) := by simp [split]
      obtain ⟨fetch, inside, -, serves⟩ := served_of_stored whole stores
      rw [unserved fetch (by simp [inside])] at serves
      cases serves

theorem InOrder.settlesNewest (inOrder : run.InOrder) : run.SettlesNewest := by
  intro past rest split settled
  by_cases unserved : ∀ step ∈ past, servedKeys step.event = none
  · have unstored := unstored_of_unserved split unserved
    rw [cached, newest, held_of_quiet unstored, held_of_quiet unserved]
  · obtain ⟨front, fetch, back, splitFetch, serves, quietFetch⟩ :=
      held_last_write (show _ = newest past from rfl) unserved
    have inPast : fetch ∈ past := by simp [splitFetch]
    obtain ⟨own, ownInside, ownThread, ownStores⟩ := settled fetch inPast (by simp [serves])
    have stored : ¬ ∀ step ∈ past, storedKeys step.event = none := by
      intro quiet
      exact isStored_iff.mp ownStores (quiet own ownInside)
    obtain ⟨early, store, late, splitStore, stores, quietStore⟩ :=
      held_last_write (show _ = cached past from rfl) stored
    have whole : run.history = early ++ store :: (late ++ rest) := by simp [split, splitStore]
    obtain ⟨source, inEarly, sourceThread, sourceServes⟩ := served_of_stored whole stores
    have sourceInside : source ∈ past := by simp [splitStore, inEarly]
    by_cases same : store.thread = fetch.thread
    · have equal : source = fetch := served_unique run (by simp [split, sourceInside])
        (by simp [split, inPast]) ⟨sourceThread.trans same, by simp [sourceServes]⟩
        ⟨rfl, by simp [serves]⟩
      subst equal
      rw [serves] at sourceServes
      exact (Option.some.inj sourceServes).symm
    · exfalso
      have sourceEarlier : source ∈ front := by
        apply mem_front (fun step => servedKeys step.event ≠ none) splitFetch _ sourceInside
        · simp [sourceServes]
        · rw [sourceThread]
          exact same
        · intro other behind
          simpa using quietFetch other behind
      have ownEarlier : own ∈ early := by
        apply mem_front (fun step => storedKeys step.event ≠ none) splitStore _ ownInside
        · exact isStored_iff.mp ownStores
        · rw [ownThread]
          exact fun equal => same equal.symm
        · intro other behind
          simpa using quietStore other behind
      obtain ⟨start, middle, rfl⟩ := List.append_of_mem sourceEarlier
      obtain ⟨begin, between, rfl⟩ := List.append_of_mem ownEarlier
      apply inOrder store.thread fetch.thread
      · exact ⟨start, source, middle, fetch, back ++ rest, by simp [split, splitFetch],
          ⟨sourceThread, by simp [sourceServes]⟩, rfl, by simp [serves]⟩
      · exact ⟨begin, own, between, store, late ++ rest, by simp [split, splitStore],
          ⟨ownThread, ownStores⟩, rfl, by simp [stores]⟩

/-- The cache of a manager does not go backwards, and settles on the newest set, exactly where the
fetches complete in the order in which the issuer served them. -/
theorem forwards_iff (run : JwksRun opts Thread) :
    (run.NeverBackwards ∧ run.SettlesNewest) ↔ run.InOrder := by
  constructor
  · intro ⟨forwards, _⟩
    exact forwards.inOrder
  · intro inOrder
    exact ⟨inOrder.neverBackwards, inOrder.settlesNewest⟩

end JwksRun

section Crossed

def crossedOptions : JwksManagerOptions where
  jwksUri := "https://broker/.well-known/jwks.json"
  refreshHours := 24

def crossedKeys (kid : String) : List Obj := [[("kid", .str kid)]]

def crossedResponse (kid : String) : Except Fault JwksResponse :=
  .ok { status := 200, keys := .ok (crossedKeys kid) }

/-- The set that one call was served arrives after the newer set of the other. -/
def crossedHistory : History jwksManager Bool :=
  [⟨false, 1, ⟨.look, ⟨none, 0, 1⟩⟩⟩, ⟨true, 2, ⟨.look, ⟨none, 0, 2⟩⟩⟩,
    ⟨false, 3, ⟨.fetch crossedOptions.jwksUri, crossedResponse "retired"⟩⟩,
    ⟨true, 4, ⟨.fetch crossedOptions.jwksUri, crossedResponse "current"⟩⟩,
    ⟨true, 5, ⟨.store (crossedKeys "current"), 5⟩⟩,
    ⟨false, 6, ⟨.store (crossedKeys "retired"), 6⟩⟩]

def crossedKid : Bool → String
  | false => "retired"
  | true => "current"

def crossedRun : JwksRun crossedOptions Bool where
  forceRefresh _ := false
  history := crossedHistory
  performs thread := by
    refine ⟨[], .ok (crossedKeys (crossedKid thread)), ?_⟩
    cases thread
    · exact .call _ (.call _ (.call _ (.done _)))
    · exact .call _ (.call _ (.call _ (.done _)))
  ordered := by simp [History.Ordered, crossedHistory]
  looks := by
    have looked : Along (fun before step => ∀ found, step.event = ⟨.look, found⟩ →
        found = ⟨held (fun step => storedKeys step.event) none before,
          held (fun step => storedAtMs step.event) 0 before, step.time⟩) [] crossedHistory := by
      simp [Along, crossedHistory, held, storedKeys, storedAtMs, eq_comm]
    intro before step after found split
    exact looked.at_split split found
  stamps := by simp [crossedHistory]

theorem crossed_backwards :
    ¬ (crossedRun.NeverBackwards ∧ crossedRun.SettlesNewest) := by
  intro ⟨forwards, _⟩
  apply forwards (crossedHistory.take 5) (crossedHistory.drop 5) [] true false rfl rfl rfl
  exact ⟨crossedHistory.take 2, _, [], _, crossedHistory.drop 4, rfl, ⟨rfl, rfl⟩, rfl, rfl⟩

end Crossed

end S2s
