import S2sStack.Broker.SigningKeyLoads
import Mathlib.Tactic.Linarith

set_option autoImplicit false

/- How old the key is that a loader gives out, beside rotations and invalidations. -/
namespace S2s

open Effect Effect.Program

namespace SigningKeyRun

variable {P : Platform} {S : SigningKeyLibrary P} {settings : SigningSettings} {Thread : Type}
  [DecidableEq Thread] (run : SigningKeyRun P S settings Thread)

/-- A call of `get` has returned this key with its last step. -/
structure ReturnsAt (key : LoadedSigningKey) (before : History brokerReplica Thread)
    (last : Step brokerReplica Thread) (after : History brokerReplica Thread) : Prop where
  split : run.history = before ++ last :: after
  finished : History.trace after last.thread = []
  called : run.call last.thread = .get
  returns : Runs (getSigningKey P S settings) (run.history.trace last.thread) (.ok key)

/-- The key was that of the secret at an instant before the end of the call, and no longer ago than
the lifetime of a key. -/
def HeldWithin (key : LoadedSigningKey) (before : History brokerReplica Thread)
    (last : Step brokerReplica Thread) : Prop :=
  ∃ instant next rest, run.history = instant ++ next :: rest ∧ instant <+: before ∧
    importSigningKey P S (secretAfter run.initial instant) = .ok key ∧
    (last.time : Rat) - settings.keyTtlMs ≤ next.time

/-- The key was that of the secret at an instant after these steps. -/
def HeldSince (key : LoadedSigningKey) (before since : History brokerReplica Thread) : Prop :=
  ∃ instant, instant <+: before ∧ since <+: instant ∧
    importSigningKey P S (secretAfter run.initial instant) = .ok key

/-- Every key that is returned is of the lifetime before, and of the time since the
invalidations that were over before the call. -/
def FreshKeys : Prop :=
  ∀ key before last after, run.ReturnsAt key before last after →
    run.HeldWithin key before last ∧
      ∀ earlier invalidation later, run.history = earlier ++ invalidation :: later →
        invalidation.event = ⟨.writeSecret none, ()⟩ →
        History.trace (earlier ++ [invalidation]) last.thread = [] →
        run.HeldSince key before (earlier ++ [invalidation])

variable {run}

/-- Where the key comes from that a call returns: the call has loaded it, or has found it as the
last one stored. -/
inductive Gives (load : run.KeyLoad) (last : Step brokerReplica Thread)
    (after : History brokerReplica Thread) : Prop
  | own : load.store = last → load.rest = after → Gives load last after
  | kept (middle : History brokerReplica Thread) (reading : Step brokerReplica Thread)
      (between : History brokerReplica Thread) :
      load.rest = middle ++ reading :: (between ++ last :: after) →
      (∀ step ∈ middle, writtenKey step.event = none) → reading.thread = last.thread →
      reading.event = ⟨.readKey, some load.cached⟩ → last.event.op = .now →
      Gives load last after

variable (run) in
/-- Wherever a key is returned, the rotations between its fetch and its store are no longer ago
than its lifetime; and where the load was under way during an invalidation that was over before
the call, no rotation came between the fetch and the invalidation. -/
structure Undisturbed : Prop where
  lifetime : 0 ≤ settings.keyTtlMs
  loads : ∀ key before last after, run.ReturnsAt key before last after →
    ∀ load : run.KeyLoad, Gives load last after → ∀ rotation ∈ load.gap,
    (rotatedTo rotation.event).isSome → (last.time : Rat) - settings.keyTtlMs ≤ rotation.time
  invalidations : ∀ key before last after, run.ReturnsAt key before last after →
    ∀ load : run.KeyLoad, Gives load last after → ∀ between invalidation later,
    load.gap = between ++ invalidation :: later →
    invalidation.event = ⟨.writeSecret none, ()⟩ →
    History.trace (load.past ++ load.fetch :: (between ++ [invalidation])) last.thread = [] →
    History.trace (later ++ load.store :: load.rest) load.fetch.thread ≠ [] ∨
      History.trace (load.past ++ load.fetch :: between) load.store.thread ≠ [] →
    ∀ step ∈ between, rotatedTo step.event = none

namespace KeyLoad

variable (load : run.KeyLoad)

theorem secret_at_fetch : secretAfter run.initial load.past = load.pem := by
  have replied := run.replies _ _ _ load.split
  rw [load.fetched] at replied
  exact (Option.some.inj replied).symm

/-- Until the next rotation the secret is the one that was fetched. -/
theorem secret_after {middle : History brokerReplica Thread}
    (quiet : ∀ step ∈ middle, rotatedTo step.event = none) :
    secretAfter run.initial (load.past ++ load.fetch :: middle) = load.pem := by
  rw [secretAfter, held_append, held_of_quiet]
  · exact load.secret_at_fetch
  · intro step member
    obtain rfl | inMiddle := List.mem_cons.mp member
    · rw [load.fetched]
      rfl
    · exact quiet step inMiddle

/-- An invalidation during a load finds a call of it under way, for it empties the secret cache. -/
theorem under_way {between later : History brokerReplica Thread}
    {invalidation : Step brokerReplica Thread}
    (during : load.gap = between ++ invalidation :: later)
    (clears : invalidation.event = ⟨.writeSecret none, ()⟩) :
    History.trace (later ++ load.store :: load.rest) load.fetch.thread ≠ [] ∨
      History.trace (load.past ++ load.fetch :: between) load.store.thread ≠ [] := by
  have route := load.route
  generalize load.gap = gap at during route
  cases route with
  | own gap same => exact .inr (History.trace_ne_nil (by simp) same)
  | cached first filling middle reading last entry filled fills quiet own reads same =>
      obtain ⟨more, rfl, parts⟩ | ⟨-, impossible, -⟩ | ⟨more, -, rfl⟩ :=
        History.compare_splits during
      · -- an entry that was there when the invalidation came was read before it
        obtain ⟨tail, rfl, -⟩ | ⟨-, impossible, -⟩ | ⟨tail, rfl, -⟩ := History.compare_splits parts
        · exact .inr (History.trace_ne_nil (by simp) own)
        · rw [impossible, clears] at reads
          cases reads
        · have silent := quiet invalidation (by simp)
          rw [clears] at silent
          cases silent
      · rw [impossible, clears] at fills
        cases fills
      · exact .inl (History.trace_ne_nil (by simp) filled)

/-- While the key is fresh, what follows its store is no longer ago than its lifetime. -/
theorem recent {kept later : History brokerReplica Thread} {nowMs : Millis}
    (split : load.rest = kept ++ later)
    (fresh : (nowMs : Rat) - load.cached.loadedAtMs < settings.keyTtlMs) :
    ∀ step ∈ kept, (nowMs : Rat) - settings.keyTtlMs ≤ step.time := by
  intro step member
  have storeSplit : run.history =
      (load.past ++ load.fetch :: load.gap) ++ load.store :: load.rest := by
    simp [load.split]
  have later : load.store.time ≤ step.time := by
    apply run.ordered.le_after storeSplit
    rw [split]
    exact List.mem_append_left _ member
  have loaded : (load.cached.loadedAtMs : Rat) ≤ step.time := by
    exact_mod_cast load.loadedAt.trans later
  linarith

end KeyLoad

/-- What is known of a key that is returned. -/
structure Returned (run : SigningKeyRun P S settings Thread) (key : LoadedSigningKey)
    (before : History brokerReplica Thread) (last : Step brokerReplica Thread)
    (after : History brokerReplica Thread) where
  load : run.KeyLoad
  gives : Gives load last after
  same : load.cached.toLoadedSigningKey = key
  /-- what has been performed between the store and the return -/
  kept : History brokerReplica Thread
  parts : before ++ [last] = load.past ++ load.fetch :: (load.gap ++ load.store :: kept)
  recent : ∀ step ∈ kept, (last.time : Rat) - settings.keyTtlMs ≤ step.time

variable {key : LoadedSigningKey} {before after : History brokerReplica Thread}
  {last : Step brokerReplica Thread}

theorem exists_returned (returned : run.ReturnsAt key before last after) :
    Nonempty (Returned run key before last after) := by
  have shape := (getSigningKey_provides _ _ returned.returns).2 key rfl
  rw [List.nil_append] at shape
  cases shape with
  | stored front cached whole same =>
      obtain ⟨-, stores⟩ := History.last_step returned.split rfl returned.finished whole
      obtain ⟨load, store, rest, sameCached, parts⟩ := exists_load returned.split stores
      exact ⟨{
        load := load
        gives := .own store rest
        same := by rw [sameCached, same]
        kept := []
        parts := by simp [parts, store]
        recent := by simp }⟩
  | hit cached nowMs whole fresh same =>
      have split : run.history.trace last.thread =
          [] ++ ⟨.readKey, some cached⟩ :: [⟨.now, nowMs⟩] := whole
      obtain ⟨early, reading, late, readSplit, own, reads, -, following⟩ :=
        History.split_of_trace split
      have ends : run.history.trace last.thread =
          [⟨.readKey, some cached⟩] ++ [⟨.now, nowMs⟩] := whole
      obtain ⟨-, ticks⟩ := History.last_step returned.split rfl returned.finished ends
      have replied := run.replies _ _ _ readSplit
      rw [reads] at replied
      obtain ⟨front, store, middle, rfl, wrote, quiet⟩ := last_write replied.symm
      have storeSplit : run.history = front ++ store :: (middle ++ reading :: late) := by
        simp [readSplit]
      obtain ⟨load, rfl, rest, sameCached, parts⟩ :=
        exists_load storeSplit (writtenKey_some wrote)
      -- the call goes on after it has found the key
      obtain ⟨more, rfl, rfl⟩ | ⟨-, impossible, -⟩ | ⟨more, -, rfl⟩ :=
        History.compare_splits (readSplit.symm.trans returned.split)
      · have moment : nowMs = last.time :=
          run.clock last (by simp [returned.split]) nowMs ticks
        refine ⟨{
          load := load
          gives := .kept middle reading more rest quiet own (by rw [reads, sameCached])
            (by rw [ticks])
          same := by rw [sameCached, same]
          kept := middle ++ reading :: (more ++ [last])
          parts := by simp [parts]
          recent := ?_ }⟩
        have kept : load.rest = (middle ++ reading :: (more ++ [last])) ++ after := by simp [rest]
        rw [moment, ← sameCached] at fresh
        exact load.recent kept (by exact_mod_cast fresh)
      · rw [impossible, ticks] at reads
        cases reads
      · exact absurd returned.finished (History.trace_ne_nil (by simp) own)

theorem Gives.not_rotation {load : run.KeyLoad} (gives : Gives load last after) :
    rotatedTo last.event = none := by
  cases gives with
  | own store _ =>
      rw [← store, load.stored]
      rfl
  | kept _ _ _ _ _ _ _ ticks =>
      generalize last.event = event at ticks
      obtain ⟨op, reply⟩ := event
      cases ticks
      rfl

/-- An invalidation empties the loader: a call that is given a key stored before it has started
before it. -/
theorem Gives.started {load : run.KeyLoad} (gives : Gives load last after)
    {more later : History brokerReplica Thread} {invalidation : Step brokerReplica Thread}
    (place : run.history = (load.past ++ load.fetch :: (load.gap ++ load.store :: more)) ++
      invalidation :: later)
    (during : load.rest = more ++ invalidation :: later)
    (clears : invalidation.event = ⟨.writeSecret none, ()⟩) :
    History.trace ((load.past ++ load.fetch :: (load.gap ++ load.store :: more)) ++ [invalidation])
      last.thread ≠ [] := by
  cases gives with
  | own store _ => exact History.trace_ne_nil (by simp [store]) rfl
  | kept middle reading _ rest quiet own reads _ =>
      obtain ⟨_, rfl, -⟩ | ⟨-, same, -⟩ | ⟨_, rfl, -⟩ :=
        History.compare_splits (rest.symm.trans during)
      · exact History.trace_ne_nil (by simp) own
      · rw [← same, reads] at clears
        cases clears
      · -- the invalidation comes between the store and the look at the key
        exfalso
        obtain ⟨front, clearing, parts, drops⟩ := run.unbroken _ _ _ place clears
        have ends : (load.past ++ load.fetch :: load.gap) ++ load.store :: more =
            front ++ [clearing] := by simpa using parts
        obtain rfl | inMore := List.mem_cons.mp (History.mem_of_concat ends)
        · rw [load.stored] at drops
          cases drops
        · have silent := quiet clearing (by simp [inMore])
          rw [drops] at silent
          cases silent

namespace Returned

variable (returned : Returned run key before last after)

include returned

theorem heldWithin (split : run.history = before ++ last :: after)
    (lifetime : 0 ≤ settings.keyTtlMs)
    (loads : ∀ rotation ∈ returned.load.gap, (rotatedTo rotation.event).isSome →
      (last.time : Rat) - settings.keyTtlMs ≤ rotation.time) :
    run.HeldWithin key before last := by
  have parts := returned.parts
  have imported := returned.load.imported
  rw [returned.same] at imported
  obtain quiet | ⟨early, rotation, late, log, rotates, quiet⟩ :=
    exists_first_write (fun step => rotatedTo step.event)
      (returned.load.gap ++ returned.load.store :: returned.kept)
  · refine ⟨before, last, after, split, List.prefix_refl _, ?_, by linarith⟩
    have whole : secretAfter run.initial (before ++ [last]) = returned.load.pem := by
      rw [parts, returned.load.secret_after quiet]
    rw [secretAfter, held_append, held_of_quiet] at whole
    · rw [secretAfter, whole, imported]
    · intro step member
      rw [List.mem_singleton.mp member]
      exact returned.gives.not_rotation
  · rw [log] at parts
    have whole : run.history = (before ++ [last]) ++ after := by simp [split]
    have until_rotation : before ++ [last] =
        (returned.load.past ++ returned.load.fetch :: early) ++ rotation :: late := by simp [parts]
    refine ⟨_, rotation, late ++ after, ?_, History.prefix_of_split until_rotation, ?_, ?_⟩
    · rw [whole, until_rotation]
      simp
    · rw [returned.load.secret_after quiet, imported]
    · have member : rotation ∈ returned.load.gap ++ returned.load.store :: returned.kept := by
        simp [log]
      obtain inGap | inRest := List.mem_append.mp member
      · exact loads rotation inGap rotates
      · obtain rfl | inKept := List.mem_cons.mp inRest
        · rw [returned.load.stored] at rotates
          cases rotates
        · exact returned.recent rotation inKept

theorem heldSince (split : run.history = before ++ last :: after)
    {earlier later : History brokerReplica Thread} {invalidation : Step brokerReplica Thread}
    (place : run.history = earlier ++ invalidation :: later)
    (clears : invalidation.event = ⟨.writeSecret none, ()⟩)
    (unstarted : History.trace (earlier ++ [invalidation]) last.thread = [])
    (invalidations : ∀ between later, returned.load.gap = between ++ invalidation :: later →
      History.trace (returned.load.past ++ returned.load.fetch :: (between ++ [invalidation]))
        last.thread = [] →
      ∀ step ∈ between, rotatedTo step.event = none) :
    run.HeldSince key before (earlier ++ [invalidation]) := by
  have imported := returned.load.imported
  rw [returned.same] at imported
  have absent : last ∉ earlier ++ [invalidation] := by
    intro member
    exact History.trace_ne_nil member rfl unstarted
  have finished : earlier ++ [invalidation] <+: before := by
    obtain ⟨more, rfl, -⟩ | ⟨-, same, -⟩ | ⟨more, rfl, -⟩ :=
      History.compare_splits (place.symm.trans split)
    · exact ⟨more, by simp⟩
    · exact absurd (by simp [same]) absent
    · exact absurd (by simp) absent
  obtain ⟨more, parts, -⟩ | ⟨-, same, -⟩ | ⟨between, rfl, rest⟩ :=
    History.compare_splits (place.symm.trans returned.load.split)
  · -- the secret was fetched after the invalidation
    refine ⟨returned.load.past, ?_, ⟨more, by simp [parts]⟩, ?_⟩
    · exact History.prefix_of_split returned.parts
    · rw [returned.load.secret_at_fetch, imported]
  · rw [same, returned.load.fetched] at clears
    cases clears
  · obtain ⟨more, rfl, during⟩ | ⟨-, same, -⟩ | ⟨more, gap, rfl⟩ := History.compare_splits rest
    · exact absurd unstarted (returned.gives.started place during clears)
    · rw [← same, returned.load.stored] at clears
      cases clears
    · refine ⟨_, finished, List.prefix_refl _, ?_⟩
      have started : History.trace
          (returned.load.past ++ returned.load.fetch :: (between ++ [invalidation]))
          last.thread = [] := by
        rw [← unstarted]
        simp
      have quiet := invalidations between more gap started
      rw [List.append_assoc, List.cons_append, returned.load.secret_after, imported]
      intro step member
      obtain inBetween | same := List.mem_append.mp member
      · exact quiet step inBetween
      · rw [List.mem_singleton.mp same, clears]
        rfl

end Returned

/-- A loader whose loads are undisturbed gives out fresh keys. -/
theorem freshKeys (undisturbed : run.Undisturbed) : run.FreshKeys := by
  intro key before last after returnsAt
  obtain ⟨returned⟩ := exists_returned returnsAt
  constructor
  · apply returned.heldWithin returnsAt.split undisturbed.lifetime
    exact undisturbed.loads key before last after returnsAt returned.load returned.gives
  · intro earlier invalidation later place clears unstarted
    apply returned.heldSince returnsAt.split place clears unstarted
    intro between more during started
    exact undisturbed.invalidations key before last after returnsAt returned.load returned.gives
      between invalidation more during clears started (returned.load.under_way during clears)

end SigningKeyRun

section LoadInFlight

inductive LoaderThread where
  | loading
  | rotating
  | clearing
  | asking
  deriving DecidableEq

def loaderCall : LoaderThread → LoaderCall
  | .loading => .get
  | .rotating => .rotation "-----BEGIN new"
  | .clearing => .invalidate
  | .asking => .get

def keptKey : CachedSigningKey := { signingKeyOf ⟨1⟩ with loadedAtMs := 1000 }

/-- A load up to the answer of the service, and the rest of it. -/
def fetchingTrace : List BrokerEvent :=
  [⟨.readKey, none⟩, ⟨.now, 1000⟩, ⟨.readSecret, none⟩,
    ⟨.getSecretValue, .ok (some "-----BEGIN old")⟩]

def storingTrace : List BrokerEvent :=
  [⟨.writeSecret (some ⟨"-----BEGIN old", 1000⟩), ()⟩, ⟨.now, 1000⟩,
    ⟨.writeKey (some keptKey), ()⟩]

def askingTrace : List BrokerEvent := [⟨.readKey, some keptKey⟩, ⟨.now, 1000⟩]

theorem loading_runs : Runs (getSigningKey replicaPlatform replicaLibrary replicaSettings)
    (fetchingTrace ++ storingTrace) (.ok (signingKeyOf ⟨1⟩)) := by
  have yields : Yields (startedReplica "-----BEGIN old" 1000) []
      (getSigningKey replicaPlatform replicaLibrary replicaSettings)
      (fetchingTrace ++ storingTrace) (.ok (signingKeyOf ⟨1⟩)) := rfl
  exact yields.runs

theorem asking_runs : Runs (getSigningKey replicaPlatform replicaLibrary replicaSettings)
    askingTrace (.ok (signingKeyOf ⟨1⟩)) := by
  rw [getSigningKey, Broker.readKey, runs_reply_bind_iff]
  refine ⟨some keptKey, _, rfl, ?_⟩
  change Runs (Program.bind Broker.now _) _ _
  apply runs_reply_bind_iff.mpr
  refine ⟨1000, [], rfl, ?_⟩
  rw [if_pos (by norm_num [keptKey, replicaSettings])]
  exact .done _

def rotateAndClear : History brokerReplica LoaderThread :=
  [⟨.rotating, 1000, ⟨.putSecretValue "-----BEGIN new", ()⟩⟩,
    ⟨.clearing, 1000, ⟨.writeKey none, ()⟩⟩, ⟨.clearing, 1000, ⟨.writeSecret none, ()⟩⟩]

/-- A load and a later call, with or without a rotation and an invalidation while the service
answers. -/
def loaderHistory (crossed : Bool) : History brokerReplica LoaderThread :=
  fetchingTrace.map (Step.mk .loading 1000) ++ ((if crossed then rotateAndClear else []) ++
    (storingTrace.map (Step.mk .loading 1000) ++ askingTrace.map (Step.mk .asking 1000)))

theorem loaderHistory_performs (crossed : Bool) (thread : LoaderThread) :
    (loaderCall thread).Performs replicaPlatform replicaLibrary replicaSettings
      ((loaderHistory crossed).trace thread) := by
  have loading : (loaderHistory crossed).trace .loading = fetchingTrace ++ storingTrace := by
    cases crossed <;> rfl
  have asking : (loaderHistory crossed).trace .asking = askingTrace := by
    cases crossed <;> rfl
  cases thread with
  | loading =>
      rw [loading]
      exact loading_runs.performs
  | asking =>
      rw [asking]
      exact asking_runs.performs
  | rotating =>
      cases crossed with
      | true => exact (exec_runs (startedReplica "" 0) (Broker.putSecretValue _) []).performs
      | false => exact ⟨_, _, exec_runs (startedReplica "" 0) (Broker.putSecretValue _) []⟩
  | clearing =>
      cases crossed with
      | true => exact (exec_runs (startedReplica "" 0) invalidateKey []).performs
      | false => exact ⟨_, _, exec_runs (startedReplica "" 0) invalidateKey []⟩

theorem loaderHistory_replies (crossed : Bool) : Along (fun before step =>
    BrokerReplies (cacheOf writtenKey (fun _ => ()) () before)
      (cacheOf writtenSecret (fun _ => ()) () before) (secretAfter "-----BEGIN old" before)
      step.event) [] (loaderHistory crossed) := by
  cases crossed with
  | true => exact ⟨rfl, trivial, rfl, rfl, trivial, trivial, trivial, trivial, trivial, trivial, rfl,
      trivial, trivial⟩
  | false => exact ⟨rfl, trivial, rfl, rfl, trivial, trivial, trivial, rfl, trivial, trivial⟩

theorem loaderHistory_unbroken (crossed : Bool) : Along (fun before step =>
    step.event = ⟨.writeSecret none, ()⟩ → ∃ front clearing, before = front ++ [clearing] ∧
      clearing.event = ⟨.writeKey none, ()⟩) [] (loaderHistory crossed) := by
  cases crossed with
  | true =>
      have place : ∃ front clearing, (loaderHistory true).take 6 = front ++ [clearing] ∧
          clearing.event = ⟨.writeKey none, ()⟩ :=
        ⟨(loaderHistory true).take 5, ⟨.clearing, 1000, ⟨.writeKey none, ()⟩⟩, rfl, rfl⟩
      simpa [Along, loaderHistory, rotateAndClear, fetchingTrace, storingTrace, askingTrace]
        using place
  | false => simp [Along, loaderHistory, fetchingTrace, storingTrace, askingTrace]

def loaderRun (crossed : Bool) :
    SigningKeyRun replicaPlatform replicaLibrary replicaSettings LoaderThread where
  call := loaderCall
  initial := "-----BEGIN old"
  history := loaderHistory crossed
  performs := loaderHistory_performs crossed
  ordered := by
    cases crossed <;> simp [History.Ordered, loaderHistory, rotateAndClear, fetchingTrace,
      storingTrace, askingTrace]
  clock := by
    cases crossed <;> simp [loaderHistory, rotateAndClear, fetchingTrace, storingTrace, askingTrace]
  replies _ _ _ split := (loaderHistory_replies crossed).at_split split
  unbroken _ _ _ split := (loaderHistory_unbroken crossed).at_split split

/-- Without a rotation nothing can disturb a load. -/
theorem loaderRun_fresh : (loaderRun false).FreshKeys := by
  apply SigningKeyRun.freshKeys
  have quiet : ∀ step ∈ loaderHistory false, rotatedTo step.event = none := by
    simp [loaderHistory, fetchingTrace, storingTrace, askingTrace, rotatedTo]
  have inGap (load : (loaderRun false).KeyLoad) {step : Step brokerReplica LoaderThread}
      (member : step ∈ load.gap) : step ∈ loaderHistory false := by
    have split : loaderHistory false = _ := load.split
    rw [split]
    simp [member]
  constructor
  · norm_num [replicaSettings]
  · intro _ _ _ _ _ load _ rotation member rotates
    rw [quiet rotation (inGap load member)] at rotates
    cases rotates
  · intro _ _ _ _ _ load _ between invalidation later during _ _ _ step member
    apply quiet
    apply inGap load
    simp [during, member]

/-- The key of a secret that was replaced before the invalidation is given out after it. -/
theorem loaderRun_crossed : ¬ ∀ (P : Platform) (S : SigningKeyLibrary P)
    (settings : SigningSettings) (run : SigningKeyRun P S settings LoaderThread),
    run.FreshKeys := by
  intro holds
  have returnsAt : (loaderRun true).ReturnsAt (signingKeyOf ⟨1⟩) ((loaderHistory true).take 11)
      ⟨.asking, 1000, ⟨.now, 1000⟩⟩ [] := ⟨rfl, rfl, rfl, asking_runs⟩
  obtain ⟨instant, ⟨rest, upTo⟩, ⟨since, sinceThen⟩, imported⟩ :=
    (holds _ _ _ (loaderRun true) _ _ _ _ returnsAt).2 ((loaderHistory true).take 6)
      ⟨.clearing, 1000, ⟨.writeSecret none, ()⟩⟩ ((loaderHistory true).drop 7) rfl rfl rfl
  have parts : since ++ rest = (storingTrace.map (Step.mk .loading 1000)) ++
      [⟨.asking, 1000, ⟨.readKey, some keptKey⟩⟩] := by
    rw [← sinceThen, List.append_assoc] at upTo
    exact List.append_cancel_left upTo
  have quiet : ∀ step ∈ since, rotatedTo step.event = none := by
    intro step member
    have inside : step ∈ since ++ rest := List.mem_append_left _ member
    rw [parts] at inside
    have none_rotates : ∀ other ∈ (storingTrace.map (Step.mk LoaderThread.loading 1000)) ++
        [⟨.asking, 1000, ⟨.readKey, some keptKey⟩⟩], rotatedTo other.event = none := by
      simp [storingTrace, rotatedTo]
    exact none_rotates step inside
  have secret : secretAfter "-----BEGIN old" instant = "-----BEGIN new" := by
    rw [← sinceThen, secretAfter, held_append, held_of_quiet quiet]
    rfl
  rw [show (loaderRun true).initial = "-----BEGIN old" from rfl, secret, newKey_imported] at imported
  cases imported

end LoadInFlight

end S2s
