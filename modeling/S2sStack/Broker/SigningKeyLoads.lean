import S2sStack.Broker.SigningKeyRotation

set_option autoImplicit false

/- The loads of one signing key loader, from the fetch of the secret to the store of the key. -/
namespace S2s

open Effect Effect.Program

section Needs

variable (P : Platform) (S : SigningKeyLibrary P) (settings : SigningSettings)

/-- The text of the secret that a load goes on with. -/
def TextRead (before : List BrokerEvent) (pem : String) : Prop :=
  ⟨.getSecretValue, .ok (some pem)⟩ ∈ before ∨
    (∀ reply, ⟨.getSecretValue, reply⟩ ∉ before) ∧
      ∃ entry : CachedSecret, ⟨.readSecret, some entry⟩ ∈ before ∧ entry.value = pem

/-- What the writes of a load come after. -/
def LoadNeeds (before : List BrokerEvent) : BrokerEvent → Prop
  | ⟨.writeSecret (some entry), _⟩ => ⟨.getSecretValue, .ok (some entry.value)⟩ ∈ before
  | ⟨.writeKey (some key), _⟩ => ⟨.now, key.loadedAtMs⟩ ∈ before ∧
      ∃ pem, TextRead before pem ∧ importSigningKey P S pem = .ok key.toLoadedSigningKey
  | _ => True

/-- How a `get` comes to its key: the loader has it, or a load has just stored it. -/
inductive KeyReturned (trace : List BrokerEvent) (loaded : LoadedSigningKey) : Prop
  | hit (cached : CachedSigningKey) (nowMs : Millis) :
      trace = [⟨.readKey, some cached⟩, ⟨.now, nowMs⟩] →
      ((nowMs : Int) - (cached.loadedAtMs : Nat) : Rat) < settings.keyTtlMs →
      cached.toLoadedSigningKey = loaded → KeyReturned trace loaded
  | stored (front : List BrokerEvent) (cached : CachedSigningKey) :
      trace = front ++ [⟨.writeKey (some cached), ()⟩] →
      cached.toLoadedSigningKey = loaded → KeyReturned trace loaded

variable {P S settings} {past : List BrokerEvent} {pem : String}

theorem TextRead.append {event : BrokerEvent} (other : ∀ reply, event ≠ ⟨.getSecretValue, reply⟩)
    (read : TextRead past pem) : TextRead (past ++ [event]) pem := by
  obtain fetched | ⟨clean, entry, cached, same⟩ := read
  · exact .inl (List.mem_append_left _ fetched)
  · refine .inr ⟨?_, entry, List.mem_append_left _ cached, same⟩
    intro reply member
    obtain before | last := List.mem_append.mp member
    · exact clean reply before
    · exact other reply (List.mem_singleton.mp last).symm

/-- Nothing has been fetched yet. -/
def Unfetched (trace : List BrokerEvent) : Prop := ∀ reply, ⟨.getSecretValue, reply⟩ ∉ trace

theorem Unfetched.append {event : BrokerEvent} (other : ∀ reply, event ≠ ⟨.getSecretValue, reply⟩)
    (clean : Unfetched past) : Unfetched (past ++ [event]) := by
  intro reply member
  obtain before | last := List.mem_append.mp member
  · exact clean reply before
  · exact other reply (List.mem_singleton.mp last).symm

theorem fetchSecret_provides (secretArn : String) (nowMs : Millis) :
    Provides (LoadNeeds P S) past (fetchSecret secretArn nowMs) TextRead := by
  have fetched : Provides (LoadNeeds P S) past Broker.getSecretValue
      (fun trace value => ⟨.getSecretValue, .ok value⟩ ∈ trace) := by
    apply Provides.command (fun _ => trivial)
    intro reply value replied
    rw [show reply = .ok value from replied]
    simp
  apply fetched.bind
  intro trace value member
  cases given : value.filter (· ≠ "") with
  | none => exact Provides.done fun _ impossible => by cases impossible
  | some text =>
      obtain ⟨rfl, -⟩ := Option.filter_eq_some_iff.mp given
      have stored : Provides (LoadNeeds P S) (past ++ trace)
          (Broker.writeSecret (some { value := text, fetchedAt := nowMs }))
          (fun trace _ => ⟨.getSecretValue, .ok (some text)⟩ ∈ trace) :=
        Provides.command (fun _ => member) fun _ _ _ => List.mem_append_left _ member
      apply stored.bind
      intro trace _ member
      apply Provides.done
      intro value returned
      cases returned
      exact .inl member

theorem getClientSecret_provides (clean : Unfetched past) (secretArn : String) :
    Provides (LoadNeeds P S) past (getClientSecret secretArn) TextRead := by
  have clock : Provides (LoadNeeds P S) past Broker.now (fun trace _ => Unfetched trace) :=
    Provides.command (fun _ => trivial) fun _ _ _ => clean.append (by simp)
  apply clock.bind
  intro trace nowMs clean
  have looked : Provides (LoadNeeds P S) (past ++ trace) Broker.readSecret
      (fun trace entry => Unfetched trace ∧ ⟨.readSecret, entry⟩ ∈ trace) := by
    apply Provides.command (fun _ => trivial)
    intro reply value replied
    cases replied
    exact ⟨clean.append (by simp), by simp⟩
  apply looked.bind
  intro trace entry ⟨clean, member⟩
  cases entry with
  | none => exact fetchSecret_provides secretArn nowMs
  | some found =>
      by_cases live : (nowMs : Int) - (found.fetchedAt : Nat) < secretTtlMs
      · simp only [live, ↓reduceIte]
        apply Provides.done
        intro value returned
        cases returned
        exact .inr ⟨clean, found, member, rfl⟩
      · simp only [live, ↓reduceIte]
        exact fetchSecret_provides secretArn nowMs

theorem refreshKey_provides (clean : Unfetched past) :
    Provides (LoadNeeds P S) past (refreshKey P S settings)
      (fun trace loaded => KeyReturned settings trace loaded) := by
  apply (getClientSecret_provides clean settings.secretArn).bind
  intro trace pem read
  have imported : Provides (LoadNeeds P S) (past ++ trace)
      (Program.ofExcept (importSigningKey P S pem))
      (fun trace loaded => TextRead trace pem ∧ importSigningKey P S pem = .ok loaded) := by
    apply Provides.done
    intro loaded passed
    exact ⟨read, passed⟩
  apply imported.bind
  intro more loaded ⟨read, passed⟩
  have clock : Provides (LoadNeeds P S) ((past ++ trace) ++ more) Broker.now
      (fun trace nowMs => TextRead trace pem ∧ ⟨.now, nowMs⟩ ∈ trace) := by
    apply Provides.command (fun _ => trivial)
    intro reply value replied
    cases replied
    exact ⟨read.append (by simp), by simp⟩
  apply clock.bind
  intro ticks nowMs ⟨read, clock⟩
  have stored : Provides (LoadNeeds P S) (((past ++ trace) ++ more) ++ ticks)
      (Broker.writeKey (some { loaded with loadedAtMs := nowMs }))
      (fun trace _ => KeyReturned settings trace loaded) := by
    apply Provides.command (fun _ => ⟨clock, pem, read, passed⟩)
    intro _ _ _
    exact .stored _ { loaded with loadedAtMs := nowMs } rfl rfl
  apply stored.bind
  intro _ _ returned
  apply Provides.done
  intro value same
  cases same
  exact returned

theorem getSigningKey_provides :
    Provides (LoadNeeds P S) [] (getSigningKey P S settings)
      (fun trace loaded => KeyReturned settings trace loaded) := by
  have looked : Provides (LoadNeeds P S) [] Broker.readKey
      (fun trace cached => trace = [⟨.readKey, cached⟩]) := by
    apply Provides.command (fun _ => trivial)
    intro reply value replied
    cases replied
    rfl
  apply looked.bind
  intro trace cached shape
  have clean : Unfetched ([] ++ trace) := by
    rw [shape]
    simp [Unfetched]
  cases cached with
  | none => exact refreshKey_provides clean
  | some key =>
      have clock : Provides (LoadNeeds P S) ([] ++ trace) Broker.now
          (fun trace nowMs => trace = [⟨.readKey, some key⟩, ⟨.now, nowMs⟩]) := by
        apply Provides.command (fun _ => trivial)
        intro reply value replied
        cases replied
        rw [shape]
        rfl
      apply clock.bind
      intro ticks nowMs shape
      have clean : Unfetched (([] ++ trace) ++ ticks) := by
        rw [shape]
        simp [Unfetched]
      split
      · next fresh =>
          apply Provides.done
          intro value returned
          cases returned
          exact .hit key nowMs shape fresh rfl
      · exact refreshKey_provides clean

theorem invalidateKey_provides :
    Provides (LoadNeeds P S) [] invalidateKey (fun _ _ => True) := by
  have dropped : Provides (LoadNeeds P S) [] (Broker.writeKey none) (fun _ _ => True) :=
    Provides.command (fun _ => trivial) fun _ _ _ => trivial
  apply dropped.bind
  intro trace _ _
  exact Provides.command (fun _ => trivial) fun _ _ _ => trivial

end Needs

/-- A call of the loader, or a rotation of its secret. -/
inductive LoaderCall where
  | get
  | invalidate
  | rotation (value : String)

def LoaderCall.Performs (P : Platform) (S : SigningKeyLibrary P) (settings : SigningSettings) :
    LoaderCall → List BrokerEvent → Prop
  | get, trace => Program.Performs (getSigningKey P S settings) trace
  | invalidate, trace => Program.Performs invalidateKey trace
  | rotation value, trace => Program.Performs (Broker.putSecretValue value) trace

/-- Any interleaving of calls of one loader with rotations of its secret. -/
structure SigningKeyRun (P : Platform) (S : SigningKeyLibrary P) (settings : SigningSettings)
    (Thread : Type) [DecidableEq Thread] where
  call : Thread → LoaderCall
  initial : String
  history : History brokerReplica Thread
  performs : ∀ thread, (call thread).Performs P S settings (history.trace thread)
  ordered : history.Ordered
  clock : ∀ step ∈ history, ∀ moment, step.event = ⟨.now, moment⟩ → moment = step.time
  replies : ∀ before step after, history = before ++ step :: after →
    BrokerReplies (cacheOf writtenKey (fun _ => ()) () before)
      (cacheOf writtenSecret (fun _ => ()) () before) (secretAfter initial before) step.event
  /-- `invalidate` is synchronous. -/
  unbroken : ∀ before step after, history = before ++ step :: after →
    step.event = ⟨.writeSecret none, ()⟩ →
    ∃ front clearing, before = front ++ [clearing] ∧ clearing.event = ⟨.writeKey none, ()⟩

namespace SigningKeyRun

variable {P : Platform} {S : SigningKeyLibrary P} {settings : SigningSettings} {Thread : Type}
  [DecidableEq Thread]

/-- How the text of the secret gets from its fetch to the thread that stores the key: the thread
has fetched it, or it has been in the secret cache in between. -/
inductive Route (fetch store : Step brokerReplica Thread) (pem : String) :
    History brokerReplica Thread → Prop
  | own (gap : History brokerReplica Thread) : fetch.thread = store.thread →
      Route fetch store pem gap
  | cached (first : History brokerReplica Thread) (filling : Step brokerReplica Thread)
      (middle : History brokerReplica Thread) (reading : Step brokerReplica Thread)
      (last : History brokerReplica Thread) (entry : CachedSecret) :
      filling.thread = fetch.thread → filling.event = ⟨.writeSecret (some entry), ()⟩ →
      (∀ step ∈ middle, writtenSecret step.event = none) →
      reading.thread = store.thread → reading.event = ⟨.readSecret, some entry⟩ →
      entry.value = pem → Unfetched (History.trace last store.thread) →
      Route fetch store pem (first ++ filling :: (middle ++ reading :: last))

/-- A load: the fetch, the store of the key, and what has been performed in between. -/
structure KeyLoad (run : SigningKeyRun P S settings Thread) where
  past : History brokerReplica Thread
  fetch : Step brokerReplica Thread
  gap : History brokerReplica Thread
  store : Step brokerReplica Thread
  rest : History brokerReplica Thread
  split : run.history = past ++ fetch :: (gap ++ store :: rest)
  pem : String
  cached : CachedSigningKey
  fetched : fetch.event = ⟨.getSecretValue, .ok (some pem)⟩
  stored : store.event = ⟨.writeKey (some cached), ()⟩
  imported : importSigningKey P S pem = .ok cached.toLoadedSigningKey
  loadedAt : cached.loadedAtMs ≤ store.time
  route : Route fetch store pem gap

variable {run : SigningKeyRun P S settings Thread} {before after : History brokerReplica Thread}
  {step : Step brokerReplica Thread}

omit [DecidableEq Thread] in
/-- The last write to a cache of the loader. -/
theorem last_write {Value : Type} {written : BrokerEvent → Option (Option Value)} {value : Value}
    (found : cacheOf written (fun _ => ()) () before = some value) :
    ∃ early step late, before = early ++ step :: late ∧
      written step.event = some (some value) ∧ ∀ other ∈ late, written other.event = none := by
  have writes : ¬ ∀ entry ∈ before,
      (if (fun _ : Thread => ()) entry.thread = () then written entry.event else none) = none := by
    intro quiet
    rw [cacheOf, held_of_quiet quiet] at found
    cases found
  obtain ⟨early, step, late, parts, wrote, quiet⟩ := held_last_write found writes
  exact ⟨early, step, late, parts, wrote, quiet⟩

theorem needs (split : run.history = before ++ step :: after) :
    LoadNeeds P S (History.trace before step.thread) step.event := by
  apply History.needs_of_preceded _ split
  have performs := run.performs step.thread
  cases called : run.call step.thread with
  | get =>
      rw [called] at performs
      exact getSigningKey_provides.preceded performs
  | invalidate =>
      rw [called] at performs
      exact invalidateKey_provides.preceded performs
  | rotation value =>
      rw [called] at performs
      have rotated : Provides (LoadNeeds P S) [] (Broker.putSecretValue value) (fun _ _ => True) :=
        Provides.command (fun _ => trivial) fun _ _ _ => trivial
      exact rotated.preceded performs

/-- A text that a thread has read was fetched, and got to the thread. -/
theorem exists_fetch {pem : String} (split : run.history = before ++ step :: after)
    (read : TextRead (History.trace before step.thread) pem) :
    ∃ past fetch gap, before = past ++ fetch :: gap ∧
      fetch.event = ⟨.getSecretValue, .ok (some pem)⟩ ∧ Route fetch step pem gap := by
  obtain fetched | ⟨clean, entry, looked, rfl⟩ := read
  · obtain ⟨fetch, member, own, event⟩ := History.mem_trace.mp fetched
    obtain ⟨past, gap, parts⟩ := List.append_of_mem member
    exact ⟨past, fetch, gap, parts, event, .own gap own⟩
  · obtain ⟨reading, member, own, event⟩ := History.mem_trace.mp looked
    obtain ⟨early, last, parts⟩ := List.append_of_mem member
    have readSplit : run.history = early ++ reading :: (last ++ step :: after) := by
      simp [split, parts]
    have replied := run.replies _ _ _ readSplit
    rw [event] at replied
    obtain ⟨front, filling, middle, rfl, wrote, quiet⟩ := last_write replied.symm
    have filled := writtenSecret_some wrote
    -- what fills the secret cache has been fetched by the thread that fills it
    have fillSplit : run.history =
        front ++ filling :: (middle ++ reading :: (last ++ step :: after)) := by
      simp [readSplit]
    have fillNeeds := needs fillSplit
    rw [filled] at fillNeeds
    obtain ⟨fetch, inFront, byFiller, fetched⟩ := History.mem_trace.mp fillNeeds
    obtain ⟨past, first, rfl⟩ := List.append_of_mem inFront
    have unfetched : Unfetched (History.trace last step.thread) := by
      intro reply again
      apply clean reply
      rw [parts, History.trace_append, History.trace_cons, if_pos own]
      exact List.mem_append_right _ (List.mem_cons_of_mem _ again)
    refine ⟨past, fetch, first ++ filling :: (middle ++ reading :: last), by simp [parts], fetched,
      ?_⟩
    exact .cached first filling middle reading last entry byFiller.symm filled quiet own event rfl
      unfetched

/-- Every key that is stored has been loaded. -/
theorem exists_load {cached : CachedSigningKey} (split : run.history = before ++ step :: after)
    (stored : step.event = ⟨.writeKey (some cached), ()⟩) :
    ∃ load : run.KeyLoad, load.store = step ∧ load.rest = after ∧ load.cached = cached ∧
      before = load.past ++ load.fetch :: load.gap := by
  have needed := needs split
  rw [stored] at needed
  obtain ⟨clock, pem, read, imported⟩ := needed
  obtain ⟨past, fetch, gap, parts, fetched, route⟩ := exists_fetch split read
  exact ⟨{
    past := past
    fetch := fetch
    gap := gap
    store := step
    rest := after
    split := by simp [split, parts]
    pem := pem
    cached := cached
    fetched := fetched
    stored := stored
    imported := imported
    loadedAt := run.ordered.reading_le run.clock split clock
    route := route }, rfl, rfl, rfl, parts⟩

end SigningKeyRun

end S2s
