import S2sStack.Dpop.KeyOverlap

set_option autoImplicit false

/- Rotations in turn, with two hours between them: what the overlap window is for. -/
namespace S2s

open Effect Effect.Program

namespace KeyManager

def installed : KeyEvent → Option (Option ManagedKey)
  | ⟨.install key, _⟩ => some (some key)
  | _ => none

theorem next_current (manager : KeyManager) (nowMs : Millis) (event : KeyEvent) :
    (manager.next nowMs event).current = (installed event).getD manager.current := by
  obtain ⟨op, reply⟩ := event
  cases op with
  | retire => cases current : manager.current <;> simp [next, installed, current]
  | generate => rfl
  | install key => rfl
  | getActiveKeys => exact activeKeys_current manager nowMs

theorem RotateRun.before_install {trace first second : List KeyEvent} {key : ManagedKey}
    {outcome : Except Fault Unit} (run : RotateRun trace outcome)
    (split : trace = first ++ ⟨.install key, ()⟩ :: second) :
    first = [⟨.retire, .ok ()⟩, ⟨.generate, .ok key⟩] := by
  cases run <;> rcases first with _ | ⟨one, _ | ⟨two, _ | ⟨three, more⟩⟩⟩ <;> simp at split
  obtain ⟨rfl, rfl, rfl, -⟩ := split
  rfl

/-- A read keeps `_previous` or gives it up. -/
theorem activeKeys_previous {manager : KeyManager} {nowMs : Millis} {previous : ManagedKey}
    (kept : (manager.activeKeys nowMs).2.previous = some previous) :
    manager.previous = some previous := by
  unfold activeKeys at kept
  repeat' split at kept
  all_goals simp_all

theorem activeKeys_within {manager : KeyManager} {nowMs retiredAtMs : Millis}
    {previous : ManagedKey} (held : manager.previous = some previous)
    (retired : previous.retiredAtMs = some retiredAtMs) (within : nowMs < retiredAtMs + overlapMs) :
    manager.activeKeys nowMs =
      ((manager.current.map ManagedKey.view).toList ++ [previous.view], manager) := by
  have young : (nowMs : Int) - (retiredAtMs : Nat) < overlapMs := by
    have integral : (nowMs : Int) < (retiredAtMs : Nat) + (overlapMs : Nat) := by exact_mod_cast within
    omega
  simp [activeKeys, held, retired, young]

/-- The keys that are active are the current one and, at most, the one before it. -/
theorem activeKeys_shape (manager : KeyManager) (nowMs : Millis) :
    (manager.activeKeys nowMs).1 = (manager.current.map ManagedKey.view).toList ∨
      ∃ previous, manager.previous = some previous ∧ (manager.activeKeys nowMs).1 =
        (manager.current.map ManagedKey.view).toList ++ [previous.view] := by
  cases held : manager.previous with
  | none => simp [activeKeys, held]
  | some previous =>
      cases retired : previous.retiredAtMs with
      | none => simp [activeKeys, held, retired]
      | some retiredAtMs =>
          by_cases young : (nowMs : Int) - (retiredAtMs : Nat) < overlapMs
          · exact .inr ⟨previous, rfl, by simp [activeKeys, held, retired, young]⟩
          · exact .inl (by simp [activeKeys, held, retired, young])

/-- `_previous` is kept, unless the current key is put there. -/
theorem next_previous {manager : KeyManager} {nowMs : Millis} {event : KeyEvent}
    {previous : ManagedKey} (replied : manager.Replies nowMs event)
    (found : (manager.next nowMs event).previous = some previous) :
    (manager.previous = some previous ∧ event ≠ ⟨.retire, .ok ()⟩) ∨
      event = ⟨.retire, .ok ()⟩ ∧ ∃ key, manager.current = some key ∧
        previous = { key with retiredAtMs := some nowMs } := by
  obtain ⟨op, reply⟩ := event
  cases op with
  | retire =>
      cases current : manager.current with
      | none =>
          rw [Replies, current] at replied
          simp only [next, current] at found
          exact .inl ⟨found, by rw [show reply = _ from replied]; simp⟩
      | some key =>
          rw [Replies, current] at replied
          simp only [next, current, Option.some.injEq] at found
          exact .inr ⟨by rw [show reply = _ from replied]; rfl, key, rfl, found.symm⟩
  | generate => exact .inl ⟨found, by simp⟩
  | install key => exact .inl ⟨found, by simp⟩
  | getActiveKeys => exact .inl ⟨activeKeys_previous found, by simp⟩

end KeyManager

namespace KeyRun

variable {Thread : Type} [DecidableEq Thread] (run : KeyRun Thread)

def Retires (step : Step keyManaging Thread) : Prop := step.event = ⟨.retire, .ok ()⟩

def Installs (thread : Thread) (step : Step keyManaging Thread) : Prop :=
  step.thread = thread ∧ ∃ key, step.event = ⟨.install key, ()⟩

/-- No rotation assigns a key between two assignments of another; they begin two hours apart; and
every key is new. -/
structure InTurn : Prop where
  exclusive : ∀ before one middle other after,
    run.history = before ++ one :: (middle ++ other :: after) → Retires one →
    (∀ step ∈ middle, ¬ Installs one.thread step) → Retires other ∨ Installs other.thread other →
    other.thread = one.thread
  apart : ∀ before one middle other after,
    run.history = before ++ one :: (middle ++ other :: after) → Retires one → Retires other →
    one.time + overlapMs ≤ other.time
  fresh : ∀ before step after key, run.history = before ++ step :: after →
    step.event = ⟨.install key, ()⟩ → ∀ old, run.initial = some old ∨
      (∃ earlier ∈ before, earlier.event = ⟨.install old, ()⟩) → old.thumbprint ≠ key.thumbprint

/-- No rotation is under way. -/
def Settled (past : History keyManaging Thread) : Prop :=
  ∀ before step after, past = before ++ step :: after → Retires step →
    ∃ install ∈ after, Installs step.thread install

variable {run}

theorem current_eq (past : History keyManaging Thread) : (run.manager past).current =
    held (fun step => KeyManager.installed step.event) run.initial past := by
  induction past using List.reverseRecOn with
  | nil => rfl
  | append_singleton before step ih =>
      rw [manager_concat, KeyManager.next_current, held_append, ih]
      rfl

omit [DecidableEq Thread] in
theorem installed_some {step : Step keyManaging Thread} {stored : Option ManagedKey}
    (writes : KeyManager.installed step.event = some stored) :
    ∃ key, step.event = ⟨.install key, ()⟩ ∧ stored = some key := by
  obtain ⟨thread, time, op, reply⟩ := step
  cases op with
  | install key =>
      cases writes
      exact ⟨key, rfl, rfl⟩
  | _ => cases writes

/-- The current key is the first one, or was installed. -/
theorem current_source {past : History keyManaging Thread} {key : ManagedKey}
    (current : (run.manager past).current = some key) :
    run.initial = some key ∨ ∃ earlier ∈ past, earlier.event = ⟨.install key, ()⟩ := by
  rw [current_eq] at current
  obtain ⟨initial, -⟩ | ⟨step, inside, writes⟩ := held_written current
  · exact .inl initial
  · obtain ⟨stored, installs, same⟩ := installed_some writes
    cases same
    exact .inr ⟨step, inside, installs⟩

/-- Where `_previous` comes from: the last rotation has put the current key there. -/
theorem previous_source {past rest : History keyManaging Thread} {previous : ManagedKey}
    (split : run.history = past ++ rest) (found : (run.manager past).previous = some previous) :
    ∃ before step after key, past = before ++ step :: after ∧ Retires step ∧
      (∀ other ∈ after, ¬ Retires other) ∧ (run.manager before).current = some key ∧
      previous = { key with retiredAtMs := some step.time } := by
  induction past using List.reverseRecOn generalizing rest with
  | nil => cases found
  | append_singleton front last ih =>
      have whole : run.history = front ++ last :: rest := by simp [split]
      have replied := run.replies front last rest whole
      change (run.manager front).Replies last.time last.event at replied
      rw [manager_concat] at found
      obtain ⟨kept, other⟩ | ⟨retires, key, current, same⟩ := KeyManager.next_previous replied found
      · obtain ⟨before, step, after, key, rfl, retires, quiet, current, same⟩ := ih whole kept
        refine ⟨before, step, after ++ [last], key, by simp, retires, ?_, current, same⟩
        intro later member
        obtain early | late := List.mem_append.mp member
        · exact quiet later early
        · rw [List.mem_singleton.mp late]
          exact other
      · exact ⟨front, last, [], key, rfl, retires, by simp, current, same⟩

/-- Behind the last rotation `_previous` is kept for two hours. -/
theorem previous_kept {before after rest : History keyManaging Thread}
    {step : Step keyManaging Thread} {key : ManagedKey}
    (split : run.history = before ++ step :: (after ++ rest)) (retires : Retires step)
    (current : (run.manager before).current = some key) (quiet : ∀ other ∈ after, ¬ Retires other)
    (early : ∀ other ∈ after, other.time < step.time + overlapMs) :
    (run.manager (before ++ step :: after)).previous =
      some { key with retiredAtMs := some step.time } := by
  induction after using List.reverseRecOn generalizing rest with
  | nil =>
      rw [manager_concat, retires]
      simp [KeyManager.next, current]
  | append_singleton front last ih =>
      have parts : run.history = before ++ step :: (front ++ ([last] ++ rest)) := by simp [split]
      have held := ih parts (fun other member => quiet other (List.mem_append_left _ member))
        fun other member => early other (List.mem_append_left _ member)
      have whole : run.history = (before ++ step :: front) ++ last :: rest := by simp [split]
      have replied := run.replies _ _ _ whole
      change (run.manager (before ++ step :: front)).Replies last.time last.event at replied
      have unretired := quiet last (by simp)
      have inTime := early last (by simp)
      rw [show before ++ step :: (front ++ [last]) = (before ++ step :: front) ++ [last] by simp,
        manager_concat]
      obtain ⟨thread, time, op, reply⟩ := last
      cases op with
      | retire =>
          cases now : (run.manager (before ++ step :: front)).current with
          | none => simpa [KeyManager.next, now] using held
          | some other =>
              rw [KeyManager.Replies, now] at replied
              exact absurd (by rw [Retires, show reply = _ from replied]; rfl) unretired
      | generate => exact held
      | install key => exact held
      | getActiveKeys =>
          have same := KeyManager.activeKeys_within held rfl inTime
          simpa [KeyManager.next, same] using held

/-- A rotation installs a key right after it has generated it. -/
theorem trace_before_install {before after : History keyManaging Thread}
    {step : Step keyManaging Thread} {key : ManagedKey}
    (split : run.history = before ++ step :: after) (installs : step.event = ⟨.install key, ()⟩) :
    History.trace before step.thread = [⟨.retire, .ok ()⟩, ⟨.generate, .ok key⟩] := by
  have whole : run.history.trace step.thread = History.trace before step.thread ++
      ⟨.install key, ()⟩ :: History.trace after step.thread := by
    rw [split, History.trace_append, History.trace_cons, if_pos rfl, installs]
  have performs := run.performs step.thread
  rw [whole] at performs
  cases called : run.call step.thread with
  | rotate =>
      rw [called] at performs
      obtain ⟨more, outcome, ran⟩ := performs
      rw [List.append_assoc, List.cons_append] at ran
      exact (KeyManager.rotateKey_run ran).before_install rfl
  | read =>
      rw [called] at performs
      obtain ⟨more, outcome, ran⟩ := performs
      obtain ⟨reply, same, -⟩ := runs_command_iff.mp ran
      simp [List.append_eq_cons_iff] at same

/-- Between the assignments of a rotation there is none of another. -/
theorem InTurn.quiet_between (inTurn : run.InTurn)
    {before middle after : History keyManaging Thread} {step install : Step keyManaging Thread}
    (split : run.history = before ++ step :: (middle ++ install :: after)) (retires : Retires step)
    (installs : Installs step.thread install) :
    ∀ other ∈ middle, ¬ (Retires other ∨ Installs other.thread other) := by
  obtain ⟨own, key, installs⟩ := installs
  have whole : run.history = (before ++ step :: middle) ++ install :: after := by simp [split]
  have generated : History.trace middle step.thread = [⟨.generate, .ok key⟩] := by
    have trace := trace_before_install whole installs
    rw [own, History.trace_append, History.trace_cons, if_pos rfl, retires] at trace
    cases early : History.trace before step.thread with
    | nil =>
        rw [early] at trace
        simpa using trace
    | cons first more =>
        rw [early] at trace
        cases more <;> simp at trace
  have ownNone : ∀ other ∈ middle, other.thread = step.thread →
      ¬ (Retires other ∨ Installs other.thread other) := by
    intro other inside same assigns
    have performed : other.event ∈ History.trace middle step.thread := by
      rw [← same]
      exact History.mem_trace_of_mem inside
    rw [generated, List.mem_singleton] at performed
    obtain retiring | ⟨-, fresh, installing⟩ := assigns
    · rw [Retires, performed] at retiring
      cases retiring
    · rw [performed] at installing
      cases installing
  intro other inside assigns
  obtain ⟨early, late, rfl⟩ := List.append_of_mem inside
  have parts : run.history = before ++ step :: (early ++ other :: (late ++ install :: after)) := by
    simp [split]
  refine ownNone other inside ?_ assigns
  apply inTurn.exclusive _ _ _ _ _ parts retires _ assigns
  intro earlier member byOwn
  exact ownNone earlier (by simp [member]) byOwn.1 (.inr ⟨rfl, byOwn.2⟩)

/-- A key is active for two hours after the start of the rotation that replaces it. -/
theorem InTurn.overlaps (inTurn : run.InTurn) {past : History keyManaging Thread} {nowMs : Millis}
    (reaches : run.Reaches past nowMs) {before middle after : History keyManaging Thread}
    {step install : Step keyManaging Thread} {key : ManagedKey}
    (parts : past = before ++ step :: (middle ++ install :: after)) (retires : Retires step)
    (installs : Installs step.thread install)
    (replaced : (run.manager (before ++ step :: middle)).current = some key)
    (within : nowMs < step.time + overlapMs) : key.view ∈ run.activeKeys past nowMs := by
  obtain ⟨rest, split⟩ := reaches.part
  have whole : run.history = before ++ step :: (middle ++ install :: (after ++ rest)) := by
    simp [← split, parts]
  have between := inTurn.quiet_between whole retires installs
  have current : (run.manager before).current = some key := by
    rw [← replaced, current_eq, current_eq, held_append]
    symm
    apply held_of_quiet
    intro other member
    obtain rfl | inside := List.mem_cons.mp member
    · rw [retires]
      rfl
    · cases writes : KeyManager.installed other.event with
      | none => rfl
      | some stored =>
          obtain ⟨fresh, installing, -⟩ := installed_some writes
          exact absurd (.inr ⟨rfl, fresh, installing⟩) (between other inside)
  have early : ∀ other ∈ past, other.time < step.time + overlapMs := fun other member =>
    Nat.lt_of_le_of_lt (reaches.since other member) within
  have quiet : ∀ other ∈ middle ++ install :: after, ¬ Retires other := by
    intro other member retiring
    obtain ⟨front, back, same⟩ := List.append_of_mem member
    have at_other : run.history = before ++ step :: (front ++ other :: (back ++ rest)) := by
      rw [← split, parts, same]
      simp
    have late := inTurn.apart _ _ _ _ _ at_other retires retiring
    have inPast : other ∈ past := by
      rw [parts]
      simp [member]
    exact absurd (early other inPast) (Nat.not_lt.mpr late)
  have atStep : run.history = before ++ step :: ((middle ++ install :: after) ++ rest) := by
    simp [whole]
  have previous := previous_kept atStep retires current quiet fun other member => early other (by
    rw [parts]
    simp [member])
  rw [activeKeys, parts, KeyManager.activeKeys_within previous rfl within]
  simp [ManagedKey.view]

/-- While no rotation is under way, no key is active twice. -/
theorem InTurn.distinct (inTurn : run.InTurn) {past rest : History keyManaging Thread}
    (split : run.history = past ++ rest) (settled : Settled past) (nowMs : Millis) :
    ((run.activeKeys past nowMs).map KeyView.thumbprint).Nodup := by
  obtain alone | ⟨previous, found, both⟩ := (run.manager past).activeKeys_shape nowMs
  · rw [activeKeys, alone]
    cases (run.manager past).current <;> simp
  · rw [activeKeys, both]
    obtain ⟨before, step, after, key, parts, retires, quiet, current, rfl⟩ :=
      previous_source split found
    obtain ⟨install, inside, -, fresh, installs⟩ := settled before step after parts retires
    have atStep : run.history = before ++ step :: (after ++ rest) := by simp [split, parts]
    have written : ¬ ∀ other ∈ after, KeyManager.installed other.event = none := by
      intro none
      have writes := none install inside
      rw [installs] at writes
      cases writes
    have later : (run.manager past).current =
        held (fun step => KeyManager.installed step.event)
          (run.manager (before ++ [step])).current after := by
      rw [current_eq, current_eq, parts, ← held_append]
      simp
    obtain ⟨early, last, late, same, writes, -⟩ := held_last_write later.symm written
    have atLast : run.history = (before ++ step :: early) ++ last :: (late ++ rest) := by
      simp [atStep, same]
    obtain ⟨newest, installing, now⟩ := installed_some writes
    have different : key.thumbprint ≠ newest.thumbprint := by
      apply inTurn.fresh _ _ _ _ atLast installing
      obtain initial | ⟨earlier, member, installs⟩ := run.current_source current
      · exact .inl initial
      · exact .inr ⟨earlier, by simp [member], installs⟩
    rw [now]
    simpa [ManagedKey.view] using different.symm

end KeyRun

end S2s
