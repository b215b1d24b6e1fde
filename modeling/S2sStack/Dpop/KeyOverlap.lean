import S2sStack.Dpop.KeyManager
import Mathlib.Data.List.Induction

set_option autoImplicit false

/- Rotations of the key of one process, with the keys that are active meanwhile. -/
namespace S2s

open Effect Effect.Program

inductive KeyCall where
  | rotate
  | read

def KeyCall.Performs : KeyCall → List KeyEvent → Prop
  | rotate, trace => Program.Performs KeyManager.rotateKey trace
  | read, trace => Program.Performs KeyManager.getActiveKeys trace

/-- Any interleaving of rotations and readings, after `initKeyPair` has left this key or has
failed. -/
structure KeyRun (Thread : Type) [DecidableEq Thread] where
  initial : Option ManagedKey
  call : Thread → KeyCall
  history : History keyManaging Thread
  performs : ∀ thread, (call thread).Performs (history.trace thread)
  ordered : history.Ordered
  replies : ∀ before step after, history = before ++ step :: after →
    (KeyManager.after ⟨initial, none⟩ (before.map fun step => (step.time, step.event))).Replies
      step.time step.event

namespace KeyRun

variable {Thread : Type} [DecidableEq Thread] (run : KeyRun Thread)

/-- The manager after these steps. -/
def manager (past : History keyManaging Thread) : KeyManager :=
  KeyManager.after ⟨run.initial, none⟩ (past.map fun step => (step.time, step.event))

/-- The keys that are active at this time after these steps. -/
def activeKeys (past : History keyManaging Thread) (nowMs : Millis) : List KeyView :=
  ((run.manager past).activeKeys nowMs).1

/-- The run reaches this part of its history, and this time. -/
structure Reaches (past : History keyManaging Thread) (nowMs : Millis) : Prop where
  part : past <+: run.history
  since : ∀ step ∈ past, step.time ≤ nowMs
  until_ : ∀ rest, run.history = past ++ rest → ∀ step ∈ rest, nowMs ≤ step.time

/-- A key that was replaced less than two hours ago is active. -/
def Overlaps : Prop :=
  ∀ past nowMs, run.Reaches past nowMs → ∀ before step after key fresh,
    past = before ++ step :: after → step.event = ⟨.install fresh, ()⟩ →
    (run.manager before).current = some key → nowMs < step.time + overlapMs →
    key.view ∈ run.activeKeys past nowMs

def Distinct : Prop :=
  ∀ past nowMs, run.Reaches past nowMs → ((run.activeKeys past nowMs).map KeyView.thumbprint).Nodup

/-- No step of a rotation that fails changes a key. -/
def FailuresKeep : Prop :=
  ∀ thread err, run.call thread = .rotate →
    Runs KeyManager.rotateKey (run.history.trace thread) (.error err) →
    ∀ before step after, run.history = before ++ step :: after → step.thread = thread →
      run.manager (before ++ [step]) = run.manager before

/-- There is no key to rotate, or no rotation. -/
def NeverRotates : Prop :=
  run.initial = none ∨ ∀ step ∈ run.history, step.event.op ≠ .retire

variable {run}

theorem manager_concat (past : History keyManaging Thread) (step : Step keyManaging Thread) :
    run.manager (past ++ [step]) = (run.manager past).next step.time step.event := by
  simp [manager, KeyManager.after]

theorem needs_met {before after : History keyManaging Thread} {step : Step keyManaging Thread}
    (split : run.history = before ++ step :: after) :
    KeyManager.InstallNeeds (History.trace before step.thread) step.event := by
  apply History.needs_of_preceded _ split
  have performs := run.performs step.thread
  cases called : run.call step.thread with
  | rotate =>
      rw [called] at performs
      exact KeyManager.rotateKey_provides.preceded performs
  | read =>
      rw [called] at performs
      exact KeyManager.getActiveKeys_provides.preceded performs

theorem retired_before {before after : History keyManaging Thread} {step : Step keyManaging Thread}
    {key : ManagedKey} (split : run.history = before ++ step :: after)
    (installs : step.event = ⟨.install key, ()⟩) :
    ∃ retiring ∈ before, retiring.event = ⟨.retire, .ok ()⟩ := by
  have needs := needs_met split
  rw [installs] at needs
  obtain ⟨retiring, inside, -, retires⟩ := History.mem_trace.mp needs
  exact ⟨retiring, inside, retires⟩

/-- With no rotation the manager stays as `initKeyPair` has left it. -/
theorem NeverRotates.manager_eq (never : run.NeverRotates) {past rest : History keyManaging Thread}
    (split : run.history = past ++ rest) : run.manager past = ⟨run.initial, none⟩ ∧
      ∀ step ∈ past, step.event ≠ ⟨.retire, .ok ()⟩ := by
  induction past using List.reverseRecOn generalizing rest with
  | nil => exact ⟨rfl, by simp⟩
  | append_singleton before step ih =>
      have whole : run.history = before ++ step :: rest := by simp [split]
      obtain ⟨same, quiet⟩ := ih whole
      have replied := run.replies before step rest whole
      change (run.manager before).Replies step.time step.event at replied
      rw [same] at replied
      have unretired : step.event ≠ ⟨.retire, .ok ()⟩ := by
        intro retires
        obtain absent | quietly := never
        · rw [retires, absent] at replied
          cases replied
        · exact quietly step (by simp [whole]) (by rw [retires])
      refine ⟨?_, ?_⟩
      · rw [manager_concat, same]
        obtain ⟨thread, time, op, reply⟩ := step
        cases op with
        | retire =>
            obtain absent | quietly := never
            · simp [KeyManager.next, absent]
            · exact absurd rfl (quietly ⟨thread, time, .retire, reply⟩ (by simp [whole]))
        | generate => rfl
        | install key =>
            obtain ⟨retiring, inside, retires⟩ := retired_before whole rfl
            exact absurd retires (quiet retiring inside)
        | getActiveKeys => rfl
      · intro other member
        obtain early | last := List.mem_append.mp member
        · exact quiet other early
        · rw [List.mem_singleton.mp last]
          exact unretired

/-- The initial key is never without a successor. -/
theorem current_isSome {key : ManagedKey} (initial : run.initial = some key)
    (past : History keyManaging Thread) : (run.manager past).current.isSome := by
  induction past using List.reverseRecOn with
  | nil => simp [manager, KeyManager.after, initial]
  | append_singleton before step ih =>
      rw [manager_concat]
      exact KeyManager.next_isSome ih

theorem Reaches.at_step {before after : History keyManaging Thread} {step : Step keyManaging Thread}
    (split : run.history = before ++ step :: after) :
    run.Reaches (before ++ [step]) step.time where
  part := ⟨after, by simp [split]⟩
  since := by
    intro other member
    obtain early | last := List.mem_append.mp member
    · exact run.ordered.before_le split early
    · cases List.mem_singleton.mp last
      exact Nat.le_refl _
  until_ := by
    intro rest parts other member
    have same : after = rest := by
      rw [split, List.append_assoc] at parts
      simpa using List.append_cancel_left parts
    subst same
    exact run.ordered.le_after split member

/-- A key that is just retired is active twice. -/
theorem Distinct.neverRotates (distinct : run.Distinct) : run.NeverRotates := by
  by_contra rotates
  obtain ⟨present, retires⟩ := not_or.mp rotates
  apply retires
  intro step inside retiring
  obtain ⟨before, after, split⟩ := List.append_of_mem inside
  obtain ⟨key, initial⟩ := Option.ne_none_iff_exists'.mp present
  obtain ⟨current, held⟩ := Option.isSome_iff_exists.mp (current_isSome initial before)
  have nodup := distinct _ _ (Reaches.at_step split)
  obtain ⟨thread, time, op, reply⟩ := step
  cases retiring
  simp [activeKeys, manager_concat, KeyManager.next, held, KeyManager.activeKeys, overlapMs,
    ManagedKey.view] at nodup

theorem NeverRotates.overlaps (never : run.NeverRotates) : run.Overlaps := by
  rintro past nowMs ⟨⟨rest, split⟩, -, -⟩ before step after key fresh parts installs
  have whole : run.history = before ++ step :: (after ++ rest) := by simp [← split, parts]
  obtain ⟨retiring, inside, retires⟩ := retired_before whole installs
  have unretired := (never.manager_eq split.symm).2 retiring (by simp [parts, inside])
  exact absurd retires unretired

theorem NeverRotates.distinct (never : run.NeverRotates) : run.Distinct := by
  rintro past nowMs ⟨⟨rest, split⟩, -, -⟩
  rw [activeKeys, (never.manager_eq split.symm).1]
  cases run.initial with
  | none => simp [KeyManager.activeKeys]
  | some key => simp [KeyManager.activeKeys]

theorem NeverRotates.failuresKeep (never : run.NeverRotates) : run.FailuresKeep := by
  intro thread err _ _ before step after split _
  have extended : run.history = (before ++ [step]) ++ after := by simp [split]
  rw [(never.manager_eq extended).1, (never.manager_eq split).1]

/-- The overlap window is kept in every reachable state exactly where no key is ever rotated: from
its first assignment on, a rotation shows the current key twice. -/
theorem window_iff (run : KeyRun Thread) :
    (run.Overlaps ∧ run.Distinct ∧ run.FailuresKeep) ↔ run.NeverRotates := by
  constructor
  · intro ⟨_, distinct, _⟩
    exact distinct.neverRotates
  · intro never
    exact ⟨never.overlaps, never.distinct, never.failuresKeep⟩

end KeyRun

section Hasty

/-- Three rotations of one process, of which the last one fails. -/
inductive Rotation where
  | first
  | second
  | third
  deriving DecidableEq

def hastyKey (thumbprint : String) (createdAtMs : Millis) : ManagedKey where
  publicJwk := []
  privateKey := ⟨0⟩
  thumbprint := thumbprint
  createdAtMs := createdAtMs
  retiredAtMs := none

def hastyHistory : History keyManaging Rotation :=
  [⟨.first, 1, ⟨.retire, .ok ()⟩⟩, ⟨.first, 2, ⟨.generate, .ok (hastyKey "k1" 2)⟩⟩,
    ⟨.first, 2, ⟨.install (hastyKey "k1" 2), ()⟩⟩, ⟨.second, 3, ⟨.retire, .ok ()⟩⟩,
    ⟨.second, 4, ⟨.generate, .ok (hastyKey "k2" 4)⟩⟩,
    ⟨.second, 4, ⟨.install (hastyKey "k2" 4), ()⟩⟩, ⟨.third, 5, ⟨.retire, .ok ()⟩⟩,
    ⟨.third, 6, ⟨.generate, .error (plainError "no entropy")⟩⟩]

def hastyOutcome : Rotation → Except Fault Unit
  | .third => .error (plainError "no entropy")
  | _ => .ok ()

theorem hasty_runs (thread : Rotation) :
    Runs KeyManager.rotateKey (History.trace hastyHistory thread) (hastyOutcome thread) := by
  cases thread
  · exact .call _ (.call _ (.call _ (.done _)))
  · exact .call _ (.call _ (.call _ (.done _)))
  · exact .call _ (.call _ (.done _))

def hastyRun : KeyRun Rotation where
  initial := some (hastyKey "k0" 0)
  call _ := .rotate
  history := hastyHistory
  performs thread := (hasty_runs thread).performs
  ordered := by simp [History.Ordered, hastyHistory]
  replies := by
    have replied : Along (fun before step => (KeyManager.after ⟨some (hastyKey "k0" 0), none⟩
        (before.map fun step => (step.time, step.event))).Replies step.time step.event)
        [] hastyHistory := by
      simp [Along, hastyHistory, KeyManager.after, KeyManager.next, KeyManager.Replies, hastyKey]
    intro before step after split
    exact replied.at_split split

/-- The first key is lost two milliseconds after it was replaced, and the failed rotation takes
its successor's place as well. -/
theorem hasty_fails : ¬ hastyRun.Overlaps ∧ ¬ hastyRun.Distinct ∧ ¬ hastyRun.FailuresKeep := by
  refine ⟨?_, ?_, ?_⟩
  · intro overlaps
    have reaches : hastyRun.Reaches (hastyHistory.take 5 ++ [hastyHistory[5]]) 4 :=
      KeyRun.Reaches.at_step rfl
    have active := overlaps _ _ reaches (hastyHistory.take 2) hastyHistory[2] _
      (hastyKey "k0" 0) _ rfl rfl rfl (by decide)
    simp [KeyRun.activeKeys, KeyRun.manager, hastyRun, hastyHistory, KeyManager.after,
      KeyManager.next, KeyManager.activeKeys, ManagedKey.view, hastyKey, overlapMs] at active
  · intro distinct
    have reaches : hastyRun.Reaches ([] ++ [hastyHistory[0]]) 1 :=
      KeyRun.Reaches.at_step rfl
    have nodup := distinct _ _ reaches
    simp [KeyRun.activeKeys, KeyRun.manager, hastyRun, hastyHistory, KeyManager.after,
      KeyManager.next, KeyManager.activeKeys, ManagedKey.view, hastyKey, overlapMs] at nodup
  · intro keeps
    have kept := keeps .third _ rfl (hasty_runs .third) (hastyHistory.take 6) hastyHistory[6] _ rfl rfl
    simp [KeyRun.manager, hastyRun, hastyHistory, KeyManager.after, KeyManager.next,
      hastyKey] at kept

end Hasty

end S2s
