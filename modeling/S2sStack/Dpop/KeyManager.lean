import S2sStack.Effect.Provenance
import S2sStack.Envelope.Sign

set_option autoImplicit false

/- `dpop/keyManager.ts`: the key pair of a process, and the one before it. -/
namespace S2s

open Effect (Signature Program)
open Effect.Program
open Js (Obj)

/-- `ActiveKey` of the key manager -/
structure ManagedKey extends ActiveKey where
  thumbprint : String
  createdAtMs : Millis
  retiredAtMs : Option Millis

/-- `OVERLAP_MS` -/
def overlapMs : Millis := 2 * 60 * 60 * 1000

/-- An entry of `getActiveKeys()`. -/
structure KeyView where
  thumbprint : String
  publicJwk : Obj

def ManagedKey.view (key : ManagedKey) : KeyView := ⟨key.thumbprint, key.publicJwk⟩

/-- `_current` and `_previous` -/
structure KeyManager where
  current : Option ManagedKey
  previous : Option ManagedKey

inductive KeyOp where
  /-- `rotateKey` up to its `await`: the check of `_current` and the assignment to `_previous` -/
  | retire
  /-- `await generate()` -/
  | generate
  /-- `_current = …` in `rotateKey` -/
  | install (key : ManagedKey)
  | getActiveKeys

@[reducible] def KeyOp.Reply : KeyOp → Type
  | retire => Except Fault Unit
  | generate => Except Fault ManagedKey
  | install _ => Unit
  | getActiveKeys => List KeyView

abbrev keyManaging : Signature := ⟨KeyOp, KeyOp.Reply⟩

abbrev KeyEvent := Effect.Event keyManaging

abbrev KeyManaging (α : Type) := Program keyManaging Fault α

namespace KeyManager

def rotateKey : KeyManaging Unit := do
  Program.command .retire id
  let key ← Program.command .generate id
  Program.command (.install key) .ok

def getActiveKeys : KeyManaging (List KeyView) := Program.command .getActiveKeys .ok

/-- What `getActiveKeys` returns at this time, and what it leaves. -/
def activeKeys (manager : KeyManager) (nowMs : Millis) : List KeyView × KeyManager :=
  let out := (manager.current.map ManagedKey.view).toList
  match manager.previous with
  | some previous =>
      match previous.retiredAtMs with
      | some retiredAtMs =>
          if (nowMs : Int) - (retiredAtMs : Nat) < overlapMs then (out ++ [previous.view], manager)
          else (out, { manager with previous := none })
      | none => (out, { manager with previous := none })
  | none => (out, { manager with previous := none })

/-- The manager after an event at this time. -/
def next (manager : KeyManager) (nowMs : Millis) : KeyEvent → KeyManager
  | ⟨.retire, _⟩ =>
      match manager.current with
      | some key => { manager with previous := some { key with retiredAtMs := some nowMs } }
      | none => manager
  | ⟨.generate, _⟩ => manager
  | ⟨.install key, _⟩ => { manager with current := some key }
  | ⟨.getActiveKeys, _⟩ => (manager.activeKeys nowMs).2

theorem activeKeys_current (manager : KeyManager) (nowMs : Millis) :
    (manager.activeKeys nowMs).2.current = manager.current := by
  unfold activeKeys
  repeat' split
  all_goals rfl

/-- A current key is never given up. -/
theorem next_isSome {manager : KeyManager} {nowMs : Millis} {event : KeyEvent}
    (present : manager.current.isSome) : (manager.next nowMs event).current.isSome := by
  obtain ⟨op, reply⟩ := event
  obtain ⟨key, current⟩ := Option.isSome_iff_exists.mp present
  cases op with
  | retire => simp [next, current]
  | generate => exact present
  | install fresh => rfl
  | getActiveKeys => simpa [next, activeKeys_current] using present

/-- What an operation replies at this time. A generation may fail. -/
def Replies (manager : KeyManager) (nowMs : Millis) : KeyEvent → Prop
  | ⟨.retire, reply⟩ => reply =
      manager.current.elim (.error (plainError "keyManager not initialized")) fun _ => .ok ()
  | ⟨.generate, reply⟩ => ∀ key, reply = .ok key →
      key.createdAtMs = nowMs ∧ key.retiredAtMs = none
  | ⟨.getActiveKeys, reply⟩ => reply = (manager.activeKeys nowMs).1
  | _ => True

/-- A key is installed only where `_current` has been retired. -/
def InstallNeeds (before : List KeyEvent) : KeyEvent → Prop
  | ⟨.install _, _⟩ => ⟨.retire, .ok ()⟩ ∈ before
  | _ => True

theorem rotateKey_provides : Provides InstallNeeds [] rotateKey (fun _ _ => True) := by
  have retired : Provides InstallNeeds [] (Program.command .retire id)
      (fun trace _ => ⟨.retire, .ok ()⟩ ∈ trace) := by
    apply Provides.command (fun _ => trivial)
    intro reply value replied
    rw [show reply = .ok () from replied]
    exact List.mem_singleton_self _
  apply retired.bind
  intro trace _ member
  have generated : Provides InstallNeeds ([] ++ trace) (Program.command .generate id)
      (fun trace _ => ⟨.retire, .ok ()⟩ ∈ trace) :=
    Provides.command (fun _ => trivial) fun _ _ _ => List.mem_append_left _ member
  apply generated.bind
  intro more key member
  exact Provides.command (fun _ => member) fun _ _ _ => trivial

theorem getActiveKeys_provides : Provides InstallNeeds [] getActiveKeys (fun _ _ => True) :=
  Provides.command (fun _ => trivial) fun _ _ _ => trivial

/-- What `rotateKey` does: it throws without a key, or its generation fails, or it installs a key. -/
inductive RotateRun : List KeyEvent → Except Fault Unit → Prop
  | uninitialized (err : Fault) : RotateRun [⟨.retire, .error err⟩] (.error err)
  | failed (err : Fault) :
      RotateRun [⟨.retire, .ok ()⟩, ⟨.generate, .error err⟩] (.error err)
  | rotated (key : ManagedKey) :
      RotateRun [⟨.retire, .ok ()⟩, ⟨.generate, .ok key⟩, ⟨.install key, ()⟩] (.ok ())

theorem rotateKey_run {trace : List KeyEvent} {outcome : Except Fault Unit}
    (run : Runs rotateKey trace outcome) : RotateRun trace outcome := by
  rw [rotateKey, runs_command_bind_iff] at run
  obtain ⟨reply, rest, rfl, ⟨_, replied, run⟩ | ⟨err, replied, rfl, rfl⟩⟩ := run
  · have same : reply = .ok () := replied
    subst same
    rw [runs_command_bind_iff] at run
    obtain ⟨generated, later, rfl, ⟨key, replied, run⟩ | ⟨err, replied, rfl, rfl⟩⟩ := run
    · have same : generated = .ok key := replied
      subst same
      obtain ⟨_, rfl, rfl⟩ := runs_command_iff.mp run
      exact .rotated key
    · have same : generated = .error err := replied
      subst same
      exact .failed err
  · have same : reply = .error err := replied
    subst same
    exact .uninitialized err

/-- The manager after some timed events. -/
def after (manager : KeyManager) (events : List (Millis × KeyEvent)) : KeyManager :=
  events.foldl (fun manager timed => manager.next timed.1 timed.2) manager

end KeyManager

end S2s
