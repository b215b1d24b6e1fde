import S2sStack.Effect.Program
import Mathlib.Data.List.Forall2

set_option autoImplicit false

/- Programs that send a planned list of commands one after the other, and stop at the first
one that fails. -/
namespace Effect

variable {sig : Signature}

/-- A plan that was followed up to some point; only its last command may have failed. -/
inductive Follows (accepted : Event sig → Prop) : List sig.Op → List (Event sig) → Prop
  | nil (plan : List sig.Op) : Follows accepted plan []
  | stopped {op : sig.Op} (reply : sig.Reply op) (rest : List sig.Op) :
      Follows accepted (op :: rest) [⟨op, reply⟩]
  | sent {op : sig.Op} {reply : sig.Reply op} {rest : List sig.Op} {events : List (Event sig)} :
      accepted ⟨op, reply⟩ → Follows accepted rest events →
        Follows accepted (op :: rest) (⟨op, reply⟩ :: events)

/-- A plan that was carried out. -/
structure Completes (accepted : Event sig → Prop) (plan : List sig.Op)
    (events : List (Event sig)) : Prop where
  ops : events.map Event.op = plan
  all : ∀ event ∈ events, accepted event

variable {accepted : Event sig → Prop} {plan more : List sig.Op}
  {events further : List (Event sig)}

theorem Completes.nil : Completes accepted ([] : List sig.Op) [] :=
  ⟨rfl, fun _ member => absurd member List.not_mem_nil⟩

theorem Completes.cons {op : sig.Op} {reply : sig.Reply op} (first : accepted ⟨op, reply⟩)
    (rest : Completes accepted plan events) :
    Completes accepted (op :: plan) (⟨op, reply⟩ :: events) where
  ops := by rw [List.map_cons, rest.ops]
  all := by
    intro event member
    obtain rfl | later := List.mem_cons.mp member
    · exact first
    · exact rest.all event later

theorem Completes.eq_nil (done : Completes accepted [] events) : events = [] :=
  List.map_eq_nil_iff.mp done.ops

theorem Completes.of_cons {op : sig.Op} (done : Completes accepted (op :: plan) events) :
    ∃ reply rest, events = ⟨op, reply⟩ :: rest ∧ accepted ⟨op, reply⟩ ∧
      Completes accepted plan rest := by
  obtain ⟨ops, all⟩ := done
  obtain ⟨⟨_, reply⟩, rest, rfl, rfl, rfl⟩ := List.map_eq_cons_iff.mp ops
  refine ⟨reply, rest, rfl, all _ List.mem_cons_self, rfl, ?_⟩
  exact fun event member => all event (List.mem_cons_of_mem _ member)

theorem Completes.append (one : Completes accepted plan events)
    (other : Completes accepted more further) :
    Completes accepted (plan ++ more) (events ++ further) where
  ops := by rw [List.map_append, one.ops, other.ops]
  all := by
    intro event member
    obtain early | late := List.mem_append.mp member
    · exact one.all event early
    · exact other.all event late

/-- What was sent first followed the same plan. -/
theorem Follows.of_prefix (whole : Follows accepted plan further) (first : events <+: further) :
    Follows accepted plan events := by
  induction whole generalizing events with
  | nil plan =>
      rw [List.prefix_nil.mp first]
      exact .nil plan
  | stopped reply rest =>
      obtain rfl | ⟨tail, rfl, short⟩ := List.prefix_cons_iff.mp first
      · exact .nil _
      · rw [List.prefix_nil.mp short]
        exact .stopped reply rest
  | sent passed _ ih =>
      obtain rfl | ⟨tail, rfl, shorter⟩ := List.prefix_cons_iff.mp first
      · exact .nil _
      · exact .sent passed (ih shorter)

theorem Follows.op_mem {event : Event sig} (follows : Follows accepted plan events)
    (member : event ∈ events) : event.op ∈ plan := by
  induction follows with
  | nil plan => cases member
  | stopped reply rest =>
      rw [List.mem_singleton.mp member]
      exact List.mem_cons_self
  | sent _ _ ih =>
      obtain rfl | later := List.mem_cons.mp member
      · exact List.mem_cons_self
      · exact List.mem_cons_of_mem _ (ih later)

theorem Follows.append_right (follows : Follows accepted plan events) :
    Follows accepted (plan ++ more) events := by
  induction follows with
  | nil plan => exact .nil (plan ++ more)
  | stopped reply rest => exact .stopped reply (rest ++ more)
  | sent passed _ ih => exact .sent passed ih

/-- A plan after one that was carried out. -/
theorem Completes.then (done : Completes accepted plan events)
    (follows : Follows accepted more further) :
    Follows accepted (plan ++ more) (events ++ further) := by
  obtain ⟨rfl, all⟩ := done
  induction events with
  | nil => exact follows
  | cons first rest ih =>
      apply Follows.sent (all first List.mem_cons_self)
      exact ih fun event member => all event (List.mem_cons_of_mem first member)

theorem Completes.follows (done : Completes accepted plan events) :
    Follows accepted plan events := by
  have whole := done.then (.nil [] : Follows accepted [] [])
  rwa [List.append_nil, List.append_nil] at whole

namespace Program

variable {ε α : Type}

/-- `for (const item of items) { await send(item); count += 1 }` -/
def sendEach (send : α → Program sig ε Unit) : List α → Nat → Program sig ε Nat
  | [], count => pure count
  | item :: rest, count => send item >>= fun _ => sendEach send rest (count + 1)

variable {send : α → Program sig ε Unit} {op : α → sig.Op}

/-- Each item is one command, which throws where it is not accepted. -/
def Sends (send : α → Program sig ε Unit) (op : α → sig.Op) (accepted : Event sig → Prop) : Prop :=
  ∀ item trace outcome, Runs (send item) trace outcome →
    ∃ reply, trace = [⟨op item, reply⟩] ∧ (outcome = .ok () → accepted ⟨op item, reply⟩)

/-- The loop follows the plan of its items, and counts all of them where it returns. -/
theorem sendEach_follows (sends : Sends send op accepted) {items : List α} {count : Nat}
    {trace : List (Event sig)} {outcome : Except ε Nat}
    (run : Runs (sendEach send items count) trace outcome) :
    Follows accepted (items.map op) trace ∧
      ∀ total, outcome = .ok total →
        total = count + items.length ∧ Completes accepted (items.map op) trace := by
  induction items generalizing count trace with
  | nil =>
      obtain ⟨rfl, rfl⟩ := runs_pure_iff.mp run
      refine ⟨.nil _, fun total same => ?_⟩
      cases same
      exact ⟨rfl, .nil⟩
  | cons item rest ih =>
      rw [sendEach, runs_bind_iff] at run
      obtain ⟨_, before, after, rfl, first, run⟩ | ⟨fault, first, rfl⟩ := run
      · obtain ⟨reply, rfl, passed⟩ := sends item _ _ first
        obtain ⟨follows, counted⟩ := ih run
        refine ⟨.sent (passed rfl) follows, fun total same => ?_⟩
        obtain ⟨rfl, completes⟩ := counted total same
        refine ⟨?_, completes.cons (passed rfl)⟩
        rw [List.length_cons]
        omega
      · obtain ⟨reply, rfl, -⟩ := sends item _ _ first
        exact ⟨.stopped reply _, by simp⟩

/-- The loop can be answered all the way. -/
theorem sendEach_runs {items : List α} {count : Nat} {events : List (Event sig)}
    (replies : List.Forall₂ (fun item event => Runs (send item) [event] (.ok ())) items events) :
    Runs (sendEach send items count) events (.ok (count + items.length)) := by
  induction replies generalizing count with
  | nil => exact .done _
  | cons first _ ih =>
      have rest := @ih (count + 1)
      rw [List.length_cons, Nat.add_comm _ 1, ← Nat.add_assoc]
      exact Runs.bind first rest

end Program

end Effect
