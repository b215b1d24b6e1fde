import S2sStack.Effect.Program

set_option autoImplicit false

/- How often a program performs a kind of operation. -/
namespace Effect.Program

variable {sig : Signature} {ε α β : Type}

/-- In no run of the program there are more events of this kind. -/
def AtMost (counted : Event sig → Bool) (bound : Nat) (program : Program sig ε α) : Prop :=
  ∀ trace outcome, Runs program trace outcome → trace.countP counted ≤ bound

namespace AtMost

variable {counted : Event sig → Bool}

theorem done (result : Except ε α) :
    AtMost counted 0 (Program.done result : Program sig ε α) := by
  intro trace outcome run
  obtain ⟨rfl, rfl⟩ := runs_done_iff.mp run
  exact Nat.le_refl 0

theorem command (op : sig.Op) (read : sig.Reply op → Except ε α) :
    AtMost counted 1 (Program.command op read) := by
  intro trace outcome run
  obtain ⟨reply, rfl, rfl⟩ := runs_command_iff.mp run
  exact List.countP_le_length

/-- An operation of another kind. -/
theorem command_other {op : sig.Op} {read : sig.Reply op → Except ε α}
    (other : ∀ reply, counted ⟨op, reply⟩ = false) :
    AtMost counted 0 (Program.command op read) := by
  intro trace outcome run
  obtain ⟨reply, rfl, rfl⟩ := runs_command_iff.mp run
  simp [other reply]

theorem mono {first second : Nat} {program : Program sig ε α} (few : AtMost counted first program)
    (order : first ≤ second) : AtMost counted second program :=
  fun trace outcome run => Nat.le_trans (few trace outcome run) order

theorem bind (first second : Nat) {program : Program sig ε α} {next : α → Program sig ε β}
    (head : AtMost counted first program) (rest : ∀ value, AtMost counted second (next value)) :
    AtMost counted (first + second) (program >>= next) := by
  intro trace outcome run
  obtain ⟨value, before, after, rfl, start, finish⟩ | ⟨fault, start, rfl⟩ := runs_bind_iff.mp run
  · rw [List.countP_append]
    exact Nat.add_le_add (head _ _ start) (rest value _ _ finish)
  · exact Nat.le_trans (head _ _ start) (Nat.le_add_right _ _)

theorem catching (first second : Nat) {program : Program sig ε α} {handler : ε → Program sig ε α}
    (inner : AtMost counted first program)
    (handled : ∀ fault, AtMost counted second (handler fault)) :
    AtMost counted (first + second) (Program.catching program handler) := by
  intro trace outcome run
  obtain ⟨value, start, rfl⟩ | ⟨fault, before, after, rfl, start, finish⟩ := runs_catching_iff.mp run
  · exact Nat.le_trans (inner _ _ start) (Nat.le_add_right _ _)
  · rw [List.countP_append]
    exact Nat.add_le_add (inner _ _ start) (handled fault _ _ finish)

end AtMost

end Effect.Program
