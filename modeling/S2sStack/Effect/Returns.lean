import S2sStack.Effect.Program

set_option autoImplicit false

/- Programs that return, as long as their environment can be trusted. -/
namespace Effect.Program

variable {sig : Signature} {ε α β : Type}

/-- Every run over trusted events returns, with a value of this kind. -/
def Returns (trusted : Event sig → Prop) (kind : α → Prop) (program : Program sig ε α) : Prop :=
  ∀ trace outcome, Runs program trace outcome → (∀ event ∈ trace, trusted event) →
    ∃ value, outcome = .ok value ∧ kind value

namespace Returns

variable {trusted : Event sig → Prop} {kind : α → Prop} {program : Program sig ε α}

theorem ofExcept {result : Except ε α} {value : α} (same : result = .ok value)
    (holds : kind value) : Returns trusted kind (ofExcept result : Program sig ε α) := by
  intro trace outcome run _
  rw [(runs_ofExcept_iff.mp run).2]
  exact ⟨value, same, holds⟩

theorem returning {value : α} (holds : kind value) :
    Returns trusted kind (pure value : Program sig ε α) := ofExcept rfl holds

theorem command {op : sig.Op} {read : sig.Reply op → Except ε α}
    (reads : ∀ reply, trusted ⟨op, reply⟩ → ∃ value, read reply = .ok value ∧ kind value) :
    Returns trusted kind (command op read) := by
  intro trace outcome run events
  obtain ⟨reply, rfl, rfl⟩ := runs_command_iff.mp run
  exact reads reply (events _ List.mem_cons_self)

theorem bind {first : Program sig ε α} {next : α → Program sig ε β} {last : β → Prop}
    (head : Returns trusted kind first)
    (rest : ∀ value, kind value → Returns trusted last (next value)) :
    Returns trusted last (first >>= next) := by
  intro trace outcome run events
  rcases runs_bind_iff.mp run with ⟨value, before, after, rfl, start, run⟩ | ⟨fault, start, rfl⟩
  · obtain ⟨_, same, holds⟩ :=
      head _ _ start fun event member => events event (List.mem_append_left _ member)
    cases same
    exact rest value holds _ _ run fun event member => events event (List.mem_append_right _ member)
  · obtain ⟨_, impossible, _⟩ := head _ _ start events
    cases impossible

theorem ofExcept_bind {result : Except ε α} {value : α} {next : α → Program sig ε β}
    {last : β → Prop} (same : result = .ok value) (rest : Returns trusted last (next value)) :
    Returns trusted last (Program.ofExcept result >>= next) := by
  have head : Returns trusted (· = value) (Program.ofExcept result : Program sig ε α) :=
    ofExcept same rfl
  refine head.bind fun other kept => ?_
  rw [kept]
  exact rest

theorem attempt (inner : Returns trusted kind program) :
    Returns trusted (fun result => ∃ value, result = .ok value ∧ kind value) (attempt program) := by
  intro trace outcome run events
  obtain ⟨result, settled, rfl⟩ := runs_attempt_iff.mp run
  exact ⟨result, rfl, inner trace result settled events⟩

theorem catching (inner : Returns trusted kind program) (handler : ε → Program sig ε α) :
    Returns trusted kind (catching program handler) := by
  intro trace outcome run events
  rcases runs_catching_iff.mp run with ⟨value, body, rfl⟩ | ⟨fault, before, after, rfl, body, _⟩
  · exact inner trace _ body events
  · obtain ⟨_, impossible, _⟩ :=
      inner before _ body fun event member => events event (List.mem_append_left _ member)
    cases impossible

theorem mono {wider : α → Prop} (returns : Returns trusted kind program)
    (implies : ∀ value, kind value → wider value) : Returns trusted wider program := by
  intro trace outcome run events
  obtain ⟨value, same, holds⟩ := returns trace outcome run events
  exact ⟨value, same, implies value holds⟩

end Returns

/-- Every run over trusted events returns, and one of its own events is of this kind. -/
def Reaches (trusted wanted : Event sig → Prop) (program : Program sig ε α) : Prop :=
  ∀ trace outcome, Runs program trace outcome → (∀ event ∈ trace, trusted event) →
    (∃ value, outcome = .ok value) ∧ ∃ event ∈ trace, wanted event

namespace Reaches

variable {trusted wanted : Event sig → Prop} {program : Program sig ε α}

theorem command {op : sig.Op} {read : sig.Reply op → Except ε α}
    (reads : ∀ reply, trusted ⟨op, reply⟩ →
      (∃ value, read reply = .ok value) ∧ wanted ⟨op, reply⟩) :
    Reaches trusted wanted (command op read) := by
  intro trace outcome run events
  obtain ⟨reply, rfl, rfl⟩ := runs_command_iff.mp run
  obtain ⟨returned, reached⟩ := reads reply (events _ List.mem_cons_self)
  exact ⟨returned, _, List.mem_cons_self, reached⟩

theorem ofExcept_bind {result : Except ε α} {value : α} {next : α → Program sig ε β}
    (same : result = .ok value) (rest : Reaches trusted wanted (next value)) :
    Reaches trusted wanted (Program.ofExcept result >>= next) := by
  intro trace outcome run events
  rw [runs_ofExcept_bind_iff same] at run
  exact rest trace outcome run events

theorem catching (inner : Reaches trusted wanted program) (handler : ε → Program sig ε α) :
    Reaches trusted wanted (catching program handler) := by
  intro trace outcome run events
  rcases runs_catching_iff.mp run with ⟨value, body, rfl⟩ | ⟨fault, before, after, rfl, body, _⟩
  · exact inner trace _ body events
  · obtain ⟨⟨_, impossible⟩, _⟩ :=
      inner before _ body fun event member => events event (List.mem_append_left _ member)
    cases impossible

/-- A run whose own events are all that is trusted. -/
theorem of_run {trace : List (Event sig)} {outcome : Except ε α}
    (reaches : Reaches (· ∈ trace) wanted program) (run : Runs program trace outcome) :
    (∃ value, outcome = .ok value) ∧ ∃ event ∈ trace, wanted event :=
  reaches trace outcome run fun _ member => member

end Reaches

/-- What a program reaches after its first part has returned. -/
theorem Returns.reaches {trusted wanted : Event sig → Prop} {kind : α → Prop}
    {first : Program sig ε α} {next : α → Program sig ε β} (head : Returns trusted kind first)
    (rest : ∀ value, kind value → Reaches trusted wanted (next value)) :
    Reaches trusted wanted (first >>= next) := by
  intro trace outcome run events
  rcases runs_bind_iff.mp run with ⟨value, before, after, rfl, start, run⟩ | ⟨fault, start, rfl⟩
  · obtain ⟨_, same, holds⟩ :=
      head _ _ start fun event member => events event (List.mem_append_left _ member)
    cases same
    obtain ⟨returned, event, member, reached⟩ := rest value holds _ _ run
      fun event member => events event (List.mem_append_right _ member)
    exact ⟨returned, event, List.mem_append_right _ member, reached⟩
  · obtain ⟨_, impossible, _⟩ := head _ _ start events
    cases impossible

end Effect.Program
