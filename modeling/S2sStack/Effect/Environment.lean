import S2sStack.Effect.Program

set_option autoImplicit false

/- Environments that answer every operation from the history so far. Running a
program against one is the executable counterpart of `Runs`. -/
namespace Effect

namespace Program

variable {sig : Signature} {ε α β : Type}

/-- The reply to an operation, given the events so far. -/
abbrev Environment (sig : Signature) := List (Event sig) → (op : sig.Op) → sig.Reply op

/-- Trace and result of a program whose history so far is `past`. -/
def exec (env : Environment sig) : List (Event sig) → Program sig ε α →
    List (Event sig) × Except ε α
  | _, .done result => ([], result)
  | past, .call op next =>
      let event : Event sig := ⟨op, env past op⟩
      let rest := exec env (past ++ [event]) (next (env past op))
      (event :: rest.1, rest.2)

theorem exec_runs (env : Environment sig) (program : Program sig ε α) (past : List (Event sig)) :
    Runs program (exec env past program).1 (exec env past program).2 := by
  induction program generalizing past with
  | done result => exact .done result
  | call op next ih => exact .call _ (ih _ _)

/-- Against this environment the program performs `trace` and ends with `result`. -/
def Yields (env : Environment sig) (past : List (Event sig)) (program : Program sig ε α)
    (trace : List (Event sig)) (result : Except ε α) : Prop :=
  exec env past program = (trace, result)

section Yields

variable {env : Environment sig} {past trace : List (Event sig)}

theorem yields_exec (env : Environment sig) (past : List (Event sig))
    (program : Program sig ε α) :
    Yields env past program (exec env past program).1 (exec env past program).2 := rfl

theorem Yields.runs {program : Program sig ε α} {result : Except ε α}
    (yields : Yields env past program trace result) : Runs program trace result := by
  have run := exec_runs env program past
  rw [yields] at run
  exact run

/-- An environment leaves a program no choice. -/
theorem Yields.unique {program : Program sig ε α} {other : List (Event sig)}
    {result result' : Except ε α} (yields : Yields env past program trace result)
    (again : Yields env past program other result') : trace = other ∧ result = result' :=
  Prod.ext_iff.mp (yields.symm.trans again)

theorem yields_done_iff {result outcome : Except ε α} :
    Yields env past (.done result) trace outcome ↔ trace = [] ∧ outcome = result := by
  simp only [Yields, exec, Prod.mk.injEq, eq_comm]

theorem yields_call_iff {op : sig.Op} {next : sig.Reply op → Program sig ε α}
    {outcome : Except ε α} :
    Yields env past (.call op next) trace outcome ↔
      ∃ rest, trace = ⟨op, env past op⟩ :: rest ∧
        Yields env (past ++ [⟨op, env past op⟩]) (next (env past op)) rest outcome := by
  constructor
  · intro yields
    simp only [Yields, exec, Prod.mk.injEq] at yields
    exact ⟨_, yields.1.symm, Prod.ext rfl yields.2⟩
  · rintro ⟨rest, rfl, yields⟩
    simp only [Yields] at yields
    simp only [Yields, exec, yields]

theorem yields_command_iff {op : sig.Op} {read : sig.Reply op → Except ε α}
    {outcome : Except ε α} :
    Yields env past (command op read) trace outcome ↔
      trace = [⟨op, env past op⟩] ∧ outcome = read (env past op) := by
  simp only [command, yields_call_iff, yields_done_iff]
  constructor
  · rintro ⟨rest, rfl, rfl, rfl⟩
    exact ⟨rfl, rfl⟩
  · rintro ⟨rfl, rfl⟩
    exact ⟨[], rfl, rfl, rfl⟩

/-- The second part of a sequence starts from the history that the first has left. -/
theorem yields_bind_iff {first : Program sig ε α} {next : α → Program sig ε β}
    {outcome : Except ε β} :
    Yields env past (first >>= next) trace outcome ↔
      (∃ value before after, trace = before ++ after ∧
        Yields env past first before (.ok value) ∧
        Yields env (past ++ before) (next value) after outcome) ∨
      (∃ fault, Yields env past first trace (.error fault) ∧ outcome = .error fault) := by
  change Yields env past (bind first next) trace outcome ↔ _
  induction first generalizing past trace with
  | done result =>
      cases result with
      | ok value =>
          constructor
          · intro yields
            refine .inl ⟨value, [], trace, rfl, rfl, ?_⟩
            rw [List.append_nil]
            exact yields
          · rintro (⟨_, before, after, rfl, head, yields⟩ | ⟨_, impossible, _⟩)
            · obtain ⟨rfl, same⟩ := yields_done_iff.mp head
              cases same
              rw [List.append_nil] at yields
              exact yields
            · cases (yields_done_iff.mp impossible).2
      | error fault =>
          constructor
          · intro yields
            obtain ⟨rfl, rfl⟩ := yields_done_iff.mp yields
            exact .inr ⟨fault, rfl, rfl⟩
          · rintro (⟨_, _, _, _, impossible, _⟩ | ⟨_, head, rfl⟩)
            · cases (yields_done_iff.mp impossible).2
            · obtain ⟨rfl, same⟩ := yields_done_iff.mp head
              cases same
              rfl
  | call op rest ih =>
      simp only [bind, yields_call_iff, ih]
      constructor
      · rintro ⟨tail, rfl, ⟨value, before, after, rfl, head, yields⟩ | ⟨fault, head, rfl⟩⟩
        · refine .inl ⟨value, _ :: before, after, rfl, ⟨before, rfl, head⟩, ?_⟩
          rw [List.append_assoc] at yields
          exact yields
        · exact .inr ⟨fault, ⟨tail, rfl, head⟩, rfl⟩
      · rintro (⟨value, _, after, rfl, ⟨tail, rfl, head⟩, yields⟩ |
          ⟨fault, ⟨tail, rfl, head⟩, rfl⟩)
        · refine ⟨tail ++ after, rfl, .inl ⟨value, tail, after, rfl, head, ?_⟩⟩
          rw [List.append_assoc]
          exact yields
        · exact ⟨tail, rfl, .inr ⟨fault, head, rfl⟩⟩

theorem Yields.bind {first : Program sig ε α} {next : α → Program sig ε β} {value : α}
    {outcome : Except ε β} {before after : List (Event sig)}
    (head : Yields env past first before (.ok value))
    (rest : Yields env (past ++ before) (next value) after outcome) :
    Yields env past (first >>= next) (before ++ after) outcome :=
  yields_bind_iff.mpr (.inl ⟨value, before, after, rfl, head, rest⟩)

theorem Yields.bind_error {first : Program sig ε α} {next : α → Program sig ε β} {fault : ε}
    (head : Yields env past first trace (.error fault)) :
    Yields env past (first >>= next) trace (.error fault) :=
  yields_bind_iff.mpr (.inr ⟨fault, head, rfl⟩)

/-- Once the first part is known to return, a sequence is what its second part does. -/
theorem Yields.bind_iff {first : Program sig ε α} {next : α → Program sig ε β} {value : α}
    {outcome : Except ε β} {before : List (Event sig)}
    (head : Yields env past first before (.ok value)) :
    Yields env past (first >>= next) trace outcome ↔
      ∃ after, trace = before ++ after ∧ Yields env (past ++ before) (next value) after outcome := by
  constructor
  · intro yields
    rcases yields_bind_iff.mp yields with ⟨found, _, after, rfl, again, rest⟩ | ⟨fault, again, _⟩
    · obtain ⟨rfl, same⟩ := head.unique again
      cases same
      exact ⟨after, rfl, rest⟩
    · cases (head.unique again).2
  · rintro ⟨after, rfl, rest⟩
    exact head.bind rest

theorem yields_bind_ok {first : Program sig ε α} {next : α → Program sig ε β} {result : β} :
    Yields env past (first >>= next) trace (.ok result) ↔
      ∃ value before after, trace = before ++ after ∧
        Yields env past first before (.ok value) ∧
        Yields env (past ++ before) (next value) after (.ok result) := by
  simp only [yields_bind_iff, reduceCtorEq, and_false, exists_false, or_false]

theorem Yields.ofExcept_bind {first : Except ε α} {next : α → Program sig ε β} {value : α}
    {outcome : Except ε β} (passed : first = .ok value)
    (rest : Yields env past (next value) trace outcome) :
    Yields env past (ofExcept first >>= next) trace outcome := by
  subst passed
  exact rest

theorem yields_reply_bind_iff {op : sig.Op} {next : sig.Reply op → Program sig ε β}
    {outcome : Except ε β} :
    Yields env past (command op .ok >>= next) trace outcome ↔
      ∃ rest, trace = ⟨op, env past op⟩ :: rest ∧
        Yields env (past ++ [⟨op, env past op⟩]) (next (env past op)) rest outcome := by
  change Yields env past (.call op fun reply => next reply) trace outcome ↔ _
  exact yields_call_iff

theorem yields_attempt_iff {program : Program sig ε α} {outcome : Except ε (Except ε α)} :
    Yields env past (attempt program) trace outcome ↔
      ∃ inner, Yields env past program trace inner ∧ outcome = .ok inner := by
  induction program generalizing past trace with
  | done result =>
      simp only [attempt, yields_done_iff]
      constructor
      · rintro ⟨rfl, rfl⟩
        exact ⟨result, ⟨rfl, rfl⟩, rfl⟩
      · rintro ⟨_, ⟨rfl, rfl⟩, rfl⟩
        exact ⟨rfl, rfl⟩
  | call op rest ih =>
      simp only [attempt, yields_call_iff, ih]
      constructor
      · rintro ⟨tail, rfl, inner, yields, rfl⟩
        exact ⟨inner, ⟨tail, rfl, yields⟩, rfl⟩
      · rintro ⟨inner, ⟨tail, rfl, yields⟩, rfl⟩
        exact ⟨tail, rfl, inner, yields, rfl⟩

/-- Every reply in the trace is one of the environment's. -/
theorem Yields.answered {program : Program sig ε α} {result : Except ε α}
    (yields : Yields env past program trace result) {event : Event sig} (member : event ∈ trace) :
    ∃ history, event = ⟨event.op, env history event.op⟩ := by
  induction program generalizing past trace with
  | done result =>
      obtain ⟨rfl, _⟩ := yields_done_iff.mp yields
      cases member
  | call op rest ih =>
      obtain ⟨tail, rfl, further⟩ := yields_call_iff.mp yields
      rcases List.mem_cons.mp member with rfl | inTail
      · exact ⟨past, rfl⟩
      · exact ih _ further inTail

end Yields

/-- Where every event is a trusted one, whatever the program throws is allowed. -/
def Throws (trusted : Event sig → Prop) (allowed : ε → Prop) (program : Program sig ε α) : Prop :=
  ∀ trace fault, Runs program trace (.error fault) → (∀ event ∈ trace, trusted event) →
    allowed fault

namespace Throws

variable {trusted : Event sig → Prop} {allowed : ε → Prop}

theorem ofExcept {result : Except ε α} (only : ∀ fault, result = .error fault → allowed fault) :
    Throws trusted allowed (ofExcept result : Program sig ε α) := by
  intro trace fault run _
  exact only fault (runs_ofExcept_iff.mp run).2.symm

theorem returning (value : α) : Throws trusted allowed (pure value : Program sig ε α) := by
  apply ofExcept
  intro fault impossible
  cases impossible

theorem throwing {fault : ε} (isAllowed : allowed fault) :
    Throws trusted allowed (throwing fault : Program sig ε α) := by
  apply ofExcept
  intro thrown same
  cases same
  exact isAllowed

theorem command {op : sig.Op} {read : sig.Reply op → Except ε α}
    (only : ∀ reply fault, trusted ⟨op, reply⟩ → read reply = .error fault → allowed fault) :
    Throws trusted allowed (command op read) := by
  intro trace fault run safe
  obtain ⟨reply, rfl, failed⟩ := runs_command_iff.mp run
  exact only reply fault (safe _ List.mem_cons_self) failed.symm

theorem reply (op : sig.Op) :
    Throws trusted allowed (Program.command op .ok : Program sig ε (sig.Reply op)) := by
  apply command
  intro reply fault _ impossible
  cases impossible

theorem mono {wider : ε → Prop} {program : Program sig ε α}
    (throws : Throws trusted allowed program) (implies : ∀ fault, allowed fault → wider fault) :
    Throws trusted wider program :=
  fun trace fault run safe => implies fault (throws trace fault run safe)

theorem bind {first : Program sig ε α} {next : α → Program sig ε β}
    (head : Throws trusted allowed first) (rest : ∀ value, Throws trusted allowed (next value)) :
    Throws trusted allowed (first >>= next) := by
  intro trace fault run safe
  rcases runs_bind_iff.mp run with ⟨value, before, after, rfl, _, finish⟩ | ⟨thrown, start, same⟩
  · exact rest value _ _ finish (fun event member => safe event (List.mem_append_right _ member))
  · cases same
    exact head _ _ start safe

/-- What a handler throws is all that a handled program throws. -/
theorem catching {program : Program sig ε α} {handler : ε → Program sig ε α}
    (handled : ∀ fault, Throws trusted allowed (handler fault)) :
    Throws trusted allowed (catching program handler) := by
  intro trace fault run safe
  rcases runs_catching_iff.mp run with ⟨_, _, impossible⟩ | ⟨thrown, before, after, rfl, _, finish⟩
  · cases impossible
  · exact handled thrown _ _ finish (fun event member => safe event (List.mem_append_right _ member))

end Throws

end Program

end Effect
