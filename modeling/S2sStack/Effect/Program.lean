set_option autoImplicit false

/- Programs over external operations, and the runs they have when every reply
is chosen by the environment. Nothing here depends on what the operations are. -/
namespace Effect

/-- The external operations of a system and the type of reply each one gets. -/
structure Signature where
  Op : Type
  Reply : Op → Type

/-- One performed operation together with the reply it got. -/
structure Event (sig : Signature) where
  op : sig.Op
  reply : sig.Reply op

/-- A program performs operations and ends with a value or a thrown error. -/
inductive Program (sig : Signature) (ε α : Type) where
  | done (result : Except ε α)
  | call (op : sig.Op) (next : sig.Reply op → Program sig ε α)

namespace Program

variable {sig : Signature} {ε α β : Type}

def bind : Program sig ε α → (α → Program sig ε β) → Program sig ε β
  | .done (.ok value), next => next value
  | .done (.error fault), _ => .done (.error fault)
  | .call op rest, next => .call op (fun reply => bind (rest reply) next)

/-- Turn the outcome of a program into an ordinary value. -/
def attempt : Program sig ε α → Program sig ε (Except ε α)
  | .done result => .done (.ok result)
  | .call op rest => .call op (fun reply => attempt (rest reply))

instance : Monad (Program sig ε) where
  pure value := .done (.ok value)
  bind := bind

def throwing (fault : ε) : Program sig ε α := .done (.error fault)

/-- A pure computation that may throw. -/
def ofExcept (result : Except ε α) : Program sig ε α := .done result

/-- Perform one operation and read its reply as a result. -/
def command (op : sig.Op) (read : sig.Reply op → Except ε α) : Program sig ε α :=
  .call op (fun reply => .done (read reply))

/-- `try { program } catch (fault) { handler }` -/
def catching (program : Program sig ε α) (handler : ε → Program sig ε α) : Program sig ε α :=
  attempt program >>= fun outcome =>
    match outcome with
    | .ok value => .done (.ok value)
    | .error fault => handler fault

/-- `Runs program trace result`: the environment can reply so that the program
performs exactly `trace` and ends with `result`. -/
inductive Runs : Program sig ε α → List (Event sig) → Except ε α → Prop
  | done (result : Except ε α) : Runs (.done result) [] result
  | call {op : sig.Op} {next : sig.Reply op → Program sig ε α} (reply : sig.Reply op)
      {trace : List (Event sig)} {result : Except ε α} :
      Runs (next reply) trace result → Runs (.call op next) (⟨op, reply⟩ :: trace) result

/-- What a program that may still be in progress has performed so far. -/
def Performs (program : Program sig ε α) (trace : List (Event sig)) : Prop :=
  ∃ rest result, Runs program (trace ++ rest) result

theorem Runs.performs {program : Program sig ε α} {trace : List (Event sig)}
    {result : Except ε α} (run : Runs program trace result) : Performs program trace :=
  ⟨[], result, by simpa using run⟩

@[simp] theorem runs_done_iff {result outcome : Except ε α} {trace : List (Event sig)} :
    Runs (.done result) trace outcome ↔ trace = [] ∧ outcome = result := by
  constructor
  · intro run
    cases run
    exact ⟨rfl, rfl⟩
  · rintro ⟨rfl, rfl⟩
    exact .done _

@[simp] theorem runs_pure_iff {value : α} {outcome : Except ε α} {trace : List (Event sig)} :
    Runs (pure value : Program sig ε α) trace outcome ↔ trace = [] ∧ outcome = .ok value :=
  runs_done_iff

@[simp] theorem runs_throwing_iff {fault : ε} {outcome : Except ε α} {trace : List (Event sig)} :
    Runs (throwing fault : Program sig ε α) trace outcome ↔
      trace = [] ∧ outcome = .error fault :=
  runs_done_iff

@[simp] theorem runs_ofExcept_iff {result outcome : Except ε α} {trace : List (Event sig)} :
    Runs (ofExcept result : Program sig ε α) trace outcome ↔ trace = [] ∧ outcome = result :=
  runs_done_iff

theorem runs_call_iff {op : sig.Op} {next : sig.Reply op → Program sig ε α}
    {outcome : Except ε α} {trace : List (Event sig)} :
    Runs (.call op next) trace outcome ↔
      ∃ reply rest, trace = ⟨op, reply⟩ :: rest ∧ Runs (next reply) rest outcome := by
  constructor
  · intro run
    cases run with
    | call reply rest => exact ⟨reply, _, rfl, rest⟩
  · rintro ⟨reply, rest, rfl, run⟩
    exact .call reply run

@[simp] theorem runs_command_iff {op : sig.Op} {read : sig.Reply op → Except ε α}
    {outcome : Except ε α} {trace : List (Event sig)} :
    Runs (command op read) trace outcome ↔
      ∃ reply, trace = [⟨op, reply⟩] ∧ outcome = read reply := by
  simp only [command, runs_call_iff, runs_done_iff]
  constructor
  · rintro ⟨reply, rest, rfl, rfl, rfl⟩
    exact ⟨reply, rfl, rfl⟩
  · rintro ⟨reply, rfl, rfl⟩
    exact ⟨reply, [], rfl, rfl, rfl⟩

/-- The replies decide what a program ends with. -/
theorem Runs.result_eq {program : Program sig ε α} {trace : List (Event sig)}
    {result result' : Except ε α} (one : Runs program trace result)
    (other : Runs program trace result') : result = result' := by
  induction one with
  | done result => exact (runs_done_iff.mp other).2.symm
  | call reply _ ih =>
      obtain ⟨_, tail, same, run⟩ := runs_call_iff.mp other
      cases same
      exact ih run

/-- A sequence either stops in its first part or splits where that part returned. -/
theorem runs_bind_iff {first : Program sig ε α} {next : α → Program sig ε β}
    {outcome : Except ε β} {trace : List (Event sig)} :
    Runs (first >>= next) trace outcome ↔
      (∃ value before after, trace = before ++ after ∧ Runs first before (.ok value) ∧
        Runs (next value) after outcome) ∨
      (∃ fault, Runs first trace (.error fault) ∧ outcome = .error fault) := by
  change Runs (bind first next) trace outcome ↔ _
  induction first generalizing trace with
  | done result =>
      cases result with
      | ok value =>
          constructor
          · intro run
            exact .inl ⟨value, [], trace, rfl, .done _, run⟩
          · rintro (⟨_, before, after, rfl, head, run⟩ | ⟨_, impossible, _⟩)
            · cases head
              exact run
            · cases impossible
      | error fault =>
          constructor
          · intro run
            obtain ⟨rfl, rfl⟩ := runs_done_iff.mp run
            exact .inr ⟨fault, .done _, rfl⟩
          · rintro (⟨_, _, _, _, impossible, _⟩ | ⟨_, head, rfl⟩)
            · cases impossible
            · cases head
              exact .done _
  | call op rest ih =>
      constructor
      · intro whole
        obtain ⟨reply, tail, rfl, run⟩ := runs_call_iff.mp whole
        rcases (ih reply).mp run with ⟨value, before, after, rfl, head, run⟩ | ⟨fault, head, rfl⟩
        · exact .inl ⟨value, ⟨op, reply⟩ :: before, after, rfl, .call reply head, run⟩
        · exact .inr ⟨fault, .call reply head, rfl⟩
      · rintro (⟨value, before, after, rfl, head, run⟩ | ⟨fault, head, rfl⟩)
        · obtain ⟨reply, tail, rfl, rest⟩ := runs_call_iff.mp head
          exact .call reply ((ih reply).mpr (.inl ⟨value, tail, after, rfl, rest, run⟩))
        · obtain ⟨reply, tail, rfl, rest⟩ := runs_call_iff.mp head
          exact .call reply ((ih reply).mpr (.inr ⟨fault, rest, rfl⟩))

theorem Runs.bind {first : Program sig ε α} {next : α → Program sig ε β} {value : α}
    {outcome : Except ε β} {before after : List (Event sig)} (head : Runs first before (.ok value))
    (rest : Runs (next value) after outcome) : Runs (first >>= next) (before ++ after) outcome :=
  runs_bind_iff.mpr (.inl ⟨value, before, after, rfl, head, rest⟩)

theorem Runs.bind_error {first : Program sig ε α} {next : α → Program sig ε β} {fault : ε}
    {trace : List (Event sig)} (head : Runs first trace (.error fault)) :
    Runs (first >>= next) trace (.error fault) :=
  runs_bind_iff.mpr (.inr ⟨fault, head, rfl⟩)

/-- A sequence that returns went through both parts. -/
theorem runs_bind_ok {first : Program sig ε α} {next : α → Program sig ε β} {result : β}
    {trace : List (Event sig)} :
    Runs (first >>= next) trace (.ok result) ↔
      ∃ value before after, trace = before ++ after ∧ Runs first before (.ok value) ∧
        Runs (next value) after (.ok result) := by
  simp only [runs_bind_iff, reduceCtorEq, and_false, exists_false, or_false]

/-- A pure computation in front of a sequence leaves no event. -/
theorem runs_ofExcept_bind_ok {first : Except ε α} {next : α → Program sig ε β} {result : β}
    {trace : List (Event sig)} :
    Runs (ofExcept first >>= next) trace (.ok result) ↔
      ∃ value, first = .ok value ∧ Runs (next value) trace (.ok result) := by
  rw [runs_bind_ok]
  constructor
  · rintro ⟨value, before, after, rfl, head, rest⟩
    obtain ⟨rfl, same⟩ := runs_ofExcept_iff.mp head
    exact ⟨value, same.symm, rest⟩
  · rintro ⟨value, rfl, rest⟩
    exact ⟨value, [], trace, rfl, .done _, rest⟩

theorem Runs.ofExcept_bind {first : Except ε α} {next : α → Program sig ε β} {value : α}
    {outcome : Except ε β} {trace : List (Event sig)} (passed : first = .ok value)
    (rest : Runs (next value) trace outcome) : Runs (ofExcept first >>= next) trace outcome := by
  subst passed
  exact rest

/-- A command that cannot fail is the first event of its sequence. -/
theorem runs_reply_bind_iff {op : sig.Op} {next : sig.Reply op → Program sig ε β}
    {outcome : Except ε β} {trace : List (Event sig)} :
    Runs (command op .ok >>= next) trace outcome ↔
      ∃ reply rest, trace = ⟨op, reply⟩ :: rest ∧ Runs (next reply) rest outcome := by
  change Runs (.call op fun reply => next reply) trace outcome ↔ _
  exact runs_call_iff

theorem Runs.reply_bind {op : sig.Op} {next : sig.Reply op → Program sig ε β}
    {outcome : Except ε β} {trace : List (Event sig)} {reply : sig.Reply op}
    (rest : Runs (next reply) trace outcome) :
    Runs (command op .ok >>= next) (⟨op, reply⟩ :: trace) outcome :=
  runs_reply_bind_iff.mpr ⟨reply, trace, rfl, rest⟩

/-- A command in front of a sequence is its first event, and stops it where its reply is an
error. -/
theorem runs_command_bind_iff {op : sig.Op} {read : sig.Reply op → Except ε α}
    {next : α → Program sig ε β} {outcome : Except ε β} {trace : List (Event sig)} :
    Runs (command op read >>= next) trace outcome ↔
      ∃ reply rest, trace = ⟨op, reply⟩ :: rest ∧
        ((∃ value, read reply = .ok value ∧ Runs (next value) rest outcome) ∨
          ∃ fault, read reply = .error fault ∧ rest = [] ∧ outcome = .error fault) := by
  rw [runs_bind_iff]
  simp only [runs_command_iff]
  constructor
  · rintro (⟨value, _, after, rfl, ⟨reply, rfl, passed⟩, run⟩ | ⟨fault, ⟨reply, rfl, failed⟩, rfl⟩)
    · exact ⟨reply, after, rfl, .inl ⟨value, passed.symm, run⟩⟩
    · exact ⟨reply, [], rfl, .inr ⟨fault, failed.symm, rfl, rfl⟩⟩
  · rintro ⟨reply, rest, rfl, ⟨value, passed, run⟩ | ⟨fault, failed, rfl, rfl⟩⟩
    · exact .inl ⟨value, [⟨op, reply⟩], rest, rfl, ⟨reply, rfl, passed.symm⟩, run⟩
    · exact .inr ⟨fault, ⟨reply, rfl, failed.symm⟩, rfl⟩

/-- Where the reply is known, the rest of the trace is one of the rest of the program. -/
theorem runs_reply_bind_cons_iff {op : sig.Op} {next : sig.Reply op → Program sig ε β}
    {outcome : Except ε β} {trace : List (Event sig)} {reply : sig.Reply op} :
    Runs (command op .ok >>= next) (⟨op, reply⟩ :: trace) outcome ↔
      Runs (next reply) trace outcome := by
  rw [runs_reply_bind_iff]
  constructor
  · rintro ⟨_, _, same, run⟩
    cases same
    exact run
  · intro run
    exact ⟨reply, trace, rfl, run⟩

theorem runs_ofExcept_bind_iff {first : Except ε α} {next : α → Program sig ε β} {value : α}
    {outcome : Except ε β} {trace : List (Event sig)} (passed : first = .ok value) :
    Runs (ofExcept first >>= next) trace outcome ↔ Runs (next value) trace outcome := by
  subst passed
  rfl

/-- Two continuations of a pure computation matter only at its value. -/
theorem ofExcept_bind_congr {first : Except ε α} {next other : α → Program sig ε β}
    (same : ∀ value, first = .ok value → next value = other value) :
    ofExcept first >>= next = ofExcept first >>= other := by
  cases first with
  | error fault => rfl
  | ok value => exact same value rfl

/-- Where something is performed after a pure computation, it has returned. -/
theorem runs_ofExcept_bind_of_mem {first : Except ε α} {next : α → Program sig ε β}
    {outcome : Except ε β} {trace : List (Event sig)} {event : Event sig}
    (run : Runs (ofExcept first >>= next) trace outcome) (member : event ∈ trace) :
    ∃ value, first = .ok value ∧ Runs (next value) trace outcome := by
  cases first with
  | ok value => exact ⟨value, rfl, run⟩
  | error fault =>
      obtain ⟨rfl, _⟩ := runs_done_iff.mp run
      cases member

theorem runs_attempt_iff {program : Program sig ε α} {outcome : Except ε (Except ε α)}
    {trace : List (Event sig)} :
    Runs (attempt program) trace outcome ↔
      ∃ inner, Runs program trace inner ∧ outcome = .ok inner := by
  induction program generalizing trace with
  | done result =>
      simp only [attempt, runs_done_iff]
      constructor
      · rintro ⟨rfl, rfl⟩
        exact ⟨result, ⟨rfl, rfl⟩, rfl⟩
      · rintro ⟨_, ⟨rfl, rfl⟩, rfl⟩
        exact ⟨rfl, rfl⟩
  | call op rest ih =>
      simp only [attempt, runs_call_iff, ih]
      constructor
      · rintro ⟨reply, tail, rfl, inner, run, rfl⟩
        exact ⟨inner, ⟨reply, tail, rfl, run⟩, rfl⟩
      · rintro ⟨inner, ⟨reply, tail, rfl, run⟩, rfl⟩
        exact ⟨reply, tail, rfl, inner, run, rfl⟩

/-- What follows a settled program is given what it returned or threw. -/
theorem runs_attempt_bind_iff {program : Program sig ε α} {next : Except ε α → Program sig ε β}
    {outcome : Except ε β} {trace : List (Event sig)} :
    Runs (attempt program >>= next) trace outcome ↔
      ∃ inner before after, trace = before ++ after ∧ Runs program before inner ∧
        Runs (next inner) after outcome := by
  simp only [runs_bind_iff, runs_attempt_iff]
  constructor
  · rintro (⟨inner, before, after, rfl, ⟨_, run, same⟩, rest⟩ | ⟨_, ⟨_, _, impossible⟩, _⟩)
    · cases same
      exact ⟨inner, before, after, rfl, run, rest⟩
    · cases impossible
  · rintro ⟨inner, before, after, rfl, run, rest⟩
    exact .inl ⟨inner, before, after, rfl, ⟨inner, run, rfl⟩, rest⟩

/-- Settling a sequence settles its first part, then the rest where that part returned. -/
theorem attempt_bind {γ : Type} (first : Program sig ε α) (next : α → Program sig ε β)
    (settle : Except ε β → Program sig ε γ) :
    attempt (first >>= next) >>= settle =
      attempt first >>= fun outcome =>
        match outcome with
        | .ok value => attempt (next value) >>= settle
        | .error fault => settle (.error fault) := by
  induction first with
  | done result =>
      cases result with
      | ok value => rfl
      | error fault => rfl
  | call op rest ih =>
      change Program.call op (fun reply => attempt (rest reply >>= next) >>= settle) =
        Program.call op (fun reply => attempt (rest reply) >>= _)
      congr 1
      funext reply
      exact ih reply

/-- Handling the errors of a program that throws none changes nothing. -/
theorem attempt_bind_returning {program : Program sig ε α}
    {settle : Except ε α → Program sig ε α}
    (returns : ∀ trace fault, ¬ Runs program trace (.error fault))
    (passes : ∀ value, settle (.ok value) = .done (.ok value)) :
    attempt program >>= settle = program := by
  induction program with
  | done result =>
      cases result with
      | ok value => exact passes value
      | error fault => exact absurd (.done _) (returns [] fault)
  | call op rest ih =>
      change Program.call op (fun reply => attempt (rest reply) >>= settle) = _
      congr 1
      funext reply
      apply ih reply
      intro trace fault run
      exact returns (⟨op, reply⟩ :: trace) fault (.call reply run)

/-- A handled program returns, or hands the thrown error to its handler. -/
theorem runs_catching_iff {program : Program sig ε α} {handler : ε → Program sig ε α}
    {outcome : Except ε α} {trace : List (Event sig)} :
    Runs (catching program handler) trace outcome ↔
      (∃ value, Runs program trace (.ok value) ∧ outcome = .ok value) ∨
      (∃ fault before after, trace = before ++ after ∧ Runs program before (.error fault) ∧
        Runs (handler fault) after outcome) := by
  unfold catching
  rw [runs_attempt_bind_iff]
  constructor
  · rintro ⟨inner, before, after, rfl, run, rest⟩
    cases inner with
    | ok value =>
        obtain ⟨rfl, rfl⟩ := runs_done_iff.mp rest
        exact .inl ⟨value, by simpa using run, rfl⟩
    | error fault => exact .inr ⟨fault, before, after, rfl, run, rest⟩
  · rintro (⟨value, run, rfl⟩ | ⟨fault, before, after, rfl, run, rest⟩)
    · exact ⟨.ok value, trace, [], by simp, run, .done _⟩
    · exact ⟨.error fault, before, after, rfl, run, rest⟩

/-- Every run of the program has a trace of this kind. -/
def Traces (kind : List (Event sig) → Prop) (program : Program sig ε α) : Prop :=
  ∀ trace result, Runs program trace result → kind trace

namespace Traces

variable {kind : List (Event sig) → Prop}

theorem done (result : Except ε α) (empty : kind []) : Traces kind (.done result) := by
  intro trace outcome run
  obtain ⟨rfl, rfl⟩ := runs_done_iff.mp run
  exact empty

theorem ofExcept_bind {first : Except ε α} {next : α → Program sig ε β} (empty : kind [])
    (rest : ∀ value, first = .ok value → Traces kind (next value)) :
    Traces kind (ofExcept first >>= next) := by
  cases first with
  | error fault => exact done (.error fault) empty
  | ok value => exact rest value rfl

theorem reply_bind {op : sig.Op} {next : sig.Reply op → Program sig ε β}
    (further : ∀ reply trace, kind trace → kind (⟨op, reply⟩ :: trace))
    (rest : ∀ reply, Traces kind (next reply)) : Traces kind (command op .ok >>= next) := by
  intro trace outcome run
  rw [runs_reply_bind_iff] at run
  obtain ⟨reply, tail, rfl, run⟩ := run
  exact further reply tail (rest reply _ _ run)

theorem command {op : sig.Op} {read : sig.Reply op → Except ε α}
    (single : ∀ reply, kind [⟨op, reply⟩]) : Traces kind (command op read) := by
  intro trace outcome run
  obtain ⟨reply, rfl, _⟩ := runs_command_iff.mp run
  exact single reply

theorem bind {first : Program sig ε α} {next : α → Program sig ε β}
    (closed : ∀ before after, kind before → kind after → kind (before ++ after))
    (head : Traces kind first) (rest : ∀ value, Traces kind (next value)) :
    Traces kind (first >>= next) := by
  intro trace outcome run
  rcases runs_bind_iff.mp run with ⟨value, before, after, rfl, start, finish⟩ | ⟨fault, start, _⟩
  · exact closed before after (head _ _ start) (rest value _ _ finish)
  · exact head _ _ start

theorem attempt {program : Program sig ε α} (inner : Traces kind program) :
    Traces kind (attempt program) := by
  intro trace outcome run
  obtain ⟨result, start, _⟩ := runs_attempt_iff.mp run
  exact inner _ _ start

end Traces

/-- Every operation the program can perform is an allowed one. -/
def Within (allowed : sig.Op → Prop) (program : Program sig ε α) : Prop :=
  ∀ trace result, Runs program trace result → ∀ event ∈ trace, allowed event.op

namespace Within

variable {allowed : sig.Op → Prop}

theorem done (result : Except ε α) : Within allowed (.done result) := by
  intro trace outcome run event member
  obtain ⟨rfl, rfl⟩ := runs_done_iff.mp run
  cases member

theorem ofExcept (result : Except ε α) :
    Within allowed (ofExcept result : Program sig ε α) :=
  done result

theorem command {op : sig.Op} {read : sig.Reply op → Except ε α} (isAllowed : allowed op) :
    Within allowed (command op read) := by
  intro trace outcome run event member
  obtain ⟨reply, rfl, _⟩ := runs_command_iff.mp run
  cases List.mem_singleton.mp member
  exact isAllowed

theorem bind {first : Program sig ε α} {next : α → Program sig ε β}
    (head : Within allowed first) (rest : ∀ value, Within allowed (next value)) :
    Within allowed (first >>= next) := by
  intro trace outcome run event member
  rcases runs_bind_iff.mp run with ⟨value, before, after, rfl, start, finish⟩ | ⟨fault, start, _⟩
  · rcases List.mem_append.mp member with inHead | inRest
    · exact head _ _ start event inHead
    · exact rest value _ _ finish event inRest
  · exact head _ _ start event member

theorem attempt {program : Program sig ε α} (inner : Within allowed program) :
    Within allowed (attempt program) := by
  intro trace outcome run event member
  obtain ⟨result, start, _⟩ := runs_attempt_iff.mp run
  exact inner _ _ start event member

theorem catching {program : Program sig ε α} {handler : ε → Program sig ε α}
    (inner : Within allowed program) (handled : ∀ fault, Within allowed (handler fault)) :
    Within allowed (catching program handler) := by
  apply bind (attempt inner)
  intro outcome
  cases outcome with
  | ok value => exact done (.ok value)
  | error fault => exact handled fault

theorem mono {wider : sig.Op → Prop} {program : Program sig ε α}
    (inner : Within allowed program) (implies : ∀ op, allowed op → wider op) :
    Within wider program := by
  intro trace outcome run event member
  exact implies event.op (inner _ _ run event member)

end Within

/-- An event that the first part cannot perform comes from the rest of a sequence. -/
theorem Runs.skip {allowed : sig.Op → Prop} {first : Program sig ε α}
    {next : α → Program sig ε β} {outcome : Except ε β} {trace : List (Event sig)}
    (run : Runs (first >>= next) trace outcome) (quiet : Within allowed first)
    {event : Event sig} (member : event ∈ trace) (loud : ¬ allowed event.op) :
    ∃ value before after, trace = before ++ after ∧ Runs first before (.ok value) ∧
      Runs (next value) after outcome ∧ event ∈ after := by
  rcases runs_bind_iff.mp run with ⟨value, before, after, rfl, start, finish⟩ | ⟨fault, start, _⟩
  · rcases List.mem_append.mp member with inHead | inRest
    · exact absurd (quiet _ _ start event inHead) loud
    · exact ⟨value, before, after, rfl, start, finish, inRest⟩
  · exact absurd (quiet _ _ start event member) loud

/-- An event that the rest of a sequence cannot perform comes from the first part. -/
theorem Runs.of_first {allowed : sig.Op → Prop} {first : Program sig ε α}
    {next : α → Program sig ε β} {outcome : Except ε β} {trace : List (Event sig)}
    (run : Runs (first >>= next) trace outcome) (quiet : ∀ value, Within allowed (next value))
    {event : Event sig} (member : event ∈ trace) (loud : ¬ allowed event.op) :
    ∃ before after result, trace = before ++ after ∧ Runs first before result ∧ event ∈ before := by
  rcases runs_bind_iff.mp run with ⟨value, before, after, rfl, start, finish⟩ | ⟨fault, start, _⟩
  · rcases List.mem_append.mp member with inFirst | inRest
    · exact ⟨before, after, .ok value, rfl, start, inFirst⟩
    · exact absurd (quiet value _ _ finish event inRest) loud
  · exact ⟨trace, [], .error fault, (List.append_nil trace).symm, start, member⟩

end Program

end Effect
