import S2sStack.Effect.History

set_option autoImplicit false

/- Where a value comes from: what an event of a trace needs to come after, and the last write
to a variable. -/
namespace Effect

variable {sig : Signature}

/-- Every event comes after what it needs. -/
def Preceded (needs : List (Event sig) → Event sig → Prop) (trace : List (Event sig)) : Prop :=
  ∀ before event after, trace = before ++ event :: after → needs before event

namespace Preceded

variable {needs : List (Event sig) → Event sig → Prop} {first second : List (Event sig)}

theorem nil : Preceded needs [] := by
  intro before event after split
  simp at split

/-- An event that needs nothing. -/
theorem single {event : Event sig} (free : needs [] event) : Preceded needs [event] := by
  intro before other after split
  cases before with
  | nil =>
      cases split
      exact free
  | cons _ _ => simp at split

/-- A second part may use what the first one has left. -/
theorem append_after (one : Preceded needs first)
    (other : Preceded (fun before event => needs (first ++ before) event) second) :
    Preceded needs (first ++ second) := by
  intro before event after split
  obtain ⟨middle, rfl, same⟩ | ⟨middle, rfl, same⟩ := List.append_eq_append_iff.mp split
  · exact other middle event after same
  · cases middle with
    | nil => simpa using other [] event after same.symm
    | cons _ rest =>
        cases same
        exact one before event rest rfl

/-- What comes before a part of a trace takes nothing away. -/
theorem append (grows : ∀ earlier before event, needs before event → needs (earlier ++ before) event)
    (one : Preceded needs first) (other : Preceded needs second) :
    Preceded needs (first ++ second) := by
  apply append_after one
  intro before event after split
  exact grows first before event (other before event after split)

theorem of_append (whole : Preceded needs (first ++ second)) : Preceded needs first := by
  rintro before event after rfl
  exact whole before event (after ++ second) (by simp)

end Preceded

/-- In a history an event comes after what it needs of its own thread. -/
theorem History.needs_of_preceded {Thread : Type} [DecidableEq Thread]
    {needs : List (Event sig) → Event sig → Prop} {history before after : History sig Thread}
    {step : Step sig Thread} (preceded : Preceded needs (history.trace step.thread))
    (split : history = before ++ step :: after) :
    needs (History.trace before step.thread) step.event := by
  apply preceded _ _ (History.trace after step.thread)
  have parts : history = before ++ ([step] ++ after) := split
  have own : History.trace [step] step.thread = [step.event] := by
    simp [History.trace, History.steps]
  rw [parts, History.trace_append, History.trace_append, own, List.singleton_append]

/-- After this past the program performs no event without what it needs, and what it returns
has a source in the trace. -/
def Program.Provides {ε α : Type} (needs : List (Event sig) → Event sig → Prop)
    (past : List (Event sig)) (program : Program sig ε α) (gives : List (Event sig) → α → Prop) :
    Prop :=
  ∀ trace outcome, Program.Runs program trace outcome →
    Preceded (fun before event => needs (past ++ before) event) trace ∧
      ∀ value, outcome = .ok value → gives (past ++ trace) value

namespace Program.Provides

variable {ε α β : Type} {needs : List (Event sig) → Event sig → Prop} {past : List (Event sig)}
  {gives : List (Event sig) → α → Prop}

theorem done {result : Except ε α} (given : ∀ value, result = .ok value → gives past value) :
    Provides needs past (.done result) gives := by
  intro trace outcome run
  obtain ⟨rfl, rfl⟩ := runs_done_iff.mp run
  refine ⟨.nil, fun value returned => ?_⟩
  rw [List.append_nil]
  exact given value returned

theorem command {op : sig.Op} {read : sig.Reply op → Except ε α}
    (free : ∀ reply, needs past ⟨op, reply⟩)
    (given : ∀ reply value, read reply = .ok value → gives (past ++ [⟨op, reply⟩]) value) :
    Provides needs past (Program.command op read) gives := by
  intro trace outcome run
  obtain ⟨reply, rfl, rfl⟩ := runs_command_iff.mp run
  refine ⟨.single ?_, given reply⟩
  rw [List.append_nil]
  exact free reply

theorem bind {first : Program sig ε α} {next : α → Program sig ε β}
    {after : List (Event sig) → β → Prop} (head : Provides needs past first gives)
    (rest : ∀ trace value, gives (past ++ trace) value →
      Provides needs (past ++ trace) (next value) after) :
    Provides needs past (first >>= next) after := by
  intro trace outcome run
  obtain ⟨value, early, late, rfl, start, finish⟩ | ⟨fault, start, rfl⟩ := runs_bind_iff.mp run
  · obtain ⟨earlyPreceded, given⟩ := head early _ start
    obtain ⟨latePreceded, returned⟩ := rest early value (given value rfl) late outcome finish
    simp only [List.append_assoc] at latePreceded returned
    exact ⟨earlyPreceded.append_after latePreceded, returned⟩
  · exact ⟨(head trace _ start).1, fun _ impossible => by cases impossible⟩

theorem attempt {program : Program sig ε α} (inner : Provides needs past program gives) :
    Provides needs past (Program.attempt program)
      (fun trace result => ∀ value, result = .ok value → gives trace value) := by
  intro trace outcome run
  obtain ⟨result, start, rfl⟩ := runs_attempt_iff.mp run
  obtain ⟨preceded, given⟩ := inner trace result start
  refine ⟨preceded, ?_⟩
  rintro _ ⟨⟩
  exact given

/-- A handler may use whatever the handled program has left. -/
theorem catching {program : Program sig ε α} {handler : ε → Program sig ε α}
    (inner : Provides needs past program gives)
    (handled : ∀ trace fault, Provides needs (past ++ trace) (handler fault) gives) :
    Provides needs past (Program.catching program handler) gives := by
  intro trace outcome run
  obtain ⟨value, start, rfl⟩ | ⟨fault, early, late, rfl, start, finish⟩ := runs_catching_iff.mp run
  · exact inner trace _ start
  · obtain ⟨earlyPreceded, -⟩ := inner early _ start
    obtain ⟨latePreceded, returned⟩ := handled early fault late outcome finish
    simp only [List.append_assoc] at latePreceded returned
    exact ⟨earlyPreceded.append_after latePreceded, returned⟩

/-- A program that performs nothing that needs anything. -/
theorem of_within {allowed : sig.Op → Prop} {program : Program sig ε α}
    (within : Within allowed program)
    (free : ∀ before event, allowed event.op → needs before event) :
    Provides needs past program (fun _ _ => True) := by
  intro trace outcome run
  refine ⟨?_, fun _ _ => trivial⟩
  rintro before event after rfl
  exact free _ _ (within _ _ run event (by simp))

/-- A run from the start, also one in progress, has everything it needs. -/
theorem preceded {program : Program sig ε α} (provides : Provides needs [] program gives)
    {trace : List (Event sig)} (performs : program.Performs trace) : Preceded needs trace := by
  obtain ⟨later, outcome, run⟩ := performs
  exact (provides _ _ run).1.of_append

end Program.Provides

section Held

variable {Entry Value : Type}

/-- What a variable holds after these entries: the last value written, if any is. -/
def held (writes : Entry → Option Value) (initial : Value) (log : List Entry) : Value :=
  log.foldl (fun value entry => (writes entry).getD value) initial

variable {writes : Entry → Option Value} {initial value : Value} {log : List Entry}

theorem held_append (earlier later : List Entry) :
    held writes initial (earlier ++ later) = held writes (held writes initial earlier) later :=
  List.foldl_append

theorem held_of_quiet (quiet : ∀ entry ∈ log, writes entry = none) :
    held writes initial log = initial := by
  induction log generalizing initial with
  | nil => rfl
  | cons first rest ih =>
      change held writes ((writes first).getD initial) rest = initial
      rw [quiet first List.mem_cons_self, Option.getD_none]
      exact ih fun entry member => quiet entry (List.mem_cons_of_mem _ member)

/-- A value that is held has been written, if it is not the one from the start. -/
theorem held_written (found : held writes initial log = value) :
    (initial = value ∧ ∀ entry ∈ log, writes entry = none) ∨
      ∃ entry ∈ log, writes entry = some value := by
  induction log generalizing initial with
  | nil => exact .inl ⟨found, fun _ member => absurd member List.not_mem_nil⟩
  | cons first rest ih =>
      change held writes ((writes first).getD initial) rest = value at found
      obtain ⟨start, quiet⟩ | ⟨entry, member, written⟩ := ih found
      · cases now : writes first with
        | none =>
            rw [now, Option.getD_none] at start
            refine .inl ⟨start, ?_⟩
            intro entry member
            obtain rfl | later := List.mem_cons.mp member
            · exact now
            · exact quiet entry later
        | some other =>
            rw [now, Option.getD_some] at start
            exact .inr ⟨first, List.mem_cons_self, now.trans (congrArg some start)⟩
      · exact .inr ⟨entry, List.mem_cons_of_mem _ member, written⟩

/-- The first write in a log, where there is one. -/
theorem exists_first_write (writes : Entry → Option Value) (log : List Entry) :
    (∀ entry ∈ log, writes entry = none) ∨
      ∃ early entry late, log = early ++ entry :: late ∧ (writes entry).isSome ∧
        ∀ other ∈ early, writes other = none := by
  induction log with
  | nil => exact .inl fun _ member => absurd member List.not_mem_nil
  | cons first rest ih =>
      cases now : writes first with
      | some value => exact .inr ⟨[], first, rest, rfl, by simp [now], by simp⟩
      | none =>
          obtain quiet | ⟨early, entry, late, rfl, wrote, quiet⟩ := ih
          · left
            intro entry member
            obtain rfl | later := List.mem_cons.mp member
            · exact now
            · exact quiet entry later
          · refine .inr ⟨first :: early, entry, late, rfl, wrote, ?_⟩
            intro other member
            obtain rfl | later := List.mem_cons.mp member
            · exact now
            · exact quiet other later

/-- The last write to a variable, where it has been written. -/
theorem held_last_write (found : held writes initial log = value)
    (written : ¬ ∀ entry ∈ log, writes entry = none) :
    ∃ earlier entry later, log = earlier ++ entry :: later ∧ writes entry = some value ∧
      ∀ other ∈ later, writes other = none := by
  induction log generalizing initial with
  | nil => simp at written
  | cons first rest ih =>
      change held writes ((writes first).getD initial) rest = value at found
      by_cases quiet : ∀ entry ∈ rest, writes entry = none
      · rw [held_of_quiet quiet] at found
        cases now : writes first with
        | none =>
            exfalso
            apply written
            intro entry member
            obtain rfl | later := List.mem_cons.mp member
            · exact now
            · exact quiet entry later
        | some other =>
            rw [now, Option.getD_some] at found
            exact ⟨[], first, rest, rfl, by rw [now, found], quiet⟩
      · obtain ⟨earlier, entry, later, rfl, wrote, silent⟩ := ih found quiet
        exact ⟨first :: earlier, entry, later, rfl, wrote, silent⟩

end Held

section Along

variable {Entry : Type} {holds : List Entry → Entry → Prop}

/-- Each entry of a list meets a condition on what comes before it. -/
def Along (holds : List Entry → Entry → Prop) : List Entry → List Entry → Prop
  | _, [] => True
  | past, entry :: rest => holds past entry ∧ Along holds (past ++ [entry]) rest

theorem Along.at_split {past log before after : List Entry} {entry : Entry}
    (along : Along holds past log) (split : log = before ++ entry :: after) :
    holds (past ++ before) entry := by
  subst split
  induction before generalizing past with
  | nil =>
      rw [List.append_nil]
      exact along.1
  | cons first rest ih => simpa using ih along.2

end Along

end Effect
