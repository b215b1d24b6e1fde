import S2sStack.Effect.Program
import Mathlib.Data.List.Basic

set_option autoImplicit false

/- Interleavings of concurrent programs: one global history, and the part of it that
each thread performed. -/
namespace Effect

variable {sig : Signature} {Thread : Type}

/-- An event of one thread at one time. -/
structure Step (sig : Signature) (Thread : Type) where
  thread : Thread
  time : Nat
  event : Event sig

abbrev History (sig : Signature) (Thread : Type) := List (Step sig Thread)

namespace History

/-- Time never goes back along a history. -/
def Ordered (history : History sig Thread) : Prop :=
  history.Pairwise (fun earlier later => earlier.time ≤ later.time)

section Ordered

variable {history before after : History sig Thread} {step other : Step sig Thread}

theorem Ordered.before_le (ordered : history.Ordered) (split : history = before ++ step :: after)
    (member : other ∈ before) : other.time ≤ step.time := by
  rw [Ordered, split, List.pairwise_append] at ordered
  exact ordered.2.2 other member step List.mem_cons_self

theorem Ordered.le_after (ordered : history.Ordered) (split : history = before ++ step :: after)
    (member : other ∈ after) : step.time ≤ other.time := by
  rw [Ordered, split, List.pairwise_append] at ordered
  exact List.rel_of_pairwise_cons ordered.2.1 member

end Ordered

/-- Of two places in a list one comes first, or they are one place. -/
theorem compare_splits {Entry : Type} {before after front rest : List Entry} {one other : Entry}
    (same : before ++ one :: after = front ++ other :: rest) :
    (∃ middle, front = before ++ one :: middle ∧ after = middle ++ other :: rest) ∨
      (before = front ∧ one = other ∧ after = rest) ∨
      ∃ middle, before = front ++ other :: middle ∧ rest = middle ++ one :: after := by
  obtain ⟨middle, parts, ends⟩ | ⟨middle, parts, ends⟩ := List.append_eq_append_iff.mp same
  · cases middle with
    | nil =>
        obtain ⟨rfl, rfl⟩ := List.cons.inj ends
        exact .inr (.inl ⟨by simpa using parts.symm, rfl, rfl⟩)
    | cons first more =>
        obtain ⟨rfl, rfl⟩ := List.cons.inj ends
        exact .inl ⟨more, parts, rfl⟩
  · cases middle with
    | nil =>
        obtain ⟨rfl, rfl⟩ := List.cons.inj ends
        exact .inr (.inl ⟨by simpa using parts, rfl, rfl⟩)
    | cons first more =>
        obtain ⟨rfl, rfl⟩ := List.cons.inj ends
        exact .inr (.inr ⟨more, parts, rfl⟩)

/-- A part of a list that has an entry has everything before the first such entry. -/
theorem before_first_subset {Entry : Type} {part rest front after : List Entry} {entry : Entry}
    (member : entry ∈ part) (first : entry ∉ front)
    (whole : part ++ rest = front ++ entry :: after) : front ⊆ part := by
  obtain ⟨before, behind, rfl⟩ := List.append_of_mem member
  rw [List.append_assoc, List.cons_append] at whole
  obtain ⟨between, rfl, _⟩ | ⟨rfl, _, _⟩ | ⟨between, rfl, _⟩ := compare_splits whole
  · exact absurd (by simp) first
  · exact List.subset_append_left _ _
  · rw [List.append_assoc]
    exact List.subset_append_left _ _

theorem prefix_of_split {Entry : Type} {before front rest : List Entry} {last other : Entry}
    (parts : before ++ [last] = front ++ other :: rest) : front <+: before := by
  obtain ⟨middle, -, impossible⟩ | ⟨rfl, -, -⟩ | ⟨middle, rfl, -⟩ := compare_splits parts
  · simp at impossible
  · exact List.prefix_refl _
  · exact List.prefix_append _ _

/-- The places of a list of two. -/
theorem split_pair {Entry : Type} {first second entry : Entry} {before after : List Entry}
    (split : [first, second] = before ++ entry :: after) :
    (before = [] ∧ entry = first) ∨ (before = [first] ∧ entry = second) := by
  cases before with
  | nil =>
      cases split
      exact .inl ⟨rfl, rfl⟩
  | cons head rest =>
      cases rest with
      | nil =>
          cases split
          exact .inr ⟨rfl, rfl⟩
      | cons next more => simp at split

/-- The last of a list is the last of what it ends with. -/
theorem mem_of_concat {Entry : Type} {start rest front : List Entry} {first last : Entry}
    (ends : start ++ first :: rest = front ++ [last]) : last ∈ first :: rest := by
  have same := congrArg List.getLast? ends
  rw [List.getLast?_append_of_ne_nil _ (List.cons_ne_nil first rest), List.getLast?_concat] at same
  exact List.mem_of_getLast? same

variable [DecidableEq Thread]

/-- The steps of one thread. -/
def steps (history : History sig Thread) (thread : Thread) : History sig Thread :=
  history.filter (fun step => step.thread = thread)

/-- The steps of all other threads. -/
def others (history : History sig Thread) (thread : Thread) : History sig Thread :=
  history.filter (fun step => !decide (step.thread = thread))

/-- What one thread has performed. -/
def trace (history : History sig Thread) (thread : Thread) : List (Event sig) :=
  (history.steps thread).map Step.event

theorem mem_steps {history : History sig Thread} {thread : Thread} {step : Step sig Thread} :
    step ∈ history.steps thread ↔ step ∈ history ∧ step.thread = thread := by
  simp only [steps, List.mem_filter, decide_eq_true_eq]

theorem mem_trace {history : History sig Thread} {thread : Thread} {event : Event sig} :
    event ∈ history.trace thread ↔
      ∃ step ∈ history, step.thread = thread ∧ step.event = event := by
  simp only [trace, List.mem_map, mem_steps]
  constructor
  · rintro ⟨step, ⟨member, own⟩, same⟩
    exact ⟨step, member, own, same⟩
  · rintro ⟨step, member, own, same⟩
    exact ⟨step, ⟨member, own⟩, same⟩

/-- What a thread has read of the clock before a step is no later than the step. -/
theorem Ordered.reading_le {history before after : History sig Thread} (ordered : history.Ordered)
    {reading : Nat → Event sig}
    (clock : ∀ step ∈ history, ∀ moment, step.event = reading moment → moment = step.time)
    {step : Step sig Thread} (split : history = before ++ step :: after) {thread : Thread}
    {moment : Nat} (member : reading moment ∈ trace before thread) : moment ≤ step.time := by
  obtain ⟨earlier, inside, -, performed⟩ := mem_trace.mp member
  have whole : earlier ∈ history := by simp [split, inside]
  rw [clock earlier whole moment performed]
  exact ordered.before_le split inside

theorem mem_trace_of_mem {history : History sig Thread} {step : Step sig Thread}
    (member : step ∈ history) : step.event ∈ history.trace step.thread :=
  mem_trace.mpr ⟨step, member, rfl, rfl⟩

/-- A thread has a trace wherever it has performed a step. -/
theorem trace_ne_nil {history : History sig Thread} {step : Step sig Thread} {thread : Thread}
    (member : step ∈ history) (own : step.thread = thread) : trace history thread ≠ [] := by
  rw [← own]
  exact List.ne_nil_of_mem (mem_trace_of_mem member)

theorem trace_append (first second : History sig Thread) (thread : Thread) :
    History.trace (first ++ second) thread =
      History.trace first thread ++ History.trace second thread := by
  simp only [trace, steps, List.filter_append, List.map_append]

/-- A clock that is read before a step shows no more than one that is read behind it. -/
theorem Ordered.reading_le_reading {history before between after : History sig Thread}
    (ordered : history.Ordered) {reading : Nat → Event sig}
    (clock : ∀ step ∈ history, ∀ moment, step.event = reading moment → moment = step.time)
    {step : Step sig Thread} (split : history = before ++ step :: (between ++ after))
    {thread other : Thread} {moment later : Nat} (first : reading moment ∈ trace before thread)
    (second : reading later ∈ trace between other) : moment ≤ later := by
  obtain ⟨ticking, inside, -, ticks⟩ := mem_trace.mp second
  have whole : ticking ∈ history := by simp [split, inside]
  rw [clock ticking whole later ticks]
  obtain ⟨early, late, rfl⟩ := List.append_of_mem inside
  have clockSplit : history = (before ++ step :: early) ++ ticking :: (late ++ after) := by
    simp [split]
  apply ordered.reading_le clock clockSplit
  rw [trace_append]
  exact List.mem_append_left _ first

theorem trace_of_thread (events : List (Event sig)) (thread other : Thread) (time : Nat) :
    History.trace (events.map (Step.mk thread time)) other =
      if thread = other then events else [] := by
  by_cases same : thread = other <;>
    simp [trace, steps, List.filter_map, Function.comp_def, same]

theorem trace_cons (step : Step sig Thread) (rest : History sig Thread) (thread : Thread) :
    History.trace (step :: rest) thread =
      if step.thread = thread then step.event :: History.trace rest thread
      else History.trace rest thread := by
  by_cases own : step.thread = thread <;> simp [trace, steps, own]

/-- The step of an event, and what its thread has performed before and after it. -/
theorem split_of_trace {history : History sig Thread} {thread : Thread}
    {first second : List (Event sig)} {event : Event sig}
    (shape : history.trace thread = first ++ event :: second) :
    ∃ before step after, history = before ++ step :: after ∧ step.thread = thread ∧
      step.event = event ∧ History.trace before thread = first ∧
      History.trace after thread = second := by
  induction history generalizing first with
  | nil => simp [trace, steps] at shape
  | cons step rest ih =>
      rw [trace_cons] at shape
      split at shape
      · next own =>
          cases first with
          | nil =>
              injection shape with here there
              exact ⟨[], step, rest, rfl, own, here, rfl, there⟩
          | cons head tail =>
              injection shape with here there
              obtain ⟨before, found, after, rfl, same, occurs, left, right⟩ := ih there
              refine ⟨step :: before, found, after, rfl, same, occurs, ?_, right⟩
              rw [trace_cons, if_pos own, here, left]
      · next other =>
          obtain ⟨before, found, after, rfl, same, occurs, left, right⟩ := ih shape
          refine ⟨step :: before, found, after, rfl, same, occurs, ?_, right⟩
          rw [trace_cons, if_neg other, left]

/-- What comes last in a finished trace is the last step of its thread. -/
theorem last_step {before after : History sig Thread} {step : Step sig Thread}
    {history : History sig Thread} {thread : Thread} {front : List (Event sig)} {event : Event sig}
    (split : history = before ++ step :: after) (own : step.thread = thread)
    (ends : History.trace after thread = []) (whole : history.trace thread = front ++ [event]) :
    History.trace before thread = front ∧ step.event = event := by
  rw [split, trace_append, trace_cons, if_pos own, ends] at whole
  have parts := List.append_inj' whole rfl
  exact ⟨parts.1, List.singleton_inj.mp parts.2⟩

/-- A part of a history is a run in progress of every thread that the whole one is. -/
theorem performs_prefix {ε α : Type} {program : Program sig ε α} {thread : Thread}
    {first second : History sig Thread}
    (performs : program.Performs (History.trace (first ++ second) thread)) :
    program.Performs (History.trace first thread) := by
  obtain ⟨rest, result, run⟩ := performs
  rw [trace_append, List.append_assoc] at run
  exact ⟨_, result, run⟩

theorem steps_others (history : History sig Thread) {thread other : Thread}
    (different : thread ≠ other) :
    History.steps (history.others thread) other = history.steps other := by
  unfold steps others
  rw [List.filter_filter]
  apply List.filter_congr
  intro step _
  by_cases own : step.thread = other
  · have elsewhere : step.thread ≠ thread := by
      intro same
      exact different (same.symm.trans own)
    simp [own, Ne.symm different]
  · simp [own]

theorem steps_others_self (history : History sig Thread) (thread : Thread) :
    History.steps (history.others thread) thread = [] := by
  unfold steps others
  rw [List.filter_filter, List.filter_eq_nil_iff]
  intro step _
  simp

theorem countP_split (history : History sig Thread) (thread : Thread)
    (chosen : Step sig Thread → Bool) :
    history.countP chosen =
      (history.steps thread).countP chosen + (history.others thread).countP chosen := by
  unfold steps others
  exact List.countP_eq_countP_filter_add history chosen _

/-- What each thread does at most as often as something else, all threads together do
at most as often. -/
theorem countP_le_of_steps (history : History sig Thread) (fewer more : Step sig Thread → Bool)
    (bounded : ∀ thread, (history.steps thread).countP fewer ≤ (history.steps thread).countP more) :
    history.countP fewer ≤ history.countP more := by
  induction size : history.length using Nat.strongRecOn generalizing history with
  | ind length ih =>
      cases history with
      | nil => simp
      | cons first rest =>
          let whole : History sig Thread := first :: rest
          have shorter : (History.others whole first.thread).length < length := by
            have dropped : History.others whole first.thread = History.others rest first.thread := by
              simp [whole, others]
            have bound : (History.others rest first.thread).length ≤ rest.length :=
              List.length_filter_le _ _
            rw [dropped, ← size, List.length_cons]
            omega
          have remaining := ih _ shorter (History.others whole first.thread) (by
            intro thread
            by_cases same : first.thread = thread
            · subst same
              simp [steps_others_self]
            · rw [steps_others whole same]
              exact bounded thread) rfl
          rw [countP_split whole first.thread fewer, countP_split whole first.thread more]
          exact Nat.add_le_add (bounded first.thread) remaining

/-- Occurrences in two threads are different occurrences. -/
theorem countP_two_threads (history : History sig Thread) (chosen : Step sig Thread → Bool)
    {first second : Thread} (different : first ≠ second) :
    (history.steps first).countP chosen + (history.steps second).countP chosen ≤
      history.countP chosen := by
  rw [countP_split history first chosen, ← steps_others history different]
  exact Nat.add_le_add_left (List.Sublist.countP_le List.filter_sublist) _

omit [DecidableEq Thread] in
/-- Two different steps of a history come one after the other. -/
theorem exists_split_two {history : History sig Thread} {first second : Step sig Thread}
    (inFirst : first ∈ history) (inSecond : second ∈ history) (different : first ≠ second) :
    (∃ before between after, history = before ++ first :: between ++ second :: after) ∨
      (∃ before between after, history = before ++ second :: between ++ first :: after) := by
  obtain ⟨before, rest, rfl⟩ := List.append_of_mem inFirst
  rcases List.mem_append.mp inSecond with early | late
  · obtain ⟨start, middle, rfl⟩ := List.append_of_mem early
    exact .inr ⟨start, middle, rest, by simp⟩
  · have after : second ∈ rest := (List.mem_cons.mp late).resolve_left different.symm
    obtain ⟨middle, last, rfl⟩ := List.append_of_mem after
    exact .inl ⟨before, middle, last, by simp⟩

end History

end Effect
