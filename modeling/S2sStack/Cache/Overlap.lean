import S2sStack.Cache.Memo
import S2sStack.Effect.Evolution
import S2sStack.Effect.History

set_option autoImplicit false

/- A memo table that several calls use at once: a computation takes time, and what it answers is
stored when it returns. -/
namespace Memo

open Effect (Evolves evolves_nil_iff evolves_cons_iff evolves_append_iff)

variable {Input Key Answer Fault : Type}

/-- What happens at the table. -/
inductive Turn (Input Answer Fault : Type) where
  /-- the call is served an entry -/
  | found (call : Call Input) (answer : Answer)
  /-- there is none for it -/
  | began (call : Call Input)
  /-- it has been computed for the call at `moment`, and returns `now` -/
  | ended (call : Call Input) (moment now : Nat) (result : Except Fault Answer)

def Turn.time : Turn Input Answer Fault → Nat
  | .found call _ => call.now
  | .began call => call.now
  | .ended _ _ now _ => now

/-- The turn gives this result to a call with this input. -/
def Turn.Gives (input : Input) (result : Except Fault (Served Answer)) :
    Turn Input Answer Fault → Prop
  | .found call answer => call.input = input ∧ result = .ok (.stored answer)
  | .began _ => False
  | .ended call _ _ computed => call.input = input ∧ result = computed.map .computed

/-- The table, and the calls whose computation has not returned. -/
structure Shared (Input Key Answer : Type) where
  table : Table Key Answer
  running : List (Call Input)

def Shared.empty : Shared Input Key Answer := ⟨Table.empty, []⟩

section Turns

variable [DecidableEq Key]

/-- One turn. A computation answers for a moment between its beginning and its return, and the
entry of an answer is as old as its return. -/
inductive Takes (spec : Spec Input Key Answer Fault) :
    Shared Input Key Answer → Turn Input Answer Fault → Shared Input Key Answer → Prop
  | found {shared : Shared Input Key Answer} {call : Call Input} {entry : Entry Answer} :
      live spec.lifetime call.now (shared.table (spec.key call.input)) = some entry →
      Takes spec shared (.found call entry.answer) shared
  | began {shared : Shared Input Key Answer} {call : Call Input} :
      live spec.lifetime call.now (shared.table (spec.key call.input)) = none →
      Takes spec shared (.began call) { shared with running := call :: shared.running }
  | answered {shared : Shared Input Key Answer} {call : Call Input} {others : List (Call Input)}
      {moment now : Nat} {answer : Answer} : shared.running.Perm (call :: others) →
      call.now ≤ moment → moment ≤ now → spec.compute moment call.input = .ok answer →
      Takes spec shared (.ended call moment now (.ok answer))
        ⟨Function.update shared.table (spec.key call.input) (some ⟨answer, now⟩), others⟩
  | failed {shared : Shared Input Key Answer} {call : Call Input} {others : List (Call Input)}
      {moment now : Nat} {fault : Fault} : shared.running.Perm (call :: others) →
      call.now ≤ moment → moment ≤ now → spec.compute moment call.input = .error fault →
      Takes spec shared (.ended call moment now (.error fault)) ⟨shared.table, others⟩

/-- A log of turns, in the order of their times, from an empty table. -/
structure Log (spec : Spec Input Key Answer Fault) where
  turns : List (Turn Input Answer Fault)
  last : Shared Input Key Answer
  evolves : Evolves (Takes spec) Shared.empty turns last
  ordered : turns.Pairwise fun earlier later => earlier.time ≤ later.time

/-- No computation takes longer than this. -/
def Log.Prompt {spec : Spec Input Key Answer Fault} (log : Log spec) (latency : Nat) : Prop :=
  ∀ call moment now result, .ended call moment now result ∈ log.turns → now ≤ call.now + latency

variable {spec : Spec Input Key Answer Fault}

/-- What a turn stores. -/
theorem Takes.stores {start final : Shared Input Key Answer} {turn : Turn Input Answer Fault}
    (takes : Takes spec start turn final) {key : Key} {entry : Entry Answer}
    (found : final.table key = some entry) :
    start.table key = some entry ∨ ∃ call moment,
      turn = .ended call moment entry.storedAt (.ok entry.answer) ∧ spec.key call.input = key := by
  cases takes with
  | found | began | failed => exact .inl found
  | @answered call others moment now answer =>
      by_cases same : key = spec.key call.input
      · subst same
        simp only [Function.update_self, Option.some.injEq] at found
        subst found
        exact .inr ⟨call, moment, rfl, rfl⟩
      · simp only [ne_eq, same, not_false_eq_true, Function.update_of_ne] at found
        exact .inl found

/-- Every entry is the answer of a computation that has returned. -/
theorem stored_of_evolves {turns : List (Turn Input Answer Fault)} {final : Shared Input Key Answer}
    (evolves : Evolves (Takes spec) Shared.empty turns final) {key : Key} {entry : Entry Answer}
    (found : final.table key = some entry) :
    ∃ call moment, .ended call moment entry.storedAt (.ok entry.answer) ∈ turns ∧
      spec.key call.input = key := by
  induction turns using List.reverseRecOn generalizing final with
  | nil =>
      rw [evolves_nil_iff] at evolves
      subst evolves
      cases found
  | append_singleton earlier turn ih =>
      obtain ⟨middle, before, last⟩ := evolves_append_iff.mp evolves
      obtain ⟨_, takes, done⟩ := evolves_cons_iff.mp last
      rw [evolves_nil_iff] at done
      subst done
      rcases takes.stores found with older | ⟨call, moment, rfl, same⟩
      · obtain ⟨call, moment, member, same⟩ := ih before older
        exact ⟨call, moment, List.mem_append_left _ member, same⟩
      · exact ⟨call, moment, by simp, same⟩

namespace Log

variable {log : Log spec}

/-- A turn, and the table as it finds it. -/
theorem takes_of_split {before after : List (Turn Input Answer Fault)}
    {turn : Turn Input Answer Fault} (split : log.turns = before ++ turn :: after) :
    ∃ start final, Evolves (Takes spec) Shared.empty before start ∧
      Takes spec start turn final := by
  have evolves := log.evolves
  rw [split] at evolves
  obtain ⟨start, first, rest⟩ := evolves_append_iff.mp evolves
  obtain ⟨final, takes, _⟩ := evolves_cons_iff.mp rest
  exact ⟨start, final, first, takes⟩

/-- What returns has been computed since its call. -/
theorem computed {call : Call Input} {moment now : Nat} {result : Except Fault Answer}
    (member : .ended call moment now result ∈ log.turns) :
    call.now ≤ moment ∧ moment ≤ now ∧ spec.compute moment call.input = result := by
  obtain ⟨before, after, split⟩ := List.append_of_mem member
  obtain ⟨_, _, _, takes⟩ := log.takes_of_split split
  cases takes with
  | answered _ begun back computed => exact ⟨begun, back, computed⟩
  | failed _ begun back computed => exact ⟨begun, back, computed⟩

/-- What is served has been stored before, not longer ago than an entry lives. -/
theorem stored {call : Call Input} {answer : Answer}
    (member : .found call answer ∈ log.turns) :
    ∃ source moment storedAt, .ended source moment storedAt (.ok answer) ∈ log.turns ∧
      spec.key source.input = spec.key call.input ∧ storedAt ≤ call.now ∧
      call.now < storedAt + spec.lifetime := by
  obtain ⟨before, after, split⟩ := List.append_of_mem member
  obtain ⟨start, _, first, takes⟩ := log.takes_of_split split
  cases takes with
  | @found _ entry usable =>
      obtain ⟨present, young⟩ := live_eq_some.mp usable
      obtain ⟨source, moment, inside, same⟩ := stored_of_evolves first present
      have ordered := log.ordered
      rw [split, List.pairwise_append] at ordered
      have order : entry.storedAt ≤ call.now := ordered.2.2 _ inside _ List.mem_cons_self
      refine ⟨source, moment, entry.storedAt, ?_, same, order, by omega⟩
      rw [split]
      exact List.mem_append_left _ inside

/-- Every answer was right for its key at some moment, which lies back at most by the lifetime of
an entry and the time that its computation has taken. -/
theorem right_lately {latency : Nat} (prompt : log.Prompt latency)
    {turn : Turn Input Answer Fault} (member : turn ∈ log.turns) {input : Input}
    {served : Served Answer} (gives : turn.Gives input (.ok served)) :
    ∃ source moment storedAt, .ended source moment storedAt (.ok served.answer) ∈ log.turns ∧
      spec.key source.input = spec.key input ∧
      spec.compute moment source.input = .ok served.answer ∧ moment ≤ turn.time ∧
      turn.time < moment + latency + max spec.lifetime 1 := by
  cases turn with
  | found call answer =>
      obtain ⟨rfl, same⟩ := gives
      cases same
      obtain ⟨source, moment, storedAt, inside, same, order, young⟩ := log.stored member
      obtain ⟨begun, back, computed⟩ := log.computed inside
      have short := prompt _ _ _ _ inside
      refine ⟨source, moment, storedAt, inside, same, computed, ?_, ?_⟩
      · exact Nat.le_trans back order
      · change call.now < _
        omega
  | began call => exact gives.elim
  | ended call moment now result =>
      obtain ⟨rfl, same⟩ := gives
      cases result with
      | error fault => cases same
      | ok answer =>
          cases same
          obtain ⟨begun, back, computed⟩ := log.computed member
          have short := prompt _ _ _ _ member
          refine ⟨call, moment, now, member, rfl, computed, back, ?_⟩
          change now < _
          omega

end Log

/-- Calls that wait for one another are turns that do not overlap. -/
theorem ask_takes (spec : Spec Input Key Answer Fault) (table : Table Key Answer)
    (call : Call Input) :
    ∃ turns, Evolves (Takes spec) ⟨table, []⟩ turns ⟨(ask spec table call).2, []⟩ ∧
      (∀ turn ∈ turns, turn.time = call.now) ∧
      ∃ turn ∈ turns, turn.Gives call.input (ask spec table call).1 := by
  have pair (result : Except Fault Answer) : ∀ turn : Turn Input Answer Fault,
      turn ∈ [.began call, .ended call call.now call.now result] → turn.time = call.now := by
    intro turn member
    rcases List.mem_cons.mp member with rfl | last
    · rfl
    · cases List.mem_singleton.mp last
      rfl
  rcases ask_cases spec table call with
    ⟨entry, found, young, step⟩ | ⟨stale, answer, computed, step⟩ | ⟨stale, fault, computed, step⟩
  · rw [step]
    refine ⟨[.found call entry.answer], ?_, ?_, _, List.mem_cons_self, rfl, rfl⟩
    · exact .cons (.found (live_eq_some.mpr ⟨found, young⟩)) (.nil _)
    · intro turn member
      cases List.mem_singleton.mp member
      rfl
  · have returns : Takes spec ⟨table, [call]⟩ (.ended call call.now call.now (.ok answer))
        ⟨Function.update table (spec.key call.input) (some ⟨answer, call.now⟩), []⟩ :=
      .answered (List.Perm.refl _) (Nat.le_refl _) (Nat.le_refl _) computed
    rw [step]
    exact ⟨_, .cons (.began stale) (.cons returns (.nil _)), pair _, _,
      List.mem_cons_of_mem _ List.mem_cons_self, rfl, rfl⟩
  · have returns : Takes spec ⟨table, [call]⟩ (.ended call call.now call.now (.error fault))
        ⟨table, []⟩ :=
      .failed (List.Perm.refl _) (Nat.le_refl _) (Nat.le_refl _) computed
    rw [step]
    exact ⟨_, .cons (.began stale) (.cons returns (.nil _)), pair _, _,
      List.mem_cons_of_mem _ List.mem_cons_self, rfl, rfl⟩

/-- Calls in the order of their clocks that never overlap, as a log. -/
theorem exists_log (spec : Spec Input Key Answer Fault) {calls : List (Call Input)}
    (ordered : calls.Pairwise fun earlier later => earlier.now ≤ later.now) :
    ∃ log : Log spec, log.last = ⟨after spec Table.empty calls, []⟩ ∧
      (∀ turn ∈ log.turns, ∃ call ∈ calls, turn.time = call.now) ∧
      ∀ before call rest, calls = before ++ call :: rest → ∃ turn ∈ log.turns,
        turn.time = call.now ∧
          turn.Gives call.input (ask spec (after spec Table.empty before) call).1 := by
  induction calls using List.reverseRecOn with
  | nil =>
      refine ⟨⟨[], Shared.empty, .nil _, List.Pairwise.nil⟩, rfl, by simp, ?_⟩
      intro before call rest split
      simp at split
  | append_singleton earlier call ih =>
      rw [List.pairwise_append] at ordered
      obtain ⟨log, final, timed, given⟩ := ih ordered.1
      obtain ⟨turns, takes, now, turn, member, gives⟩ :=
        ask_takes spec (after spec Table.empty earlier) call
      have evolves := log.evolves
      rw [final] at evolves
      refine ⟨⟨log.turns ++ turns, _, evolves_append_iff.mpr ⟨_, evolves, takes⟩, ?_⟩, ?_, ?_, ?_⟩
      · refine List.pairwise_append.mpr ⟨log.ordered, ?_, ?_⟩
        · refine List.pairwise_of_forall_mem_list fun first inside second member => ?_
          exact Nat.le_of_eq (by rw [now first inside, now second member])
        · intro first inside second member
          obtain ⟨source, among, time⟩ := timed first inside
          rw [time, now second member]
          exact ordered.2.2 source among call List.mem_cons_self
      · rw [after_concat]
      · intro turn inside
        rcases List.mem_append.mp inside with old | new
        · obtain ⟨source, among, time⟩ := timed turn old
          exact ⟨source, List.mem_append_left _ among, time⟩
        · exact ⟨call, by simp, now turn new⟩
      · intro before other rest split
        obtain ⟨middle, rfl, _⟩ | ⟨rfl, rfl, _⟩ | ⟨middle, _, impossible⟩ :=
          Effect.History.compare_splits split.symm
        · obtain ⟨turn, inside, rest⟩ := given before other middle rfl
          exact ⟨turn, List.mem_append_left _ inside, rest⟩
        · exact ⟨turn, List.mem_append_right _ member, now turn member, gives⟩
        · simp at impossible

end Turns

end Memo
