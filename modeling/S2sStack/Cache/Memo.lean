import Mathlib.Data.List.Induction
import Mathlib.Logic.Function.Basic

set_option autoImplicit false

/- A memo table in front of a computation whose answers change over time: an answer
is stored under a key of its input and served again until it is too old. -/
namespace Memo

variable {Input Key Answer Fault : Type}

structure Entry (Answer : Type) where
  answer : Answer
  storedAt : Nat

abbrev Table (Key Answer : Type) := Key → Option (Entry Answer)

def Table.empty : Table Key Answer := fun _ => none

/-- What is memoized: the key of an input, the age at which an entry is dropped, and
the computation at a moment. -/
structure Spec (Input Key Answer Fault : Type) where
  key : Input → Key
  lifetime : Nat
  compute : Nat → Input → Except Fault Answer

/-- A call: the clock at its start, and its input. -/
structure Call (Input : Type) where
  now : Nat
  input : Input

inductive Served (Answer : Type) where
  | stored (answer : Answer)
  | computed (answer : Answer)

def Served.answer : Served Answer → Answer
  | stored answer => answer
  | computed answer => answer

/-- The entry that may still be served at `now`. -/
def live (lifetime now : Nat) : Option (Entry Answer) → Option (Entry Answer)
  | some entry => if (now : Int) - entry.storedAt < lifetime then some entry else none
  | none => none

variable [DecidableEq Key]

/-- A failed computation stores nothing. -/
def ask (spec : Spec Input Key Answer Fault) (table : Table Key Answer) (call : Call Input) :
    Except Fault (Served Answer) × Table Key Answer :=
  match live spec.lifetime call.now (table (spec.key call.input)) with
  | some entry => (.ok (.stored entry.answer), table)
  | none =>
      match spec.compute call.now call.input with
      | .ok answer =>
          (.ok (.computed answer),
            Function.update table (spec.key call.input) (some ⟨answer, call.now⟩))
      | .error fault => (.error fault, table)

/-- The table after some calls. -/
def after (spec : Spec Input Key Answer Fault) (table : Table Key Answer)
    (calls : List (Call Input)) : Table Key Answer :=
  calls.foldl (fun table call => (ask spec table call).2) table

@[simp] theorem after_nil (spec : Spec Input Key Answer Fault) (table : Table Key Answer) :
    after spec table [] = table := rfl

theorem after_append (spec : Spec Input Key Answer Fault) (table : Table Key Answer)
    (first second : List (Call Input)) :
    after spec table (first ++ second) = after spec (after spec table first) second :=
  List.foldl_append

theorem after_concat (spec : Spec Input Key Answer Fault) (table : Table Key Answer)
    (calls : List (Call Input)) (last : Call Input) :
    after spec table (calls ++ [last]) = (ask spec (after spec table calls) last).2 :=
  after_append spec table calls [last]

theorem live_eq_some {lifetime now : Nat} {found : Option (Entry Answer)} {entry : Entry Answer} :
    live lifetime now found = some entry ↔
      found = some entry ∧ (now : Int) - entry.storedAt < lifetime := by
  cases found with
  | none => simp [live]
  | some stored =>
      simp only [live, Option.ite_none_right_eq_some, Option.some.injEq]
      constructor
      · intro both
        obtain ⟨young, same⟩ := both
        subst same
        exact ⟨rfl, young⟩
      · intro both
        obtain ⟨same, young⟩ := both
        subst same
        exact ⟨young, rfl⟩

/-- A step either serves a live entry and leaves the table, computes and stores, or
fails and leaves the table. -/
theorem ask_cases (spec : Spec Input Key Answer Fault) (table : Table Key Answer)
    (call : Call Input) :
    (∃ entry, table (spec.key call.input) = some entry ∧
      (call.now : Int) - entry.storedAt < spec.lifetime ∧
      ask spec table call = (.ok (.stored entry.answer), table)) ∨
    (live spec.lifetime call.now (table (spec.key call.input)) = none ∧
      ∃ answer, spec.compute call.now call.input = .ok answer ∧
        ask spec table call = (.ok (.computed answer),
          Function.update table (spec.key call.input) (some ⟨answer, call.now⟩))) ∨
    (live spec.lifetime call.now (table (spec.key call.input)) = none ∧
      ∃ fault, spec.compute call.now call.input = .error fault ∧
        ask spec table call = (.error fault, table)) := by
  cases found : live spec.lifetime call.now (table (spec.key call.input)) with
  | some entry =>
      have usable := live_eq_some.mp found
      exact .inl ⟨entry, usable.1, usable.2, by simp only [ask, found]⟩
  | none =>
      cases computed : spec.compute call.now call.input with
      | ok answer => exact .inr (.inl ⟨rfl, answer, rfl, by simp only [ask, found, computed]⟩)
      | error fault => exact .inr (.inr ⟨rfl, fault, rfl, by simp only [ask, found, computed]⟩)

/-- Every entry is the answer to an earlier call with the entry's key. -/
def Sourced (spec : Spec Input Key Answer Fault) (calls : List (Call Input))
    (table : Table Key Answer) : Prop :=
  ∀ key entry, table key = some entry →
    ∃ source ∈ calls, spec.key source.input = key ∧ source.now = entry.storedAt ∧
      spec.compute source.now source.input = .ok entry.answer

omit [DecidableEq Key] in
theorem sourced_empty (spec : Spec Input Key Answer Fault) (calls : List (Call Input)) :
    Sourced spec calls Table.empty := by
  intro key entry found
  cases found

theorem Sourced.ask {spec : Spec Input Key Answer Fault} {calls : List (Call Input)}
    {table : Table Key Answer} (sourced : Sourced spec calls table) (call : Call Input) :
    Sourced spec (calls ++ [call]) (ask spec table call).2 := by
  have older : Sourced spec (calls ++ [call]) table := by
    intro key entry found
    obtain ⟨source, member, rest⟩ := sourced key entry found
    exact ⟨source, List.mem_append_left [call] member, rest⟩
  rcases ask_cases spec table call with
    ⟨_, _, _, served⟩ | ⟨_, answer, computed, served⟩ | ⟨_, _, _, served⟩
  · rw [served]
    exact older
  · rw [served]
    intro key entry found
    by_cases same : key = spec.key call.input
    · subst same
      simp only [Function.update_self, Option.some.injEq] at found
      subst found
      exact ⟨call, by simp, rfl, rfl, computed⟩
    · simp only [ne_eq, same, not_false_eq_true, Function.update_of_ne] at found
      exact older key entry found
  · rw [served]
    exact older

theorem sourced_after (spec : Spec Input Key Answer Fault) (calls : List (Call Input)) :
    Sourced spec calls (after spec Table.empty calls) := by
  induction calls using List.reverseRecOn with
  | nil => exact sourced_empty spec []
  | append_singleton earlier last ih =>
      rw [after_concat]
      exact ih.ask last

/-- An answer is what the computation gave to this call, or to an earlier one with the
same key that is not too old. -/
theorem served_source (spec : Spec Input Key Answer Fault) (earlier : List (Call Input))
    (call : Call Input) (served : Served Answer)
    (returned : (ask spec (after spec Table.empty earlier) call).1 = .ok served) :
    spec.compute call.now call.input = .ok served.answer ∨
    ∃ source ∈ earlier, spec.key source.input = spec.key call.input ∧
      (call.now : Int) - source.now < spec.lifetime ∧
      spec.compute source.now source.input = .ok served.answer := by
  rcases ask_cases spec (after spec Table.empty earlier) call with
    ⟨entry, found, young, step⟩ | ⟨_, answer, computed, step⟩ | ⟨_, _, _, step⟩
  · rw [step] at returned
    cases returned
    obtain ⟨source, member, sameKey, stored, computed⟩ := sourced_after spec earlier _ entry found
    rw [← stored] at young
    exact .inr ⟨source, member, sameKey, young, computed⟩
  · rw [step] at returned
    cases returned
    exact .inl computed
  · rw [step] at returned
    cases returned

/-- A computation that answers at one moment only leaves one possible entry. -/
def SingleMoment (spec : Spec Input Key Answer Fault) (moment : Nat) (answer : Answer) : Prop :=
  ∀ now input given, spec.compute now input = .ok given → now = moment ∧ given = answer

theorem SingleMoment.entry {spec : Spec Input Key Answer Fault} {moment : Nat} {answer : Answer}
    (single : SingleMoment spec moment answer) (calls : List (Call Input)) (key : Key)
    (entry : Entry Answer) (found : after spec Table.empty calls key = some entry) :
    entry = ⟨answer, moment⟩ := by
  obtain ⟨source, _, _, stored, computed⟩ := sourced_after spec calls key entry found
  have exactly := single _ _ _ computed
  cases entry
  simp only [Entry.mk.injEq]
  exact ⟨exactly.2, stored.symm.trans exactly.1⟩

theorem ask_keeps (spec : Spec Input Key Answer Fault) (table : Table Key Answer)
    (call : Call Input) (key : Key) (present : (table key).isSome) :
    ((ask spec table call).2 key).isSome := by
  rcases ask_cases spec table call with ⟨_, _, _, step⟩ | ⟨_, _, _, step⟩ | ⟨_, _, _, step⟩
  · rwa [step]
  · rw [step]
    by_cases same : key = spec.key call.input
    · subst same
      simp
    · simpa [Function.update_of_ne same] using present
  · rwa [step]

theorem after_keeps (spec : Spec Input Key Answer Fault) (calls : List (Call Input))
    (table : Table Key Answer) (key : Key) (present : (table key).isSome) :
    (after spec table calls key).isSome := by
  induction calls generalizing table with
  | nil => exact present
  | cons call rest ih => exact ih _ (ask_keeps spec table call key present)

/-- A call at the one answered moment stores its answer, and a later call with the same
key is served that answer while it is young enough, whatever its own input is. -/
theorem SingleMoment.served {spec : Spec Input Key Answer Fault} {answer : Answer}
    {source : Call Input} (single : SingleMoment spec source.now answer)
    (answered : spec.compute source.now source.input = .ok answer)
    (before between : List (Call Input)) (call : Call Input)
    (sameKey : spec.key source.input = spec.key call.input)
    (young : (call.now : Int) - source.now < spec.lifetime) :
    (ask spec (after spec Table.empty (before ++ source :: between)) call).1 =
      .ok (.stored answer) := by
  have stored :
      ((ask spec (after spec Table.empty before) source).2 (spec.key source.input)).isSome := by
    rcases ask_cases spec (after spec Table.empty before) source with
      ⟨entry, found, _, step⟩ | ⟨_, given, _, step⟩ | ⟨_, fault, failed, _⟩
    · rw [step]
      exact Option.isSome_iff_exists.mpr ⟨entry, found⟩
    · rw [step]
      simp
    · rw [answered] at failed
      cases failed
  have present : (after spec Table.empty (before ++ source :: between)
      (spec.key call.input)).isSome := by
    rw [← sameKey, after_append]
    exact after_keeps spec between _ _ stored
  obtain ⟨entry, found⟩ := Option.isSome_iff_exists.mp present
  have known := single.entry _ _ _ found
  subst known
  have usable : live spec.lifetime call.now (after spec Table.empty
      (before ++ source :: between) (spec.key call.input)) = some ⟨answer, source.now⟩ :=
    live_eq_some.mpr ⟨found, young⟩
  simp only [ask, usable]

end Memo
