import S2sStack.Effect.Program

set_option autoImplicit false

/- Two programs that differ in one part: what the rest does when the part is exchanged. -/
namespace Effect.Program

variable {sig : Signature} {ε α β γ : Type}

/-- A run of `whole` in which `part` throws. -/
def Fails (part : Program sig ε γ) (trace : List (Event sig)) : Prop :=
  ∃ before inner after fault, trace = before ++ (inner ++ after) ∧ Runs part inner (.error fault)

/-- A trace whose run of `part` may be exchanged for any returning run of `part'`. -/
def Exchangeable (part part' : Program sig ε γ) (trace : List (Event sig))
    (ends : List (Event sig) → Prop) : Prop :=
  ∃ before inner after value, trace = before ++ (inner ++ after) ∧ Runs part inner (.ok value) ∧
    ∀ inner' value', Runs part' inner' (.ok value') → ends (before ++ (inner' ++ after))

/-- Every run of `whole` is a run of `whole'`, except that a run of `part` in it becomes
one of `part'`. Nothing is said where `part` throws. -/
def Replaces (part part' : Program sig ε γ) (whole whole' : Program sig ε α) : Prop :=
  ∀ trace outcome, Runs whole trace outcome →
    Runs whole' trace outcome ∨ Fails part trace ∨
      Exchangeable part part' trace (fun other => Runs whole' other outcome)

theorem Fails.widen {part : Program sig ε γ} {trace : List (Event sig)}
    (fails : Fails part trace) (first last : List (Event sig)) :
    Fails part (first ++ (trace ++ last)) := by
  obtain ⟨before, inner, after, fault, rfl, run⟩ := fails
  exact ⟨first ++ before, inner, after ++ last, fault, by simp, run⟩

theorem Exchangeable.widen {part part' : Program sig ε γ} {trace : List (Event sig)}
    {ends wider : List (Event sig) → Prop} (exchange : Exchangeable part part' trace ends)
    (first last : List (Event sig)) (implies : ∀ other, ends other → wider (first ++ (other ++ last))) :
    Exchangeable part part' (first ++ (trace ++ last)) wider := by
  obtain ⟨before, inner, after, value, rfl, run, rest⟩ := exchange
  refine ⟨first ++ before, inner, after ++ last, value, by simp, run, ?_⟩
  intro inner' value' run'
  simpa using implies _ (rest inner' value' run')

namespace Replaces

variable {part part' : Program sig ε γ}

theorem refl (whole : Program sig ε α) : Replaces part part' whole whole :=
  fun _ _ run => .inl run

theorem bind {first : Program sig ε α} {next next' : α → Program sig ε β}
    (rest : ∀ value, Replaces part part' (next value) (next' value)) :
    Replaces part part' (first >>= next) (first >>= next') := by
  intro trace outcome run
  rcases runs_bind_iff.mp run with ⟨value, before, after, rfl, head, tail⟩ | ⟨fault, head, rfl⟩
  · have widen : before ++ after = before ++ (after ++ []) := by simp
    rcases rest value _ _ tail with same | fails | exchange
    · exact .inl (Runs.bind head same)
    · exact .inr (.inl (widen ▸ fails.widen before []))
    · refine .inr (.inr (widen ▸ exchange.widen before [] fun other run' => ?_))
      simpa using Runs.bind head run'
  · exact .inl (Runs.bind_error head)

theorem bind_left {first first' : Program sig ε α} {next : α → Program sig ε β}
    (head : Replaces part part' first first') :
    Replaces part part' (first >>= next) (first' >>= next) := by
  intro trace outcome run
  rcases runs_bind_iff.mp run with ⟨value, before, after, rfl, start, finish⟩ | ⟨fault, start, rfl⟩
  · rcases head _ _ start with same | fails | exchange
    · exact .inl (Runs.bind same finish)
    · exact .inr (.inl (fails.widen [] after))
    · refine .inr (.inr (exchange.widen [] after fun other run' => ?_))
      change Runs _ (other ++ after) _
      exact Runs.bind run' finish
  · have widen : trace = [] ++ (trace ++ []) := by simp
    rcases head _ _ start with same | fails | exchange
    · exact .inl (Runs.bind_error same)
    · exact .inr (.inl fails)
    · refine .inr (.inr (widen ▸ exchange.widen [] [] fun other run' => ?_))
      simpa using Runs.bind_error run'

theorem attempt {program program' : Program sig ε α} (inner : Replaces part part' program program') :
    Replaces part part' (attempt program) (attempt program') := by
  intro trace outcome run
  rw [runs_attempt_iff] at run
  obtain ⟨result, run, rfl⟩ := run
  have widen : trace = [] ++ (trace ++ []) := by simp
  rcases inner _ _ run with same | fails | exchange
  · exact .inl (runs_attempt_iff.mpr ⟨result, same, rfl⟩)
  · exact .inr (.inl fails)
  · refine .inr (.inr (widen ▸ exchange.widen [] [] fun other run' => ?_))
    exact runs_attempt_iff.mpr ⟨result, by simpa using run', rfl⟩

theorem catching {program program' : Program sig ε α} {handler : ε → Program sig ε α}
    (inner : Replaces part part' program program') :
    Replaces part part' (catching program handler) (catching program' handler) :=
  bind_left (attempt inner)

/-- The part itself, where the two continue alike after any values it returns. -/
theorem attempt_bind {next next' : Except ε γ → Program sig ε β}
    (alike : ∀ inner value inner' value', Runs part inner (.ok value) →
      Runs part' inner' (.ok value') → next (.ok value) = next' (.ok value')) :
    Replaces part part' (Program.attempt part >>= next) (Program.attempt part' >>= next') := by
  intro trace outcome run
  obtain ⟨result, before, after, rfl, inner, tail⟩ := runs_attempt_bind_iff.mp run
  refine .inr ?_
  cases result with
  | error fault => exact .inl ⟨[], before, after, fault, by simp, inner⟩
  | ok value =>
      refine .inr ⟨[], before, after, value, by simp, inner, fun inner' value' other => ?_⟩
      rw [alike _ _ _ _ inner other] at tail
      exact runs_attempt_bind_iff.mpr ⟨_, inner', after, rfl, other, tail⟩

end Replaces

end Effect.Program
