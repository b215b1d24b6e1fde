import Mathlib.Data.List.Basic

set_option autoImplicit false

/- The states that the entries of a log lead through. -/
namespace Effect

variable {Entry State : Type} {step : State → Entry → State → Prop}

inductive Evolves (step : State → Entry → State → Prop) :
    State → List Entry → State → Prop
  | nil (state : State) : Evolves step state [] state
  | cons {start middle final : State} {entry : Entry} {rest : List Entry} :
      step start entry middle → Evolves step middle rest final →
        Evolves step start (entry :: rest) final

theorem evolves_nil_iff {start final : State} : Evolves step start [] final ↔ final = start := by
  constructor
  · intro evolves
    cases evolves with
    | nil => rfl
  · rintro rfl
    exact .nil final

theorem evolves_cons_iff {start final : State} {entry : Entry} {rest : List Entry} :
    Evolves step start (entry :: rest) final ↔
      ∃ middle, step start entry middle ∧ Evolves step middle rest final := by
  constructor
  · intro evolves
    cases evolves with
    | cons first evolves => exact ⟨_, first, evolves⟩
  · rintro ⟨middle, first, evolves⟩
    exact .cons first evolves

theorem evolves_append_iff {start final : State} {first second : List Entry} :
    Evolves step start (first ++ second) final ↔
      ∃ middle, Evolves step start first middle ∧ Evolves step middle second final := by
  induction first generalizing start with
  | nil => simp only [List.nil_append, evolves_nil_iff, exists_eq_left]
  | cons entry rest ih =>
      simp only [List.cons_append, evolves_cons_iff, ih]
      constructor
      · rintro ⟨next, stepped, middle, before, after⟩
        exact ⟨middle, ⟨next, stepped, before⟩, after⟩
      · rintro ⟨middle, ⟨next, stepped, before⟩, after⟩
        exact ⟨next, stepped, middle, before, after⟩

end Effect
