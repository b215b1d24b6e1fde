import S2sStack.Js.Text
import Mathlib.Data.List.Infix

set_option autoImplicit false

/- Texts that are put together with a separator, and what a split at the last one finds. -/
namespace S2s.Js

/-- `chars.includes('::')` -/
def HasColons (chars : List Char) : Prop := [':', ':'] <:+: chars

instance (chars : List Char) : Decidable (HasColons chars) :=
  inferInstanceAs (Decidable ([':', ':'] <:+: chars))

theorem hasColons_cons_cons_iff {c d : Char} {rest : List Char} :
    HasColons (c :: d :: rest) ↔ (c = ':' ∧ d = ':') ∨ HasColons (d :: rest) := by
  unfold HasColons
  rw [List.infix_cons_iff]
  simp [eq_comm]

theorem not_hasColons_singleton (c : Char) : ¬ HasColons [c] := by
  intro colons
  have short := colons.length_le
  simp at short

/-- An identifier that begins with a colon makes a second `::` with the separator. -/
theorem hasColons_colon_iff {id : List Char} :
    HasColons (':' :: id) ↔ id.head? = some ':' ∨ HasColons id := by
  cases id with
  | nil => simpa [HasColons] using not_hasColons_singleton ':'
  | cons d rest =>
      rw [hasColons_cons_cons_iff]
      simp

theorem splitLastColons_eq_none_iff {chars : List Char} :
    splitLastColons chars = none ↔ ¬ HasColons chars := by
  induction chars using splitLastColons.induct with
  | case1 => simp [splitLastColons, HasColons]
  | case2 c => simp [splitLastColons, not_hasColons_singleton]
  | case3 c d rest parts found ih =>
      have later : HasColons (d :: rest) := by
        by_contra absent
        rw [ih.mpr absent] at found
        cases found
      simp [splitLastColons, found, hasColons_cons_cons_iff, later]
  | case4 c d rest missing both ih =>
      obtain ⟨rfl, rfl⟩ := both
      simp [splitLastColons, missing, hasColons_cons_cons_iff]
  | case5 c d rest missing apart ih =>
      have later := ih.mp missing
      simp [splitLastColons, missing, hasColons_cons_cons_iff, apart, later]

theorem exists_splitLastColons (type id : List Char) :
    ∃ type' id', splitLastColons (type ++ ':' :: ':' :: id) = some (type', id') := by
  cases split : splitLastColons (type ++ ':' :: ':' :: id) with
  | none =>
      have colons : HasColons (type ++ ':' :: ':' :: id) := ⟨type, id, by simp⟩
      exact absurd colons (splitLastColons_eq_none_iff.mp split)
  | some parts => exact ⟨parts.1, parts.2, rfl⟩

/-- The two sides make up the text again. -/
theorem splitLastColons_join {chars type id : List Char}
    (split : splitLastColons chars = some (type, id)) : chars = type ++ ':' :: ':' :: id := by
  induction chars using splitLastColons.induct generalizing type with
  | case1 => cases split
  | case2 c => cases split
  | case3 c d rest parts found ih =>
      simp only [splitLastColons, found, Option.some.injEq, Prod.mk.injEq] at split
      obtain ⟨rfl, rfl⟩ := split
      rw [List.cons_append, ← ih found]
  | case4 c d rest missing both ih =>
      obtain ⟨rfl, rfl⟩ := both
      simp only [splitLastColons, missing, and_self, ↓reduceIte, Option.some.injEq,
        Prod.mk.injEq] at split
      obtain ⟨rfl, rfl⟩ := split
      rfl
  | case5 c d rest missing apart ih => simp [splitLastColons, missing, apart] at split

theorem splitLastColons_of_last {id : List Char} (last : ¬ HasColons (':' :: id))
    (type : List Char) :
    splitLastColons (type ++ ':' :: ':' :: id) = some (type, id) := by
  induction type with
  | nil =>
      have missing := splitLastColons_eq_none_iff.mpr last
      simp [splitLastColons, missing]
  | cons c type ih =>
      obtain ⟨d, rest, spelled⟩ : ∃ d rest, type ++ ':' :: ':' :: id = d :: rest := by
        cases type with
        | nil => exact ⟨_, _, rfl⟩
        | cons d rest => exact ⟨_, _, rfl⟩
      rw [List.cons_append, spelled, splitLastColons, ← spelled, ih]

/-- Behind the last `::` there is no other one, not even with the second colon of it. -/
theorem splitLastColons_last {chars type id : List Char}
    (split : splitLastColons chars = some (type, id)) : ¬ HasColons (':' :: id) := by
  induction chars using splitLastColons.induct generalizing type with
  | case1 => cases split
  | case2 c => cases split
  | case3 c d rest parts found ih =>
      simp only [splitLastColons, found, Option.some.injEq, Prod.mk.injEq] at split
      obtain ⟨-, rfl⟩ := split
      exact ih found
  | case4 c d rest missing both ih =>
      obtain ⟨rfl, rfl⟩ := both
      simp only [splitLastColons, missing, and_self, ↓reduceIte, Option.some.injEq,
        Prod.mk.injEq] at split
      obtain ⟨-, rfl⟩ := split
      exact splitLastColons_eq_none_iff.mp missing
  | case5 c d rest missing apart ih => simp [splitLastColons, missing, apart] at split

end S2s.Js
