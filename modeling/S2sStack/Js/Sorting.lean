import S2sStack.Token.TokenCache

set_option autoImplicit false

/- Lists of texts that are sorted, and the text that a sorted list is joined to. -/
namespace S2s.Js

/-- What one character contributes to `codeUnits`. -/
def units (c : Char) : List Nat :=
  if c.toNat < 0x10000 then [c.toNat]
  else [0xD800 + (c.toNat - 0x10000) / 0x400, 0xDC00 + (c.toNat - 0x10000) % 0x400]

theorem codeUnits_eq (text : String) : codeUnits text = text.toList.flatMap units := rfl

/-- No character has the code point of a surrogate. -/
theorem toNat_scalar (c : Char) :
    c.toNat < 0xD800 ∨ (0xDFFF < c.toNat ∧ c.toNat < 0x110000) := c.valid

theorem units_prefix_free {c d : Char} {rest rest' : List Nat}
    (same : units c ++ rest = units d ++ rest') : c = d ∧ rest = rest' := by
  have scalarC := toNat_scalar c
  have scalarD := toNat_scalar d
  unfold units at same
  by_cases basicC : c.toNat < 0x10000 <;> by_cases basicD : d.toNat < 0x10000
  · simp only [basicC, basicD, ↓reduceIte, List.cons_append, List.nil_append, List.cons.injEq] at same
    exact ⟨Char.toNat_inj.mp same.1, same.2⟩
  · simp only [basicC, basicD, ↓reduceIte, List.cons_append, List.nil_append, List.cons.injEq] at same
    omega
  · simp only [basicC, basicD, ↓reduceIte, List.cons_append, List.nil_append, List.cons.injEq] at same
    omega
  · simp only [basicC, basicD, ↓reduceIte, List.cons_append, List.nil_append, List.cons.injEq] at same
    obtain ⟨high, low, tail⟩ := same
    exact ⟨Char.toNat_inj.mp (by omega), tail⟩

theorem units_ne_nil (c : Char) : units c ≠ [] := by
  unfold units
  split <;> simp

theorem flatMap_units_injective {chars chars' : List Char}
    (same : chars.flatMap units = chars'.flatMap units) : chars = chars' := by
  induction chars generalizing chars' with
  | nil =>
      cases chars' with
      | nil => rfl
      | cons d rest' =>
          rw [List.flatMap_nil, List.flatMap_cons] at same
          exact absurd (List.append_eq_nil_iff.mp same.symm).1 (units_ne_nil d)
  | cons c rest ih =>
      cases chars' with
      | nil =>
          rw [List.flatMap_nil, List.flatMap_cons] at same
          exact absurd (List.append_eq_nil_iff.mp same).1 (units_ne_nil c)
      | cons d rest' =>
          rw [List.flatMap_cons, List.flatMap_cons] at same
          obtain ⟨rfl, tails⟩ := units_prefix_free same
          rw [ih tails]

/-- The code units spell the text. -/
theorem codeUnits_injective : Function.Injective codeUnits := by
  intro text other same
  rw [codeUnits_eq, codeUnits_eq] at same
  exact String.toList_inj.mp (flatMap_units_injective same)

theorem sortTexts_perm (texts : List String) : (sortTexts texts).Perm texts :=
  List.mergeSort_perm texts _

theorem sortTexts_pairwise (texts : List String) :
    (sortTexts texts).Pairwise fun one other => codeUnits one ≤ codeUnits other := by
  have trans (one other third : String) (first : decide (codeUnits one ≤ codeUnits other))
      (second : decide (codeUnits other ≤ codeUnits third)) :
      decide (codeUnits one ≤ codeUnits third) := by
    simp only [decide_eq_true_eq] at first second ⊢
    exact le_trans first second
  have total (one other : String) :
      decide (codeUnits one ≤ codeUnits other) || decide (codeUnits other ≤ codeUnits one) := by
    simpa using le_total (codeUnits one) (codeUnits other)
  have sorted := List.pairwise_mergeSort trans total texts
  simpa [sortTexts] using sorted

/-- The order of a list is what sorting takes away, and nothing else. -/
theorem sortTexts_eq_iff {texts others : List String} :
    sortTexts texts = sortTexts others ↔ texts.Perm others := by
  constructor
  · intro same
    have first := sortTexts_perm texts
    rw [same] at first
    exact first.symm.trans (sortTexts_perm others)
  · intro perm
    have antisymm (one other : String) (_ : one ∈ sortTexts texts) (_ : other ∈ sortTexts others)
        (le : codeUnits one ≤ codeUnits other) (ge : codeUnits other ≤ codeUnits one) :
        one = other := codeUnits_injective (le_antisymm le ge)
    have sorted : (sortTexts texts).Perm (sortTexts others) :=
      (sortTexts_perm texts).trans (perm.trans (sortTexts_perm others).symm)
    exact sorted.eq_of_pairwise antisymm (sortTexts_pairwise texts) (sortTexts_pairwise others)

theorem sortTexts_eq_nil_iff {texts : List String} : sortTexts texts = [] ↔ texts = [] := by
  have perm := sortTexts_perm texts
  constructor
  · intro empty
    rw [empty] at perm
    exact List.nil_perm.mp perm
  · rintro rfl
    exact List.perm_nil.mp perm

/-- What a list of texts is split into again after it was joined. -/
theorem splitOn_intercalate_flatMap {Entry : Type} [DecidableEq Entry] (separator : Entry)
    {rows : List (List Entry)} (filled : rows ≠ []) :
    ([separator].intercalate rows).splitOn separator =
      rows.flatMap fun row => row.splitOn separator := by
  induction rows with
  | nil => exact absurd rfl filled
  | cons row rest ih =>
      cases rest with
      | nil => simp
      | cons next rest =>
          have later := ih (List.cons_ne_nil _ _)
          rw [List.intercalate_cons_cons, List.append_assoc, List.singleton_append,
            List.splitOn_append_cons_self, later, ← List.flatMap_cons]

/-- The comma-separated pieces of texts in sorted order. No text at all counts as an empty one. -/
def commaPieces (texts : List String) : List (List Char) :=
  if texts = [] then [[]] else (sortTexts texts).flatMap fun text => text.toList.splitOn ','

theorem splitOn_joined (texts : List String) :
    (",".intercalate (sortTexts texts)).toList.splitOn ',' = commaPieces texts := by
  rw [String.toList_intercalate, commaPieces]
  by_cases empty : texts = []
  · subst empty
    simp [sortTexts, List.intercalate]
  · have filled : (sortTexts texts).map String.toList ≠ [] := by
      simpa [sortTexts_eq_nil_iff] using empty
    rw [if_neg empty]
    exact (splitOn_intercalate_flatMap ',' filled).trans (List.flatMap_map _ _ _)

/-- Two lists are joined to one text if they have the same pieces. -/
theorem joined_eq_iff {texts others : List String} :
    ",".intercalate (sortTexts texts) = ",".intercalate (sortTexts others) ↔
      commaPieces texts = commaPieces others := by
  rw [← splitOn_joined, ← splitOn_joined]
  constructor
  · intro same
    rw [same]
  · intro same
    have text := congrArg [','].intercalate same
    rw [List.intercalate_splitOn, List.intercalate_splitOn] at text
    exact String.toList_inj.mp text

theorem commaPieces_of_perm {texts others : List String} (perm : texts.Perm others) :
    commaPieces texts = commaPieces others := by
  rw [← joined_eq_iff, sortTexts_eq_iff.mpr perm]

/-- Texts without commas are their own pieces. -/
theorem commaPieces_plain {texts : List String} (filled : texts ≠ [])
    (plain : ∀ text ∈ texts, ',' ∉ text.toList) :
    commaPieces texts = (sortTexts texts).map String.toList := by
  have kept : ∀ text ∈ sortTexts texts, text.toList.splitOn ',' = [text.toList] := by
    intro text member
    exact List.splitOn_eq_singleton (plain text ((sortTexts_perm texts).subset member))
  rw [commaPieces, if_neg filled, List.flatMap_congr kept]
  exact List.map_eq_flatMap.symm

end S2s.Js
