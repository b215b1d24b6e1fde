import S2sStack.Js.Headers

set_option autoImplicit false

/- The fields of a record after assignments. -/
namespace S2s.Js.HeaderRecord

variable {record fields : HeaderRecord} {name : String} {field : String × String}

theorem names_assign (record : HeaderRecord) (name value : String) :
    (record.assign name value).map Prod.fst =
      if name ∈ record.map Prod.fst then record.map Prod.fst else record.map Prod.fst ++ [name] := by
  induction record with
  | nil => rfl
  | cons first rest ih =>
      obtain ⟨key, old⟩ := first
      rw [assign]
      by_cases same : key = name
      · simp [same]
      · rw [if_neg same, List.map_cons, ih]
        by_cases inside : name ∈ rest.map Prod.fst
        · simp [inside]
        · simp [inside, Ne.symm same]

theorem nodup_assign (distinct : (record.map Prod.fst).Nodup) (name value : String) :
    ((record.assign name value).map Prod.fst).Nodup := by
  rw [names_assign]
  by_cases inside : name ∈ record.map Prod.fst
  · rw [if_pos inside]
    exact distinct
  · rw [if_neg inside, ← List.concat_eq_append]
    exact distinct.concat inside

/-- An assignment replaces the field of its name. -/
theorem mem_assign_iff (distinct : (record.map Prod.fst).Nodup) (name value : String) :
    field ∈ record.assign name value ↔ field = (name, value) ∨ field ∈ record ∧ field.1 ≠ name := by
  induction record with
  | nil => simp [assign]
  | cons first rest ih =>
      obtain ⟨key, old⟩ := first
      rw [List.map_cons, List.nodup_cons] at distinct
      rw [assign]
      by_cases same : key = name
      · subst same
        have apart (inside : field ∈ rest) : field.1 ≠ key := by
          have named : field.1 ∈ rest.map Prod.fst := List.mem_map_of_mem inside
          intro here
          exact distinct.1 (here ▸ named)
        rw [if_pos rfl, List.mem_cons, List.mem_cons]
        constructor
        · rintro (here | inside)
          · exact .inl here
          · exact .inr ⟨.inr inside, apart inside⟩
        · rintro (here | ⟨here | inside, other⟩)
          · exact .inl here
          · exact absurd (congrArg Prod.fst here) other
          · exact .inr inside
      · rw [if_neg same, List.mem_cons, List.mem_cons, ih distinct.2]
        constructor
        · rintro (here | here | ⟨inside, other⟩)
          · exact .inr ⟨.inl here, by rw [here]; exact same⟩
          · exact .inl here
          · exact .inr ⟨.inr inside, other⟩
        · rintro (here | ⟨here | inside, other⟩)
          · exact .inr (.inl here)
          · exact .inl here
          · exact .inr (.inr ⟨inside, other⟩)

theorem mem_names_spread_iff :
    name ∈ (spread record fields).map Prod.fst ↔
      name ∈ record.map Prod.fst ∨ name ∈ fields.map Prod.fst := by
  induction fields generalizing record with
  | nil => simp [spread]
  | cons field rest ih =>
      have step : spread record (field :: rest) = spread (record.assign field.1 field.2) rest := rfl
      rw [step, ih, names_assign, List.map_cons, List.mem_cons]
      by_cases inside : field.1 ∈ record.map Prod.fst
      · rw [if_pos inside]
        constructor
        · rintro (before | behind)
          · exact .inl before
          · exact .inr (.inr behind)
        · rintro (before | rfl | behind)
          · exact .inl before
          · exact .inl inside
          · exact .inr behind
      · rw [if_neg inside, List.mem_append, List.mem_singleton, or_assoc]

theorem nodup_spread (distinct : (record.map Prod.fst).Nodup) :
    ((spread record fields).map Prod.fst).Nodup := by
  induction fields generalizing record with
  | nil => exact distinct
  | cons field rest ih => exact ih (nodup_assign distinct field.1 field.2)

/-- A spread replaces the fields of its names. -/
theorem mem_spread_iff (distinct : (record.map Prod.fst).Nodup)
    (apart : (fields.map Prod.fst).Nodup) :
    field ∈ spread record fields ↔
      field ∈ fields ∨ field ∈ record ∧ field.1 ∉ fields.map Prod.fst := by
  induction fields generalizing record with
  | nil => simp [spread]
  | cons first rest ih =>
      rw [List.map_cons, List.nodup_cons] at apart
      have step : spread record (first :: rest) = spread (record.assign first.1 first.2) rest := rfl
      rw [step, ih (nodup_assign distinct first.1 first.2) apart.2, mem_assign_iff distinct,
        List.map_cons, List.mem_cons, List.mem_cons, not_or]
      constructor
      · rintro (behind | ⟨here | ⟨before, other⟩, outside⟩)
        · exact .inl (.inr behind)
        · exact .inl (.inl here)
        · exact .inr ⟨before, other, outside⟩
      · rintro ((here | behind) | ⟨before, other, outside⟩)
        · refine .inr ⟨.inl here, ?_⟩
          rw [here]
          exact apart.1
        · exact .inl behind
        · exact .inr ⟨.inr ⟨before, other⟩, outside⟩

theorem mem_of_mem_assign {value : String} (member : field ∈ record.assign name value) :
    field ∈ record ∨ field = (name, value) := by
  induction record with
  | nil => exact .inr (List.mem_singleton.mp member)
  | cons first rest ih =>
      obtain ⟨key, old⟩ := first
      rw [assign] at member
      by_cases same : key = name
      · rw [if_pos same] at member
        rcases List.mem_cons.mp member with here | inside
        · exact .inr (here.trans (by rw [same]))
        · exact .inl (List.mem_cons_of_mem _ inside)
      · rw [if_neg same] at member
        rcases List.mem_cons.mp member with here | inside
        · exact .inl (here ▸ List.mem_cons_self)
        · exact (ih inside).imp_left (List.mem_cons_of_mem _)

theorem mem_of_mem_spread (member : field ∈ spread record fields) :
    field ∈ record ∨ field ∈ fields := by
  induction fields generalizing record with
  | nil => exact .inl member
  | cons first rest ih =>
      have step : spread record (first :: rest) = spread (record.assign first.1 first.2) rest := rfl
      rw [step] at member
      rcases ih member with before | behind
      · rcases mem_of_mem_assign before with kept | here
        · exact .inl kept
        · exact .inr (here ▸ List.mem_cons_self)
      · exact .inr (List.mem_cons_of_mem _ behind)

theorem assign_of_absent (absent : name ∉ record.map Prod.fst) (value : String) :
    record.assign name value = record ++ [(name, value)] := by
  induction record with
  | nil => rfl
  | cons first rest ih =>
      obtain ⟨key, old⟩ := first
      rw [List.map_cons, List.mem_cons, not_or] at absent
      rw [assign, if_neg (Ne.symm absent.1), ih absent.2, List.cons_append]

/-- Fields of new names are appended. -/
theorem spread_of_nodup (apart : ((record ++ fields).map Prod.fst).Nodup) :
    spread record fields = record ++ fields := by
  induction fields generalizing record with
  | nil => simp [spread]
  | cons field rest ih =>
      have step : spread record (field :: rest) = spread (record.assign field.1 field.2) rest := rfl
      have absent : field.1 ∉ record.map Prod.fst := by
        rw [List.map_append, List.map_cons, List.nodup_middle, List.nodup_cons] at apart
        intro inside
        exact apart.1 (List.mem_append_left _ inside)
      rw [step, assign_of_absent absent]
      have split : record ++ field :: rest = record ++ [field] ++ rest := by simp
      rw [split] at apart ⊢
      exact ih apart

/-- The values under a name that one field has. -/
theorem valuesOf_of_unique (unique : (record.map fun field => toLowerCase field.1).Nodup)
    (member : field ∈ record) : record.valuesOf (toLowerCase field.1) = [field.2] := by
  induction record with
  | nil => cases member
  | cons first rest ih =>
      rw [List.map_cons, List.nodup_cons] at unique
      have outside (other : String × String) (inside : other ∈ rest) :
          toLowerCase other.1 ≠ toLowerCase first.1 := by
        intro same
        exact unique.1 (same ▸ List.mem_map_of_mem inside)
      rcases List.mem_cons.mp member with rfl | inside
      · have none : rest.filter (fun other => toLowerCase other.1 = toLowerCase field.1) = [] := by
          apply List.filter_eq_nil_iff.mpr
          intro other inside
          simpa using outside other inside
        simp [valuesOf, none]
      · have skipped : valuesOf (toLowerCase field.1) (first :: rest) =
            valuesOf (toLowerCase field.1) rest := by
          have apart : toLowerCase first.1 ≠ toLowerCase field.1 := (outside field inside).symm
          simp [valuesOf, apart]
        rw [skipped]
        exact ih unique.2 inside

end S2s.Js.HeaderRecord
