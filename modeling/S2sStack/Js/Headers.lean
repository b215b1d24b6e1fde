import S2sStack.Js.Text
import Mathlib.Data.List.Dedup

set_option autoImplicit false

/- Header records as the sources build them, and as the server at the other end reads them. -/
namespace S2s.Js

/-- `text.toLowerCase()` of ASCII text; no other character becomes an ASCII letter of the words
it is compared with. -/
def toLowerCase (text : String) : String := String.ofList (text.toList.map Char.toLower)

/-- An object with text values. -/
abbrev HeaderRecord := List (String × String)

namespace HeaderRecord

/-- `record[name] = value` -/
def assign : HeaderRecord → String → String → HeaderRecord
  | [], name, value => [(name, value)]
  | (key, old) :: rest, name, value =>
      if key = name then (key, value) :: rest else (key, old) :: assign rest name value

/-- `{ ...record, ...further }` -/
def spread (record further : HeaderRecord) : HeaderRecord :=
  further.foldl (fun merged field => merged.assign field.1 field.2) record

/-- The values under a name, which is case-insensitive. -/
def valuesOf (name : String) (record : HeaderRecord) : List String :=
  (record.filter (fun field => toLowerCase field.1 = name)).map Prod.snd

end HeaderRecord

/-- White space that `fetch` strips off a header value. -/
def isHttpSpace (c : Char) : Bool := c = '\t' ∨ c = '\n' ∨ c = '\r' ∨ c = ' '

def normalizeHeader (value : String) : String :=
  String.ofList ((value.toList.dropWhile isHttpSpace).reverse.dropWhile isHttpSpace).reverse

/-- `req.headers` at the server: names in lower case, the values of one name joined. -/
def received (record : HeaderRecord) : HeaderRecord :=
  ((record.map (fun field => toLowerCase field.1)).dedup).map fun name =>
    (name, ", ".intercalate ((record.valuesOf name).map normalizeHeader))

theorem lookup_map_pair {β : Type} (f : String → β) (name : String) (names : List String) :
    (names.map (fun key => (key, f key))).lookup name =
      if name ∈ names then some (f name) else none := by
  induction names with
  | nil => rfl
  | cons key rest ih =>
      rw [List.map_cons, List.lookup_cons, ih]
      by_cases same : name = key
      · subst same
        simp
      · have other : (name == key) = false := by simpa using same
        simp only [other, List.mem_cons, same, false_or]

theorem mem_names_iff {name : String} {record : HeaderRecord} :
    name ∈ record.map (fun field => toLowerCase field.1) ↔ record.valuesOf name ≠ [] := by
  simp [HeaderRecord.valuesOf]

/-- A name that is sent once arrives with its value. -/
theorem lookup_received_of_single {name value : String} {record : HeaderRecord}
    (single : record.valuesOf name = [value]) :
    (received record).lookup name = some (normalizeHeader value) := by
  have sent : name ∈ record.map (fun field => toLowerCase field.1) := by
    apply mem_names_iff.mpr
    rw [single]
    exact List.cons_ne_nil _ _
  have joined : ", ".intercalate ([value].map normalizeHeader) = normalizeHeader value := by
    rfl
  rw [received, lookup_map_pair, if_pos (List.mem_dedup.mpr sent), single, joined]

theorem not_httpSpace {c : Char} (visible : isSpace c = false) : isHttpSpace c = false := by
  cases stripped : isHttpSpace c with
  | false => rfl
  | true =>
      simp only [isHttpSpace, decide_eq_true_eq] at stripped
      rcases stripped with rfl | rfl | rfl | rfl
      · exact absurd visible (by decide)
      · exact absurd visible (by decide)
      · exact absurd visible (by decide)
      · exact absurd visible (by decide)

/-- Text that neither begins nor ends with white space is sent as it is. -/
theorem normalizeHeader_of_ends {first last : Char} {rest init : List Char} {value : String}
    (begins : value.toList = first :: rest) (ends : value.toList = init ++ [last])
    (firstKept : isHttpSpace first = false) (lastKept : isHttpSpace last = false) :
    normalizeHeader value = value := by
  have front : value.toList.dropWhile isHttpSpace = value.toList := by
    rw [begins, List.dropWhile_cons_of_neg]
    simp [firstKept]
  have back : value.toList.reverse.dropWhile isHttpSpace = value.toList.reverse := by
    rw [ends, List.reverse_append, List.reverse_singleton, List.singleton_append,
      List.dropWhile_cons_of_neg]
    simp [lastKept]
  rw [normalizeHeader, front, back, List.reverse_reverse, String.ofList_toList]

/-- Stripping keeps a first character that is none. -/
theorem normalizeHeader_head {first : Char} {rest : List Char} {value : String}
    (begins : value.toList = first :: rest) (firstKept : isHttpSpace first = false) :
    ∃ rest', (normalizeHeader value).toList = first :: rest' := by
  have front : value.toList.dropWhile isHttpSpace = first :: rest := by
    rw [begins, List.dropWhile_cons_of_neg]
    simp [firstKept]
  rw [normalizeHeader, front, String.toList_ofList, List.reverse_cons, List.dropWhile_append]
  split
  · exact ⟨[], by simp [firstKept]⟩
  · exact ⟨(rest.reverse.dropWhile isHttpSpace).reverse, by simp⟩

end S2s.Js
