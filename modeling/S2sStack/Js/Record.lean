import S2sStack.Js.Headers
import Mathlib.Data.List.Sort

set_option autoImplicit false

/- Object records in the order in which `Object.entries` lists them. -/
namespace S2s.Js

/-- The number that an array index such as `"10"` stands for. -/
def arrayIndex? (name : String) : Option Nat :=
  let digits := name.toList
  let value := digits.foldl (fun sum digit => 10 * sum + (digit.toNat - '0'.toNat)) 0
  if digits ≠ [] ∧ digits.all Char.isDigit ∧ (digits.head? = some '0' → digits.length = 1) ∧
      value < 4294967295 then some value
  else none

def isArrayIndex (field : String × String) : Bool := (arrayIndex? field.1).isSome

/-- The order of two array indices. -/
def indexBefore (first second : String × String) : Bool :=
  (arrayIndex? first.1).getD 0 ≤ (arrayIndex? second.1).getD 0

/-- Array indices come first, in ascending order; then the other names as they were assigned. -/
def objectEntries (record : HeaderRecord) : HeaderRecord :=
  (record.filter isArrayIndex).insertionSort (fun first second => indexBefore first second) ++
    record.filter (fun field => !isArrayIndex field)

theorem objectEntries_perm (record : HeaderRecord) : (objectEntries record).Perm record := by
  have sorted := List.perm_insertionSort (fun first second => indexBefore first second)
    (record.filter isArrayIndex)
  have parts := List.filter_append_perm isArrayIndex record
  rw [objectEntries]
  exact (sorted.append_right _).trans parts

example : objectEntries [("b", "1"), ("10", "2"), ("a", "3"), ("9", "4")] =
    [("9", "4"), ("10", "2"), ("b", "1"), ("a", "3")] := by decide

end S2s.Js
