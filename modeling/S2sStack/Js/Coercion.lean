import S2sStack.Js.Json

set_option autoImplicit false

/- What `String` makes of a parsed value. -/
namespace S2s.Js

namespace Json

mutual

/-- Whether `String(value)` returns. An object with a property `toString` of its own has no function
to call, and then it has no primitive value. -/
def convertible : Json → Bool
  | .arr items => convertibleItems items
  | .obj fields => (Obj.get? "toString" fields).isNone
  | _ => true

def convertibleItems : List Json → Bool
  | [] => true
  | item :: rest => convertible item && convertibleItems rest

end

end Json

/-- Whether `String(value ?? '')` returns. -/
def convertible : Option Json → Bool
  | none => true
  | some value => value.convertible

/-- The text that stands for a value: its own, none for an absent one, else its spelling. -/
inductive Spells : Option Json → String → Prop
  | text (text : String) : Spells (some (.str text)) text
  | absent : Spells none ""
  | null : Spells (some .null) ""
  | other {value : Json} : value.str? = none → value ≠ .null → Spells (some value) value.toText

theorem spells_iff {value : Option Json} {text : String} :
    Spells value text ↔ text = textOrEmpty value := by
  constructor
  · intro spells
    cases spells with
    | text _ => exact (textOrEmpty_str _).symm
    | absent => rfl
    | null => rfl
    | @other json _ notNull =>
        cases json with
        | null => exact absurd rfl notNull
        | _ => rfl
  · rintro rfl
    cases value with
    | none => exact .absent
    | some json =>
        cases json with
        | null => exact .null
        | str text =>
            rw [textOrEmpty_str]
            exact .text text
        | _ => exact .other rfl (by simp)

theorem itemTexts_strings (texts : List String) : Json.itemTexts (texts.map Json.str) = texts := by
  induction texts with
  | nil => rfl
  | cons text rest ih => simp [Json.itemTexts, Json.toText, ih]

/-- An array of strings is read as the strings with commas between them. -/
theorem textOrEmpty_strings (texts : List String) :
    textOrEmpty (some (.arr (texts.map Json.str))) = ",".intercalate texts := by
  simp only [textOrEmpty, nullish, Json.toText, itemTexts_strings]

theorem length_le_intercalate {text : String} {texts : List String} (member : text ∈ texts) :
    text.length ≤ (",".intercalate texts).length := by
  induction texts with
  | nil => cases member
  | cons first rest ih =>
      cases rest with
      | nil =>
          cases List.mem_singleton.mp member
          exact Nat.le_of_eq (congrArg String.length String.intercalate_singleton.symm)
      | cons second rest =>
          rw [String.intercalate_cons_cons, String.length_append, String.length_append]
          obtain rfl | later := List.mem_cons.mp member
          · omega
          · have inner := ih later
            omega

/-- A member of a list makes up the joined text only if it stands alone. -/
theorem intercalate_eq_member_iff {text : String} {texts : List String} (member : text ∈ texts) :
    ",".intercalate texts = text ↔ texts = [text] := by
  constructor
  · intro joined
    match texts, member with
    | [single], member => rw [List.mem_singleton.mp member]
    | first :: second :: rest, member =>
        have comma : ",".length = 1 := rfl
        have length := congrArg String.length joined
        rw [String.intercalate_cons_cons, String.length_append, String.length_append, comma]
          at length
        obtain rfl | later := List.mem_cons.mp member
        · omega
        · have inner := length_le_intercalate later
          omega
  · rintro rfl
    exact String.intercalate_singleton

example : convertible (some (.arr [.obj [("toString", .str "x")]])) = false := by decide

end S2s.Js
