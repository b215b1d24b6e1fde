set_option autoImplicit false

namespace S2s.Js

/-- A parsed JSON value. A number is kept as the exact decimal it was written as;
rounding to a double is not modelled. -/
inductive Json where
  | null
  | bool (value : Bool)
  | num (value : Rat)
  | str (value : String)
  | arr (items : List Json)
  | obj (fields : List (String × Json))

/-- The properties of an object, in insertion order. -/
abbrev Obj := List (String × Json)

namespace Obj

/-- `obj[name]`; an absent property is `undefined`. -/
def get? (name : String) : Obj → Option Json
  | [] => none
  | (key, value) :: rest => if key = name then some value else get? name rest

/-- `obj[name] = value` keeps the place of a property that exists. -/
def set (name : String) (value : Json) : Obj → Obj
  | [] => [(name, value)]
  | (key, old) :: rest =>
      if key = name then (key, value) :: rest else (key, old) :: set name value rest

@[simp] theorem get?_nil (name : String) : get? name [] = none := rfl

@[simp] theorem get?_cons_self (name : String) (value : Json) (rest : Obj) :
    get? name ((name, value) :: rest) = some value := by
  simp only [get?, ↓reduceIte]

theorem get?_eq_none {name : String} {obj : Obj} (absent : name ∉ obj.map Prod.fst) :
    get? name obj = none := by
  induction obj with
  | nil => rfl
  | cons field rest ih =>
      obtain ⟨key, value⟩ := field
      have other : key ≠ name := fun same => absent (same ▸ List.mem_cons_self)
      rw [get?, if_neg other]
      exact ih fun later => absent (List.mem_cons_of_mem _ later)

@[simp] theorem get?_set_self (name : String) (value : Json) (obj : Obj) :
    get? name (set name value obj) = some value := by
  induction obj with
  | nil => simp only [set, get?_cons_self]
  | cons field rest ih =>
      obtain ⟨key, old⟩ := field
      by_cases same : key = name
      · simp only [set, same, ↓reduceIte, get?_cons_self]
      · simp only [set, same, ↓reduceIte, get?, ih]

theorem get?_set_ne {key name : String} (value : Json) (obj : Obj) (other : key ≠ name) :
    get? name (set key value obj) = get? name obj := by
  induction obj with
  | nil => simp only [set, get?, other, ↓reduceIte]
  | cons field rest ih =>
      obtain ⟨first, old⟩ := field
      by_cases same : first = key
      · subst same
        simp only [set, ↓reduceIte, get?, other]
      · by_cases found : first = name
        · subst found
          simp only [set, same, ↓reduceIte, get?]
        · simp only [set, same, ↓reduceIte, get?, found, ih]

/-- `Object.entries(obj)` without the named keys, in order. -/
def without (names : List String) (obj : Obj) : Obj :=
  obj.filter (fun field => !names.contains field.1)

theorem get?_without {name : String} {names : List String} (obj : Obj)
    (kept : name ∉ names) : get? name (without names obj) = get? name obj := by
  induction obj with
  | nil => rfl
  | cons field rest ih =>
      obtain ⟨key, value⟩ := field
      by_cases same : key = name
      · subst same
        simp [without, get?, kept]
      · by_cases dropped : key ∈ names
        · simpa [without, get?, same, dropped] using ih
        · simpa [without, get?, same, dropped] using ih

theorem get?_without_self {name : String} {names : List String} (obj : Obj)
    (dropped : name ∈ names) : get? name (without names obj) = none := by
  induction obj with
  | nil => rfl
  | cons field rest ih =>
      obtain ⟨key, value⟩ := field
      by_cases removed : key ∈ names
      · simpa [without, removed] using ih
      · have other : key ≠ name := by
          intro same
          exact removed (same ▸ dropped)
        simpa [without, get?, removed, other] using ih

end Obj

/-- Decimal digits of a number and the position of its decimal point, as in
`Number::toString`: the value is `0.digits * 10 ^ point`. -/
def decimalDigits (value : Rat) : List Char × Int :=
  let places := ((List.range (value.den.log2 + 1)).find?
    (fun places => Nat.pow 10 places % value.den == 0)).getD 0
  let digits := Nat.toDigits 10 (value.num.natAbs * (Nat.pow 10 places / value.den))
  let shortest := (digits.reverse.dropWhile (· == '0')).reverse
  (shortest, (digits.length : Int) - places)

def numberToString (value : Rat) : String :=
  let (digits, point) := decimalDigits value
  let zeros (count : Int) := List.replicate count.toNat '0'
  let unsigned :=
    if (digits.length : Int) ≤ point ∧ point ≤ 21 then digits ++ zeros (point - digits.length)
    else if 0 < point ∧ point ≤ 21 then
      digits.take point.toNat ++ '.' :: digits.drop point.toNat
    else if -6 < point ∧ point ≤ 0 then '0' :: '.' :: zeros (-point) ++ digits
    else
      let fraction := if digits.length ≤ 1 then [] else '.' :: digits.drop 1
      let sign := if 0 ≤ point - 1 then '+' else '-'
      digits.take 1 ++ fraction ++ 'e' :: sign :: Nat.toDigits 10 (point - 1).natAbs
  if value = 0 then "0"
  else if value < 0 then String.ofList ('-' :: unsigned) else String.ofList unsigned

namespace Json

mutual

/-- `String(value)` -/
def toText : Json → String
  | .null => "null"
  | .bool value => if value then "true" else "false"
  | .num value => numberToString value
  | .str value => value
  | .arr items => ",".intercalate (itemTexts items)
  | .obj _ => "[object Object]"

def itemTexts : List Json → List String
  | [] => []
  | .null :: rest => "" :: itemTexts rest
  | item :: rest => toText item :: itemTexts rest

end

mutual

/-- Whether two values are equal member by member. -/
def same : Json → Json → Bool
  | .null, .null => true
  | .bool left, .bool right => left = right
  | .num left, .num right => left = right
  | .str left, .str right => left = right
  | .arr left, .arr right => sameItems left right
  | .obj left, .obj right => sameFields left right
  | _, _ => false

def sameItems : List Json → List Json → Bool
  | [], [] => true
  | left :: lefts, right :: rights => same left right && sameItems lefts rights
  | _, _ => false

def sameFields : List (String × Json) → List (String × Json) → Bool
  | [], [] => true
  | (key, left) :: lefts, (name, right) :: rights =>
      key = name && same left right && sameFields lefts rights
  | _, _ => false

end

mutual

theorem same_iff : (left right : Json) → (same left right = true ↔ left = right)
  | .null, right => by cases right <;> simp [same]
  | .bool _, right => by cases right <;> simp [same]
  | .num _, right => by cases right <;> simp [same]
  | .str _, right => by cases right <;> simp [same]
  | .arr items, right => by cases right <;> simp [same, sameItems_iff items]
  | .obj fields, right => by cases right <;> simp [same, sameFields_iff fields]

theorem sameItems_iff : (left right : List Json) → (sameItems left right = true ↔ left = right)
  | [], right => by cases right <;> simp [sameItems]
  | item :: rest, right => by
      cases right <;> simp [sameItems, same_iff item, sameItems_iff rest]

theorem sameFields_iff :
    (left right : List (String × Json)) → (sameFields left right = true ↔ left = right)
  | [], right => by cases right <;> simp [sameFields]
  | (key, value) :: rest, right => by
      cases right <;> simp [sameFields, same_iff value, sameFields_iff rest, Prod.ext_iff]

end

instance : DecidableEq Json := fun left right => decidable_of_iff _ (same_iff left right)

/-- `typeof value === 'string' ? value : undefined` -/
def str? : Json → Option String
  | .str value => some value
  | _ => none

def truthy : Json → Bool
  | .null => false
  | .bool value => value
  | .num value => value ≠ 0
  | .str value => value ≠ ""
  | .arr _ => true
  | .obj _ => true

end Json

/-- `String(value)` where the property may be absent. -/
def toText : Option Json → String
  | none => "undefined"
  | some value => value.toText

/-- `value ?? undefined`: `null` and absent are the same to `??`. -/
def nullish : Option Json → Option Json
  | some .null => none
  | other => other

/-- `String(value ?? '')` -/
def textOrEmpty (value : Option Json) : String :=
  match nullish value with
  | none => ""
  | some value => value.toText

def truthy : Option Json → Bool
  | none => false
  | some value => value.truthy

/-- `value === text` for a string `text`. -/
def isText (value : Option Json) (text : String) : Bool :=
  match value with
  | some (.str found) => found = text
  | _ => false

/-- `===` on values from different objects: arrays and objects are never the same. -/
def strictEquals : Option Json → Json → Bool
  | some .null, .null => true
  | some (.bool left), .bool right => left = right
  | some (.num left), .num right => left = right
  | some (.str left), .str right => left = right
  | _, _ => false

/-- `Array.isArray(value) ? value.filter((v) => typeof v === 'string') : []` -/
def stringItems : Option Json → List String
  | some (.arr items) => items.filterMap Json.str?
  | _ => []

theorem isText_iff (value : Option Json) (text : String) :
    isText value text = true ↔ value = some (.str text) := by
  cases value with
  | none => simp [isText]
  | some json => cases json <;> simp [isText]

@[simp] theorem textOrEmpty_str (text : String) : textOrEmpty (some (.str text)) = text := by
  simp only [textOrEmpty, nullish, Json.toText]

@[simp] theorem stringItems_strings (texts : List String) :
    stringItems (some (.arr (texts.map Json.str))) = texts := by
  induction texts with
  | nil => rfl
  | cons text rest ih =>
      simp only [stringItems] at ih
      simp [stringItems, Json.str?, ih]

example : toText (some (.arr [.str "a", .null, .num (3 / 2)])) = "a,,1.5" := by decide +kernel

end S2s.Js
