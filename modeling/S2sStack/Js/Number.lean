import S2sStack.Js.Json
import S2sStack.Js.Text
import Mathlib.Algebra.Order.Ring.Rat

set_option autoImplicit false

/- `Number(text)`. -/
namespace S2s.Js

/-- A finite number is kept exactly; rounding to a double is not modelled. -/
inductive Number where
  | nan
  | infinity (negative : Bool)
  | finite (value : Rat)
  deriving DecidableEq, Repr

namespace Number

def neg : Number → Number
  | nan => nan
  | infinity negative => infinity (!negative)
  | finite value => finite (-value)

end Number

def digitValue (c : Char) : Option Nat :=
  if '0' ≤ c ∧ c ≤ '9' then some (c.toNat - '0'.toNat)
  else if 'a' ≤ c ∧ c ≤ 'f' then some (c.toNat - 'a'.toNat + 10)
  else if 'A' ≤ c ∧ c ≤ 'F' then some (c.toNat - 'A'.toNat + 10)
  else none

/-- The number that digits of a radix spell, most significant first. -/
def digitsValue (radix : Nat) : List Char → Option Nat :=
  List.foldlM (fun value c => do
    let digit ← digitValue c
    if digit < radix then some (value * radix + digit) else none) 0

/-- `0x1f`, `0o17` and `0b11` have no sign. -/
def radixLiteral : List Char → Option Nat
  | '0' :: letter :: digits =>
      let radix :=
        if letter = 'x' ∨ letter = 'X' then 16
        else if letter = 'o' ∨ letter = 'O' then 8
        else if letter = 'b' ∨ letter = 'B' then 2
        else 0
      if digits = [] then none else digitsValue radix digits
  | _ => none

/-- A sign and what is behind it. -/
def takeSign : List Char → Bool × List Char
  | '-' :: rest => (true, rest)
  | '+' :: rest => (false, rest)
  | chars => (false, chars)

def exponentValue (chars : List Char) : Option Int :=
  let (negative, digits) := takeSign chars
  if digits = [] then none
  else (digitsValue 10 digits).map fun value => if negative then -(value : Int) else value

/-- Digits with an optional point, at least one of them. -/
def mantissaValue (chars : List Char) : Option Rat :=
  let whole := chars.takeWhile (· ≠ '.')
  let fraction := (chars.dropWhile (· ≠ '.')).drop 1
  if whole = [] ∧ fraction = [] then none
  else (digitsValue 10 (whole ++ fraction)).map fun value => (value : Rat) / 10 ^ fraction.length

def decimalLiteral (chars : List Char) : Option Rat :=
  let isExponent (c : Char) : Bool := c = 'e' ∨ c = 'E'
  let mantissa := mantissaValue (chars.takeWhile (!isExponent ·))
  match chars.dropWhile (!isExponent ·) with
  | [] => mantissa
  | _ :: exponent => do
      let value ← mantissa
      let power ← exponentValue exponent
      return value * (10 : Rat) ^ power

def toNumber (text : String) : Number :=
  let chars := (trim text).toList
  if chars = [] then .finite 0
  else
    match radixLiteral chars with
    | some value => .finite value
    | none =>
        let (negative, rest) := takeSign chars
        let magnitude :=
          if rest = "Infinity".toList then .infinity false
          else match decimalLiteral rest with
            | some value => .finite value
            | none => .nan
        if negative then magnitude.neg else magnitude

/-- `Number(value)` -/
def numberOf : Json → Number
  | .null => .finite 0
  | .bool value => .finite (if value then 1 else 0)
  | .num value => .finite value
  | .str value => toNumber value
  | .arr items => toNumber (Json.arr items).toText
  | .obj _ => .nan

end S2s.Js
