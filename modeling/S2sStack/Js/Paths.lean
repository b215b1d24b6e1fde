import S2sStack.Js.Text

set_option autoImplicit false

/- Route patterns of Express and the paths that they match. -/
namespace S2s.Js

def hexDigit (c : Char) : Option Nat :=
  if '0' ≤ c ∧ c ≤ '9' then some (c.toNat - '0'.toNat)
  else if 'a' ≤ c ∧ c ≤ 'f' then some (c.toNat - 'a'.toNat + 10)
  else if 'A' ≤ c ∧ c ≤ 'F' then some (c.toNat - 'A'.toNat + 10)
  else none

/-- The bytes of a text in which some are escaped. -/
def percentBytes : List Char → Option (List UInt8)
  | [] => some []
  | '%' :: high :: low :: rest => do
      let byte := 16 * (← hexDigit high) + (← hexDigit low)
      return UInt8.ofNat byte :: (← percentBytes rest)
  | c :: rest =>
      if c = '%' then none
      else do return (String.singleton c).toUTF8.toList ++ (← percentBytes rest)

/-- `decodeURIComponent(text)`, or nothing where it throws. -/
def decodeURIComponent (text : String) : Option String := do
  String.fromUTF8? ⟨(← percentBytes text.toList).toArray⟩

inductive Segment where
  /-- fixed text, in lower case -/
  | word (text : String)
  /-- `:name` -/
  | param
  deriving DecidableEq, Repr

/-- The raw parameters of a path. The case of letters and one slash at the end make no
difference. -/
def matchSegments : List Segment → List Char → Option (List String)
  | [], rest => if rest = [] ∨ rest = ['/'] then some [] else none
  | .word text :: pattern, rest =>
      (afterWordIgnoringCase ('/' :: text.toList) rest).bind (matchSegments pattern)
  | .param :: pattern, '/' :: rest =>
      let value := rest.takeWhile (· ≠ '/')
      if value = [] then none
      else (matchSegments pattern (rest.dropWhile (· ≠ '/'))).map (String.ofList value :: ·)
  | .param :: _, _ => none

/-- `req.params` of a route. Where one cannot be decoded the request goes to no handler. -/
def routeParams (pattern : List Segment) (path : String) : Option (List String) :=
  (matchSegments pattern path.toList).bind (fun values => values.mapM decodeURIComponent)

example : routeParams [.word "reports", .param] "/Reports/r%2D1/" = some ["r-1"] := by
  decide +kernel

end S2s.Js
