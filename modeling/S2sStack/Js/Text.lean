set_option autoImplicit false

/- The string operations the sources use, on character lists. -/
namespace S2s.Js

/-- A line terminator, which `.` in a regular expression does not match. -/
def isLineTerminator (c : Char) : Bool :=
  c.val = 0x0A ∨ c.val = 0x0D ∨ c.val = 0x2028 ∨ c.val = 0x2029

/-- `\s`, which is also what `trim` removes. -/
def isSpace (c : Char) : Bool :=
  (0x09 ≤ c.val ∧ c.val ≤ 0x0D) ∨ c.val = 0x20 ∨ c.val = 0xA0 ∨ c.val = 0x1680 ∨
    (0x2000 ≤ c.val ∧ c.val ≤ 0x200A) ∨ c.val = 0x2028 ∨ c.val = 0x2029 ∨ c.val = 0x202F ∨
    c.val = 0x205F ∨ c.val = 0x3000 ∨ c.val = 0xFEFF

/-- `text.trim()` -/
def trim (text : String) : String :=
  String.ofList ((text.toList.dropWhile isSpace).reverse.dropWhile isSpace).reverse

/-- `text.split(separator)` for a one-character separator. -/
def splitChars (separator : Char) : List Char → List (List Char)
  | [] => [[]]
  | c :: rest =>
      if c = separator then [] :: splitChars separator rest
      else
        match splitChars separator rest with
        | [] => [[c]]
        | word :: words => (c :: word) :: words

def split (separator : Char) (text : String) : List String :=
  (splitChars separator text.toList).map String.ofList

/-- `text.split(/\s+/)`; `afterSpace` says that the separator is still open. -/
def splitSpaceChars : Bool → List Char → List (List Char)
  | _, [] => [[]]
  | afterSpace, c :: rest =>
      if isSpace c then
        if afterSpace then splitSpaceChars true rest else [] :: splitSpaceChars true rest
      else
        match splitSpaceChars false rest with
        | [] => [[c]]
        | word :: words => (c :: word) :: words

def splitSpace (text : String) : List String :=
  (splitSpaceChars false text.toList).map String.ofList

/-- `text.split(separator)[0]` -/
def beforeFirst (separator : Char) (text : String) : String :=
  String.ofList (text.toList.takeWhile (· ≠ separator))

/-- `text.slice(0, i)` and `text.slice(i + 1)` at `i = text.indexOf(separator)`. -/
def splitFirstChars (separator : Char) : List Char → Option (List Char × List Char)
  | [] => none
  | c :: rest =>
      if c = separator then some ([], rest)
      else (splitFirstChars separator rest).map (fun parts => (c :: parts.1, parts.2))

def splitFirst (separator : Char) (text : String) : Option (String × String) :=
  (splitFirstChars separator text.toList).map
    (fun parts => (String.ofList parts.1, String.ofList parts.2))

/-- The two sides of the first `::`, or nothing where `indexOf('::')` is -1. -/
def splitFirstColons : List Char → Option (List Char × List Char)
  | [] => none
  | [_] => none
  | c :: d :: rest =>
      if c = ':' ∧ d = ':' then some ([], rest)
      else (splitFirstColons (d :: rest)).map (fun parts => (c :: parts.1, parts.2))

/-- The two sides of the last `::`, or nothing where `lastIndexOf('::')` is -1. -/
def splitLastColons : List Char → Option (List Char × List Char)
  | [] => none
  | [_] => none
  | c :: d :: rest =>
      match splitLastColons (d :: rest) with
      | some parts => some (c :: parts.1, parts.2)
      | none => if c = ':' ∧ d = ':' then some ([], rest) else none

/-- `text.replace(/\/$/, '')` -/
def dropTrailingSlash (text : String) : String :=
  match text.toList.reverse with
  | '/' :: rest => String.ofList rest.reverse
  | _ => text

/-- `text.slice(word.length)` where `text` begins with `word`. -/
def afterWord : List Char → List Char → Option (List Char)
  | [], text => some text
  | _ :: _, [] => none
  | w :: word, c :: text => if c = w then afterWord word text else none

/-- `afterWord` under the `i` flag, for a lower-case ASCII `word`. -/
def afterWordIgnoringCase : List Char → List Char → Option (List Char)
  | [], text => some text
  | _ :: _, [] => none
  | w :: word, c :: text => if c.toLower = w then afterWordIgnoringCase word text else none

/-- `\s+(.+)$` with its capture. The blanks take all they can; only when nothing is
left do they give their last one back to the capture. -/
def captureAfterSpaces (text : List Char) : Option (List Char) :=
  let blanks := text.takeWhile isSpace
  match text.dropWhile isSpace with
  | [] =>
      match blanks.reverse with
      | last :: _ :: _ => if isLineTerminator last then none else some [last]
      | _ => none
  | rest => if blanks ≠ [] ∧ rest.all (fun c => !isLineTerminator c) then some rest else none

/-- `header.match(/^(?:DPoP|Bearer)\s+(.+)$/i)?.[1]` -/
def matchTokenScheme (header : String) : Option String :=
  let text := header.toList
  let rest :=
    match afterWordIgnoringCase "dpop".toList text with
    | some rest => some rest
    | none => afterWordIgnoringCase "bearer".toList text
  (rest.bind captureAfterSpaces).map String.ofList

/-- A token behind the scheme and one blank is captured as it is. -/
theorem matchTokenScheme_dpop {token : String} {first : Char} {rest : List Char}
    (begins : token.toList = first :: rest) (visible : isSpace first = false)
    (oneLine : ∀ c ∈ token.toList, isLineTerminator c = false) :
    matchTokenScheme ("DPoP " ++ token) = some token := by
  have spelled : ("DPoP " ++ token).toList = 'D' :: 'P' :: 'o' :: 'P' :: ' ' :: first :: rest := by
    rw [String.toList_append, begins]
    rfl
  have scheme : afterWordIgnoringCase "dpop".toList ("DPoP " ++ token).toList =
      some (' ' :: first :: rest) := by
    rw [spelled]
    rfl
  have blank : isSpace ' ' = true := by decide
  have kept : ¬ isSpace first = true := by simp [visible]
  have line : (first :: rest).all (fun c => !isLineTerminator c) = true := by
    rw [← begins, List.all_eq_true]
    intro c member
    simp [oneLine c member]
  have captured : captureAfterSpaces (' ' :: first :: rest) = some (first :: rest) := by
    simp only [captureAfterSpaces, List.dropWhile_cons_of_pos blank,
      List.dropWhile_cons_of_neg kept, List.takeWhile_cons_of_pos blank,
      List.takeWhile_cons_of_neg kept, line]
    rfl
  rw [matchTokenScheme]
  simp only [scheme, Option.bind_some, captured, Option.map_some]
  rw [← begins, String.ofList_toList]

/-- Text that begins like neither scheme has no token. -/
theorem matchTokenScheme_eq_none {header : String} {first : Char} {rest : List Char}
    (begins : header.toList = first :: rest) (notDpop : first.toLower ≠ 'd')
    (notBearer : first.toLower ≠ 'b') : matchTokenScheme header = none := by
  have dpop : afterWordIgnoringCase "dpop".toList header.toList = none := by
    rw [begins]
    exact if_neg notDpop
  have bearer : afterWordIgnoringCase "bearer".toList header.toList = none := by
    rw [begins]
    exact if_neg notBearer
  rw [matchTokenScheme]
  simp only [dpop, bearer, Option.bind_none, Option.map_none]

theorem afterWordIgnoringCase_suffix {word text rest : List Char}
    (matched : afterWordIgnoringCase word text = some rest) : rest <:+ text := by
  induction word generalizing text with
  | nil =>
      cases matched
      exact List.suffix_rfl
  | cons w word ih =>
      cases text with
      | nil => cases matched
      | cons c text =>
          simp only [afterWordIgnoringCase] at matched
          split at matched
          · exact (ih matched).trans (List.suffix_cons c text)
          · cases matched

theorem captureAfterSpaces_solid {text : List Char} (solid : ∀ c ∈ text, isSpace c = false) :
    captureAfterSpaces text = none := by
  cases text with
  | nil => rfl
  | cons c rest =>
      have kept : ¬ isSpace c = true := by simp [solid c List.mem_cons_self]
      simp only [captureAfterSpaces, List.takeWhile_cons_of_neg kept,
        List.dropWhile_cons_of_neg kept]
      rfl

/-- Without white space there is no scheme. -/
theorem matchTokenScheme_solid {text : String} (solid : ∀ c ∈ text.toList, isSpace c = false) :
    matchTokenScheme text = none := by
  have uncaptured {word rest : List Char}
      (matched : afterWordIgnoringCase word text.toList = some rest) :
      captureAfterSpaces rest = none := by
    apply captureAfterSpaces_solid
    intro c member
    exact solid c ((afterWordIgnoringCase_suffix matched).subset member)
  rw [matchTokenScheme]
  cases dpop : afterWordIgnoringCase "dpop".toList text.toList with
  | some rest => simp only [Option.bind_some, uncaptured dpop, Option.map_none]
  | none =>
      cases bearer : afterWordIgnoringCase "bearer".toList text.toList with
      | some rest => simp only [Option.bind_some, uncaptured bearer, Option.map_none]
      | none => simp only [Option.bind_none, Option.map_none]

theorem trim_solid {text : String} (solid : ∀ c ∈ text.toList, isSpace c = false) :
    trim text = text := by
  have keeps (chars : List Char) (inside : ∀ c ∈ chars, isSpace c = false) :
      chars.dropWhile isSpace = chars := by
    cases chars with
    | nil => rfl
    | cons c rest =>
        apply List.dropWhile_cons_of_neg
        simp [inside c List.mem_cons_self]
  have back : ∀ c ∈ text.toList.reverse, isSpace c = false := by
    intro c member
    exact solid c (List.mem_reverse.mp member)
  rw [trim, keeps _ solid, keeps _ back, List.reverse_reverse, String.ofList_toList]

/-- `text.toUpperCase()` of an HTTP method, which is ASCII. -/
def toUpperCase (text : String) : String := String.ofList (text.toList.map Char.toUpper)

/-- `text.replace(/[^A-Za-z0-9]/g, '_')`; a character outside the basic plane is two
UTF-16 units and so becomes two underscores. -/
def underscored (text : String) : String :=
  String.ofList (text.toList.flatMap (fun c =>
    if c.isAlphanum then [c] else if c.val < 0x10000 then ['_'] else ['_', '_']))

example : matchTokenScheme "dpop  abc.def" = some "abc.def" := by decide
example : splitSpace " a  b" = ["", "a", "b"] := by decide

end S2s.Js
