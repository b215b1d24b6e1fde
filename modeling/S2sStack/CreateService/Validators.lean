import S2sStack.Js.Json
import S2sStack.Js.Number
import S2sStack.Js.Sorting

set_option autoImplicit false

/- `validators.ts` of the scaffolder: the message of a value that is refused. -/
namespace S2s

open Js (Number Json)

abbrev ValidationResult := Except String Unit

def isLower (c : Char) : Bool := 'a' ≤ c ∧ c ≤ 'z'

def isLowerOrDigit (c : Char) : Bool := isLower c ∨ ('0' ≤ c ∧ c ≤ '9')

/-- `[a-z0-9-]` -/
def isLabelChar (c : Char) : Bool := isLowerOrDigit c ∨ c = '-'

def startsLower (text : String) : Bool := text.toList.head?.any isLower

/-- `SERVICE_NAME_RE` and `BOUNDED_CONTEXT_RE`: `^[a-z][a-z0-9]*(-[a-z0-9]+)*$` -/
def isKebabCase (text : String) : Bool :=
  startsLower text &&
    (Js.split '-' text).all fun part => part ≠ "" && part.toList.all isLowerOrDigit

/-- `[a-z][a-z0-9-]*` -/
def isScopePart (text : String) : Bool := startsLower text && text.toList.all isLabelChar

/-- `SCOPE_RE`: `^[a-z][a-z0-9-]*\/[a-z][a-z0-9-]*$` -/
def isScope (text : String) : Bool :=
  match Js.split '/' text with
  | [context, action] => isScopePart context && isScopePart action
  | _ => false

/-- `ALB_PATH_RE`: `^\/([a-z0-9-]+(\/[a-z0-9-]+)*\/)?\*$` -/
def isAlbPath (text : String) : Bool :=
  match Js.split '/' text with
  | first :: rest =>
      first = "" && rest.getLast? = some "*" &&
        rest.dropLast.all fun part => part ≠ "" && part.toList.all isLabelChar
  | [] => false

def validateServiceName (s : String) : ValidationResult :=
  if s = "" ∨ 63 < (Js.codeUnits s).length then .error "service name must be 1..63 chars"
  else if !isKebabCase s then
    .error "DNS-safe lowercase, digits, hyphens (no leading/trailing hyphen)"
  else .ok ()

/-- A configured audience need not be a string. -/
def validateBoundedContext (s : Json) : ValidationResult :=
  if !s.truthy then .error "required"
  else if !isKebabCase s.toText then .error "lowercase kebab-case"
  else .ok ()

def validateScope (s : Json) : ValidationResult :=
  if !isScope s.toText then .error "scope must be <context>/<action> lowercase" else .ok ()

def validateContainerPort : Number → ValidationResult
  | .finite n =>
      if n.den ≠ 1 ∨ n < 1 ∨ 65535 < n then .error "integer in 1..65535" else .ok ()
  | _ => .error "integer in 1..65535"

def validateAlbPathPattern (s : String) : ValidationResult :=
  if !isAlbPath s then .error "must start with / and end with /* (e.g. /api/foo/*)" else .ok ()

def validateEnvironment (s : String) : ValidationResult :=
  if s = "dev" ∨ s = "staging" ∨ s = "prod" then .ok () else .error "one of dev|staging|prod"

example : ["svc-x", "a1-b2", "-a", "a-", "1a", "aB", ""].map isKebabCase =
    [true, true, false, false, false, false, false] := by decide +kernel

example : ["/*", "/api/svc-x/*", "/api/*/x", "api/*", "/api", "//*"].map isAlbPath =
    [true, true, false, false, false, false] := by decide +kernel

end S2s
