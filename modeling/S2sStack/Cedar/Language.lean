set_option autoImplicit false

/- The Cedar policy language: values, expressions and their evaluation. An evaluation that
goes wrong is an error and no truth value. -/
namespace Cedar

structure EntityUID where
  type : String
  id : String
  deriving DecidableEq, Repr

inductive Value where
  | bool (value : Bool)
  | long (value : Int)
  | string (value : String)
  | entity (uid : EntityUID)
  /-- a constant of an extension type, such as `decimal` -/
  | extension (type : String) (argument : Rat)
  | set (items : List Value)
  | record (fields : List (String × Value))

namespace Value

mutual

/-- `==`: sets and records are equal by what they contain, in any order. -/
def equals : Value → Value → Bool
  | .bool left, .bool right => left = right
  | .long left, .long right => left = right
  | .string left, .string right => left = right
  | .entity left, .entity right => left = right
  | .extension type left, .extension other right => type = other ∧ left = right
  | .set left, .set right => itemsWithin left right && right.all (fun item => anyEquals left item)
  | .record left, .record right =>
      fieldsWithin left right && right.all (fun field => (left.lookup field.1).isSome)
  | _, _ => false

def itemsWithin : List Value → List Value → Bool
  | [], _ => true
  | item :: rest, right => right.any (fun other => equals item other) && itemsWithin rest right

def anyEquals : List Value → Value → Bool
  | [], _ => false
  | item :: rest, other => equals item other || anyEquals rest other

def fieldsWithin : List (String × Value) → List (String × Value) → Bool
  | [], _ => true
  | (name, value) :: rest, right =>
      (match right.lookup name with
        | some other => equals value other
        | none => false) && fieldsWithin rest right

end

theorem anyEquals_iff {items : List Value} {other : Value} :
    anyEquals items other = true ↔ ∃ item ∈ items, equals item other = true := by
  induction items with
  | nil => simp [anyEquals]
  | cons item rest ih => simp [anyEquals, ih]

@[simp] theorem equals_bool_iff {value : Value} {expected : Bool} :
    equals value (.bool expected) = true ↔ value = .bool expected := by
  cases value <;> simp [equals]

@[simp] theorem equals_string_iff {value : Value} {expected : String} :
    equals value (.string expected) = true ↔ value = .string expected := by
  cases value <;> simp [equals]

@[simp] theorem equals_entity_iff {value : Value} {expected : EntityUID} :
    equals value (.entity expected) = true ↔ value = .entity expected := by
  cases value <;> simp [equals]

end Value

inductive Var where
  | principal
  | action
  | resource
  | context
  deriving DecidableEq, Repr

inductive Expr where
  | lit (value : Value)
  | var (name : Var)
  /-- `expr.name` -/
  | attr (expr : Expr) (name : String)
  /-- `expr has name` -/
  | has (expr : Expr) (name : String)
  | eq (left right : Expr)
  | lessEq (left right : Expr)
  | and (left right : Expr)
  | or (left right : Expr)
  | not (expr : Expr)
  | contains (set item : Expr)
  | containsAll (set items : Expr)

structure Request where
  principal : EntityUID
  action : EntityUID
  resource : EntityUID
  context : List (String × Value)

inductive Error where
  | typeError
  | missingAttribute
  deriving DecidableEq, Repr

def asBool : Value → Except Error Bool
  | .bool value => .ok value
  | _ => .error .typeError

/-- Entities carry no attributes here. -/
def readAttr (name : String) : Value → Except Error Value
  | .record fields =>
      match fields.lookup name with
      | some value => .ok value
      | none => .error .missingAttribute
  | .entity _ => .error .missingAttribute
  | _ => .error .typeError

def hasAttr (name : String) : Value → Except Error Value
  | .record fields => .ok (.bool (fields.lookup name).isSome)
  | .entity _ => .ok (.bool false)
  | _ => .error .typeError

def compare : Value → Value → Except Error Value
  | .long left, .long right => .ok (.bool (left ≤ right))
  | _, _ => .error .typeError

def containsItem : Value → Value → Except Error Value
  | .set items, item => .ok (.bool (Value.anyEquals items item))
  | _, _ => .error .typeError

def containsItems : Value → Value → Except Error Value
  | .set items, .set others => .ok (.bool (others.all (Value.anyEquals items)))
  | _, _ => .error .typeError

def readVar (req : Request) : Var → Value
  | .principal => .entity req.principal
  | .action => .entity req.action
  | .resource => .entity req.resource
  | .context => .record req.context

def evaluate (req : Request) : Expr → Except Error Value
  | .lit value => .ok value
  | .var name => .ok (readVar req name)
  | .attr expr name => do readAttr name (← evaluate req expr)
  | .has expr name => do hasAttr name (← evaluate req expr)
  | .eq left right => do return .bool ((← evaluate req left).equals (← evaluate req right))
  | .lessEq left right => do compare (← evaluate req left) (← evaluate req right)
  | .and left right => do
      -- the right side is not looked at where the left one is false
      if ← asBool (← evaluate req left) then
        return .bool (← asBool (← evaluate req right))
      else return .bool false
  | .or left right => do
      if ← asBool (← evaluate req left) then return .bool true
      else return .bool (← asBool (← evaluate req right))
  | .not expr => do return .bool (!(← asBool (← evaluate req expr)))
  | .contains set item => do containsItem (← evaluate req set) (← evaluate req item)
  | .containsAll set items => do containsItems (← evaluate req set) (← evaluate req items)

/-- The expression evaluates to this truth value, and not to an error. -/
def Is (req : Request) (truth : Bool) (expr : Expr) : Prop :=
  evaluate req expr = .ok (.bool truth)

section Rules

variable {req : Request} {left right expr : Expr}

@[simp] theorem evaluate_lit (value : Value) : evaluate req (.lit value) = .ok value := rfl

@[simp] theorem evaluate_var (name : Var) : evaluate req (.var name) = .ok (readVar req name) := rfl

theorem evaluate_attr (name : String) :
    evaluate req (.attr expr name) = (do readAttr name (← evaluate req expr)) := rfl

theorem evaluate_has (name : String) :
    evaluate req (.has expr name) = (do hasAttr name (← evaluate req expr)) := rfl

theorem evaluate_eq : evaluate req (.eq left right) =
    (do return .bool ((← evaluate req left).equals (← evaluate req right))) := rfl

theorem evaluate_and : evaluate req (.and left right) = (do
    if ← asBool (← evaluate req left) then return .bool (← asBool (← evaluate req right))
    else return .bool false) := rfl

theorem evaluate_or : evaluate req (.or left right) = (do
    if ← asBool (← evaluate req left) then return .bool true
    else return .bool (← asBool (← evaluate req right))) := rfl

theorem evaluate_not :
    evaluate req (.not expr) = (do return .bool (!(← asBool (← evaluate req expr)))) := rfl

theorem evaluate_contains : evaluate req (.contains left right) =
    (do containsItem (← evaluate req left) (← evaluate req right)) := rfl

theorem evaluate_containsAll : evaluate req (.containsAll left right) =
    (do containsItems (← evaluate req left) (← evaluate req right)) := rfl

theorem evaluate_attr_iff {name : String} {value : Value} :
    evaluate req (.attr expr name) = .ok value ↔
      ∃ fields, evaluate req expr = .ok (.record fields) ∧ fields.lookup name = some value := by
  simp only [evaluate_attr, bind, Except.bind]
  cases evaluate req expr with
  | error err => simp
  | ok found =>
      cases found with
      | record fields => cases looked : fields.lookup name <;> simp [readAttr, looked]
      | _ => simp [readAttr]

/-- An attribute of the context that is not there is an error. -/
theorem evaluate_context_attr_iff {name : String} {value : Value} :
    evaluate req (.attr (.var .context) name) = .ok value ↔
      req.context.lookup name = some value := by
  simp [evaluate_attr_iff, readVar]

theorem is_eq_iff {truth : Bool} :
    Is req truth (.eq left right) ↔
      ∃ one other, evaluate req left = .ok one ∧ evaluate req right = .ok other ∧
        one.equals other = truth := by
  simp only [Is, evaluate_eq, bind, Except.bind, pure, Except.pure]
  cases evaluate req left with
  | error err => simp
  | ok one => cases evaluate req right <;> simp

theorem is_and_true_iff :
    Is req true (.and left right) ↔ Is req true left ∧ Is req true right := by
  simp only [Is, evaluate_and, bind, Except.bind, pure, Except.pure]
  cases evaluate req left with
  | error err => simp
  | ok one =>
      cases one with
      | bool first =>
          cases first with
          | false => simp [asBool]
          | true =>
              cases evaluate req right with
              | error err => simp [asBool]
              | ok other => cases other <;> simp [asBool]
      | _ => simp [asBool]

theorem is_or_true_iff :
    Is req true (.or left right) ↔
      Is req true left ∨ Is req false left ∧ Is req true right := by
  simp only [Is, evaluate_or, bind, Except.bind, pure, Except.pure]
  cases evaluate req left with
  | error err => simp
  | ok one =>
      cases one with
      | bool first =>
          cases first with
          | true => simp [asBool]
          | false =>
              cases evaluate req right with
              | error err => simp [asBool]
              | ok other => cases other <;> simp [asBool]
      | _ => simp [asBool]

theorem is_not_iff {truth : Bool} : Is req truth (.not expr) ↔ Is req (!truth) expr := by
  simp only [Is, evaluate_not, bind, Except.bind, pure, Except.pure]
  cases evaluate req expr with
  | error err => simp
  | ok value => cases value <;> cases truth <;> simp [asBool]

theorem is_context_has_iff {name : String} :
    Is req true (.has (.var .context) name) ↔ ∃ value, req.context.lookup name = some value := by
  simp [Is, evaluate_has, evaluate_var, bind, Except.bind, readVar, hasAttr, Option.isSome_iff_exists]

theorem is_contains_iff {truth : Bool} {item : Value} :
    Is req truth (.contains expr (.lit item)) ↔
      ∃ items, evaluate req expr = .ok (.set items) ∧ Value.anyEquals items item = truth := by
  simp only [Is, evaluate_contains, evaluate_lit, bind, Except.bind]
  cases evaluate req expr with
  | error err => simp
  | ok value => cases value <;> simp [containsItem]

theorem is_containsAll_iff {truth : Bool} {wanted : List Value} :
    Is req truth (.containsAll expr (.lit (.set wanted))) ↔
      ∃ items, evaluate req expr = .ok (.set items) ∧
        wanted.all (Value.anyEquals items) = truth := by
  simp only [Is, evaluate_containsAll, evaluate_lit, bind, Except.bind]
  cases evaluate req expr with
  | error err => simp
  | ok value => cases value <;> simp [containsItems]

end Rules

end Cedar
