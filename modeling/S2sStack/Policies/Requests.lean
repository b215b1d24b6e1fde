import S2sStack.Authz.Authorize
import S2sStack.Cedar.Authorizer

set_option autoImplicit false

/- Authorization calls as the Cedar requests that a policy engine evaluates. -/
namespace S2s

open Js (Json Obj)

mutual

/-- An array is a set. Cedar has neither fractions nor `null`, which are constants equal to
themselves only. -/
def cedarValue : Json → Cedar.Value
  | .null => .extension "null" 0
  | .bool value => .bool value
  | .num value => if value.den = 1 then .long value.num else .extension "decimal" value
  | .str value => .string value
  | .arr items => .set (cedarItems items)
  | .obj fields => .record (cedarFields fields)

def cedarItems : List Json → List Cedar.Value
  | [] => []
  | item :: rest => cedarValue item :: cedarItems rest

def cedarFields : List (String × Json) → List (String × Cedar.Value)
  | [] => []
  | (name, value) :: rest => (name, cedarValue value) :: cedarFields rest

end

theorem lookup_cedarFields (name : String) (fields : Obj) :
    (cedarFields fields).lookup name = (fields.get? name).map cedarValue := by
  induction fields with
  | nil => rfl
  | cons field rest ih =>
      obtain ⟨key, value⟩ := field
      by_cases same : key = name
      · subst same
        simp [cedarFields, Obj.get?]
      · have other : (name == key) = false := by simpa using Ne.symm same
        simp [cedarFields, Obj.get?, same, List.lookup_cons, other, ih]

theorem cedarItems_eq_map (items : List Json) : cedarItems items = items.map cedarValue := by
  induction items with
  | nil => rfl
  | cons item rest ih => simp [cedarItems, ih]

theorem cedarValue_strings (texts : List String) :
    cedarValue (strings texts) = .set (texts.map Cedar.Value.string) := by
  simp [strings, cedarValue, cedarItems_eq_map, Function.comp_def]

/-- How a store turns the type names of a call into its own. -/
abbrev Qualifier := String → String

def cedarEntity (qualify : Qualifier) (name : EntityName) : Cedar.EntityUID :=
  ⟨qualify name.type, name.id⟩

/-- The request of a call for this principal. -/
def cedarRequest (qualify : Qualifier) (principal : Cedar.EntityUID) (input : AuthorizeInput) :
    Cedar.Request where
  principal := principal
  action := cedarEntity qualify (splitAction input.action)
  resource := cedarEntity qualify (splitResource input.resource)
  context := cedarFields (input.context.getD [])

end S2s
