import S2sStack.Errors
import S2sStack.Types

set_option autoImplicit false

/- `authz/cedarLocal.ts`: the in-process policy engine. -/
namespace S2s

open Js (Json Obj)

inductive PolicyEffect where
  | permit
  | forbid
  deriving DecidableEq, Repr

structure LocalPolicy where
  id : String
  effect : PolicyEffect
  principal : Option String := none
  action : Option String := none
  resource : Option String := none
  whenScopesInclude : Option (List String) := none
  unlessScopesInclude : Option (List String) := none
  whenContextEquals : Option Obj := none

structure CedarLocalQuery where
  principal : String
  action : String
  resource : String
  context : Obj

/-- `policy.field && policy.field !== value`; an empty field restricts nothing. -/
def differs (field : Option String) (value : String) : Bool :=
  match field with
  | some text => text ≠ "" ∧ text ≠ value
  | none => false

/-- `scopes.includes(scope)`: an array by element, a string by substring, and no
method on any other value. -/
def scopesInclude (scopes : Json) (scope : String) : Except Fault Bool :=
  match scopes with
  | .arr items => .ok (items.any (fun item => Js.isText (some item) scope))
  | .str text =>
      .ok ((List.range (text.length + 1)).any
        (fun start => scope.toList.isPrefixOf (text.toList.drop start)))
  | _ => .error (plainError "scopes.includes is not a function")

/-- Whether every scope is included; the first one that is not ends the search. -/
def allScopesIncluded (scopes : Json) : List String → Except Fault Bool
  | [] => .ok true
  | scope :: rest => do
      if ← scopesInclude scopes scope then allScopesIncluded scopes rest else return false

/-- `matches` -/
def policyMatches (p : LocalPolicy) (q : CedarLocalQuery) : Except Fault Bool := do
  if differs p.principal q.principal then return false
  if differs p.action q.action then return false
  if differs p.resource q.resource then return false
  let scopes := (Js.nullish (q.context.get? "scopes")).getD (.arr [])
  if let some required := p.whenScopesInclude then
    if !(← allScopesIncluded scopes required) then return false
  if let some excluding := p.unlessScopesInclude then
    if ← allScopesIncluded scopes excluding then return false
  if let some fields := p.whenContextEquals then
    if !fields.all (fun field => Js.strictEquals (q.context.get? field.1) field.2) then return false
  return true

/-- The policies that match, in order. -/
def matchingPolicies (q : CedarLocalQuery) : List LocalPolicy → Except Fault (List LocalPolicy)
  | [] => .ok []
  | p :: rest => do
      let matched ← policyMatches p q
      let others ← matchingPolicies q rest
      return if matched then p :: others else others

/-- `createCedarLocal(policies).evaluate` -/
def cedarEvaluate (policies : List LocalPolicy) (q : CedarLocalQuery) :
    Except Fault AuthorizationResult := do
  let found ← matchingPolicies q policies
  let forbid := found.any (fun p => p.effect = .forbid)
  let allow := found.any (fun p => p.effect = .permit)
  return {
    decision := if forbid || !allow then .deny else .allow
    reasons := found.map LocalPolicy.id
    mode := .local }

/-- A matching forbid wins, and nothing is allowed by default. -/
theorem cedarEvaluate_allow_iff (policies : List LocalPolicy) (q : CedarLocalQuery)
    (result : AuthorizationResult) (evaluated : cedarEvaluate policies q = .ok result) :
    ∃ found, matchingPolicies q policies = .ok found ∧ result.reasons = found.map LocalPolicy.id ∧
      (result.decision = .allow ↔
        (∀ p ∈ found, p.effect ≠ .forbid) ∧ ∃ p ∈ found, p.effect = .permit) := by
  cases matched : matchingPolicies q policies with
  | error fault =>
      simp only [cedarEvaluate, matched, bind, Except.bind, reduceCtorEq] at evaluated
  | ok found =>
      simp only [cedarEvaluate, matched, bind, Except.bind, pure, Except.pure,
        Except.ok.injEq] at evaluated
      subst evaluated
      refine ⟨found, rfl, rfl, ?_⟩
      by_cases forbidden : ∃ p ∈ found, p.effect = .forbid
      · have not_free : ¬ ∀ p ∈ found, p.effect ≠ .forbid := by
          intro free
          obtain ⟨p, member, forbids⟩ := forbidden
          exact free p member forbids
        simp [forbidden, not_free]
      · have free : ∀ p ∈ found, p.effect ≠ .forbid := by
          intro p member forbids
          exact forbidden ⟨p, member, forbids⟩
        have unforbidden : found.any (fun p => p.effect = .forbid) = false := by
          simpa using free
        rw [and_iff_right free]
        simp [unforbidden]

end S2s
