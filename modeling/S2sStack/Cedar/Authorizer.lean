import S2sStack.Cedar.Language

set_option autoImplicit false

/- Cedar policies and the decision a set of them gives. -/
namespace Cedar

inductive PolicyKind where
  | permit
  | forbid
  deriving DecidableEq, Repr

/-- What the head of a policy asks of the principal, the action or the resource. -/
inductive Scope where
  | any
  | eq (uid : EntityUID)
  /-- `in uid` -/
  | within (uid : EntityUID)
  /-- `in [uid, …]` -/
  | among (uids : List EntityUID)

structure Policy where
  kind : PolicyKind
  principal : Scope := .any
  action : Scope := .any
  resource : Scope := .any
  whenHolds : List Expr := []
  unlessHolds : List Expr := []

/-- The entity store: above each entity the entities it is in. -/
structure Entities where
  ancestors : EntityUID → List EntityUID

/-- `uid in group` -/
def Entities.isIn (entities : Entities) (uid group : EntityUID) : Bool :=
  uid = group ∨ group ∈ entities.ancestors uid

def Scope.admits (entities : Entities) (uid : EntityUID) : Scope → Bool
  | .any => true
  | .eq other => uid = other
  | .within group => entities.isIn uid group
  | .among groups => groups.any (fun group => entities.isIn uid group)

/-- Whether an expression evaluates to this truth value. -/
def is (req : Request) (truth : Bool) (expr : Expr) : Bool :=
  match evaluate req expr with
  | .ok (.bool found) => found = truth
  | _ => false

@[simp] theorem is_iff {req : Request} {truth : Bool} {expr : Expr} :
    is req truth expr = true ↔ Is req truth expr := by
  unfold is Is
  cases evaluate req expr with
  | error err => simp
  | ok value => cases value <;> simp

/-- A policy is satisfied where its head admits the request and all its conditions hold. A
policy with a condition that errors is not. -/
def Policy.satisfied (req : Request) (entities : Entities) (policy : Policy) : Bool :=
  policy.principal.admits entities req.principal && policy.action.admits entities req.action &&
    policy.resource.admits entities req.resource && policy.whenHolds.all (is req true) &&
    policy.unlessHolds.all (is req false)

inductive Decision where
  | allow
  | deny
  deriving DecidableEq, Repr

/-- A satisfied forbid wins, and nothing is allowed by default. -/
def isAuthorized (req : Request) (entities : Entities) (policies : List Policy) : Decision :=
  let satisfied := policies.filter (Policy.satisfied req entities)
  if satisfied.any (fun policy => policy.kind = .forbid) then .deny
  else if satisfied.any (fun policy => policy.kind = .permit) then .allow
  else .deny

section Rules

variable {req : Request} {entities : Entities} {policies : List Policy}

theorem satisfied_iff {policy : Policy} :
    policy.satisfied req entities = true ↔
      policy.principal.admits entities req.principal = true ∧
      policy.action.admits entities req.action = true ∧
      policy.resource.admits entities req.resource = true ∧
      (∀ expr ∈ policy.whenHolds, Is req true expr) ∧
      (∀ expr ∈ policy.unlessHolds, Is req false expr) := by
  simp [Policy.satisfied, and_assoc]

theorem isAuthorized_allow_iff :
    isAuthorized req entities policies = .allow ↔
      (∀ policy ∈ policies, policy.kind = .forbid → policy.satisfied req entities = false) ∧
      ∃ policy ∈ policies, policy.kind = .permit ∧ policy.satisfied req entities = true := by
  unfold isAuthorized
  by_cases forbidden : ∃ policy ∈ policies, policy.satisfied req entities = true ∧
      policy.kind = .forbid
  · have some_forbid : (policies.filter (Policy.satisfied req entities)).any
        (fun policy => policy.kind = .forbid) = true := by
      simpa [and_assoc] using forbidden
    obtain ⟨policy, member, satisfied, forbids⟩ := forbidden
    simp only [some_forbid, ↓reduceIte, reduceCtorEq, false_iff, not_and]
    intro free
    rw [free policy member forbids] at satisfied
    cases satisfied
  · have no_forbid : (policies.filter (Policy.satisfied req entities)).any
        (fun policy => policy.kind = .forbid) = false := by
      simpa [and_assoc] using forbidden
    have free : ∀ policy ∈ policies, policy.kind = .forbid →
        policy.satisfied req entities = false := by
      intro policy member forbids
      apply Bool.eq_false_iff.mpr
      intro satisfied
      exact forbidden ⟨policy, member, satisfied, forbids⟩
    rw [and_iff_right free]
    simp [no_forbid, and_comm]

end Rules

end Cedar
