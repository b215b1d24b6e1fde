import S2sStack.Authz.CedarLocal
import S2sStack.Cache.Memo
import S2sStack.Js.Text

set_option autoImplicit false

/- `authz/authorize.ts`: policy decisions behind a decision cache. -/
namespace S2s

open Js (Json Obj)
open Memo (Call Served Table)

inductive AuthorizeMode where
  | avpApi
  | localCedar
  deriving DecidableEq, Repr

/-- An entity type or action type, and the identifier in it. -/
structure EntityName where
  type : String
  id : String
  deriving DecidableEq, Repr

/-- The argument of `isAuthorizedWithToken`. -/
structure AvpRequest where
  policyStoreId : String
  accessToken : String
  action : EntityName
  resource : EntityName
  context : Option Obj

structure AvpResponse where
  decision : Decision
  determiningPolicies : Option (List String)

/-- The two policy engines; what they answer may depend on the moment. -/
structure PolicyBackend where
  avpClient : Nat → AvpRequest → Except Fault AvpResponse
  cedarLocal : Nat → CedarLocalQuery → Except Fault AuthorizationResult

structure AuthorizeDeps extends PolicyBackend where
  mode : AuthorizeMode
  policyStoreId : String
  fallbackToLocal : Bool
  cacheTtlMs : Option Nat

abbrev DecisionCache := Table String AuthorizationResult

namespace AuthorizeDeps

def ttl (deps : AuthorizeDeps) : Nat := deps.cacheTtlMs.getD 30000

end AuthorizeDeps

def entityName (default text : String) : Option (List Char × List Char) → EntityName
  | some (type, id) => ⟨String.ofList type, String.ofList id⟩
  | none => ⟨default, text⟩

def splitAction (action : String) : EntityName :=
  entityName "Action" action (Js.splitFirstColons action.toList)

def splitResource (resource : String) : EntityName :=
  entityName "Resource" resource (Js.splitLastColons resource.toList)

def avpRequest (deps : AuthorizeDeps) (input : AuthorizeInput) : AvpRequest where
  policyStoreId := deps.policyStoreId
  accessToken := input.token
  action := splitAction input.action
  resource := splitResource input.resource
  context := input.context

def localQuery (input : AuthorizeInput) : CedarLocalQuery where
  principal := input.principal
  action := input.action
  resource := input.resource
  context := input.context.getD []

/-- `${input.principal}:${input.action}:${input.resource}` -/
def cacheKey (input : AuthorizeInput) : String :=
  input.principal ++ ":" ++ input.action ++ ":" ++ input.resource

def askAvp (deps : AuthorizeDeps) (now : Nat) (input : AuthorizeInput) :
    Except Fault AuthorizationResult :=
  match deps.avpClient now (avpRequest deps input) with
  | .ok resp =>
      .ok { decision := resp.decision, reasons := resp.determiningPolicies.getD [], mode := .api }
  | .error err => .error err

/-- What the policy backend decides at a moment, without the cache. -/
def policyDecision (deps : AuthorizeDeps) (now : Nat) (input : AuthorizeInput) :
    Except Fault AuthorizationResult :=
  match deps.mode with
  | .avpApi =>
      match askAvp deps now input with
      | .ok result => .ok result
      | .error err =>
          if deps.fallbackToLocal then deps.cedarLocal now (localQuery input) else .error err
  | .localCedar => deps.cedarLocal now (localQuery input)

/-- `createAuthorize(deps)`, called once at a clock reading. -/
def authorize (deps : AuthorizeDeps) (cache : DecisionCache) (call : Call AuthorizeInput) :
    Except Fault AuthorizationResult × DecisionCache :=
  let key := cacheKey call.input
  match Memo.live deps.ttl call.now (cache key) with
  | some cached => (.ok { cached.answer with mode := .cache }, cache)
  | none =>
      match policyDecision deps call.now call.input with
      | .ok result => (.ok result, Function.update cache key (some ⟨result, call.now⟩))
      | .error err => (.error err, cache)

/-- The cache after some calls to one `authorize`. -/
def cacheAfter (deps : AuthorizeDeps) (calls : List (Call AuthorizeInput)) : DecisionCache :=
  calls.foldl (fun cache call => (authorize deps cache call).2) Table.empty

/-- The cached function as a memo table over the backend. -/
def memo (deps : AuthorizeDeps) : Memo.Spec AuthorizeInput String AuthorizationResult Fault where
  key := cacheKey
  lifetime := deps.ttl
  compute := policyDecision deps

def rendered : Served AuthorizationResult → AuthorizationResult
  | .stored result => { result with mode := .cache }
  | .computed result => result

theorem rendered_decision (served : Served AuthorizationResult) :
    (rendered served).decision = served.answer.decision := by
  cases served <;> rfl

theorem rendered_reasons (served : Served AuthorizationResult) :
    (rendered served).reasons = served.answer.reasons := by
  cases served <;> rfl

/-- The source is the memo table, with the served entry marked as cached. -/
theorem authorize_eq_ask (deps : AuthorizeDeps) (cache : DecisionCache)
    (call : Call AuthorizeInput) :
    authorize deps cache call =
      ((Memo.ask (memo deps) cache call).1.map rendered, (Memo.ask (memo deps) cache call).2) := by
  rcases Memo.ask_cases (memo deps) cache call with
    ⟨entry, found, young, step⟩ | ⟨stale, answer, computed, step⟩ | ⟨stale, fault, failed, step⟩
  · have usable : Memo.live deps.ttl call.now (cache (cacheKey call.input)) = some entry :=
      Memo.live_eq_some.mpr ⟨found, young⟩
    rw [step]
    simp only [authorize, usable]
    rfl
  · rw [step]
    simp only [memo] at stale computed
    simp only [authorize, stale, computed]
    rfl
  · rw [step]
    simp only [memo] at stale failed
    simp only [authorize, stale, failed]
    rfl

theorem cacheAfter_eq_after (deps : AuthorizeDeps) (calls : List (Call AuthorizeInput)) :
    cacheAfter deps calls = Memo.after (memo deps) Table.empty calls := by
  simp only [cacheAfter, Memo.after, authorize_eq_ask]

end S2s
