import S2sStack.Js.Paths
import S2sStack.Middleware.Shadow
import S2sStack.Policies.Requests
import S2sStack.Policies.Shipped
import S2sStack.Rbac.RoleLinks
import S2sStack.Service.AuthorizationCalls

set_option autoImplicit false

/- `examples/migrations/from-casbin-rbac`: the reports app with Casbin, and what it was
migrated to. -/
namespace S2s.Reports

open Effect Effect.Program
open Js (Json Obj)
open Rbac (Rule RoleManager)

/-- What a client is answered; `end()` sends no body. -/
structure Answer where
  status : Nat
  body : Option Json := none

/-- The routes that both apps have under `/api`. -/
inductive Route where
  /-- `GET /reports` -/
  | getReports
  /-- `POST /reports` -/
  | postReports
  /-- `DELETE /reports/:id` -/
  | deleteReport (id : String)
  deriving DecidableEq, Repr

/-- The route of a request below `/api`. Express has `HEAD` requests handled by `get`. -/
def route (req : Request) : Option Route :=
  if req.method = "GET" ∨ req.method = "HEAD" then
    (Js.routeParams [.word "reports"] req.path).map fun _ => .getReports
  else if req.method = "POST" then
    (Js.routeParams [.word "reports"] req.path).map fun _ => .postReports
  else if req.method = "DELETE" then
    match Js.routeParams [.word "reports", .param] req.path with
    | some [id] => some (.deleteReport id)
    | _ => none
  else none

namespace Route

/-- What the handler answers behind its check. -/
def answer : Route → Answer
  | getReports => ⟨200, some (.obj [("reports", .arr [.obj [("id", .str "r-1")]])])⟩
  | postReports => ⟨201, some (.obj [("id", .str "r-2")])⟩
  | deleteReport _ => ⟨204, none⟩

/-- The arguments of `enforce` at the route. -/
def obj : Route → String
  | getReports | postReports => "/reports"
  | deleteReport _ => "/reports/:id"

def act : Route → String
  | getReports => "read"
  | postReports => "write"
  | deleteReport _ => "delete"

end Route

/-- The `p` rows of `policy.csv`. -/
def rules : List (Rule String String String) :=
  [⟨"analyst", "/reports", "read"⟩, ⟨"admin", "/reports", "read"⟩, ⟨"admin", "/reports", "write"⟩,
    ⟨"admin", "/reports/:id", "delete"⟩]

/-- The `g` rows of `policy.csv`. -/
def grants : List (Rbac.Grant String) := [⟨"alice", "analyst"⟩, ⟨"bob", "admin"⟩]

theorem grants_flat : Rbac.Flat grants := by
  unfold Rbac.Flat
  decide

namespace Before

def userIdMiddleware (req : Request) : Except Nat String :=
  match req.header? "x-user-id" with
  | some sub => .ok sub
  | none => .error 401

/-- `enforce(obj, act)` -/
def enforce (roles : RoleManager grants) (obj act sub : String) : Except Nat Unit :=
  if sub = "" then .error 401
  else if roles.enforce rules sub obj act then .ok ()
  else .error 403

/-- `reportsRouter` of the app with Casbin, or nothing where it hands the request on. -/
def reportsRouter (roles : RoleManager grants) (req : Request) : Option Answer :=
  match userIdMiddleware req with
  | .error status => some { status := status }
  | .ok sub =>
      (route req).map fun handler =>
        match enforce roles handler.obj handler.act sub with
        | .error status => { status := status }
        | .ok () => handler.answer

end Before

namespace After

/-- `reportsRouter` of the migrated app, for the `decision` of `req.auth`. -/
def reportsRouter (decision : Option String) (req : Request) : Option Answer :=
  (route req).map fun handler =>
    if decision ≠ some "allow" then { status := 403 } else handler.answer

/-- The answer of the migrated app, whose middleware does this: its own, or after `next` that of
the router with `req.auth` as it was set last. -/
def answer (req : Request) : Option RequestAuth → List Event → Option Answer
  | _, [] => none
  | auth, event :: rest =>
      match event.op with
      | .json status body => some { status := status, body := some body }
      | .next => reportsRouter (auth.map (fun auth => auth.decision.text)) req
      | .setAuth granted => answer req (some granted) rest
      | _ => answer req auth rest

/-- `action == Action::"id"` in the head of a policy -/
def action (id : String) : Cedar.Scope := .eq ⟨"Action", id⟩

/-- `reports.cedar` -/
def reportsPolicies : List Cedar.Policy :=
  [{ kind := .permit
     action := action "readReports"
     whenHolds := [.or (M2M.rolesContain "analyst") (M2M.rolesContain "admin")] },
    { kind := .permit
      action := action "writeReports"
      whenHolds := [M2M.rolesContain "admin"] },
    { kind := .permit
      action := action "deleteReport"
      whenHolds := [M2M.rolesContain "admin"] }]

end After

/-- The roles that the `g` rows grant. -/
def grantedRoles (userId : String) : List String :=
  (grants.filter (fun grant => grant.user = userId)).map Rbac.Grant.role

/-- A request of a user to the two apps. -/
structure Call where
  userId : String
  before : Request
  after : Request
  handler : Route
  identified : before.header? "x-user-id" = some userId
  routed : route before = some handler
  sameMethod : after.method = before.method
  samePath : after.path = before.path

/-- A reply that says what the policies say about the input. -/
def DecidedBy (policies : List Cedar.Policy) (input : AuthorizeInput)
    (reply : Except Fault AuthorizationResult) : Prop :=
  ∃ qualify principal entities result, reply = .ok result ∧
    (result.decision = .allow ↔
      Cedar.isAuthorized (cedarRequest qualify principal input) entities policies = .allow)

/-- The middleware of the migrated app at work on a request whose token and proof are good. -/
structure AfterRun (P : Platform) (cfg : BrokerAuthConfig) (call : Call) where
  trace : List Event
  outcome : Except Fault Unit
  mode : (wireBrokerAuthConfig cfg).effectiveMode = .enforce
  runs : Runs (createBrokerAuthMiddleware P cfg call.after) trace outcome
  roles : ∀ accessToken key options payload, requestAccessToken call.after = .ok accessToken →
    P.jwtVerify accessToken key options = .ok payload →
      Js.stringItems (payload.claims.get? "roles") = grantedRoles call.userId
  asked : ∃ input reply, ⟨.authorize input, reply⟩ ∈ trace
  decided : ∀ input reply, ⟨.authorize input, reply⟩ ∈ trace →
    DecidedBy After.reportsPolicies input reply

/-- The status with which the app with Casbin answers. -/
def Call.statusBefore (call : Call) (roles : RoleManager grants) : Option Nat :=
  (Before.reportsRouter roles call.before).map Answer.status

/-- The status with which the migrated app answers. -/
def AfterRun.status {P : Platform} {cfg : BrokerAuthConfig} {call : Call}
    (run : AfterRun P cfg call) : Option Nat :=
  (After.answer call.after none run.trace).map Answer.status

/-- The two apps answer with 403 in the same cases. -/
def PreservesDecisions : Prop :=
  ∀ (P : Platform) (cfg : BrokerAuthConfig) (roles : RoleManager grants) (call : Call)
    (run : AfterRun P cfg call), run.status = some 403 ↔ call.statusBefore roles = some 403

end S2s.Reports
