import S2sStack.Js.Words
import S2sStack.Middleware.Enforce
import S2sStack.Policies.Identity
import S2sStack.Policies.ReportsApps

set_option autoImplicit false

/- The migrated reports app refuses everybody, for two reasons that do not need each other. -/
namespace S2s

open Effect Effect.Program
open Js (Json Obj)

/-- An evaluation that has asked for a decision ends in the reply. -/
theorem evaluate_decided {P : Platform} {deps : AuthMiddlewareDeps} {req : Request}
    {trace : List Event} {outcome : Except Fault (ValidatedToken × AuthorizationResult)}
    {input : AuthorizeInput} {reply : Except Fault AuthorizationResult}
    (run : Runs (evaluate P deps req) trace outcome) (asked : ⟨.authorize input, reply⟩ ∈ trace) :
    ∃ validated : ValidatedToken, outcome = reply.map (fun decision => (validated, decision)) := by
  rw [evaluate] at run
  obtain ⟨accessToken, -, run⟩ := runs_ofExcept_bind_of_mem run asked
  have validation := (within_validateToken P deps.validateToken accessToken
    deps.expectedAudience).mono isOtherOp_of_isValidationOp
  obtain ⟨validated, _, _, rfl, _, run, inside⟩ := run.skip validation asked not_false
  have checking := other_checkResourceProof P deps req accessToken validated
  obtain ⟨_, _, asking, rfl, _, run, inside⟩ := run.skip checking inside not_false
  refine ⟨validated, ?_⟩
  rcases runs_bind_iff.mp run with ⟨decision, before, after, rfl, ask, last⟩ | ⟨fault, ask, same⟩
  · rw [Act.runs_authorize_iff] at ask
    obtain ⟨rfl, same⟩ := runs_pure_iff.mp last
    rw [ask, List.append_nil] at inside
    cases List.mem_singleton.mp inside
    exact same
  · rw [Act.runs_authorize_iff] at ask
    rw [ask] at inside
    cases List.mem_singleton.mp inside
    exact same

/-- The middleware ends in what follows the decision that it was given. -/
theorem authMiddleware_decided {P : Platform} {deps : AuthMiddlewareDeps} {req : Request}
    {trace : List Event} {outcome : Except Fault Unit} {input : AuthorizeInput}
    {decision : AuthorizationResult} (run : Runs (authMiddleware P deps req) trace outcome)
    (asked : ⟨.authorize input, .ok decision⟩ ∈ trace) :
    ∃ requestId validated quiet answering, trace = quiet ++ answering ∧
      (∀ event ∈ quiet, event.op = .randomUUID ∨ isEvaluationOp event.op) ∧
      Runs (conclude deps.effectiveMode validated decision requestId) answering outcome := by
  have naming : Within (Eq Op.randomUUID) (requestIdOf req) := within_requestIdOf rfl req
  rw [authMiddleware] at run
  obtain ⟨requestId, before, _, rfl, named, run, asked⟩ := run.skip naming asked (by simp)
  obtain ⟨evaluated, evaluating, answering, rfl, evaluation, answer⟩ :=
    runs_attempt_bind_iff.mp run
  have quiet : ∀ event ∈ before ++ evaluating,
      event.op = .randomUUID ∨ isEvaluationOp event.op := by
    intro event member
    cases List.mem_append.mp member with
    | inl first => exact .inl (naming _ _ named event first).symm
    | inr second => exact .inr (within_evaluate P deps req _ _ evaluation event second)
  have inside : ⟨.authorize input, .ok decision⟩ ∈ evaluating := by
    cases List.mem_append.mp asked with
    | inl first => exact first
    | inr second =>
        have other : isOtherOp (.authorize input) := by
          cases evaluated with
          | ok verdict => exact other_conclude _ _ _ _ _ _ answer _ second
          | error err => exact other_reject _ _ _ _ _ answer _ second
        exact other.elim
  obtain ⟨validated, rfl⟩ := evaluate_decided evaluation inside
  exact ⟨requestId, validated, before ++ evaluating, answering, by simp, quiet, answer⟩

namespace Reports

open Rbac (RoleManager)

section Before

/-- The users that `policy.csv` lets into a route, the names of its roles among them. -/
def Route.permitted : Route → List String
  | getReports => ["alice", "bob", "analyst", "admin"]
  | postReports | deleteReport _ => ["bob", "admin"]

theorem holds_iff {sub role : String} :
    Rbac.Holds grants sub role ↔
      sub = role ∨ sub = "alice" ∧ role = "analyst" ∨ sub = "bob" ∧ role = "admin" := by
  rw [grants_flat.holds_iff]
  simp [grants]

theorem enforce_iff (roles : RoleManager grants) {handler : Route} {sub : String} :
    roles.enforce rules sub handler.obj handler.act = true ↔ sub ∈ handler.permitted := by
  rw [RoleManager.enforce_iff]
  cases handler with
  | getReports =>
      simp only [Route.obj, Route.act, Route.permitted, rules, holds_iff]
      simp
      grind
  | postReports =>
      simp [Route.obj, Route.act, Route.permitted, rules, holds_iff, or_comm]
  | deleteReport id =>
      simp [Route.obj, Route.act, Route.permitted, rules, holds_iff, or_comm]

/-- The app with Casbin refuses a user with 403 where no rule is for them, and a user without a
name with 401. -/
theorem statusBefore_iff {roles : RoleManager grants} (call : Call) :
    call.statusBefore roles = some 403 ↔
      call.userId ≠ "" ∧ call.userId ∉ call.handler.permitted := by
  have named : Before.userIdMiddleware call.before = .ok call.userId := by
    simp only [Before.userIdMiddleware, call.identified]
  have answered : call.handler.answer.status ≠ 403 := by
    cases call.handler <;> simp [Route.answer]
  rw [← enforce_iff roles]
  simp only [Call.statusBefore, Before.reportsRouter, named, call.routed, Option.map_some,
    Before.enforce]
  by_cases unnamed : call.userId = ""
  · simp [unnamed]
  · by_cases permitted : roles.enforce rules call.userId call.handler.obj call.handler.act = true
    · simp [unnamed, permitted, answered]
    · simp [unnamed, permitted]

end Before

section After

variable {req : Request} {quiet answering : List Event} {auth : Option RequestAuth}

/-- What an evaluation does is not seen by the router. -/
theorem answer_quiet (unseen : ∀ event ∈ quiet, event.op = .randomUUID ∨ isEvaluationOp event.op) :
    After.answer req auth (quiet ++ answering) = After.answer req auth answering := by
  induction quiet with
  | nil => rfl
  | cons event rest ih =>
      have later := ih fun other member => unseen other (List.mem_cons_of_mem _ member)
      have first := unseen event List.mem_cons_self
      obtain ⟨op, reply⟩ := event
      rw [List.cons_append, ← later]
      cases op <;> first | rfl | simp [isEvaluationOp] at first

theorem route_congr {other : Request} (sameMethod : req.method = other.method)
    (samePath : req.path = other.path) : route req = route other := by
  simp only [route, sameMethod, samePath]

/-- No decision of the SDK is the one that the handlers look for. -/
theorem reportsRouter_forbids {handler : Route} (routed : route req = some handler)
    (auth : RequestAuth) :
    After.reportsRouter (some auth.decision.text) req = some { status := 403 } := by
  have other : some auth.decision.text ≠ some "allow" := by
    cases auth.decision <;> decide
  simp only [After.reportsRouter, routed, Option.map_some, if_pos other]

/-- Behind every decision there is a 403: the middleware's own, or that of the handler. -/
theorem answer_forbids {handler : Route} (routed : route req = some handler)
    {validated : ValidatedToken} {decision : AuthorizationResult} {requestId : String}
    {outcome : Except Fault Unit}
    (run : Runs (conclude .enforce validated decision requestId) answering outcome) :
    (After.answer req auth answering).map Answer.status = some 403 := by
  by_cases allowed : decision.decision = .allow
  · simp only [conclude, allowed, ne_eq, not_true_eq_false, ↓reduceIte] at run
    rw [Act.setAuth, runs_reply_bind_iff] at run
    obtain ⟨_, _, rfl, run⟩ := run
    obtain ⟨rfl, _⟩ := Act.runs_next_iff.mp run
    have router := reportsRouter_forbids routed (requestAuth validated decision)
    simp only [After.answer, Option.map_some, router]
  · simp only [conclude, ne_eq, allowed, not_false_eq_true, ↓reduceIte] at run
    obtain ⟨timestamp, rfl⟩ := sendError_runs run
    rfl

end After

section Policies

variable {P : Platform} {deps : AuthMiddlewareDeps} {req : Request} {input : AuthorizeInput}

/-- What stands behind the type of an action. -/
theorem splitAction_typed (id : String) : splitAction ("Action::" ++ id) = ⟨"Action", id⟩ := by
  have spelled : ("Action::" ++ id).toList = "Action".toList ++ ':' :: ':' :: id.toList := by
    rw [String.toList_append]
    rfl
  have plain : ':' ∉ "Action".toList := by decide +kernel
  rw [splitAction, spelled, Js.splitFirstColons_append plain, entityName, String.ofList_toList,
    String.ofList_toList]

theorem splitAction_actionOf (req : Request) :
    splitAction (actionOf req) =
      ⟨"Action", Js.toUpperCase req.method ++
        ("_" ++ Js.underscored (req.routePath.getD req.path))⟩ := by
  rw [← splitAction_typed]
  unfold actionOf
  rw [String.append_assoc, String.append_assoc]

/-- The SDK's names of actions have an underscore in them. -/
theorem underscore_mem_action (asks : AsksFor (authMiddleware P deps req) input) :
    '_' ∈ (splitAction input.action).id.toList := by
  obtain ⟨trace, outcome, reply, run, asked⟩ := asks
  obtain ⟨accessToken, validated, _, _, _, rfl⟩ := authMiddleware_authorize run asked
  have action : (authorizeInput deps req accessToken validated).action = actionOf req := rfl
  rw [action, splitAction_actionOf, String.toList_append, String.toList_append]
  apply List.mem_append_right
  apply List.mem_append_left
  decide +kernel

/-- The SDK asks by names that `reports.cedar` does not have, and without the user that it reads
the roles of. -/
theorem reports_unsatisfied (asks : AsksFor (authMiddleware P deps req) input)
    (qualify : Qualifier) (principal : Cedar.EntityUID) (entities : Cedar.Entities) :
    ∀ policy ∈ After.reportsPolicies,
      policy.action.admits entities (cedarRequest qualify principal input).action = false ∧
      ∀ expr ∈ policy.whenHolds, ¬ Cedar.Is (cedarRequest qualify principal input) true expr := by
  have underscore := underscore_mem_action asks
  have unnamed : ∀ id, '_' ∉ id.toList →
      (After.action id).admits entities (cedarRequest qualify principal input).action = false := by
    intro id plain
    simp only [After.action, Cedar.Scope.admits, cedarRequest, cedarEntity]
    apply decide_eq_false
    intro same
    have named : (splitAction input.action).id = id := congrArg Cedar.EntityUID.id same
    rw [named] at underscore
    exact plain underscore
  have roleless : ∀ role, ¬ M2M.HasRole (cedarRequest qualify principal input) role := by
    intro role holds
    obtain ⟨user, _, present, _, _⟩ := holds
    obtain ⟨scopes, context⟩ := sdk_context asks
    simp [cedarRequest, lookup_cedarFields, context, Obj.get?] at present
  have unheld : ∀ role, ¬ Cedar.Is (cedarRequest qualify principal input) true
      (M2M.rolesContain role) := fun role => mt M2M.is_rolesContain_iff.mp (roleless role)
  have neither : ¬ Cedar.Is (cedarRequest qualify principal input) true
      (.or (M2M.rolesContain "analyst") (M2M.rolesContain "admin")) := by
    rw [Cedar.is_or_true_iff]
    intro one
    cases one with
    | inl first => exact unheld _ first
    | inr second => exact unheld _ second.2
  intro policy member
  simp only [After.reportsPolicies, List.mem_cons, List.not_mem_nil, or_false] at member
  rcases member with rfl | rfl | rfl
  · exact ⟨unnamed _ (by decide), by simpa using neither⟩
  · exact ⟨unnamed _ (by decide), by simpa using unheld "admin"⟩
  · exact ⟨unnamed _ (by decide), by simpa using unheld "admin"⟩

/-- `reports.cedar` allows nothing that the SDK asks for. -/
theorem reports_denied (asks : AsksFor (authMiddleware P deps req) input)
    (qualify : Qualifier) (principal : Cedar.EntityUID) (entities : Cedar.Entities) :
    Cedar.isAuthorized (cedarRequest qualify principal input) entities After.reportsPolicies ≠
      .allow := by
  intro allowed
  obtain ⟨_, policy, member, _, satisfied⟩ := Cedar.isAuthorized_allow_iff.mp allowed
  have acts := (Cedar.satisfied_iff.mp satisfied).2.1
  rw [(reports_unsatisfied asks qualify principal entities policy member).1] at acts
  cases acts

end Policies

section Runs

variable {P : Platform} {cfg : BrokerAuthConfig} {call : Call}

theorem Call.routed_after (call : Call) : route call.after = some call.handler :=
  (route_congr call.sameMethod call.samePath).trans call.routed

/-- What the middleware does after the decision, which is not ALLOW. -/
theorem AfterRun.concluded (run : AfterRun P cfg call) :
    ∃ requestId validated decision quiet answering, run.trace = quiet ++ answering ∧
      (∀ event ∈ quiet, event.op = .randomUUID ∨ isEvaluationOp event.op) ∧
      decision.decision ≠ .allow ∧
      Runs (conclude .enforce validated decision requestId) answering run.outcome := by
  obtain ⟨input, reply, asked⟩ := run.asked
  obtain ⟨qualify, principal, entities, decision, rfl, judged⟩ := run.decided input reply asked
  have asks : AsksFor (authMiddleware P (wireBrokerAuthConfig cfg) call.after) input :=
    ⟨run.trace, run.outcome, _, run.runs, asked⟩
  have denied := mt judged.mp (reports_denied asks qualify principal entities)
  obtain ⟨requestId, validated, quiet, answering, split, unseen, conclusion⟩ :=
    authMiddleware_decided run.runs asked
  rw [run.mode] at conclusion
  exact ⟨requestId, validated, decision, quiet, answering, split, unseen, denied, conclusion⟩

theorem AfterRun.forbids (run : AfterRun P cfg call) : run.status = some 403 := by
  obtain ⟨requestId, validated, decision, quiet, answering, split, unseen, _, conclusion⟩ :=
    run.concluded
  rw [AfterRun.status, split, answer_quiet unseen]
  exact answer_forbids call.routed_after conclusion

/-- The two apps agree exactly on the named users whom `policy.csv` does not let into the
route. -/
theorem AfterRun.preserves_iff (run : AfterRun P cfg call) (roles : RoleManager grants) :
    (run.status = some 403 ↔ call.statusBefore roles = some 403) ↔
      call.userId ≠ "" ∧ call.userId ∉ call.handler.permitted := by
  rw [statusBefore_iff, iff_true_left run.forbids]

end Runs

section Bob

/-- bob's token with the role that `policy.csv` grants him, and a proof for his request. -/
def bobToken : JwtPayload := JwtPayload.ofClaims
  [("iss", .str "https://broker"), ("sub", .str "bob"), ("aud", .str "reports"),
    ("scope", .str "reports/write"), ("exp", .num 2000), ("roles", strings ["admin"]),
    ("cnf", .obj [("jkt", .str "thumbprint-1")])] rfl

def bobProof : JwtPayload := JwtPayload.ofClaims
  [("htm", .str "DELETE"), ("htu", .str "https://reports/api/reports/r-1"), ("iat", .num 1000),
    ("jti", .str "jti-1"), ("ath", .str "hash"), ("nonce", .str "nonce-1")] rfl

def bobTable : TokenTable where
  tokens := [⟨"token", [("alg", .str "RS256")], bobToken, ⟨7⟩⟩,
    ⟨"proof", [("typ", .str "dpop+jwt"), ("alg", .str "ES256"),
      ("jwk", .obj (TokenTable.jwkOf ⟨1⟩))], bobProof, ⟨1⟩⟩]
  hashes := [("token", "hash")]

def reportsServices : SteadyServices where
  moment := 1000000
  keys _ := [TokenTable.jwkOf ⟨7⟩]
  signing := { privateKey := ⟨7⟩, publicJwk := TokenTable.jwkOf ⟨7⟩, kid := "k1" }
  signed := ""
  decision := { decision := .deny, reasons := [], mode := .api }

def reportsConfig : BrokerAuthConfig where
  brokerJwksUri := "https://broker/jwks"
  brokerIssuer := "https://broker"
  brokerAudience := "reports"
  resourcePrefix := "reports"
  mode := some .enforce

def deleteRequest (headers : List (String × String)) : Request where
  method := "DELETE"
  protocol := "https"
  originalUrl := "/api/reports/r-1"
  path := "/reports/r-1"
  routePath := none
  headers := headers
  body := none

/-- `DELETE /api/reports/r-1` of bob. -/
def bobCall : Call where
  userId := "bob"
  before := deleteRequest [("x-user-id", "bob")]
  after := deleteRequest [("host", "reports"), ("authorization", "DPoP token"), ("dpop", "proof"),
    ("x-request-id", "request-1")]
  handler := .deleteReport "r-1"
  identified := rfl
  routed := by decide +kernel
  sameMethod := rfl
  samePath := rfl

theorem bob_roles {accessToken : String} {key : PublicKey} {options : VerifyOptions}
    {payload : JwtPayload} (extracted : requestAccessToken bobCall.after = .ok accessToken)
    (verified : bobTable.platform.jwtVerify accessToken key options = .ok payload) :
    Js.stringItems (payload.claims.get? "roles") = grantedRoles bobCall.userId := by
  have token : requestAccessToken bobCall.after = .ok "token" := by rfl
  rw [token] at extracted
  cases extracted
  have signed : bobTable.verify "token" key options = .ok payload := verified
  obtain ⟨row, found, _, rfl⟩ := TokenTable.verify_ok signed
  have first : bobTable.find "token" =
      some ⟨"token", [("alg", .str "RS256")], bobToken, ⟨7⟩⟩ := by rfl
  rw [first] at found
  cases found
  decide +kernel

def bobInput : AuthorizeInput where
  principal := "ServicePrincipal::bob"
  action := "Action::DELETE__reports_r_1"
  resource := "reports::/reports/r-1"
  token := "token"
  context := some [("dpop_confirmed", .bool true), ("scopes", strings ["reports/write"])]

/-- The middleware of the migrated app on bob's request. -/
def bobRun : AfterRun bobTable.platform reportsConfig bobCall where
  trace := reportsServices.trace
    (createBrokerAuthMiddleware bobTable.platform reportsConfig bobCall.after)
  outcome := reportsServices.outcome
    (createBrokerAuthMiddleware bobTable.platform reportsConfig bobCall.after)
  mode := rfl
  runs := reportsServices.runs _
  roles := fun _ _ _ _ => bob_roles
  asked := ⟨bobInput, .ok reportsServices.decision, by decide +kernel⟩
  decided := by
    intro input reply asked
    have asks : AsksFor (authMiddleware bobTable.platform (wireBrokerAuthConfig reportsConfig)
        bobCall.after) input := ⟨_, _, reply, reportsServices.runs _, asked⟩
    have steady : reply = .ok reportsServices.decision := by
      obtain ⟨history, same⟩ := (yields_exec reportsServices.environment [] _).answered asked
      dsimp only at same
      injection same
    refine ⟨id, ⟨"ServicePrincipal", "bob"⟩, ⟨fun _ => []⟩, _, steady, ?_⟩
    have denied := reports_denied asks id ⟨"ServicePrincipal", "bob"⟩ ⟨fun _ => []⟩
    simp [reportsServices, denied]

/-- bob, who is an admin, could delete reports, and cannot after the migration. -/
theorem bob_locked_out : ¬ PreservesDecisions := by
  intro preserves
  have alike := preserves _ _ (RoleManager.ofFlat grants_flat) bobCall bobRun
  have refused := (statusBefore_iff bobCall).mp (alike.mp bobRun.forbids)
  revert refused
  decide +kernel

end Bob

end Reports

end S2s
