import S2sStack.Middleware.Challenge
import S2sStack.TokenTable

set_option autoImplicit false

/- Log-only mode against enforce mode, for a client that answers a nonce challenge once. -/
namespace S2s

open Effect Effect.Program
open Js (Json Obj)

/-- What becomes of a request. -/
inductive Outcome where
  | passed
  | forbidden
  | unauthorized
  deriving DecidableEq, Repr

/-- The verdict that an event of log-only mode records. -/
def verdictOf (event : Event) : Option Outcome :=
  match event.op with
  | .incShadow _ result =>
      if result = "would_allow" then some .passed
      else if result = "would_deny" then some .forbidden
      else if result = "would_reject" then some .unauthorized
      else none
  | _ => none

/-- What the status of an error response tells the client. -/
def statusOutcome (status : Nat) : Option Outcome :=
  if status = 403 then some .forbidden
  else if status = 401 then some .unauthorized
  else none

/-- The outcome that an event of enforce mode gives the client. -/
def answerOf (event : Event) : Option Outcome :=
  match event.op with
  | .next => some .passed
  | .json status _ => statusOutcome status
  | _ => none

def lastVerdict (trace : List Event) : Option Outcome := (trace.filterMap verdictOf).getLast?

def lastAnswer (trace : List Event) : Option Outcome := (trace.filterMap answerOf).getLast?

def nonceHeaderOf (event : Event) : Option String :=
  match event.op with
  | .setHeader name value => if name = "DPoP-Nonce" then some value else none
  | _ => none

/-- The `DPoP-Nonce` of a 401 response. -/
def challengeIn (trace : List Event) : Option String :=
  if .unauthorized ∈ trace.filterMap answerOf then (trace.filterMap nonceHeaderOf).head? else none

/-- A client with its first request, and the one it retries with for an echoed nonce. -/
structure NonceClient where
  first : Request
  retry : String → Request

/-- `createBrokerAuthMiddleware(cfg)` -/
def createBrokerAuthMiddleware (P : Platform) (cfg : BrokerAuthConfig) (req : Request) : Act Unit :=
  authMiddleware P (wireBrokerAuthConfig cfg) req

/-- What happens in a mode when a request comes in. -/
def handled (P : Platform) (cfg : BrokerAuthConfig) (mode : BrokerAuthMode)
    (env : Environment runtime) (past : List Event) (req : Request) : List Event :=
  (exec env past (createBrokerAuthMiddleware P { cfg with mode := some mode } req)).1

/-- What happens in a mode when the client follows the nonce handshake. -/
def interaction (P : Platform) (cfg : BrokerAuthConfig) (mode : BrokerAuthMode)
    (env : Environment runtime) (past : List Event) (client : NonceClient) : List Event :=
  let first := handled P cfg mode env past client.first
  match challengeIn first with
  | none => first
  | some nonce => first ++ handled P cfg mode env (past ++ first) (client.retry nonce)

/-- The last verdict of log-only mode is the outcome in enforce mode. -/
def Predicts (P : Platform) (cfg : BrokerAuthConfig) (env : Environment runtime)
    (past : List Event) (client : NonceClient) : Prop :=
  ∃ outcome, lastVerdict (interaction P cfg .logOnly env past client) = some outcome ∧
    lastAnswer (interaction P cfg .enforce env past client) = some outcome

/-- The outcome that an evaluation stands for. -/
def outcomeOf : Except Fault (ValidatedToken × AuthorizationResult) → Outcome
  | .ok (_, decision) => if decision.decision = .allow then .passed else .forbidden
  | .error _ => .unauthorized

/-- What follows an evaluation. -/
def respond (mode : BrokerAuthMode) (requestId : String) :
    Except Fault (ValidatedToken × AuthorizationResult) → Act Unit
  | .ok (validated, decision) => conclude mode validated decision requestId
  | .error err => reject mode (rejectionOf err) requestId

/-- The nonce header of an error response, where it has one. -/
def challengeEvents (challengeNonce : Option String) : List Event :=
  match challengeNonce with
  | some nonce => if nonce = "" then [] else [⟨.setHeader "DPoP-Nonce" nonce, ()⟩]
  | none => []

section Responses

variable {trace : List Event} {outcome : Except Fault Unit}

theorem sendChallenge_runs {challengeNonce : Option String}
    (run : Runs (sendChallenge challengeNonce) trace outcome) :
    trace = challengeEvents challengeNonce ∧ outcome = .ok () := by
  unfold sendChallenge at run
  unfold challengeEvents
  cases challengeNonce with
  | none => exact runs_pure_iff.mp run
  | some nonce =>
      dsimp only at run ⊢
      split at run
      · rename_i empty
        rw [if_pos empty]
        exact runs_pure_iff.mp run
      · rename_i filled
        rw [if_neg filled]
        exact Act.runs_setHeader_iff.mp run

theorem sendError_runs {err : AuthError} {requestId : String}
    (run : Runs (sendError err requestId) trace outcome) :
    ∃ timestamp, trace =
      [⟨.setHeader "WWW-Authenticate" (wwwAuthenticateHeader err.code), ()⟩] ++
        (challengeEvents err.challengeNonce ++ [⟨.timestamp, timestamp⟩,
          ⟨.json err.status (buildErrorBody err.code err.message requestId timestamp), ()⟩]) := by
  rw [sendError, Act.setHeader, runs_reply_bind_iff] at run
  obtain ⟨_, _, rfl, run⟩ := run
  rcases runs_bind_iff.mp run with ⟨_, _, _, rfl, challenge, last⟩ | ⟨_, challenge, _⟩
  · obtain ⟨rfl, _⟩ := sendChallenge_runs challenge
    rw [Act.timestamp, runs_reply_bind_iff] at last
    obtain ⟨timestamp, _, rfl, last⟩ := last
    obtain ⟨rfl, _⟩ := Act.runs_json_iff.mp last
    exact ⟨timestamp, rfl⟩
  · cases (sendChallenge_runs challenge).2

/-- The nonces that an error response hands out. -/
def noncesOf (challengeNonce : Option String) : List String :=
  match challengeNonce with
  | some nonce => if nonce = "" then [] else [nonce]
  | none => []

theorem filterMap_challengeEvents (challengeNonce : Option String) :
    (challengeEvents challengeNonce).filterMap answerOf = [] ∧
      (challengeEvents challengeNonce).filterMap nonceHeaderOf = noncesOf challengeNonce := by
  unfold challengeEvents noncesOf
  cases challengeNonce with
  | none => exact ⟨rfl, rfl⟩
  | some nonce =>
      dsimp only
      split
      · exact ⟨rfl, rfl⟩
      · exact ⟨rfl, rfl⟩

theorem sendError_observed {err : AuthError} {requestId : String}
    (run : Runs (sendError err requestId) trace outcome) :
    trace.filterMap answerOf = (statusOutcome err.status).toList ∧
      trace.filterMap nonceHeaderOf = noncesOf err.challengeNonce := by
  obtain ⟨timestamp, rfl⟩ := sendError_runs run
  obtain ⟨answers, nonces⟩ := filterMap_challengeEvents err.challengeNonce
  simp only [List.filterMap_append, answers, nonces]
  constructor
  · simp only [List.filterMap_cons, answerOf, List.filterMap_nil, List.nil_append]
    cases statusOutcome err.status with
    | none => rfl
    | some outcome => rfl
  · simp only [List.filterMap_cons, nonceHeaderOf, String.reduceEq, ↓reduceIte, List.filterMap_nil,
      List.nil_append, List.append_nil]

/-- Log-only mode records the outcome of its evaluation and answers nothing. -/
theorem respond_logOnly {requestId : String}
    {result : Except Fault (ValidatedToken × AuthorizationResult)}
    (run : Runs (respond .logOnly requestId result) trace outcome) :
    trace.filterMap verdictOf = [outcomeOf result] ∧ trace.filterMap answerOf = [.passed] := by
  cases result with
  | error err =>
      rw [respond, reject, Act.incShadow, runs_reply_bind_iff] at run
      obtain ⟨_, _, rfl, run⟩ := run
      obtain ⟨rfl, _⟩ := Act.runs_next_iff.mp run
      exact ⟨rfl, rfl⟩
  | ok verdict =>
      obtain ⟨validated, decision⟩ := verdict
      rw [respond, conclude, Act.incShadow, runs_reply_bind_iff] at run
      obtain ⟨_, _, rfl, run⟩ := run
      rw [Act.setAuth, runs_reply_bind_iff] at run
      obtain ⟨_, _, rfl, run⟩ := run
      obtain ⟨rfl, _⟩ := Act.runs_next_iff.mp run
      refine ⟨?_, rfl⟩
      by_cases allowed : decision.decision = .allow
      · simp [verdictOf, outcomeOf, allowed]
      · simp [verdictOf, outcomeOf, allowed]

/-- Enforce mode answers with the outcome of its evaluation. -/
theorem respond_enforce {requestId : String}
    {result : Except Fault (ValidatedToken × AuthorizationResult)}
    (refused : ∀ fault, result = .error fault → fault.IsRefusal)
    (run : Runs (respond .enforce requestId result) trace outcome) :
    trace.filterMap answerOf = [outcomeOf result] ∧
      ∀ nonce, nonce ∈ trace.filterMap nonceHeaderOf ↔
        ∃ fault, result = .error fault ∧ fault.Challenges nonce ∧ nonce ≠ "" := by
  cases result with
  | error err =>
      have status : (rejectionOf err).status = 401 := refused err rfl
      obtain ⟨answers, nonces⟩ := sendError_observed run
      rw [status] at answers
      refine ⟨answers, fun nonce => ?_⟩
      rw [nonces]
      simp only [Except.error.injEq, exists_eq_left', Fault.Challenges]
      unfold noncesOf
      cases (rejectionOf err).challengeNonce with
      | none => simp
      | some drawn =>
          by_cases empty : drawn = ""
          · simp only [empty, ↓reduceIte, List.not_mem_nil, Option.some.injEq, ne_eq, false_iff,
              not_and, not_not]
            exact Eq.symm
          · simp only [empty, ↓reduceIte, List.mem_singleton, Option.some.injEq]
            constructor
            · rintro rfl
              exact ⟨rfl, empty⟩
            · rintro ⟨rfl, _⟩
              rfl
  | ok verdict =>
      obtain ⟨validated, decision⟩ := verdict
      simp only [reduceCtorEq, false_and, exists_false, iff_false]
      rw [respond, conclude] at run
      split at run
      · rename_i denied
        obtain ⟨answers, nonces⟩ := sendError_observed run
        rw [answers, nonces]
        refine ⟨?_, fun nonce => List.not_mem_nil⟩
        rw [outcomeOf, if_neg denied]
        rfl
      · rename_i allowed
        rw [Act.setAuth, runs_reply_bind_iff] at run
        obtain ⟨_, _, rfl, run⟩ := run
        obtain ⟨rfl, _⟩ := Act.runs_next_iff.mp run
        refine ⟨?_, fun nonce => List.not_mem_nil⟩
        rw [outcomeOf, if_pos (not_not.mp allowed)]
        rfl

end Responses

section Request

variable {env : Environment runtime} {past : List Event}

/-- The history of an evaluation: a request without an id has been given one. -/
def afterNaming (env : Environment runtime) (past : List Event) (req : Request) : List Event :=
  past ++ (exec env past (requestIdOf req)).1

/-- Events that are no verdict, no answer and no header. -/
def isUnseenOp : Op → Prop
  | .randomUUID => True
  | op => isEvaluationOp op

theorem within_quiet_evaluate (P : Platform) (deps : AuthMiddlewareDeps) (req : Request) :
    Within isUnseenOp (evaluate P deps req) := by
  refine (within_evaluate P deps req).mono fun op evaluation => ?_
  cases op <;> trivial

theorem filterMap_quiet {α β : Type} {program : Act α} {trace : List Event}
    {outcome : Except Fault α} {f : Event → Option β} (quiet : Within isUnseenOp program)
    (unseen : ∀ event, isUnseenOp event.op → f event = none) (run : Runs program trace outcome) :
    trace.filterMap f = [] := by
  apply List.filterMap_eq_nil_iff.mpr
  intro event member
  exact unseen event (quiet _ _ run event member)

theorem verdictOf_quiet (event : Event) (quiet : isUnseenOp event.op) : verdictOf event = none := by
  obtain ⟨op, reply⟩ := event
  cases op <;> trivial

theorem answerOf_quiet (event : Event) (quiet : isUnseenOp event.op) : answerOf event = none := by
  obtain ⟨op, reply⟩ := event
  cases op <;> trivial

theorem nonceHeaderOf_quiet (event : Event) (quiet : isUnseenOp event.op) :
    nonceHeaderOf event = none := by
  obtain ⟨op, reply⟩ := event
  cases op <;> trivial

/-- What the middleware makes of a request, before its mode matters. -/
def judgement (P : Platform) (deps : AuthMiddlewareDeps) (env : Environment runtime)
    (past : List Event) (req : Request) : Except Fault (ValidatedToken × AuthorizationResult) :=
  (exec env (afterNaming env past req) (evaluate P deps req)).2

theorem requestIdOf_yields (env : Environment runtime) (past : List Event) (req : Request) :
    ∃ requestId naming, afterNaming env past req = past ++ naming ∧
      Yields env past (requestIdOf req) naming (.ok requestId) := by
  unfold afterNaming requestIdOf
  cases req.header? "x-request-id" with
  | none => exact ⟨_, _, rfl, rfl⟩
  | some id => exact ⟨_, _, rfl, rfl⟩

/-- What is seen of a request is seen in the response to its judgement. -/
theorem authMiddleware_seen (P : Platform) (deps : AuthMiddlewareDeps) (env : Environment runtime)
    (past : List Event) (req : Request) :
    ∃ requestId answering outcome,
      Runs (respond deps.effectiveMode requestId (judgement P deps env past req)) answering
        outcome ∧
      ∀ {β : Type} (f : Event → Option β), (∀ event, isUnseenOp event.op → f event = none) →
        (exec env past (authMiddleware P deps req)).1.filterMap f = answering.filterMap f := by
  obtain ⟨requestId, naming, history, named⟩ := requestIdOf_yields env past req
  have evaluated := yields_exec env (past ++ naming) (evaluate P deps req)
  rw [← history] at evaluated
  have attempted : Yields env (past ++ naming) (attempt (evaluate P deps req))
      (exec env (afterNaming env past req) (evaluate P deps req)).1
      (.ok (judgement P deps env past req)) := by
    rw [← history]
    exact yields_attempt_iff.mpr ⟨_, evaluated, rfl⟩
  obtain ⟨answering, outcome, answered⟩ : ∃ answering outcome, Yields env
      (past ++ naming ++ (exec env (afterNaming env past req) (evaluate P deps req)).1)
      (respond deps.effectiveMode requestId (judgement P deps env past req)) answering outcome :=
    ⟨_, _, yields_exec _ _ _⟩
  have judging : Yields env (past ++ naming)
      (attempt (evaluate P deps req) >>= respond deps.effectiveMode requestId) _ outcome :=
    attempted.bind answered
  have yields : Yields env past (authMiddleware P deps req) _ outcome := named.bind judging
  have quietNaming : Within isUnseenOp (requestIdOf req) := within_requestIdOf trivial req
  refine ⟨requestId, answering, outcome, answered.runs, fun f unseen => ?_⟩
  rw [yields, List.filterMap_append, List.filterMap_append,
    filterMap_quiet quietNaming unseen named.runs,
    filterMap_quiet (within_quiet_evaluate P deps req) unseen evaluated.runs]
  rfl

end Request

/-- Nothing but the nonce holds the first request up, and its retry gets a decision. -/
def DecidedOnRetry (P : Platform) (cfg : BrokerAuthConfig) (env : Environment runtime)
    (past : List Event) (client : NonceClient) : Prop :=
  ∃ nonce, HeldUp P cfg env (afterNaming env past client.first) client.first nonce ∧
    let later := past ++ handled P cfg .enforce env past client.first
    Decided P cfg env (afterNaming env later (client.retry nonce)) (client.retry nonce)

section Prediction

variable {P : Platform} {cfg : BrokerAuthConfig} {env : Environment runtime} {past : List Event}
  {req : Request}

theorem judgement_isRefusal (library : P.ThrowsPlain) (plain : PlainEnvironment env)
    {deps : AuthMiddlewareDeps} {fault : Fault}
    (failed : judgement P deps env past req = .error fault) : fault.IsRefusal := by
  have evaluated := yields_exec env (afterNaming env past req) (evaluate P deps req)
  have run := evaluated.runs
  rw [show (exec env (afterNaming env past req) (evaluate P deps req)).2 = .error fault from
    failed] at run
  exact refuses_evaluate library deps req _ fault run (yields_plain plain evaluated)

theorem judgement_challenges_iff (library : P.ThrowsPlain) (plain : PlainEnvironment env)
    {nonce : String} :
    (∃ fault, judgement P (wireBrokerAuthConfig cfg) env past req = .error fault ∧
      fault.Challenges nonce) ↔ HeldUp P cfg env (afterNaming env past req) req nonce := by
  rw [← evaluate_challenges_iff library plain]
  constructor
  · rintro ⟨fault, failed, challenges⟩
    exact ⟨_, fault, Prod.ext rfl failed, challenges⟩
  · rintro ⟨trace, fault, yields, challenges⟩
    exact ⟨fault, congrArg Prod.snd yields, challenges⟩

theorem judgement_ok_iff :
    (∃ verdict, judgement P (wireBrokerAuthConfig cfg) env past req = .ok verdict) ↔
      Decided P cfg env (afterNaming env past req) req := by
  rw [← evaluate_ok_iff]
  constructor
  · rintro ⟨verdict, returned⟩
    exact ⟨_, verdict, Prod.ext rfl returned⟩
  · rintro ⟨trace, verdict, yields⟩
    exact ⟨verdict, congrArg Prod.snd yields⟩

/-- Log-only mode challenges nobody, so its one verdict is that on the first request. -/
theorem logOnly_verdict (P : Platform) (cfg : BrokerAuthConfig) (env : Environment runtime)
    (past : List Event) (client : NonceClient) :
    lastVerdict (interaction P cfg .logOnly env past client) =
      some (outcomeOf (judgement P (wireBrokerAuthConfig cfg) env past client.first)) := by
  obtain ⟨requestId, answering, outcome, run, seen⟩ := authMiddleware_seen P
    (wireBrokerAuthConfig { cfg with mode := some .logOnly }) env past client.first
  obtain ⟨verdicts, answers⟩ := respond_logOnly run
  have passed : (handled P cfg .logOnly env past client.first).filterMap answerOf = [.passed] :=
    (seen answerOf answerOf_quiet).trans answers
  have silent : challengeIn (handled P cfg .logOnly env past client.first) = none := by
    rw [challengeIn, passed]
    rfl
  have recorded : (handled P cfg .logOnly env past client.first).filterMap verdictOf = _ :=
    (seen verdictOf verdictOf_quiet).trans verdicts
  simp only [interaction, silent, lastVerdict]
  rw [recorded]
  rfl

/-- In enforce mode a request gets one answer, the outcome of its judgement. -/
theorem enforce_answers (library : P.ThrowsPlain) (plain : PlainEnvironment env) :
    (handled P cfg .enforce env past req).filterMap answerOf =
      [outcomeOf (judgement P (wireBrokerAuthConfig cfg) env past req)] := by
  obtain ⟨requestId, answering, outcome, run, seen⟩ := authMiddleware_seen P
    (wireBrokerAuthConfig { cfg with mode := some .enforce }) env past req
  have answers := (respond_enforce (fun fault => judgement_isRefusal library plain) run).1
  exact (seen answerOf answerOf_quiet).trans answers

/-- The client is challenged exactly where nothing but the nonce holds it up. -/
theorem enforce_challenge_iff (library : P.ThrowsPlain) (plain : PlainEnvironment env)
    {nonce : String} :
    challengeIn (handled P cfg .enforce env past req) = some nonce ↔
      HeldUp P cfg env (afterNaming env past req) req nonce := by
  obtain ⟨requestId, answering, outcome, run, seen⟩ := authMiddleware_seen P
    (wireBrokerAuthConfig { cfg with mode := some .enforce }) env past req
  have nonces := (respond_enforce (fun fault => judgement_isRefusal library plain) run).2
  have headers : (handled P cfg .enforce env past req).filterMap nonceHeaderOf =
      answering.filterMap nonceHeaderOf := seen nonceHeaderOf nonceHeaderOf_quiet
  rw [challengeIn, enforce_answers library plain, headers]
  constructor
  · intro challenged
    apply (judgement_challenges_iff library plain).mp
    split at challenged
    · obtain ⟨fault, failed, challenges, _⟩ := (nonces nonce).mp (List.mem_of_head? challenged)
      exact ⟨fault, failed, challenges⟩
    · cases challenged
  · intro heldUp
    obtain ⟨fault, failed, challenges⟩ := (judgement_challenges_iff library plain).mpr heldUp
    obtain ⟨_, _, _, _, _, _, _, _, _, filled⟩ := heldUp
    have member := (nonces nonce).mpr ⟨fault, failed, challenges, filled⟩
    have refused : Outcome.unauthorized ∈ [outcomeOf (.error fault)] := List.mem_cons_self
    rw [failed, if_pos refused]
    obtain ⟨given, rest, shape⟩ := List.exists_cons_of_ne_nil (List.ne_nil_of_mem member)
    have handed : given ∈ answering.filterMap nonceHeaderOf := by
      rw [shape]
      exact List.mem_cons_self
    obtain ⟨_, again, same, _⟩ := (nonces given).mp handed
    cases failed.symm.trans again
    have equal : some given = some nonce := same.symm.trans challenges
    rw [shape, List.head?_cons, equal]

theorem outcomeOf_eq_unauthorized_iff
    {result : Except Fault (ValidatedToken × AuthorizationResult)} :
    outcomeOf result = .unauthorized ↔ ¬ ∃ verdict, result = .ok verdict := by
  cases result with
  | error err => simp [outcomeOf]
  | ok verdict =>
      obtain ⟨validated, decision⟩ := verdict
      simp only [outcomeOf, Except.ok.injEq, exists_eq', not_true_eq_false, iff_false]
      split
      · simp
      · simp

/-- Log-only mode predicts enforcement for a client exactly when it is not the case that
the nonce alone holds its first request up and the retry gets a decision. -/
theorem shadow_predicts_iff (library : P.ThrowsPlain) (plain : PlainEnvironment env)
    (cfg : BrokerAuthConfig) (past : List Event) (client : NonceClient) :
    Predicts P cfg env past client ↔ ¬ DecidedOnRetry P cfg env past client := by
  unfold Predicts
  rw [logOnly_verdict]
  simp only [Option.some.injEq, exists_eq_left']
  have answers (history : List Event) (req : Request) :
      (handled P cfg .enforce env history req).filterMap answerOf =
        [outcomeOf (judgement P (wireBrokerAuthConfig cfg) env history req)] :=
    enforce_answers library plain
  cases challenged : challengeIn (handled P cfg .enforce env past client.first) with
  | none =>
      have free : ¬ DecidedOnRetry P cfg env past client := by
        rintro ⟨nonce, heldUp, _⟩
        have handed := (enforce_challenge_iff library plain).mpr heldUp
        rw [challenged] at handed
        cases handed
      simp only [interaction, challenged, lastAnswer, answers, free, not_false_eq_true, iff_true]
      rfl
  | some nonce =>
      have heldUp := (enforce_challenge_iff library plain).mp challenged
      obtain ⟨fault, failed, _⟩ := (judgement_challenges_iff library plain).mpr heldUp
      have only : DecidedOnRetry P cfg env past client ↔
          ∃ verdict, judgement P (wireBrokerAuthConfig cfg) env
            (past ++ handled P cfg .enforce env past client.first) (client.retry nonce) =
              .ok verdict := by
        rw [judgement_ok_iff]
        constructor
        · rintro ⟨other, heldUp', decided⟩
          have handed := (enforce_challenge_iff library plain).mpr heldUp'
          rw [challenged] at handed
          cases handed
          exact decided
        · intro decided
          exact ⟨nonce, heldUp, decided⟩
      simp only [interaction, challenged, lastAnswer, List.filterMap_append, answers, only, failed,
        ← outcomeOf_eq_unauthorized_iff]
      simp only [List.cons_append, List.nil_append, List.getLast?_cons_cons, List.getLast?_singleton,
        Option.some.injEq]
      rfl

end Prediction

section FreshClient

/-- Two proofs by key 1 for one request: the second has the nonce of the challenge. -/
def ordersProof (nonce : Obj) (jti : String) : Obj :=
  [("htm", .str "GET"), ("htu", .str "https://orders/list"), ("iat", .num 1000),
    ("jti", .str jti), ("ath", .str "hash")] ++ nonce

def ordersTable : TokenTable where
  tokens := [
    ⟨"token", [("alg", .str "ES256")], JwtPayload.ofClaims
      [("iss", .str "https://broker"), ("sub", .str "user-alice"), ("aud", .str "orders"),
        ("scope", .str "orders.read"), ("exp", .num 2000),
        ("cnf", .obj [("jkt", .str "thumbprint-1")])] rfl, ⟨7⟩⟩,
    ⟨"proof-1", [("typ", .str "dpop+jwt"), ("alg", .str "ES256"),
      ("jwk", .obj (TokenTable.jwkOf ⟨1⟩))], JwtPayload.ofClaims (ordersProof [] "jti-1") rfl,
      ⟨1⟩⟩,
    ⟨"proof-2", [("typ", .str "dpop+jwt"), ("alg", .str "ES256"),
      ("jwk", .obj (TokenTable.jwkOf ⟨1⟩))],
      JwtPayload.ofClaims (ordersProof [("nonce", .str "nonce-1")] "jti-2") rfl, ⟨1⟩⟩]
  hashes := [("token", "hash")]

def ordersServices : SteadyServices where
  moment := 1000000
  keys _ := [TokenTable.jwkOf ⟨7⟩]
  signing := { privateKey := ⟨7⟩, publicJwk := TokenTable.jwkOf ⟨7⟩, kid := "k1" }
  signed := ""
  drawn := "nonce-1"

def ordersConfig : BrokerAuthConfig where
  brokerJwksUri := "https://broker/jwks"
  brokerIssuer := "https://broker"
  brokerAudience := "orders"
  resourcePrefix := "Endpoint"

def ordersRequest (proof : String) : Request where
  method := "GET"
  protocol := "https"
  originalUrl := "/list"
  path := "/list"
  routePath := some "/list"
  headers := [("host", "orders"), ("authorization", "DPoP token"), ("dpop", proof)]
  body := none

/-- It starts without a nonce and retries with the one it was given. -/
def freshClient : NonceClient where
  first := ordersRequest "proof-1"
  retry nonce := ordersRequest (if nonce = "nonce-1" then "proof-2" else "proof-1")

theorem freshClient_observed :
    lastVerdict (interaction ordersTable.platform ordersConfig .logOnly
      ordersServices.environment [] freshClient) = some .unauthorized ∧
    lastAnswer (interaction ordersTable.platform ordersConfig .enforce
      ordersServices.environment [] freshClient) = some .passed := by
  decide +kernel

/-- A client that enforce mode lets through on its retry is recorded as one to reject. -/
theorem freshClient_not_predicted :
    ¬ Predicts ordersTable.platform ordersConfig ordersServices.environment [] freshClient := by
  rintro ⟨outcome, recorded, answered⟩
  obtain ⟨verdict, answer⟩ := freshClient_observed
  cases verdict.symm.trans recorded
  cases answer.symm.trans answered

theorem SteadyServices.plain (services : SteadyServices) : PlainEnvironment services.environment := by
  intro history op fault thrown
  cases op <;> cases thrown

/-- Its first request is held up by the nonce alone. -/
theorem freshClient_decidedOnRetry :
    DecidedOnRetry ordersTable.platform ordersConfig ordersServices.environment []
      freshClient := by
  by_contra undecided
  obtain ⟨outcome, recorded, answered⟩ := (shadow_predicts_iff ordersTable.throwsPlain
    ordersServices.plain ordersConfig [] freshClient).mpr undecided
  obtain ⟨verdict, answer⟩ := freshClient_observed
  cases verdict.symm.trans recorded
  cases answer.symm.trans answered

end FreshClient

end S2s
