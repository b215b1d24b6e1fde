import S2sStack.Js.Lists
import S2sStack.Middleware.Auth
import S2sStack.TokenTable

set_option autoImplicit false

/- What a request has been through when enforce mode calls `next`. -/
namespace S2s

open Effect Effect.Program
open Js (Json Obj)

/-- A request that was let through with this token, this confirmed key and this proof. -/
structure Admitted (P : Platform) (deps : AuthMiddlewareDeps) (req : Request)
    (accessToken : String) (payload : JwtPayload) (checkedAt : Millis) (jkt : String) (jwk : Json)
    (key : PublicKey) (currentDate : Millis) (proof : JwtPayload) (trace : List Event) : Prop where
  extracted : requestAccessToken req = .ok accessToken
  token : AcceptedToken P deps.validateToken accessToken deps.expectedAudience payload checkedAt
    trace
  confirmation : ∃ cnf, payload.claims.get? "cnf" = some (.obj cnf) ∧
    Obj.get? "jkt" cnf = some (.str jkt)
  confirmed : jkt ≠ ""
  header : ∃ header, P.decodeProtectedHeader (req.headerOrEmpty "dpop") = .ok header ∧
    proofJwk header = .ok jwk
  imported : P.importJWK jwk (.str "ES256") = .ok key
  signature : P.jwtVerify (req.headerOrEmpty "dpop") key
    { algorithms := some ["ES256"], currentDate := currentDate } = .ok proof
  sameKey : P.calculateJwkThumbprint jwk = .ok jkt
  ath : proof.claims.get? "ath" = some (.str (P.sha256Base64url accessToken.toUTF8))
  htm : proof.claims.get? "htm" = some (.str (Js.toUpperCase req.method))
  htu : proof.claims.get? "htu" = some (.str req.htu)
  authorized : ∃ text scopes input decision, Js.Spells (payload.claims.get? "scope") text ∧
    Js.Pieces text scopes ∧ ⟨.authorize input, .ok decision⟩ ∈ trace ∧
    input.token = accessToken ∧
    input.context = some [("dpop_confirmed", .bool true), ("scopes", strings scopes)] ∧
    decision.decision = .allow

theorem Admitted.mono {P : Platform} {deps : AuthMiddlewareDeps} {req : Request}
    {accessToken : String} {payload : JwtPayload} {checkedAt : Millis} {jkt : String} {jwk : Json}
    {key : PublicKey} {currentDate : Millis} {proof : JwtPayload} {trace wider : List Event}
    (admitted : Admitted P deps req accessToken payload checkedAt jkt jwk key currentDate proof
      trace) (within : trace ⊆ wider) :
    Admitted P deps req accessToken payload checkedAt jkt jwk key currentDate proof wider := by
  obtain ⟨text, scopes, input, decision, spelled, cut, asked, authorization⟩ := admitted.authorized
  exact { admitted with
    token := admitted.token.mono within
    authorized := ⟨text, scopes, input, decision, spelled, cut, within asked, authorization⟩ }

/-- An error response does not call `next`. -/
theorem sendError_not_next {err : AuthError} {requestId : String} {trace : List Event}
    {outcome : Except Fault Unit} (run : Runs (sendError err requestId) trace outcome) :
    (⟨.next, ()⟩ : Event) ∉ trace := by
  intro passed
  exact (within_sendError err requestId _ _ run _ passed).elim

/-- In enforce mode `next` comes after a decision that is ALLOW. -/
theorem conclude_enforce_next {validated : ValidatedToken} {decision : AuthorizationResult}
    {requestId : String} {trace : List Event} {outcome : Except Fault Unit}
    (run : Runs (conclude .enforce validated decision requestId) trace outcome)
    (passed : ⟨.next, ()⟩ ∈ trace) : decision.decision = .allow := by
  by_contra denied
  simp only [conclude, ne_eq, denied, not_false_eq_true, ↓reduceIte] at run
  exact sendError_not_next run passed

theorem checkResourceProof_ok {P : Platform} {deps : AuthMiddlewareDeps} {req : Request}
    {accessToken : String} {validated : ValidatedToken} {trace : List Event}
    (required : deps.dpopRequired = true)
    (run : Runs (checkResourceProof P deps req accessToken validated) trace (.ok ())) :
    ∃ result, Runs (verifyDPoP P deps.verifyDPoP
      (resourceProofInput deps req accessToken validated)) trace (.ok result) := by
  unfold checkResourceProof at run
  simp only [required, Bool.not_true, Bool.false_eq_true, ↓reduceIte] at run
  split at run
  · cases (runs_throwing_iff.mp run).2
  · rw [runs_bind_ok] at run
    obtain ⟨result, before, after, rfl, verify, last⟩ := run
    rw [(runs_pure_iff.mp last).1, List.append_nil]
    exact ⟨result, verify⟩

/-- A `cnf` claim that yields a `jkt` is an object with that text in it. -/
theorem cnfClaim_jkt {cnf : Option Json} {jkt : String}
    (found : (cnfClaim cnf).bind CnfClaim.jkt = some jkt) :
    ∃ fields, cnf = some (.obj fields) ∧ Obj.get? "jkt" fields = some (.str jkt) := by
  unfold cnfClaim at found
  split at found
  · rename_i fields
    split at found
    · rename_i text present
      cases found
      exact ⟨fields, rfl, present⟩
    · cases found
  · cases found
  · cases found

/-- The evaluation that ends in ALLOW has checked token, key and proof. -/
theorem admitted_of_evaluate {P : Platform} {deps : AuthMiddlewareDeps} {req : Request}
    {validated : ValidatedToken} {decision : AuthorizationResult} {trace : List Event}
    (dpop : deps.dpopRequired = true) (cnf : deps.cnfRequired = true)
    (run : Runs (evaluate P deps req) trace (.ok (validated, decision)))
    (allowed : decision.decision = .allow) :
    ∃ accessToken payload checkedAt jkt jwk key currentDate proof,
      Admitted P deps req accessToken payload checkedAt jkt jwk key currentDate proof trace := by
  rw [evaluate, runs_ofExcept_bind_ok] at run
  obtain ⟨accessToken, extracted, run⟩ := run
  rw [runs_bind_ok] at run
  obtain ⟨_, validating, _, rfl, validate, run⟩ := run
  obtain ⟨payload, checkedAt, accepted, rfl⟩ := validateToken_ok validate
  rw [runs_bind_ok] at run
  obtain ⟨_, proving, _, rfl, prove, run⟩ := run
  obtain ⟨result, verify⟩ := checkResourceProof_ok dpop prove
  obtain ⟨jwk, key, currentDate, proof, nowMs, jti, thumbprint, _, checked, _, _, _⟩ :=
    verifyDPoP_ok verify
  rw [runs_bind_ok] at run
  obtain ⟨decided, asking, _, rfl, asked, run⟩ := run
  rw [Act.runs_authorize_iff] at asked
  subst asked
  obtain ⟨rfl, same⟩ := runs_pure_iff.mp run
  cases same
  obtain ⟨bound, confirmed⟩ := checkBinding_ok cnf checked.binding
  obtain ⟨fields, present, text⟩ := cnfClaim_jkt bound
  obtain ⟨token, sameToken, ath⟩ := checkAth_ok rfl checked.ath
  cases sameToken
  have methodAndUrl := checkMethodAndUrl_ok checked.methodAndUrl
  refine ⟨accessToken, payload, checkedAt, thumbprint, jwk, key, currentDate, proof, {
    extracted := extracted
    token := accepted.mono (List.subset_append_left _ _)
    confirmation := ⟨fields, present, text⟩
    confirmed := confirmed
    header := checked.header
    imported := checked.imported
    signature := checked.signature
    sameKey := checked.computed
    ath := ath
    htm := methodAndUrl.1
    htu := methodAndUrl.2
    authorized := ?_ }⟩
  have context : (authorizeInput deps req accessToken (validatedToken payload)).context =
      some [("dpop_confirmed", .bool deps.dpopRequired),
        ("scopes", strings (validatedToken payload).scope)] := rfl
  rw [dpop] at context
  exact ⟨_, _, _, decision, Js.spells_iff.mpr rfl, Js.pieces_iff.mpr rfl,
    List.mem_append_right _ (List.mem_append_right _ List.mem_cons_self), rfl, context, allowed⟩

/-- In enforce mode a request reaches the handlers only with a valid token, a proof by the
key the token is bound to, and an ALLOW for that token. -/
theorem next_admitted {P : Platform} {deps : AuthMiddlewareDeps} {req : Request}
    {trace : List Event} {outcome : Except Fault Unit} (mode : deps.effectiveMode = .enforce)
    (dpop : deps.dpopRequired = true) (cnf : deps.cnfRequired = true)
    (run : Runs (authMiddleware P deps req) trace outcome) (passed : ⟨.next, ()⟩ ∈ trace) :
    ∃ accessToken payload checkedAt jkt jwk key currentDate proof,
      Admitted P deps req accessToken payload checkedAt jkt jwk key currentDate proof trace := by
  have naming : Within (Eq Op.randomUUID) (requestIdOf req) := within_requestIdOf rfl req
  rw [authMiddleware] at run
  obtain ⟨requestId, before, after, rfl, _, rest, inRest⟩ := run.skip naming passed (by simp)
  obtain ⟨outcome, evaluating, answering, rfl, evaluation, answer, inAnswer⟩ :=
    rest.skip (Within.attempt (within_evaluate P deps req)) inRest not_false
  rw [runs_attempt_iff] at evaluation
  obtain ⟨inner, evaluation, same⟩ := evaluation
  cases same
  rw [mode] at answer
  cases outcome with
  | error err => exact absurd inAnswer (sendError_not_next answer)
  | ok decided =>
      obtain ⟨validated, decision⟩ := decided
      have allowed := conclude_enforce_next answer inAnswer
      obtain ⟨accessToken, payload, checkedAt, jkt, jwk, key, currentDate, proof, admitted⟩ :=
        admitted_of_evaluate dpop cnf evaluation allowed
      have inside : evaluating ⊆ before ++ (evaluating ++ answering) := fun event member =>
        List.mem_append_right before (List.mem_append_left _ member)
      exact ⟨accessToken, payload, checkedAt, jkt, jwk, key, currentDate, proof,
        admitted.mono inside⟩

section LedgerRequest

/-- A token bound to key 1, and a proof by that key for one request. -/
def ledgerToken : JwtPayload := JwtPayload.ofClaims
  [("iss", .str "https://broker"), ("sub", .str "user-alice"), ("aud", .str "ledger"),
    ("scope", .str "ledger.write"), ("exp", .num 2000),
    ("cnf", .obj [("jkt", .str "thumbprint-1")])] rfl

def ledgerProof : JwtPayload := JwtPayload.ofClaims
  [("htm", .str "POST"), ("htu", .str "https://ledger/entries"), ("iat", .num 1000),
    ("jti", .str "jti-1"), ("ath", .str "hash")] rfl

def ledgerTable : TokenTable where
  tokens := [⟨"token", [("alg", .str "ES256")], ledgerToken, ⟨7⟩⟩,
    ⟨"proof", [("typ", .str "dpop+jwt"), ("alg", .str "ES256"),
      ("jwk", .obj (TokenTable.jwkOf ⟨1⟩))], ledgerProof, ⟨1⟩⟩]
  hashes := [("token", "hash")]

def ledgerServices : SteadyServices where
  moment := 1000000
  keys _ := [TokenTable.jwkOf ⟨7⟩]
  signing := { privateKey := ⟨7⟩, publicJwk := TokenTable.jwkOf ⟨7⟩, kid := "k1" }
  signed := ""

def ledgerDeps : AuthMiddlewareDeps where
  expectedAudience := "ledger"
  resourcePrefix := "Endpoint"
  validateToken := { jwksUri := "https://broker/jwks", expectedIssuer := "https://broker" }
  verifyDPoP := {}

def ledgerRequest : Request where
  method := "POST"
  protocol := "https"
  originalUrl := "/entries?dry=1"
  path := "/entries"
  routePath := some "/entries"
  headers := [("host", "ledger"), ("x-dpop-token", "DPoP token"), ("authorization", "Bearer other"),
    ("dpop", "proof")]
  body := none

/-- The request with both token headers is let through with the token of `X-DPoP-Token`. -/
theorem ledgerRequest_admitted :
    ∃ accessToken payload checkedAt jkt jwk key currentDate proof,
      Admitted ledgerTable.platform ledgerDeps ledgerRequest accessToken payload checkedAt jkt jwk
        key currentDate proof
        (ledgerServices.trace (authMiddleware ledgerTable.platform ledgerDeps ledgerRequest)) :=
  next_admitted rfl rfl rfl (ledgerServices.runs _) (by decide +kernel)

end LedgerRequest

end S2s
