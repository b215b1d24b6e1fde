import S2sStack.Dpop.HonestProof
import S2sStack.Service.Admission

set_option autoImplicit false

/- A request to a service where nothing fails: when it is let through. -/
namespace S2s

open Effect Effect.Program
open Js (Json Obj)

/-- A token of the broker for this service, which is bound to a key and has not expired. -/
structure LiveToken (P : Platform) (deps : ValidateTokenDeps) (audience token thumbprint : String)
    (claims : Obj) (trace : List Event) : Prop where
  verifies : ∃ key, Publishes P deps.jwksUri token key trace ∧ VerifiesTo P token key claims trace
  unexpired : ∀ moment, ⟨.now, moment⟩ ∈ trace → (toSeconds moment : Rat) < dateOrZero claims "exp"
  aud : claims.get? "aud" = some (.str audience)
  iss : claims.get? "iss" = some (.str deps.expectedIssuer)
  scope : ∃ scope, claims.get? "scope" = some (.str scope)
  sub : ∃ sub, claims.get? "sub" = some (.str sub)
  cnf : claims.get? "cnf" = some (.obj [("jkt", .str thumbprint)])

theorem LiveToken.validated {P : Platform} {deps : ValidateTokenDeps}
    {audience token thumbprint : String} {claims : Obj} {trace : List Event}
    (live : LiveToken P deps audience token thumbprint claims trace) :
    Returns (· ∈ trace) (fun validated => validated.raw = claims ∧
      validated.cnf.bind CnfClaim.jkt = some thumbprint) (validateToken P deps token audience) := by
  obtain ⟨key, published, verifies⟩ := live.verifies
  have verify : Returns (· ∈ trace) (fun payload => payload.claims = claims)
      (verifyAgainstJwks P deps.jwksUri token) := fun _ _ run events =>
    verifyAgainstJwks_accepts (published.mono events) (verifies.mono events) run
  have now : Returns (· ∈ trace) (fun nowMs => ⟨.now, nowMs⟩ ∈ trace) Act.now :=
    .command fun reply read => ⟨reply, rfl, read⟩
  refine verify.bind fun payload same => now.bind fun nowMs read => ?_
  subst same
  obtain ⟨_, scope⟩ := live.scope
  obtain ⟨_, sub⟩ := live.sub
  have passes : PassesClaims deps audience payload nowMs := {
    unexpired := live.unexpired nowMs read
    audience := by rw [live.aud, Js.textOrEmpty_str]
    issuer := by rw [live.iss, Js.textOrEmpty_str]
    convertible := by
      simp [live.aud, live.iss, scope, sub, Js.convertible, Json.convertible] }
  refine .ofExcept (checkClaims_ok_iff.mpr ⟨passes, rfl⟩) ⟨rfl, ?_⟩
  simp [validatedToken, live.cnf, cnfClaim, Obj.get?]

/-- What is signed for a request to a service. -/
def serviceProofOptions (req : Request) (accessToken nonce : String) : SignDPoPOptions where
  accessToken := some (.str accessToken)
  htm := Js.toUpperCase req.method
  htu := req.htu
  nonce := some nonce

/-- A request to a service with a token and a proof for it. Redis holds the nonce of the proof and
not its `jti`, the clocks agree, and the policies allow what they are asked. -/
structure HonestVisit (P : Platform) (deps : BrokerAuthDeps) where
  req : Request
  token : String
  extracted : bearerToken req = .ok token
  key : ActiveKey
  nonce : String
  signing : List ClientEvent
  signed : Except Fault DPoPProof
  signs : Runs (signDPoP P (serviceProofOptions req token nonce)) signing signed
  signer : SoundSigner P key signing
  shown : ∀ proof, signed = .ok proof → req.headerOrEmpty "dpop" = proof.proof ∧ proof.proof ≠ ""
  trace : List Event
  outcome : Except Fault Unit
  run : Runs (brokerAuth P deps req) trace outcome
  takes : ∀ proof signedAt, signed = .ok proof → ⟨.date, signedAt⟩ ∈ signing →
    TakesProof deps.verifyDPoP (some nonce) signedAt proof.jti trace
  allowed : ∀ input reply, ⟨.authorize input, reply⟩ ∈ trace →
    ∃ decision, reply = .ok decision ∧ decision.decision = .allow

namespace HonestVisit

variable {P : Platform} {deps : BrokerAuthDeps} {visit : HonestVisit P deps} {thumbprint : String}

/-- The service accepts the proof for a token that is bound to its key. -/
theorem proves (computed : P.calculateJwkThumbprint (.obj visit.key.publicJwk) = .ok thumbprint)
    (filled : thumbprint ≠ "") {validated : ValidatedToken}
    (bound : validated.cnf.bind CnfClaim.jkt = some thumbprint) :
    Returns (· ∈ visit.trace) (fun _ => True)
      (checkServiceProof P deps visit.req visit.token validated) := by
  obtain ⟨proof, signedAt, same, clock, honest⟩ :=
    (signDPoP_run visit.signs).honest visit.signer rfl
  obtain ⟨header, present⟩ := visit.shown proof same
  have fits : FitsProof P (serviceProofOptions visit.req visit.token visit.nonce) visit.key proof
      (serviceProofInput visit.req visit.token validated) thumbprint := {
    presented := header
    method := rfl
    url := rfl
    token := fun _ => ⟨visit.token, rfl, rfl⟩
    computed := computed
    bound := by
      refine checkBinding_ok_iff.mpr ⟨fun _ => ⟨thumbprint, bound, filled⟩, ?_⟩
      intro jkt expected _
      exact (Option.some.inj (expected.symm.trans bound)) }
  rw [checkServiceProof, header, if_neg present]
  exact (honest.accepted fits (visit.takes proof signedAt same clock)).bind
    fun _ _ => .returning trivial

/-- With a live token for this service, which is bound to the key of the proof, the request is let
through exactly if the token names actors and not too many of them. -/
theorem passes_iff (agrees : P.PayloadAgrees) {claims : Obj}
    (live : LiveToken P deps.validateToken deps.expectedAudience visit.token thumbprint claims
      visit.trace) (decoded : P.decodeJwt visit.token = .ok claims)
    (computed : P.calculateJwkThumbprint (.obj visit.key.publicJwk) = .ok thumbprint)
    (filled : thumbprint ≠ "") {chain : ActorChain}
    (named : extractActorChain claims = some chain) :
    ⟨.next, ()⟩ ∈ visit.trace ↔ chainDepth (some chain) ≤ maxActorChainDepth := by
  constructor
  · intro passed
    obtain ⟨accessToken, validated, _, _, checks, admission, _, _⟩ :=
      (brokerAuth_run visit.run).2.of_next passed
    cases admission.extracted.symm.trans visit.extracted
    obtain ⟨part, _, validation⟩ := admission.validation
    obtain ⟨payload, _, accepted, rfl⟩ := validateToken_ok validation
    have same := accepted.verified.decoded agrees
    rw [decoded, Except.ok.injEq] at same
    have checked := admission.delegated
    simp only [checkActorChain, validatedToken, ← same, named] at checked
    by_contra deep
    rw [if_pos (not_le.mp deep)] at checked
    cases checked
  · intro shallow
    have naming : Returns (· ∈ visit.trace) (fun _ => True) (requestIdOf visit.req) :=
      fun _ _ run _ => (requestIdOf_ok run).imp fun _ same => ⟨same, trivial⟩
    have decides (input : AuthorizeInput) : Returns (· ∈ visit.trace)
        (fun decision => decision.decision = .allow) (Act.authorize input) :=
      .command fun reply asked => visit.allowed input reply asked
    have evaluates (requestId : String) : Returns (· ∈ visit.trace)
        (fun evaluated => evaluated.2.decision = .allow)
        (ofExcept (bearerToken visit.req) >>= evaluateToken P deps visit.req requestId) := by
      refine .ofExcept_bind visit.extracted (live.validated.bind fun validated read => ?_)
      obtain ⟨raw, bound⟩ := read
      have short : checkActorChain validated = .ok chain := by
        simp only [checkActorChain, raw, named]
        exact if_neg (not_lt.mpr shallow)
      refine (proves computed filled bound).bind fun _ _ => .ofExcept_bind short ?_
      exact (decides _).bind fun decision permitted => .returning permitted
    have reaches : Reaches (· ∈ visit.trace) (· = ⟨.next, ()⟩) (brokerAuth P deps visit.req) := by
      refine naming.reaches fun requestId _ => (evaluates requestId).attempt.reaches ?_
      rintro _ ⟨⟨auth, decision⟩, rfl, permitted⟩
      have sets : Returns (· ∈ visit.trace) (fun _ => True) (Act.setAuth auth) :=
        .command fun _ _ => ⟨(), rfl, trivial⟩
      dsimp only at permitted ⊢
      rw [if_neg (not_not.mpr permitted)]
      exact sets.reaches fun _ _ => .command fun _ _ => ⟨⟨(), rfl⟩, rfl⟩
    obtain ⟨_, _, member, rfl⟩ := reaches.of_run visit.run
    exact member

end HonestVisit

end S2s
