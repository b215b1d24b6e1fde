import S2sStack.Broker.Soundness
import S2sStack.Js.Headers

set_option autoImplicit false

/- The URL of the token endpoint: as `routes/discovery.ts` advertises it, and as the broker puts
it together from the headers of a request. -/
namespace S2s

open Effect.Program
open Js (Json Obj HeaderRecord)

def tokenEndpoint (brokerIssuerUrl : String) : String := brokerIssuerUrl ++ "/oauth2/token"

def discoveryDocument (brokerIssuerUrl : String) : Obj :=
  [("issuer", .str brokerIssuerUrl),
    ("jwks_uri", .str (brokerIssuerUrl ++ "/.well-known/jwks.json")),
    ("token_endpoint", .str (tokenEndpoint brokerIssuerUrl)),
    ("grant_types_supported", .arr [.str tokenExchangeGrant]),
    ("token_endpoint_auth_methods_supported", .arr [.str "client_secret_basic"]),
    ("subject_token_types_supported", .arr (supportedSubjectTokenTypes.map .str)),
    ("id_token_signing_alg_values_supported", .arr [.str "RS256"])]

theorem discoveryDocument_tokenEndpoint (brokerIssuerUrl : String) :
    Obj.get? "token_endpoint" (discoveryDocument brokerIssuerUrl) =
      some (.str (tokenEndpoint brokerIssuerUrl)) := rfl

/-- A request as it arrives on a connection, its header names in lower case. -/
structure Arriving where
  encrypted : Bool
  method : String
  originalUrl : String
  path : String
  routePath : Option String
  headers : HeaderRecord
  body : Option Json

/-- `req.protocol` under `app.set('trust proxy', true)`, which trusts every peer. -/
def Arriving.protocol (arriving : Arriving) : String :=
  let proto := if arriving.encrypted then "https" else "http"
  let header := (arriving.headers.lookup "x-forwarded-proto").getD ""
  Js.trim (Js.beforeFirst ',' (if header = "" then proto else header))

def Arriving.request (arriving : Arriving) : Request where
  method := arriving.method
  protocol := arriving.protocol
  originalUrl := arriving.originalUrl
  path := arriving.path
  routePath := arriving.routePath
  headers := arriving.headers
  body := arriving.body

/-- The `htu` that the broker expects of the proof on this request. -/
def Arriving.expectedHtu (arriving : Arriving) (P : Platform) : String :=
  brokerTokenEndpointHtu P arriving.request

def Arriving.dpopProof (arriving : Arriving) : String := arriving.request.headerOrEmpty "dpop"

/-- The verification of the proof on this request. -/
def Arriving.verifyProof (arriving : Arriving) (P : Platform) (deps : TokenRouterDeps) :
    Act DPoPVerificationResult :=
  verifyExchangeProof P deps.proofVerifier arriving.dpopProof (arriving.expectedHtu P)

section Signed

variable {P : Platform} {deps : VerifyDPoPDeps} {input : VerifyDPoPInput} {currentDate : Millis}
  {payload : JwtPayload}

/-- The proof carries a key and is signed with it. -/
def SignedAt (P : Platform) (dpopProof : String) (currentDate : Millis) (payload : JwtPayload) :
    Prop :=
  ∃ header jwk key, P.decodeProtectedHeader dpopProof = .ok header ∧
    proofJwk header = .ok jwk ∧ P.importJWK jwk (.str "ES256") = .ok key ∧
    P.jwtVerify dpopProof key
      { algorithms := some ["ES256"], currentDate := currentDate } = .ok payload

/-- With claims for another URL the verification ends right after the signature. -/
theorem SignedAt.runs_mismatch (signed : SignedAt P input.dpopProof currentDate payload)
    {fault : Fault} (other : checkMethodAndUrl input payload = .error fault) :
    Runs (verifyDPoP P deps input) [⟨.date, currentDate⟩] (.error fault) := by
  obtain ⟨header, jwk, key, decoded, carried, imported, verified⟩ := signed
  apply Runs.bind_error
  apply Runs.ofExcept_bind (replaceError_eq_ok.mpr decoded)
  apply Runs.ofExcept_bind carried
  apply Runs.ofExcept_bind (replaceError_eq_ok.mpr imported)
  apply Runs.reply_bind
  apply Runs.ofExcept_bind (replaceError_eq_ok.mpr verified)
  apply Runs.bind_error
  rw [other]
  exact .done _

/-- With claims for this URL it goes on to look at the time. -/
theorem SignedAt.not_ended (signed : SignedAt P input.dpopProof currentDate payload)
    (same : checkMethodAndUrl input payload = .ok ())
    {outcome : Except Fault DPoPVerificationResult} :
    ¬ Runs (verifyDPoP P deps input) [⟨.date, currentDate⟩] outcome := by
  obtain ⟨header, jwk, key, decoded, carried, imported, verified⟩ := signed
  intro run
  have ended : ∃ checked, Runs (checkProof P deps input) [⟨.date, currentDate⟩] checked := by
    rw [verifyDPoP, runs_bind_iff] at run
    obtain ⟨⟨jwk, payload⟩, before, after, split, check, rest⟩ | ⟨fault, check, -⟩ := run
    · obtain ⟨_, _, _, _, rfl⟩ := checkProof_ok_iff.mp check
      cases split
    · exact ⟨_, check⟩
  obtain ⟨checked, check⟩ := ended
  have importing : importProofKey P jwk = .ok key := replaceError_eq_ok.mpr imported
  have verifying : verifyProofSignature P input.dpopProof key currentDate = .ok payload :=
    replaceError_eq_ok.mpr verified
  rw [checkProof, runs_ofExcept_bind_iff (replaceError_eq_ok.mpr decoded),
    runs_ofExcept_bind_iff carried, runs_ofExcept_bind_iff importing, Act.date,
    runs_reply_bind_cons_iff, runs_ofExcept_bind_iff verifying, runs_ofExcept_bind_iff same,
    Act.now, runs_reply_bind_iff] at check
  obtain ⟨nowMs, rest, impossible, -⟩ := check
  cases impossible

/-- The proof is signed for a POST to this URL. -/
def SignedFor (P : Platform) (dpopProof htu : String) : Prop :=
  ∃ currentDate payload, SignedAt P dpopProof currentDate payload ∧
    checkMethodAndUrl (exchangeProofInput dpopProof htu) payload = .ok ()

/-- At some moment the proof passes for this URL, but for its replay record. -/
def AcceptableFor (P : Platform) (opts : ExchangeProofVerifierOptions) (dpopProof htu : String) :
    Prop :=
  ∃ jwk key currentDate payload nowMs jti thumbprint,
    AcceptedProof P (exchangeProofDeps opts) (exchangeProofInput dpopProof htu) jwk key currentDate
      payload nowMs jti thumbprint

variable {opts : ExchangeProofVerifierOptions} {dpopProof htu other : String}

/-- Exactly the acceptable proofs are accepted, where Redis has no record of them. -/
theorem acceptableFor_iff :
    AcceptableFor P opts dpopProof htu ↔
      ∃ trace result, Runs (verifyExchangeProof P opts dpopProof htu) trace (.ok result) := by
  constructor
  · rintro ⟨jwk, key, currentDate, payload, nowMs, jti, thumbprint, accepted⟩
    exact ⟨_, _, accepted.runs (.done _)⟩
  · rintro ⟨trace, result, run⟩
    obtain ⟨jwk, key, currentDate, payload, nowMs, jti, thumbprint, _, accepted, -⟩ :=
      verifyDPoP_ok run
    exact ⟨jwk, key, currentDate, payload, nowMs, jti, thumbprint, accepted⟩

theorem checkMethodAndUrl_error {input : VerifyDPoPInput} {payload : JwtPayload}
    (failed : checkMethodAndUrl input payload ≠ .ok ()) :
    checkMethodAndUrl input payload =
      .error (unauthorized .dpopBindingMismatch "htm/htu mismatch") := by
  unfold checkMethodAndUrl at failed ⊢
  by_cases both : Js.isText (payload.claims.get? "htm") input.expectedHtm ∧
      Js.isText (payload.claims.get? "htu") input.expectedHtu
  · rw [if_pos both] at failed
    exact absurd rfl failed
  · exact if_neg both

/-- A proof that is signed for one URL tells this URL from any other. -/
theorem SignedFor.distinguishes (signed : SignedFor P dpopProof htu)
    (same : ∀ trace outcome, Runs (verifyExchangeProof P opts dpopProof htu) trace outcome ↔
      Runs (verifyExchangeProof P opts dpopProof other) trace outcome) : htu = other := by
  obtain ⟨currentDate, payload, signedAt, names⟩ := signed
  apply Classical.byContradiction
  intro different
  have refused : checkMethodAndUrl (exchangeProofInput dpopProof other) payload ≠ .ok () := by
    intro passed
    have one := (checkMethodAndUrl_ok names).2
    rw [(checkMethodAndUrl_ok passed).2] at one
    cases one
    exact different rfl
  have ended : Runs (verifyExchangeProof P opts dpopProof other) [⟨.date, currentDate⟩] _ :=
    SignedAt.runs_mismatch signedAt (checkMethodAndUrl_error refused)
  exact SignedAt.not_ended signedAt names ((same _ _).mpr ended)

/-- A proof that is signed for neither of two URLs is refused alike under both. -/
theorem verifyExchangeProof_congr (neither : ¬ SignedFor P dpopProof htu)
    (norOther : ¬ SignedFor P dpopProof other) :
    verifyExchangeProof P opts dpopProof htu = verifyExchangeProof P opts dpopProof other := by
  have alike : checkProof P (exchangeProofDeps opts) (exchangeProofInput dpopProof htu) =
      checkProof P (exchangeProofDeps opts) (exchangeProofInput dpopProof other) := by
    apply ofExcept_bind_congr
    intro header decoded
    apply ofExcept_bind_congr
    intro jwk carried
    apply ofExcept_bind_congr
    intro key imported
    apply congrArg (Act.date >>= ·)
    funext currentDate
    apply ofExcept_bind_congr
    intro payload verified
    have signedAt : SignedAt P dpopProof currentDate payload :=
      ⟨header, jwk, key, replaceError_eq_ok.mp decoded, carried, replaceError_eq_ok.mp imported,
        replaceError_eq_ok.mp verified⟩
    rw [checkMethodAndUrl_error fun named => neither ⟨currentDate, payload, signedAt, named⟩,
      checkMethodAndUrl_error fun named => norOther ⟨currentDate, payload, signedAt, named⟩]
    rfl
  unfold verifyExchangeProof verifyDPoP
  rw [alike]
  rfl

end Signed

/-- The headers from which a proxy tells the origin of a request. -/
def originHeaders : List String := ["host", "x-forwarded-host", "x-forwarded-proto"]

/-- Two requests that differ only in their origin headers. -/
structure OriginPair where
  first : Arriving
  second : Arriving
  encrypted : first.encrypted = second.encrypted
  method : first.method = second.method
  originalUrl : first.originalUrl = second.originalUrl
  path : first.path = second.path
  routePath : first.routePath = second.routePath
  body : first.body = second.body
  headers : ∀ name ∉ originHeaders, first.headers.lookup name = second.headers.lookup name

namespace OriginPair

variable (pair : OriginPair) (P : Platform) (deps : TokenRouterDeps)

/-- Both requests carry this proof. -/
def dpopProof : String := pair.first.dpopProof

theorem second_dpopProof : pair.second.dpopProof = pair.dpopProof := by
  have same := pair.headers "dpop" (by decide)
  simp only [dpopProof, Arriving.dpopProof, Request.headerOrEmpty, Request.header?,
    Arriving.request, same]

/-- The verdict does not depend on the origin headers, and only a proof for the advertised
endpoint is accepted. -/
structure BoundToBroker : Prop where
  sameVerdict : ∀ trace outcome, Runs (pair.first.verifyProof P deps) trace outcome ↔
    Runs (pair.second.verifyProof P deps) trace outcome
  advertised : ∀ arriving ∈ [pair.first, pair.second], ∀ trace result,
    Runs (arriving.verifyProof P deps) trace (.ok result) →
    ∃ claims, P.decodeJwt arriving.dpopProof = .ok claims ∧
      claims.get? "htu" = (discoveryDocument deps.brokerIssuerUrl).get? "token_endpoint"

/-- The headers of both requests lead to one endpoint, which is the advertised one, unless the
proof is signed for neither. -/
structure ReconstructsAdvertised : Prop where
  same : SignedFor P pair.dpopProof (pair.first.expectedHtu P) ∨
    SignedFor P pair.dpopProof (pair.second.expectedHtu P) →
    pair.first.expectedHtu P = pair.second.expectedHtu P
  advertised : AcceptableFor P deps.proofVerifier pair.dpopProof (pair.first.expectedHtu P) →
    pair.first.expectedHtu P = tokenEndpoint deps.brokerIssuerUrl

variable {pair P deps}

theorem verifyProof_second : pair.second.verifyProof P deps =
    verifyExchangeProof P deps.proofVerifier pair.dpopProof (pair.second.expectedHtu P) := by
  rw [Arriving.verifyProof, second_dpopProof]

/-- An accepted proof names the endpoint that the broker expects. -/
theorem accepted_htu (agrees : P.PayloadAgrees) {dpopProof htu : String}
    (acceptable : AcceptableFor P deps.proofVerifier dpopProof htu) :
    ∃ claims, P.decodeJwt dpopProof = .ok claims ∧ claims.get? "htu" = some (.str htu) := by
  obtain ⟨jwk, key, currentDate, payload, nowMs, jti, thumbprint, accepted⟩ := acceptable
  exact ⟨payload.claims, agrees _ _ _ _ accepted.signature,
    (checkMethodAndUrl_ok accepted.methodAndUrl).2⟩

/-- Exchange proofs are bound to the broker exactly where the origin headers lead to the
advertised endpoint. -/
theorem boundToBroker_iff (agrees : P.PayloadAgrees) :
    pair.BoundToBroker P deps ↔ pair.ReconstructsAdvertised P deps := by
  constructor
  · intro bound
    constructor
    · have verdict := bound.sameVerdict
      rw [verifyProof_second] at verdict
      rintro (signed | signed)
      · exact signed.distinguishes verdict
      · exact (signed.distinguishes fun trace outcome => (verdict trace outcome).symm).symm
    · intro acceptable
      obtain ⟨trace, result, run⟩ := acceptableFor_iff.mp acceptable
      obtain ⟨claims, decoded, named⟩ :=
        bound.advertised pair.first List.mem_cons_self trace result run
      obtain ⟨claims', decoded', own⟩ := accepted_htu agrees acceptable
      have same_claims : pair.first.dpopProof = pair.dpopProof := rfl
      rw [same_claims, decoded'] at decoded
      cases decoded
      rw [own] at named
      rw [discoveryDocument_tokenEndpoint] at named
      exact Json.str.inj (Option.some.inj named)
  · intro reconstructs
    have verdict : ∀ trace outcome, Runs (pair.first.verifyProof P deps) trace outcome ↔
        Runs (pair.second.verifyProof P deps) trace outcome := by
      intro trace outcome
      rw [verifyProof_second]
      by_cases signed : SignedFor P pair.dpopProof (pair.first.expectedHtu P) ∨
          SignedFor P pair.dpopProof (pair.second.expectedHtu P)
      · rw [← reconstructs.same signed]
        exact Iff.rfl
      · obtain ⟨neither, norOther⟩ := not_or.mp signed
        rw [← verifyExchangeProof_congr neither norOther]
        exact Iff.rfl
    have advertised : ∀ trace result, Runs (pair.first.verifyProof P deps) trace (.ok result) →
        ∃ claims, P.decodeJwt pair.dpopProof = .ok claims ∧
          claims.get? "htu" = (discoveryDocument deps.brokerIssuerUrl).get? "token_endpoint" := by
      intro trace result run
      have acceptable := acceptableFor_iff.mpr ⟨trace, result, run⟩
      rw [discoveryDocument_tokenEndpoint, ← reconstructs.advertised acceptable]
      exact accepted_htu agrees acceptable
    refine ⟨verdict, ?_⟩
    intro arriving member trace result run
    obtain own | other := List.mem_pair.mp member
    · rw [own] at run ⊢
      exact advertised trace result run
    · rw [other] at run ⊢
      rw [second_dpopProof]
      exact advertised trace result ((verdict _ _).mpr run)

end OriginPair

section Forwarded

/-- The claims of a proof for the token endpoint of another server. -/
def misdirectedPayload : JwtPayload :=
  JwtPayload.ofClaims [("htm", .str "POST"), ("htu", .str "https://other.example/oauth2/token"),
    ("iat", .num 1000), ("jti", .str "jti-1")] rfl

/-- Two proofs: one for the broker, one for another server. -/
def forwardedTable : TokenTable where
  tokens := [⟨"proof", replayedHeader, replayedPayload 1000, clientKey⟩,
    ⟨"misdirected", replayedHeader, misdirectedPayload, clientKey⟩]
  urls := [("https://broker/oauth2/token", ⟨"https:", "broker", "/oauth2/token"⟩),
    ("https://other.example/oauth2/token", ⟨"https:", "other.example", "/oauth2/token"⟩)]

/-- Behind the load balancer, with further headers. -/
def forwardedRequest (host dpopProof : String) (more : HeaderRecord) : Arriving where
  encrypted := false
  method := "POST"
  originalUrl := "/oauth2/token"
  path := "/oauth2/token"
  routePath := some "/oauth2/token"
  headers := [("host", host), ("dpop", dpopProof), ("x-forwarded-proto", "https")] ++ more
  body := none

/-- Requests that differ in their Host header. -/
def misdirectedPair : OriginPair where
  first := forwardedRequest "other.example" "misdirected" []
  second := forwardedRequest "broker" "misdirected" []
  encrypted := rfl
  method := rfl
  originalUrl := rfl
  path := rfl
  routePath := rfl
  body := rfl
  headers := by
    intro name plain
    have host : (name == "host") = false := by
      rw [beq_eq_false_iff_ne]
      rintro rfl
      exact plain (by decide)
    simp [forwardedRequest, List.lookup_cons, host]

/-- A proof for another server's endpoint is accepted under that server's name. -/
theorem misdirected_accepted :
    ∃ P : Platform, P.PayloadAgrees ∧ ¬ ∀ (deps : TokenRouterDeps) (pair : OriginPair),
      pair.BoundToBroker P deps := by
  refine ⟨forwardedTable.platform, forwardedTable.platform_agrees, ?_⟩
  intro holds
  have bound := holds brokerDeps misdirectedPair
  have window : |(toSeconds 1000000 : Rat) - 1000| ≤ 60 := by norm_num [toSeconds]
  have accepted : AcceptedProof forwardedTable.platform (exchangeProofDeps {})
      (exchangeProofInput "misdirected" "https://other.example/oauth2/token")
      (.obj (TokenTable.jwkOf clientKey)) clientKey 1000000 misdirectedPayload 1000000
      (.str "jti-1") "thumbprint-1" := {
    header := ⟨replayedHeader, rfl, rfl⟩
    imported := rfl
    signature := rfl
    methodAndUrl := rfl
    fresh := checkIat_ok_iff.mpr window
    ath := rfl
    jtiClaim := rfl
    jtiTruthy := rfl
    computed := rfl
    binding := rfl }
  obtain ⟨claims, decoded, named⟩ := bound.advertised misdirectedPair.first List.mem_cons_self
    _ _ (accepted.runs (.done _))
  cases decoded
  revert named
  decide

/-- Requests that differ in X-Forwarded-Host, which the broker does not look at. -/
def forwardedHostPair : OriginPair where
  first := forwardedRequest "broker" "proof" []
  second := forwardedRequest "broker" "proof" [("x-forwarded-host", "other.example")]
  encrypted := rfl
  method := rfl
  originalUrl := rfl
  path := rfl
  routePath := rfl
  body := rfl
  headers := by
    intro name plain
    have other : (name == "x-forwarded-host") = false := by
      rw [beq_eq_false_iff_ne]
      rintro rfl
      exact plain (by decide)
    simp [forwardedRequest, List.lookup_cons, other]

theorem forwardedHost_bound : forwardedHostPair.BoundToBroker forwardedTable.platform brokerDeps :=
  (OriginPair.boundToBroker_iff forwardedTable.platform_agrees).mpr
    ⟨fun _ => by decide +kernel, fun _ => by decide +kernel⟩

end Forwarded

end S2s
