import S2sStack.Js.Headers
import S2sStack.Service.BrokerAuthMiddleware
import S2sStack.TokenTable

set_option autoImplicit false

/- The two outbound calls, over plain `fetch` or over VPC Lattice with SigV4, and what
the service at the other end makes of them. -/
namespace S2s

open Js (HeaderRecord)

def isVisible (c : Char) : Bool := 0x21 ≤ c.val ∧ c.val ≤ 0x7E

/-- An access token: visible characters, as in a compact JWS. -/
structure AccessToken where
  text : String
  filled : text ≠ ""
  visible : text.toList.all isVisible = true

/-- A request as it is handed to `fetch`. -/
structure OutboundRequest where
  method : String
  url : String
  headers : HeaderRecord
  body : String

/-- `process.env.USE_LATTICE` decides between the transports. -/
def useLattice (useLatticeVar : Option String) : Bool :=
  Js.toLowerCase (useLatticeVar.getD "") = "true"

def dpopTokenHeader : String := "X-DPoP-Token"

/-- The parts of `new URL(text)` that the Lattice client reads. -/
structure LatticeUrl extends Url where
  hostname : String
  port : String
  searchParams : List (String × String)

/-- The `HttpRequest` that is signed. -/
structure SignableRequest where
  protocol : String
  hostname : String
  method : String
  path : String
  query : List (String × List String)
  headers : HeaderRecord
  port : Option String
  body : String

/-- The library code under the Lattice client: `URL`, `URLSearchParams` and SigV4, which
puts its own credential into `Authorization` and leaves the token header as it is. -/
structure LatticeLibrary where
  parseUrl : String → Option LatticeUrl
  searchText : List (String × String) → String
  sign : SignableRequest → Except Fault SignableRequest
  ownsAuthorization : ∀ request signed, sign request = .ok signed → ∃ credential,
    signed.headers.valuesOf "authorization" = ["AWS4-HMAC-SHA256 " ++ credential]
  keepsToken : ∀ request signed, sign request = .ok signed →
    signed.headers.valuesOf "x-dpop-token" = request.headers.valuesOf "x-dpop-token"

/-- `new HttpRequest({ … })` -/
def signableRequest (url : LatticeUrl) (input : OutboundRequest) : SignableRequest where
  protocol := url.protocol
  hostname := url.hostname
  method := Js.toUpperCase input.method
  path := url.pathname
  query := (HeaderRecord.spread [] url.searchParams).map fun param => (param.1, [param.2])
  headers := HeaderRecord.spread [("host", url.host)] input.headers
  port := if url.port = "" then none else some url.port
  body := input.body

/-- The signed request as it is handed to `fetch`. -/
def reassemble (L : LatticeLibrary) (url : LatticeUrl) (input : OutboundRequest)
    (signed : SignableRequest) : OutboundRequest :=
  let search := L.searchText (signed.query.flatMap fun param => param.2.map (param.1, ·))
  { method := signed.method
    url := signed.protocol ++ "//" ++ url.host ++ signed.path ++
      (if search = "" then "" else "?" ++ search)
    headers := signed.headers
    body := input.body }

/-- `latticeFetch` of `sigv4Client.ts`, up to the final `fetch`. -/
def latticeFetch (L : LatticeLibrary) (input : OutboundRequest) : Except Fault OutboundRequest :=
  match L.parseUrl input.url with
  | none => .error (plainError "Invalid URL")
  | some url => (L.sign (signableRequest url input)).map (reassemble L url input)

/-- Force an ALB base URL to https; an empty one is left alone. -/
def toHttpsBaseUrl (url : String) : String :=
  if url = "" then url
  else
    match Js.afterWord "https://".toList url.toList with
    | some _ => url
    | none =>
        match Js.afterWord "http://".toList url.toList with
        | some rest => "https://" ++ String.ofList rest
        | none => "https://" ++ url

/-- `postDownstream` of calling-service, up to `fetch`. -/
def postDownstream (L : LatticeLibrary) (useLatticeVar : Option String)
    (url accessToken dpopProof body : String) (extraHeaders : HeaderRecord) :
    Except Fault OutboundRequest :=
  let baseHeaders := HeaderRecord.spread
    [("dpop", dpopProof), ("content-type", "application/json")] extraHeaders
  if useLattice useLatticeVar then
    latticeFetch L {
      url := url
      method := "POST"
      headers := baseHeaders.assign dpopTokenHeader accessToken
      body := body }
  else
    .ok {
      url := url
      method := "POST"
      headers := baseHeaders.assign "authorization" ("DPoP " ++ accessToken)
      body := body }

/-- What the sync route reads of calling-service's configuration. -/
structure CallingServiceConfig where
  receivingLatticeDns : String
  receivingServiceUrl : String
  targetBaseUrl : String

/-- `htu` of the sync route. -/
def syncUrl (useLatticeVar : Option String) (config : CallingServiceConfig) : String :=
  let base :=
    if useLattice useLatticeVar ∧ config.receivingLatticeDns ≠ "" then
      "https://" ++ config.receivingLatticeDns
    else
      toHttpsBaseUrl (if config.receivingServiceUrl ≠ "" then config.receivingServiceUrl
        else config.targetBaseUrl)
  base ++ "/api/loans"

/-- `callOnce` of the sync route, for an exchanged token and a proof signed for it. -/
def syncCall (L : LatticeLibrary) (useLatticeVar : Option String) (config : CallingServiceConfig)
    (req : Request) (userSub accessToken dpopProof body : String) : Except Fault OutboundRequest :=
  postDownstream L useLatticeVar (syncUrl useLatticeVar config) accessToken dpopProof body
    [("x-correlation-id",
        ((req.header? "x-correlation-id").or (req.header? "x-request-id")).getD ""),
      ("x-user-sub", userSub)]

/-- What `postLedgerEntry` reads of receiving-service's configuration. -/
structure ReceivingServiceConfig where
  ledgerLatticeDns : String
  ledgerServiceUrl : String

def ledgerOverLattice (useLatticeVar : Option String) (config : ReceivingServiceConfig) : Bool :=
  useLattice useLatticeVar ∧ config.ledgerLatticeDns ≠ ""

def ledgerUrl (useLatticeVar : Option String) (config : ReceivingServiceConfig) : String :=
  let base :=
    if ledgerOverLattice useLatticeVar config then "https://" ++ config.ledgerLatticeDns
    else toHttpsBaseUrl config.ledgerServiceUrl
  base ++ "/api/ledger/entries"

/-- `attempt` of `postLedgerEntry`, for an exchanged token and a proof signed for it. -/
def ledgerCall (L : LatticeLibrary) (useLatticeVar : Option String)
    (config : ReceivingServiceConfig) (correlationId accessToken dpopProof body : String) :
    Except Fault OutboundRequest :=
  let url := ledgerUrl useLatticeVar config
  let baseHeaders := [("dpop", dpopProof), ("x-correlation-id", correlationId),
    ("content-type", "application/json")]
  if ledgerOverLattice useLatticeVar config then
    latticeFetch L {
      url := url
      method := "POST"
      headers := HeaderRecord.assign baseHeaders dpopTokenHeader accessToken
      body := body }
  else
    .ok {
      url := url
      method := "POST"
      headers := HeaderRecord.assign baseHeaders "authorization" ("DPoP " ++ accessToken)
      body := body }

/-- How a request arrives: what the callee's server makes of the URL and the body, and
the headers that the network in between has added. -/
structure Arrival where
  protocol : String
  originalUrl : String
  path : String
  routePath : Option String
  addedHeaders : HeaderRecord
  body : Option Js.Json

/-- The request the callee's middleware is given; what was sent is forwarded unchanged. -/
def deliver (sent : OutboundRequest) (arrival : Arrival) : Request where
  method := sent.method
  protocol := arrival.protocol
  originalUrl := arrival.originalUrl
  path := arrival.path
  routePath := arrival.routePath
  headers := Js.received sent.headers ++ arrival.addedHeaders
  body := arrival.body

namespace AccessToken

variable {token : AccessToken} {c : Char}

theorem not_space (member : c ∈ token.text.toList) : Js.isSpace c = false := by
  have range := of_decide_eq_true (List.all_eq_true.mp token.visible c member)
  have low := UInt32.le_iff_toNat_le.mp range.1
  have high := UInt32.le_iff_toNat_le.mp range.2
  simp only [Js.isSpace, decide_eq_false_iff_not, UInt32.le_iff_toNat_le, ← UInt32.toNat_inj]
  simp at low high ⊢
  omega

/-- Line terminators are white space. -/
theorem not_lineTerminator (member : c ∈ token.text.toList) : Js.isLineTerminator c = false := by
  have visible := not_space member
  simp only [Js.isSpace, Js.isLineTerminator, decide_eq_false_iff_not, not_or] at visible ⊢
  have breaks : ¬ (c.val = 0x0A ∨ c.val = 0x0D) := by
    rintro (same | same)
    · exact visible.1 (by rw [same]; decide)
    · exact visible.1 (by rw [same]; decide)
  exact ⟨fun same => breaks (.inl same), fun same => breaks (.inr same),
    visible.2.2.2.2.2.1, visible.2.2.2.2.2.2.1⟩

theorem not_httpSpace (member : c ∈ token.text.toList) : Js.isHttpSpace c = false :=
  Js.not_httpSpace (not_space member)

theorem toList_ne_nil (token : AccessToken) : token.text.toList ≠ [] := by
  intro empty
  exact token.filled (String.toList_eq_nil_iff.mp empty)

/-- In its own header the token survives `fetch`. -/
theorem kept (token : AccessToken) : Js.normalizeHeader token.text = token.text := by
  obtain ⟨first, rest, begins⟩ := List.exists_cons_of_ne_nil token.toList_ne_nil
  have member : first ∈ token.text.toList := by
    rw [begins]
    exact List.mem_cons_self
  have ends := (List.dropLast_append_getLast token.toList_ne_nil).symm
  exact Js.normalizeHeader_of_ends begins ends (token.not_httpSpace member)
    (token.not_httpSpace (List.getLast_mem token.toList_ne_nil))

/-- In plain mode the header value survives `fetch`. -/
theorem plain_kept (token : AccessToken) :
    Js.normalizeHeader ("DPoP " ++ token.text) = "DPoP " ++ token.text := by
  have ends := (List.dropLast_append_getLast token.toList_ne_nil).symm
  have begins : ("DPoP " ++ token.text).toList = 'D' :: ("PoP ".toList ++ token.text.toList) := by
    rw [String.toList_append]
    rfl
  have finishes : ("DPoP " ++ token.text).toList =
      "DPoP ".toList ++ token.text.toList.dropLast ++ [token.text.toList.getLast
        token.toList_ne_nil] := by
    rw [String.toList_append, List.append_assoc, ← ends]
  have lastKept := token.not_httpSpace (List.getLast_mem token.toList_ne_nil)
  exact Js.normalizeHeader_of_ends begins finishes (by decide) lastKept

theorem plain_captured (token : AccessToken) :
    Js.matchTokenScheme ("DPoP " ++ token.text) = some token.text := by
  obtain ⟨first, rest, begins⟩ := List.exists_cons_of_ne_nil token.toList_ne_nil
  have member : first ∈ token.text.toList := by
    rw [begins]
    exact List.mem_cons_self
  exact Js.matchTokenScheme_dpop begins (token.not_space member) fun c => token.not_lineTerminator

end AccessToken

/-- What the callee reads under a name that was sent once. -/
theorem deliver_header {sent : OutboundRequest} {name value : String}
    (single : sent.headers.valuesOf name = [value]) (arrival : Arrival) :
    (deliver sent arrival).headerOrEmpty name = Js.normalizeHeader value := by
  have arrives := Js.lookup_received_of_single single
  simp only [Request.headerOrEmpty, Request.header?, deliver, List.lookup_append, arrives,
    Option.some_or, Option.getD_some]

/-- A token behind `DPoP` in `Authorization` is the one the callee takes. -/
theorem bearerToken_of_plain {sent : OutboundRequest} {token : AccessToken}
    (plain : sent.headers.valuesOf "authorization" = ["DPoP " ++ token.text])
    (arrival : Arrival) : bearerToken (deliver sent arrival) = .ok token.text := by
  have filled : "DPoP " ++ token.text ≠ "" := by
    intro empty
    have length := congrArg String.length empty
    rw [String.length_append] at length
    simp at length
  simp only [bearerToken, deliver_header plain arrival, token.plain_kept, filled, ↓reduceIte,
    token.plain_captured]

/-- A SigV4 credential in `Authorization` is no token for the callee. -/
theorem bearerToken_of_signed {sent : OutboundRequest} {credential : String}
    (signed : sent.headers.valuesOf "authorization" = ["AWS4-HMAC-SHA256 " ++ credential])
    (arrival : Arrival) :
    bearerToken (deliver sent arrival) =
      .error (unauthorized .invalidToken "malformed Authorization header") := by
  have begins : ("AWS4-HMAC-SHA256 " ++ credential).toList =
      'A' :: ("WS4-HMAC-SHA256 ".toList ++ credential.toList) := by
    rw [String.toList_append]
    rfl
  obtain ⟨rest, kept⟩ := Js.normalizeHeader_head begins (by decide)
  have filled : Js.normalizeHeader ("AWS4-HMAC-SHA256 " ++ credential) ≠ "" := by
    intro empty
    rw [empty] at kept
    cases kept
  have unmatched := Js.matchTokenScheme_eq_none kept (by decide) (by decide)
  simp only [bearerToken, deliver_header signed arrival, filled, ↓reduceIte, unmatched]

/-- Over Lattice SigV4 has `Authorization`, and the token travels in its own header. -/
structure SentOverLattice (sent : OutboundRequest) (token : AccessToken) : Prop where
  credential : ∃ credential,
    sent.headers.valuesOf "authorization" = ["AWS4-HMAC-SHA256 " ++ credential]
  token : sent.headers.valuesOf "x-dpop-token" = [token.text]

theorem latticeFetch_sent {L : LatticeLibrary} {input sent : OutboundRequest}
    {token : AccessToken} (fetched : latticeFetch L input = .ok sent)
    (carried : ∀ host, (HeaderRecord.spread [("host", host)] input.headers).valuesOf
      "x-dpop-token" = [token.text]) : SentOverLattice sent token := by
  unfold latticeFetch at fetched
  split at fetched
  · cases fetched
  · rename_i url parsed
    cases signing : L.sign (signableRequest url input) with
    | error fault =>
        rw [signing] at fetched
        cases fetched
    | ok signed =>
        rw [signing] at fetched
        cases fetched
        have kept := L.keepsToken _ _ signing
        exact ⟨L.ownsAuthorization _ _ signing, kept.trans (carried url.host)⟩

/-- The names the two callers use, as the server reads them. -/
@[simp] theorem lowered_names :
    Js.toLowerCase "dpop" = "dpop" ∧ Js.toLowerCase "content-type" = "content-type" ∧
      Js.toLowerCase "x-correlation-id" = "x-correlation-id" ∧
      Js.toLowerCase "x-user-sub" = "x-user-sub" ∧ Js.toLowerCase "host" = "host" ∧
      Js.toLowerCase "authorization" = "authorization" ∧
      Js.toLowerCase "X-DPoP-Token" = "x-dpop-token" := by
  decide +kernel

/-- The headers of a sync call before the token is added. -/
theorem syncHeaders (dpopProof correlationId userSub : String) :
    HeaderRecord.spread [("dpop", dpopProof), ("content-type", "application/json")]
      [("x-correlation-id", correlationId), ("x-user-sub", userSub)] =
    [("dpop", dpopProof), ("content-type", "application/json"),
      ("x-correlation-id", correlationId), ("x-user-sub", userSub)] := by
  simp [HeaderRecord.spread, HeaderRecord.assign]

section Agreement

variable {L : LatticeLibrary} {useLatticeVar : Option String} {token : AccessToken}
  {sent : OutboundRequest}

/-- In plain mode the only `Authorization` of a sync call is the token's. -/
theorem syncCall_plain {config : CallingServiceConfig} {req : Request}
    {userSub dpopProof body : String} (off : useLattice useLatticeVar = false)
    (called : syncCall L useLatticeVar config req userSub token.text dpopProof body = .ok sent) :
    sent.headers.valuesOf "authorization" = ["DPoP " ++ token.text] := by
  simp only [syncCall, postDownstream, off, Bool.false_eq_true, ↓reduceIte, syncHeaders,
    Except.ok.injEq] at called
  subst called
  simp [HeaderRecord.assign, HeaderRecord.valuesOf]

theorem ledgerCall_plain {config : ReceivingServiceConfig} {correlationId dpopProof body : String}
    (off : ledgerOverLattice useLatticeVar config = false)
    (called : ledgerCall L useLatticeVar config correlationId token.text dpopProof body =
      .ok sent) : sent.headers.valuesOf "authorization" = ["DPoP " ++ token.text] := by
  simp only [ledgerCall, off, Bool.false_eq_true, ↓reduceIte, Except.ok.injEq] at called
  subst called
  simp [HeaderRecord.assign, HeaderRecord.valuesOf]

theorem syncCall_lattice {config : CallingServiceConfig} {req : Request}
    {userSub dpopProof body : String} (on : useLattice useLatticeVar = true)
    (called : syncCall L useLatticeVar config req userSub token.text dpopProof body = .ok sent) :
    SentOverLattice sent token := by
  simp only [syncCall, postDownstream, on, ↓reduceIte, syncHeaders] at called
  apply latticeFetch_sent called
  intro host
  simp [HeaderRecord.spread, HeaderRecord.assign, HeaderRecord.valuesOf, dpopTokenHeader]

theorem ledgerCall_lattice {config : ReceivingServiceConfig}
    {correlationId dpopProof body : String} (on : ledgerOverLattice useLatticeVar config = true)
    (called : ledgerCall L useLatticeVar config correlationId token.text dpopProof body =
      .ok sent) : SentOverLattice sent token := by
  simp only [ledgerCall, on, ↓reduceIte] at called
  apply latticeFetch_sent called
  intro host
  simp [HeaderRecord.spread, HeaderRecord.assign, HeaderRecord.valuesOf, dpopTokenHeader]

theorem handsOver_of_plain {P : Platform} {deps : BrokerAuthDeps} (arrival : Arrival)
    (plain : sent.headers.valuesOf "authorization" = ["DPoP " ++ token.text]) :
    HandsOver P deps (deliver sent arrival) token.text :=
  handsOver_iff.mpr (bearerToken_of_plain plain arrival)

theorem SentOverLattice.not_handsOver {P : Platform} {deps : BrokerAuthDeps}
    (lattice : SentOverLattice sent token) (arrival : Arrival) :
    ¬ HandsOver P deps (deliver sent arrival) token.text := by
  obtain ⟨credential, signed⟩ := lattice.credential
  rw [handsOver_iff, bearerToken_of_signed signed arrival]
  intro impossible
  cases impossible

/-- Every request that calling-service sends hands its token over exactly in plain mode, and
so does every request that receiving-service sends. -/
theorem token_handed_over_iff (P : Platform) (L : LatticeLibrary) (useLatticeVar : Option String)
    (token : AccessToken) (receiving ledger : BrokerAuthDeps) (arrival : Arrival) :
    (∀ config req userSub dpopProof body sent,
      syncCall L useLatticeVar config req userSub token.text dpopProof body = .ok sent →
        (HandsOver P receiving (deliver sent arrival) token.text ↔
          useLattice useLatticeVar = false)) ∧
    ∀ config correlationId dpopProof body sent,
      ledgerCall L useLatticeVar config correlationId token.text dpopProof body = .ok sent →
        (HandsOver P ledger (deliver sent arrival) token.text ↔
          ledgerOverLattice useLatticeVar config = false) := by
  constructor
  · intro config req userSub dpopProof body sent called
    cases mode : useLattice useLatticeVar with
    | false => exact iff_of_true (handsOver_of_plain arrival (syncCall_plain mode called)) rfl
    | true =>
        have lattice := syncCall_lattice mode called
        exact iff_of_false (lattice.not_handsOver arrival) Bool.true_eq_false.mp
  · intro config correlationId dpopProof body sent called
    cases mode : ledgerOverLattice useLatticeVar config with
    | false => exact iff_of_true (handsOver_of_plain arrival (ledgerCall_plain mode called)) rfl
    | true =>
        have lattice := ledgerCall_lattice mode called
        exact iff_of_false (lattice.not_handsOver arrival) Bool.true_eq_false.mp

/-- The SDK's middleware would take the token of a request that came over Lattice. -/
theorem SentOverLattice.sdk_takes_token (lattice : SentOverLattice sent token)
    (arrival : Arrival) : requestAccessToken (deliver sent arrival) = .ok token.text := by
  have solid (c : Char) (member : c ∈ token.text.toList) : Js.isSpace c = false :=
    token.not_space member
  simp only [requestAccessToken, deliver_header lattice.token arrival, token.kept,
    token.filled, ne_eq, not_false_eq_true, ↓reduceIte, Js.matchTokenScheme_solid solid,
    Option.getD_none, Js.trim_solid solid]

end Agreement

section LoansOverLattice

/-- A signer that puts its credential in place of every `Authorization`. -/
def signWithTaskRole (request : SignableRequest) : SignableRequest :=
  { request with
    headers := request.headers.filter (fun field => Js.toLowerCase field.1 ≠ "authorization") ++
      [("x-amz-date", "19700101T001640Z"),
        ("authorization", "AWS4-HMAC-SHA256 Credential=task-role")] }

theorem signWithTaskRole_owns (request : SignableRequest) :
    (signWithTaskRole request).headers.valuesOf "authorization" =
      ["AWS4-HMAC-SHA256 " ++ "Credential=task-role"] := by
  have date : Js.toLowerCase "x-amz-date" ≠ "authorization" := by decide +kernel
  simp [signWithTaskRole, HeaderRecord.valuesOf, List.filter_append, List.filter_filter, date]

theorem signWithTaskRole_keeps (request : SignableRequest) :
    (signWithTaskRole request).headers.valuesOf "x-dpop-token" =
      request.headers.valuesOf "x-dpop-token" := by
  have date : Js.toLowerCase "x-amz-date" ≠ "x-dpop-token" := by decide +kernel
  have name : Js.toLowerCase "authorization" ≠ "x-dpop-token" := by decide +kernel
  simp only [signWithTaskRole, HeaderRecord.valuesOf, List.filter_append, List.filter_filter,
    date, name, decide_false, Bool.false_eq_true, not_false_eq_true, List.filter_cons_of_neg,
    List.filter_nil, List.append_nil]
  congr 1
  apply List.filter_congr
  intro field _
  by_cases token : Js.toLowerCase field.1 = "x-dpop-token"
  · simp [token]
  · simp [token]

def taskRoleLibrary : LatticeLibrary where
  parseUrl _ := some {
    protocol := "https:"
    host := "receiving.vpc-lattice-svcs.us-east-1.on.aws"
    pathname := "/api/loans"
    hostname := "receiving.vpc-lattice-svcs.us-east-1.on.aws"
    port := ""
    searchParams := [] }
  searchText _ := ""
  sign request := .ok (signWithTaskRole request)
  ownsAuthorization := by
    intro request signed signing
    cases signing
    exact ⟨"Credential=task-role", signWithTaskRole_owns request⟩
  keepsToken := by
    intro request signed signing
    cases signing
    exact signWithTaskRole_keeps request

def loanToken : AccessToken where
  text := "eyJ.eyJ.sig"
  filled := by decide
  visible := by decide

def callingConfig : CallingServiceConfig where
  receivingLatticeDns := "receiving.vpc-lattice-svcs.us-east-1.on.aws"
  receivingServiceUrl := "http://receiving.internal"
  targetBaseUrl := ""

def receivingConfig : ReceivingServiceConfig where
  ledgerLatticeDns := ""
  ledgerServiceUrl := "http://ledger.internal"

def receivingDeps : BrokerAuthDeps := serviceDeps "dpop-nonce:" "receiving" {
  brokerJwksUri := "https://broker/jwks"
  brokerIssuer := "https://broker"
  brokerAudience := "receiving"
  resourcePrefix := "Endpoint"
  nonceTtlSeconds := 120 }

def loanRequest : Request where
  method := "POST"
  protocol := "https"
  originalUrl := "/demo/sync"
  path := "/demo/sync"
  routePath := some "/sync"
  headers := [("x-request-id", "request-1")]
  body := none

def loanArrival : Arrival where
  protocol := "https"
  originalUrl := "/api/loans"
  path := "/api/loans"
  routePath := some "/api/loans"
  addedHeaders := [("x-amzn-source-vpc", "vpc-1")]
  body := none

def noTokens : TokenTable where
  tokens := []

/-- Over Lattice the loan request is built, and its token is not taken at the other end. -/
theorem loan_not_handed_over :
    ∃ sent, syncCall taskRoleLibrary (some "true") callingConfig loanRequest "user-alice"
        loanToken.text "proof" "null" = .ok sent ∧
      ¬ HandsOver noTokens.platform receivingDeps (deliver sent loanArrival) loanToken.text := by
  refine ⟨_, rfl, ?_⟩
  rw [handsOver_iff]
  decide +kernel

/-- In plain mode both requests hand their token over. -/
theorem plainCalls_handed_over :
    (∃ sent, syncCall taskRoleLibrary none callingConfig loanRequest "user-alice" loanToken.text
        "proof" "null" = .ok sent ∧
      HandsOver noTokens.platform receivingDeps (deliver sent loanArrival) loanToken.text) ∧
    ∃ sent, ledgerCall taskRoleLibrary (some "TRUE") receivingConfig "request-1" loanToken.text
        "proof" "null" = .ok sent ∧
      HandsOver noTokens.platform receivingDeps (deliver sent loanArrival) loanToken.text := by
  constructor
  · refine ⟨_, rfl, ?_⟩
    have route := (token_handed_over_iff noTokens.platform taskRoleLibrary none loanToken
      receivingDeps receivingDeps loanArrival).1
    exact (route callingConfig loanRequest "user-alice" "proof" "null" _ rfl).mpr
      (by decide +kernel)
  · refine ⟨_, rfl, ?_⟩
    have route := (token_handed_over_iff noTokens.platform taskRoleLibrary (some "TRUE") loanToken
      receivingDeps receivingDeps loanArrival).2
    exact (route receivingConfig "request-1" "proof" "null" _ rfl).mpr (by decide +kernel)

end LoansOverLattice

end S2s
