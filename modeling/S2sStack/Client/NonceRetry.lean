import S2sStack.Client.Flows
import S2sStack.TokenTable

set_option autoImplicit false

/- Two clients in front of one callee: which of them answers its nonce challenges. -/
namespace S2s

open Effect Effect.Program
open Js (Json Obj)

/-- What a callee and the broker see of a client: the claims of its proofs, but for the `jti`
and the time, and the body of the request that a proof is sent with. -/
inductive Observation where
  | proof (claims : Obj)
  | request (body : String)

def observe : ClientEvent → Option Observation
  | ⟨.signJwt _ claims _, _⟩ => some (.proof (claims.without ["jti", "iat"]))
  | ⟨.fetch request, _⟩ => some (.request request.body)
  | _ => none

def observations (trace : List ClientEvent) : List Observation := trace.filterMap observe

/-- The response to a request that is sent. -/
def responseOf : ClientEvent → Option (Except LibraryError HttpResponse)
  | ⟨.fetch _, reply⟩ => some reply
  | _ => none

/-- The responses a client got, one for each request. -/
def responses (trace : List ClientEvent) : List (Except LibraryError HttpResponse) :=
  trace.filterMap responseOf

/-- Nothing fails inside of the client. -/
def WorksLocally (trace : List ClientEvent) : Prop :=
  ∀ event ∈ trace, match event with
    | ⟨.actorClientSecret, reply⟩ => ∃ secret, reply = .ok secret
    | ⟨.activeKey, reply⟩ => ∃ key, reply = .ok key
    | ⟨.signJwt _ _ _, reply⟩ => ∃ token, reply = .ok token
    | _ => True

/-- What a proof says, whenever and under whatever `jti` it is signed. -/
def proofContent (options : SignDPoPOptions) (ath : Obj) : Obj :=
  [("htm", .str options.htm), ("htu", .str options.htu)] ++ ath ++ nonceClaim options.nonce

/-- The token that a response of the broker gives to the client, where it gives one. -/
def grantedToken (P : Platform) (requested : List String)
    (reply : Except LibraryError HttpResponse) : Option Json :=
  match reply with
  | .error _ => none
  | .ok response =>
      match brokerToken response.status (brokerBody P response),
          grantedScopes requested (brokerField (brokerBody P response) "scope") with
      | .ok token, .ok _ => some token
      | _, _ => none

/-- The nonce of a response that asks for it. -/
def challengeNonce (reply : Except LibraryError HttpResponse) : Option String :=
  match reply with
  | .error _ => none
  | .ok response => if response.status = 401 then response.dpopNonce else none

section Traces

variable {first second : List ClientEvent}

@[simp] theorem observations_append :
    observations (first ++ second) = observations first ++ observations second := by
  simp [observations]

@[simp] theorem responses_append :
    responses (first ++ second) = responses first ++ responses second := by
  simp [responses]

theorem observations_cons (event : ClientEvent) :
    observations (event :: second) = (observe event).toList ++ observations second := by
  simp only [observations, List.filterMap_cons]
  cases observe event <;> rfl

theorem responses_cons (event : ClientEvent) :
    responses (event :: second) = (responseOf event).toList ++ responses second := by
  simp only [responses, List.filterMap_cons]
  cases responseOf event <;> rfl

@[simp] theorem worksLocally_append :
    WorksLocally (first ++ second) ↔ WorksLocally first ∧ WorksLocally second := by
  simp only [WorksLocally, List.mem_append, or_imp, forall_and]

theorem WorksLocally.rest {event : ClientEvent} (works : WorksLocally (event :: first)) :
    WorksLocally first :=
  fun later member => works later (List.mem_cons_of_mem _ member)

end Traces

section Clients

variable {P : Platform} {L : ClientLibrary} {trace : List ClientEvent}

/-- An `ath` claim there is none, or one. -/
theorem athClaim_ok {accessToken : Option Json} {ath : Obj}
    (hashed : athClaim P accessToken = .ok ath) : ath = [] ∨ ∃ hash, ath = [("ath", .str hash)] := by
  cases accessToken with
  | none =>
      cases hashed
      exact .inl rfl
  | some token =>
      cases token with
      | str text =>
          cases hashed
          exact .inr ⟨_, rfl⟩
      | _ => cases hashed

theorem content_of_claims {options : SignDPoPOptions} {ath : Obj} {jti : String} {nowMs : Millis}
    (hashed : athClaim P options.accessToken = .ok ath) :
    (dpopClaims options jti ath nowMs).without ["jti", "iat"] = proofContent options ath := by
  obtain rfl | ⟨hash, rfl⟩ := athClaim_ok hashed
  · cases options.nonce <;> simp [dpopClaims, proofContent, nonceClaim, Obj.without]
  · cases options.nonce <;> simp [dpopClaims, proofContent, nonceClaim, Obj.without]

/-- A client that works signs one proof, unless the token is no text. -/
theorem SigningRun.signs {options : SignDPoPOptions} {outcome : Except Fault DPoPProof}
    (run : SigningRun P options trace outcome) (works : WorksLocally trace) :
    responses trace = [] ∧
      match athClaim P options.accessToken with
      | .ok ath => (∃ proof, outcome = .ok proof) ∧
          observations trace = [.proof (proofContent options ath)]
      | .error fault => outcome = .error fault ∧ observations trace = [] := by
  cases run with
  | unhashed jti fault hashed =>
      rw [hashed]
      exact ⟨rfl, rfl, rfl⟩
  | keyless jti ath err hashed =>
      obtain ⟨_, impossible⟩ := works ⟨.activeKey, .error err⟩ (by simp)
      cases impossible
  | signed jti ath key nowMs reply hashed =>
      have signing := works.rest.rest.rest ⟨.signJwt _ _ _, reply⟩ List.mem_cons_self
      obtain ⟨token, rfl⟩ := signing
      rw [hashed]
      refine ⟨rfl, ⟨_, rfl⟩, ?_⟩
      change [Observation.proof ((dpopClaims options jti ath nowMs).without ["jti", "iat"])] = _
      rw [content_of_claims hashed]

/-- The proof and the request of an exchange. -/
def exchangeObservations (L : ClientLibrary) (opts : ExchangeTokenOptions)
    (input : ExchangeTokenInput) : List Observation :=
  [.proof (proofContent { htm := "POST", htu := opts.brokerUrl } []),
    .request (L.searchText (exchangeParams opts input))]

/-- A client that works asks the broker once, and goes on with the token it is granted. -/
theorem exchangeToken_asks {opts : ExchangeTokenOptions} {input : ExchangeTokenInput}
    {outcome : Except Fault ExchangeTokenResult}
    (run : Runs (exchangeToken P L opts input) trace outcome) (works : WorksLocally trace) :
    ∃ reply, responses trace = [reply] ∧
      observations trace = exchangeObservations L opts input ∧
      outcome.toOption.map (·.accessToken) = grantedToken P (input.scope.getD opts.scope) reply := by
  have asking : ∀ {secret : String} {signing rest : List ClientEvent} {dpop : DPoPProof}
      {reply : Except LibraryError HttpResponse},
      SigningRun P { htm := "POST", htu := opts.brokerUrl } signing (.ok dpop) →
      WorksLocally (⟨.actorClientSecret, .ok secret⟩ :: (signing ++
        ⟨.fetch (exchangeRequest L opts input secret dpop.proof), reply⟩ :: rest)) →
      responses rest = [] → observations rest = [] →
      responses (⟨.actorClientSecret, .ok secret⟩ :: (signing ++
        ⟨.fetch (exchangeRequest L opts input secret dpop.proof), reply⟩ :: rest)) = [reply] ∧
      observations (⟨.actorClientSecret, .ok secret⟩ :: (signing ++
        ⟨.fetch (exchangeRequest L opts input secret dpop.proof), reply⟩ :: rest)) =
        exchangeObservations L opts input := by
    intro secret signing rest dpop reply signed works silent unseen
    obtain ⟨unanswered, -, proved⟩ := signed.signs (worksLocally_append.mp works.rest).1
    constructor
    · rw [responses_cons, responses_append, responses_cons, unanswered, silent]
      rfl
    · rw [observations_cons, observations_append, observations_cons, proved, unseen]
      rfl
  cases exchangeToken_run run with
  | secretless err =>
      obtain ⟨_, impossible⟩ := works ⟨.actorClientSecret, .error err⟩ (by simp)
      cases impossible
  | unsigned secret signing fault signed =>
      obtain ⟨-, ⟨_, impossible⟩, -⟩ := signed.signs works.rest
      cases impossible
  | unanswered secret signing dpop err fault signed =>
      obtain ⟨sent, seen⟩ := asking signed works rfl rfl
      exact ⟨.error err, sent, seen, rfl⟩
  | refused secret signing dpop response fault signed refused =>
      obtain ⟨sent, seen⟩ := asking signed works rfl rfl
      refine ⟨.ok response, sent, seen, ?_⟩
      simp [grantedToken, refused, Except.toOption]
  | granted secret signing dpop response accessToken nowMs signed granted =>
      obtain ⟨sent, seen⟩ := asking signed works rfl rfl
      refine ⟨.ok response, sent, seen, ?_⟩
      cases scopes : grantedScopes (input.scope.getD opts.scope)
          (brokerField (brokerBody P response) "scope") <;>
        simp [exchangeResult, grantedToken, granted, scopes, Except.map, Except.toOption]

/-- The proof and the request of one attempt. -/
def attemptObservations (htu body : String) (ath : Obj) (nonce : Option String) :
    List Observation :=
  [.proof (proofContent { htm := "POST", htu := htu, nonce := nonce } ath), .request body]

/-- Whatever the proof is, the request can be built and has this body. -/
def Builds (build : String → Except Fault OutboundRequest) (body : String) : Prop :=
  ∀ proof, ∃ request, build proof = .ok request ∧ request.body = body

variable {htu body : String} {build : String → Except Fault OutboundRequest} {accessToken : Json}
  {ath : Obj} {outcome : Except Fault HttpResponse}

/-- An attempt with a token that is a text sends one request and ends as `fetch` does. -/
theorem resourceAttempt_sends {nonce : Option String}
    (hashed : athClaim P (some accessToken) = .ok ath) (builds : Builds build body)
    (run : Runs (resourceAttempt P htu build accessToken nonce) trace outcome)
    (works : WorksLocally trace) :
    ∃ reply, responses trace = [reply] ∧ outcome = Client.orFault reply ∧
      observations trace = attemptObservations htu body ath nonce := by
  cases resourceAttempt_run run with
  | unsigned signing fault signed =>
      have shown := signed.signs works
      simp only [hashed] at shown
      obtain ⟨-, ⟨_, impossible⟩, -⟩ := shown
      cases impossible
  | unbuilt signing dpop fault signed unbuilt =>
      obtain ⟨request, built, _⟩ := builds dpop.proof
      rw [unbuilt] at built
      cases built
  | sent signing dpop request reply signed sent =>
      have shown := signed.signs (worksLocally_append.mp works).1
      simp only [hashed] at shown
      obtain ⟨unanswered, -, proved⟩ := shown
      obtain ⟨_, built, rfl⟩ := builds dpop.proof
      rw [sent] at built
      cases built
      refine ⟨reply, ?_, rfl, ?_⟩
      · rw [responses_append, unanswered]
        rfl
      · rw [observations_append, proved]
        rfl

/-- An attempt with any other token sends nothing. -/
theorem resourceAttempt_stops {nonce : Option String} {fault : Fault}
    (unhashed : athClaim P (some accessToken) = .error fault)
    (run : Runs (resourceAttempt P htu build accessToken nonce) trace outcome)
    (works : WorksLocally trace) :
    outcome = .error fault ∧ observations trace = [] := by
  have unsigned : ∀ {signing : List ClientEvent} {dpop : DPoPProof}, SigningRun P
      { accessToken := some accessToken, htm := "POST", htu := htu, nonce := nonce } signing
      (.ok dpop) → WorksLocally signing → False := by
    intro signing dpop signed works
    have shown := signed.signs works
    simp only [unhashed] at shown
    cases shown.2.1
  cases resourceAttempt_run run with
  | unsigned signing failed signed =>
      have shown := signed.signs works
      simp only [unhashed] at shown
      obtain ⟨-, same, silent⟩ := shown
      cases same
      exact ⟨rfl, silent⟩
  | unbuilt signing dpop failed signed => exact (unsigned signed works).elim
  | sent signing dpop request reply signed =>
      exact (unsigned signed (worksLocally_append.mp works).1).elim

/-- The proof and the request that answer a challenge. -/
def answerObservations (htu body : String) (ath : Obj) : Option String → List Observation
  | some nonce => attemptObservations htu body ath (some nonce)
  | none => []

theorem retryOnChallenge_sends (hashed : athClaim P (some accessToken) = .ok ath)
    (builds : Builds build body)
    (run : Runs (retryOnChallenge (fun _ => true) (resourceAttempt P htu build accessToken))
      trace outcome) (works : WorksLocally trace) :
    ∃ reply later, responses trace = reply :: later ∧
      observations trace = attemptObservations htu body ath none ++
        answerObservations htu body ath (challengeNonce reply) := by
  rw [retryOnChallenge, runs_bind_iff] at run
  obtain ⟨response, before, after, rfl, tried, run⟩ | ⟨fault, tried, rfl⟩ := run
  · obtain ⟨reply, sent, same, seen⟩ :=
      resourceAttempt_sends hashed builds tried (worksLocally_append.mp works).1
    refine ⟨reply, responses after, by simp [sent], ?_⟩
    rw [observations_append, seen, List.append_cancel_left_eq]
    cases reply with
    | error err => cases same
    | ok answer =>
        cases same
        by_cases refused : response.status = 401
        · simp only [refused, and_self, ↓reduceIte] at run
          cases asked : response.dpopNonce with
          | some nonce =>
              rw [asked] at run
              obtain ⟨_, _, _, answered⟩ :=
                resourceAttempt_sends hashed builds run (worksLocally_append.mp works).2
              simp [challengeNonce, refused, asked, answered, answerObservations]
          | none =>
              rw [asked] at run
              obtain ⟨rfl, _⟩ := runs_pure_iff.mp run
              simp [challengeNonce, refused, asked, observations, answerObservations]
        · simp only [refused, false_and, ↓reduceIte] at run
          obtain ⟨rfl, _⟩ := runs_pure_iff.mp run
          simp [challengeNonce, refused, observations, answerObservations]
  · obtain ⟨reply, sent, same, seen⟩ := resourceAttempt_sends hashed builds tried works
    cases reply with
    | error err => exact ⟨_, [], sent, by simp [seen, challengeNonce, answerObservations]⟩
    | ok answer => cases same

/-- `fetch` returns a challenge and throws no `AuthError`, so there is nothing to retry on. -/
theorem withDPoPNonceRetry_sends (hashed : athClaim P (some accessToken) = .ok ath)
    (builds : Builds build body)
    (run : Runs (withDPoPNonceRetry (resourceAttempt P htu build accessToken)) trace outcome)
    (works : WorksLocally trace) :
    ∃ reply, responses trace = [reply] ∧
      observations trace = attemptObservations htu body ath none := by
  rw [withDPoPNonceRetry, runs_catching_iff] at run
  obtain ⟨response, tried, -⟩ | ⟨fault, before, after, rfl, tried, run⟩ := run
  · obtain ⟨reply, sent, -, seen⟩ := resourceAttempt_sends hashed builds tried works
    exact ⟨reply, sent, seen⟩
  · obtain ⟨reply, sent, same, seen⟩ :=
      resourceAttempt_sends hashed builds tried (worksLocally_append.mp works).1
    cases reply with
    | ok answer => cases same
    | error err =>
        cases same
        obtain ⟨rfl, -⟩ := runs_throwing_iff.mp run
        exact ⟨_, by simpa using sent, by simpa using seen⟩

theorem retryOnChallenge_stops {asks : HttpResponse → Bool} {fault : Fault}
    (unhashed : athClaim P (some accessToken) = .error fault)
    (run : Runs (retryOnChallenge asks (resourceAttempt P htu build accessToken)) trace outcome)
    (works : WorksLocally trace) : observations trace = [] := by
  rw [retryOnChallenge, runs_bind_iff] at run
  obtain ⟨response, before, after, rfl, tried, -⟩ | ⟨_, tried, -⟩ := run
  · have stopped := resourceAttempt_stops unhashed tried (worksLocally_append.mp works).1
    cases stopped.1
  · exact (resourceAttempt_stops unhashed tried works).2

theorem withDPoPNonceRetry_stops {fault : Fault}
    (unhashed : athClaim P (some accessToken) = .error fault)
    (run : Runs (withDPoPNonceRetry (resourceAttempt P htu build accessToken)) trace outcome)
    (works : WorksLocally trace) : observations trace = [] := by
  rw [withDPoPNonceRetry, runs_catching_iff] at run
  obtain ⟨response, tried, -⟩ | ⟨_, before, after, rfl, tried, run⟩ := run
  · exact (resourceAttempt_stops unhashed tried works).2
  · obtain ⟨same, silent⟩ :=
      resourceAttempt_stops unhashed tried (worksLocally_append.mp works).1
    cases accessToken with
    | str text => cases unhashed
    | _ =>
        cases same
        cases unhashed
        obtain ⟨rfl, -⟩ := runs_throwing_iff.mp run
        simpa using silent

/-- What is seen of a client that answers the first response with this nonce, if with any. -/
def postingObservations (P : Platform) (L : ClientLibrary) (opts : ExchangeTokenOptions)
    (input : ExchangeTokenInput) (htu body : String) (answered : Option String)
    (given : List (Except LibraryError HttpResponse)) : List Observation :=
  exchangeObservations L opts input ++
    match given.head?.bind (grantedToken P (input.scope.getD opts.scope)) with
    | some (.str token) =>
        let ath := [("ath", Json.str (P.sha256Base64url token.toUTF8))]
        attemptObservations htu body ath none ++ answerObservations htu body ath answered
    | _ => []

/-- The nonce the callee asks for, where the broker has granted a token that can be used. -/
def askedNonce (P : Platform) (requested : List String) :
    List (Except LibraryError HttpResponse) → Option String
  | exchange :: first :: _ =>
      match grantedToken P requested exchange with
      | some (.str _) => challengeNonce first
      | _ => none
  | _ => none

variable {opts : ExchangeTokenOptions} {input : ExchangeTokenInput}
  {given : List (Except LibraryError HttpResponse)}

/-- An exchange, and a flow that goes on with its token. -/
theorem posting_sends {α : Type} {next : ExchangeTokenResult → Client α} {outcome : Except Fault α}
    {answered : Option String}
    (run : Runs (exchangeToken P L opts input >>= next) trace outcome)
    (works : WorksLocally trace) (prefixed : responses trace <+: given)
    (text : ∀ exchanged after token reply, Runs (next exchanged) after outcome →
      WorksLocally after → exchanged.accessToken = .str token →
      grantedToken P (input.scope.getD opts.scope) reply = some (.str token) →
      reply :: responses after <+: given →
      observations after =
        attemptObservations htu body [("ath", .str (P.sha256Base64url token.toUTF8))] none ++
          answerObservations htu body [("ath", .str (P.sha256Base64url token.toUTF8))] answered)
    (other : ∀ exchanged after fault, Runs (next exchanged) after outcome → WorksLocally after →
      athClaim P (some exchanged.accessToken) = .error fault → observations after = []) :
    observations trace = postingObservations P L opts input htu body answered given := by
  rw [runs_bind_iff] at run
  obtain ⟨exchanged, before, after, rfl, asked, run⟩ | ⟨fault, asked, rfl⟩ := run
  · obtain ⟨first, later⟩ := worksLocally_append.mp works
    obtain ⟨reply, sent, seen, granted⟩ := exchangeToken_asks asked first
    rw [responses_append, sent] at prefixed
    obtain ⟨rest, rfl⟩ := prefixed
    simp only [Except.toOption, Option.map_some] at granted
    rw [observations_append, seen]
    simp only [postingObservations, List.cons_append, List.nil_append, List.head?_cons,
      Option.bind_some, ← granted, List.append_cancel_left_eq]
    cases token : exchanged.accessToken with
    | str content =>
        exact text exchanged after content reply run later token (granted ▸ congrArg some token)
          ⟨rest, rfl⟩
    | _ => exact other exchanged after _ run later (by rw [token]; rfl)
  · obtain ⟨reply, sent, seen, granted⟩ := exchangeToken_asks asked works
    rw [sent] at prefixed
    obtain ⟨rest, rfl⟩ := prefixed
    simp only [Except.toOption, Option.map_none] at granted
    simp [postingObservations, seen, ← granted]

end Clients

section Postings

variable {P : Platform} {L : ClientLibrary} {useLatticeVar : Option String}
  {config : LedgerClientConfig} {args : PostLedgerEntryArgs} {env : MigratedEnv} {req : Request}
  {payload : Json} {trace : List ClientEvent}
  {given : List (Except LibraryError HttpResponse)}

theorem latticeFetch_body {L : LatticeLibrary} {input request : OutboundRequest}
    (built : latticeFetch L input = .ok request) : request.body = input.body := by
  unfold latticeFetch at built
  cases parsed : L.parseUrl input.url with
  | none =>
      rw [parsed] at built
      cases built
  | some url =>
      simp only [parsed] at built
      cases signed : L.sign (signableRequest url input) with
      | error fault =>
          rw [signed] at built
          cases built
      | ok signable =>
          rw [signed] at built
          cases built
          rfl

theorem ledgerCall_body {L : LatticeLibrary} {config : ReceivingServiceConfig}
    {correlationId accessToken proof body : String} {request : OutboundRequest}
    (built : ledgerCall L useLatticeVar config correlationId accessToken proof body = .ok request) :
    request.body = body := by
  simp only [ledgerCall] at built
  split at built
  · exact latticeFetch_body built
  · cases built
    rfl

theorem syncCall_body {L : LatticeLibrary} {config : CallingServiceConfig} {req : Request}
    {userSub accessToken proof body : String} {request : OutboundRequest}
    (built : syncCall L useLatticeVar config req userSub accessToken proof body = .ok request) :
    request.body = body := by
  simp only [syncCall, postDownstream] at built
  split at built
  · exact latticeFetch_body built
  · cases built
    rfl

/-- The requests of receiving-service can be built, over Lattice as over plain `fetch`. -/
def TransportBuilds (L : ClientLibrary) (useLatticeVar : Option String)
    (config : LedgerClientConfig) (correlationId body : String) : Prop :=
  ∀ accessToken proof, ∃ request, ledgerCall L.toLatticeLibrary useLatticeVar
    config.toReceivingServiceConfig correlationId accessToken proof body = .ok request

/-- Nothing is sent once the last response is there. -/
theorem postLedgerEntry_tries {accessToken : Json} {outcome : Except Fault Json}
    (run : Runs (do
      let response ← retryOnChallenge (fun _ => true)
        (ledgerAttempt P L useLatticeVar config args accessToken)
      if response.ok then ofExcept (response.json P)
      else Client.fail (ledgerOutboundError response.status none)) trace outcome) :
    ∃ response, Runs (retryOnChallenge (fun _ => true)
        (ledgerAttempt P L useLatticeVar config args accessToken)) trace response := by
  rw [runs_bind_iff] at run
  obtain ⟨response, before, after, rfl, tried, run⟩ | ⟨fault, tried, -⟩ := run
  · have silent : after = [] := by
      split at run
      · exact (runs_ofExcept_iff.mp run).1
      · exact (runs_throwing_iff.mp run).1
    subst silent
    rw [List.append_nil]
    exact ⟨_, tried⟩
  · exact ⟨_, tried⟩

/-- Receiving-service answers the nonce it is asked for. -/
theorem postLedgerEntry_sends {subjectToken : String} {outcome : Except Fault Json}
    (subject : args.subjectToken = some subjectToken) (filled : subjectToken ≠ "")
    (builds : TransportBuilds L useLatticeVar config args.correlationId (P.stringify args.payload))
    (run : Runs (postLedgerEntry P L useLatticeVar config args) trace outcome)
    (works : WorksLocally trace) (prefixed : responses trace <+: given) :
    observations trace = postingObservations P L (ledgerExchange config)
      { subjectToken := subjectToken } (ledgerUrl useLatticeVar config.toReceivingServiceConfig)
      (P.stringify args.payload) (askedNonce P ["ledger/write"] given) given := by
  simp only [postLedgerEntry, subject, Option.filter, filled, ne_eq, not_false_eq_true,
    decide_true, ↓reduceIte] at run
  apply posting_sends run works prefixed
  · intro exchanged after token reply run works text granted prefixed
    have built : Builds (fun proof => ledgerCall L.toLatticeLibrary useLatticeVar
        config.toReceivingServiceConfig args.correlationId exchanged.accessToken.toText proof
        (P.stringify args.payload)) (P.stringify args.payload) := by
      intro proof
      obtain ⟨request, called⟩ := builds exchanged.accessToken.toText proof
      exact ⟨request, called, ledgerCall_body called⟩
    have hashed : athClaim P (some exchanged.accessToken) =
        .ok [("ath", .str (P.sha256Base64url token.toUTF8))] := by
      rw [text]
      rfl
    obtain ⟨_, run⟩ := postLedgerEntry_tries run
    obtain ⟨first, later, sent, seen⟩ := retryOnChallenge_sends hashed built run works
    obtain ⟨rest, rfl⟩ := sent ▸ prefixed
    have asked : askedNonce P ["ledger/write"] (reply :: first :: later ++ rest) =
        challengeNonce first := by
      change (match grantedToken P ["ledger/write"] reply with
        | some (.str _) => challengeNonce first
        | _ => none) = _
      rw [show grantedToken P ["ledger/write"] reply = some (.str token) from granted]
    rw [seen]
    exact asked ▸ rfl
  · intro exchanged after fault run works unhashed
    obtain ⟨_, run⟩ := postLedgerEntry_tries run
    exact retryOnChallenge_stops unhashed run works

/-- The migrated service answers no challenge. -/
theorem migratedPostLedgerEntry_sends {outcome : Except Fault HttpResponse}
    (run : Runs (migratedPostLedgerEntry P L env req payload) trace outcome)
    (works : WorksLocally trace) (prefixed : responses trace <+: given) :
    observations trace = postingObservations P L (migratedExchange env)
      { subjectToken := inboundToken req } (migratedUrl env) (P.stringify payload) none given := by
  apply posting_sends run works prefixed
  · intro exchanged after token reply run works text _ _
    have hashed : athClaim P (some exchanged.accessToken) =
        .ok [("ath", .str (P.sha256Base64url token.toUTF8))] := by
      rw [text]
      rfl
    unfold migratedAttempt at run
    obtain ⟨_, _, seen⟩ :=
      withDPoPNonceRetry_sends hashed (by exact fun proof => ⟨_, rfl, rfl⟩) run works
    rw [seen]
    exact (List.append_nil _).symm
  · intro exchanged after fault run works unhashed
    exact withDPoPNonceRetry_stops unhashed run works

/-- The nonce that is answered can be read from what is seen. -/
theorem postingObservations_injective {opts : ExchangeTokenOptions} {input : ExchangeTokenInput}
    {htu body nonce : String}
    (asked : askedNonce P (input.scope.getD opts.scope) given = some nonce) :
    postingObservations P L opts input htu body none given ≠
      postingObservations P L opts input htu body (some nonce) given := by
  cases given with
  | nil => cases asked
  | cons exchange rest =>
      cases rest with
      | nil => cases asked
      | cons first later =>
          simp only [askedNonce] at asked
          split at asked
          · next token granted =>
              simp [postingObservations, granted, answerObservations, attemptObservations]
          · cases asked

/-- The migrated service sends what receiving-service sends against the same responses, and
answers the nonce it is asked for, exactly where it is asked for none. -/
theorem migrated_answers_iff (P : Platform) (L : ClientLibrary) (useLatticeVar : Option String)
    (config : LedgerClientConfig) (args : PostLedgerEntryArgs) (env : MigratedEnv) (req : Request)
    (subject : args.subjectToken = some (inboundToken req)) (filled : inboundToken req ≠ "")
    (sameBroker : (migratedExchange env).brokerUrl = config.brokerTokenEndpoint)
    (sameUrl : migratedUrl env = ledgerUrl useLatticeVar config.toReceivingServiceConfig)
    (builds : TransportBuilds L useLatticeVar config args.correlationId (P.stringify args.payload))
    {trace migratedTrace : List ClientEvent} {outcome : Except Fault Json}
    {migratedOutcome : Except Fault HttpResponse}
    (run : Runs (postLedgerEntry P L useLatticeVar config args) trace outcome)
    (migratedRun : Runs (migratedPostLedgerEntry P L env req args.payload) migratedTrace
      migratedOutcome)
    (works : WorksLocally trace) (migratedWorks : WorksLocally migratedTrace)
    {given : List (Except LibraryError HttpResponse)} (answered : responses trace <+: given)
    (migratedAnswered : responses migratedTrace <+: given) :
    (observations migratedTrace = observations trace ∧
      ∀ nonce, askedNonce P ["ledger/write"] given = some nonce → ∃ ath,
        observations migratedTrace =
          exchangeObservations L (migratedExchange env) { subjectToken := inboundToken req } ++
            attemptObservations (migratedUrl env) (P.stringify args.payload) ath none ++
            attemptObservations (migratedUrl env) (P.stringify args.payload) ath (some nonce)) ↔
      askedNonce P ["ledger/write"] given = none := by
  have seen := postLedgerEntry_sends subject filled builds run works answered
  have migratedSeen := migratedPostLedgerEntry_sends migratedRun migratedWorks migratedAnswered
  have sameExchange : ∀ nonce, postingObservations P L (ledgerExchange config)
        { subjectToken := inboundToken req }
        (ledgerUrl useLatticeVar config.toReceivingServiceConfig) (P.stringify args.payload) nonce
        given =
      postingObservations P L (migratedExchange env) { subjectToken := inboundToken req }
        (migratedUrl env) (P.stringify args.payload) nonce given := by
    intro nonce
    have broker : (ledgerExchange config).brokerUrl = (migratedExchange env).brokerUrl :=
      sameBroker.symm
    rw [sameUrl]
    simp only [postingObservations, exchangeObservations, broker]
    rfl
  rw [sameExchange] at seen
  rw [seen, migratedSeen]
  constructor
  · rintro ⟨alike, -⟩
    cases asked : askedNonce P ["ledger/write"] given with
    | none => rfl
    | some nonce =>
        rw [asked] at alike
        exact absurd alike (postingObservations_injective asked)
  · intro unasked
    refine ⟨by rw [unasked], ?_⟩
    intro nonce asked
    rw [unasked] at asked
    cases asked

end Postings

section ChallengedPosting

open Effect.Program

/-- A client in which nothing fails, and these responses to its requests. -/
def answeredWith (given : List (Except LibraryError HttpResponse)) : Environment outbound
  | _, .actorClientSecret => .ok "secret"
  | past, .randomUUID => "jti-" ++ toString past.length
  | _, .activeKey => .ok { publicJwk := TokenTable.jwkOf ⟨1⟩, privateKey := ⟨1⟩ }
  | _, .date => 1700000000000
  | past, .signJwt _ _ _ => .ok ("proof-" ++ toString past.length)
  | past, .fetch _ =>
      given.getD (responses past).length (.error { code := none, message := "fetch failed" })
  | _, .checkInitialized => .ok ()
  | _, .generateKey => .ok { publicJwk := TokenTable.jwkOf ⟨2⟩, privateKey := ⟨2⟩ }
  | _, .installKey _ => ()

theorem answeredWith_works {α : Type} (given : List (Except LibraryError HttpResponse))
    (program : Client α) (past : List ClientEvent) :
    WorksLocally (exec (answeredWith given) past program).1 := by
  induction program generalizing past with
  | done result => exact fun _ member => absurd member List.not_mem_nil
  | call op next ih =>
      intro event member
      obtain rfl | later := List.mem_cons.mp member
      · cases op with
        | actorClientSecret => exact ⟨_, rfl⟩
        | activeKey => exact ⟨_, rfl⟩
        | signJwt header claims key => exact ⟨_, rfl⟩
        | _ => trivial
      · exact ih _ _ event later

/-- The broker grants a token, and the ledger asks for a nonce. -/
def challengedResponses : List (Except LibraryError HttpResponse) := [
  .ok { status := 200, headers := [], body := .ok "granted" },
  .ok { status := 401, headers := [("dpop-nonce", "nonce-1")], body := .ok "challenge" },
  .ok { status := 201, headers := [], body := .ok "entry" }]

def postingTable : TokenTable where
  tokens := []
  texts := [("granted", .obj [("access_token", .str "hop-token")]), ("entry", .obj [])]

def postingLibrary : ClientLibrary where
  toLatticeLibrary := taskRoleLibrary
  textToBase64 text := text

def postingConfig : LedgerClientConfig where
  toReceivingServiceConfig := receivingConfig
  brokerTokenEndpoint := "https://broker/token"
  ledgerOutboundClientId := "receiving-service-outbound"

def postingArgs : PostLedgerEntryArgs where
  correlationId := "request-1"
  payload := .obj []
  subjectToken := some "inbound-token"

def postingEnv : MigratedEnv where
  brokerTokenEndpoint := some "https://broker/token"
  cognitoClientId := none
  ledgerUrl := some "https://ledger.internal"

def postingRequest : Request where
  method := "POST"
  protocol := "https"
  originalUrl := "/orders"
  path := "/orders"
  routePath := some "/orders"
  headers := [("authorization", "DPoP inbound-token")]
  body := none

def answeredPosting : List ClientEvent × Except Fault Json :=
  exec (answeredWith challengedResponses) [] (postLedgerEntry postingTable.platform postingLibrary
    none postingConfig postingArgs)

def migratedPosting : List ClientEvent × Except Fault HttpResponse :=
  exec (answeredWith challengedResponses) [] (migratedPostLedgerEntry postingTable.platform
    postingLibrary postingEnv postingRequest postingArgs.payload)

theorem answeredPosting_responses : responses answeredPosting.1 <+: challengedResponses := by
  decide +kernel

theorem migratedPosting_responses : responses migratedPosting.1 <+: challengedResponses := by
  decide +kernel

/-- Receiving-service sends the request again with the nonce; the migrated service does not. -/
theorem challenge_not_answered :
    askedNonce postingTable.platform ["ledger/write"] challengedResponses = some "nonce-1" ∧
      Runs (postLedgerEntry postingTable.platform postingLibrary none postingConfig postingArgs)
        answeredPosting.1 answeredPosting.2 ∧
      Runs (migratedPostLedgerEntry postingTable.platform postingLibrary postingEnv postingRequest
        postingArgs.payload) migratedPosting.1 migratedPosting.2 ∧
      responses answeredPosting.1 <+: challengedResponses ∧
      responses migratedPosting.1 <+: challengedResponses ∧
      observations migratedPosting.1 ≠ observations answeredPosting.1 ∧
      (responses answeredPosting.1).length = 3 ∧ (responses migratedPosting.1).length = 2 := by
  have fewer : (observations migratedPosting.1).length ≠
      (observations answeredPosting.1).length := by decide +kernel
  exact ⟨by decide +kernel, exec_runs _ _ _, exec_runs _ _ _, answeredPosting_responses,
    migratedPosting_responses, fun alike => fewer (congrArg List.length alike),
    by decide +kernel, by decide +kernel⟩

theorem challengedPosting_answers_iff :
    askedNonce postingTable.platform ["ledger/write"] challengedResponses = some "nonce-1" ∧
      ((observations migratedPosting.1 = observations answeredPosting.1 ∧
        ∀ nonce, askedNonce postingTable.platform ["ledger/write"] challengedResponses =
            some nonce → ∃ ath, observations migratedPosting.1 =
          exchangeObservations postingLibrary (migratedExchange postingEnv)
              { subjectToken := inboundToken postingRequest } ++
            attemptObservations (migratedUrl postingEnv)
              (postingTable.platform.stringify postingArgs.payload) ath none ++
            attemptObservations (migratedUrl postingEnv)
              (postingTable.platform.stringify postingArgs.payload) ath (some nonce)) ↔
        askedNonce postingTable.platform ["ledger/write"] challengedResponses = none) :=
  ⟨by decide +kernel,
    migrated_answers_iff postingTable.platform postingLibrary none postingConfig postingArgs
      postingEnv postingRequest (by decide +kernel) (by decide +kernel) rfl (by decide +kernel)
      (fun _ _ => ⟨_, rfl⟩) (exec_runs _ _ _) (exec_runs _ _ _) (answeredWith_works _ _ _)
      (answeredWith_works _ _ _) answeredPosting_responses migratedPosting_responses⟩

end ChallengedPosting

end S2s
