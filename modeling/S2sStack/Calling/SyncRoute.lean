import S2sStack.Calling.UserAuth
import S2sStack.Client.Filing
import Mathlib.Data.List.Infix

set_option autoImplicit false

/- `routes/sync.ts` of calling-service: what the route does in the name of the user it serves. -/
namespace S2s

open Effect Effect.Program
open Js (Json Obj)

inductive SyncReply where
  | unauthenticated (requestId : String) (timestamp : Millis)
  | forwarded (status : Nat) (downstream : Json) (sub : String) (roles : List String)
  | unavailable (description requestId : String) (timestamp : Millis)

def SyncReply.status : SyncReply → Nat
  | unauthenticated _ _ => 401
  | forwarded status _ _ _ => status
  | unavailable _ _ _ => 502

/-- `downstreamBody` -/
def downstreamBody (P : Platform) (response : HttpResponse) (text : String) : Json :=
  let ct := (response.header? "content-type").getD ""
  if "application/json".toList <:+: ct.toList then
    match P.parseJson text with
    | .ok parsed => parsed
    | .error _ => .str text
  else .str text

/-- The `try` of the route. -/
def syncForward (P : Platform) (L : ClientLibrary) (useLatticeVar : Option String)
    (config : SyncConfig) (req : Request) (user : UserContext) : Client SyncReply := do
  let subjectToken := withoutBearer (req.headerOrEmpty "authorization")
  let upstream ← syncUpstream P L useLatticeVar config req subjectToken user.sub
  let text ← ofExcept (Client.orFault upstream.body)
  return .forwarded upstream.status (downstreamBody P upstream text) user.sub user.roles

/-- `POST /demo/sync`, behind the middleware -/
def syncRoute (P : Platform) (L : ClientLibrary) (useLatticeVar : Option String)
    (config : SyncConfig) (req : Request) : Option UserContext → Client SyncReply
  | none => do
      let nowMs ← Client.date
      return .unauthenticated (issuerRequestId req) nowMs
  | some user => do
      match ← attempt (syncForward P L useLatticeVar config req user) with
      | .ok reply => return reply
      | .error err => do
          let nowMs ← Client.date
          return .unavailable err.message (issuerRequestId req) nowMs

/-- The paths of the route: neither the case of a path nor its last slash matters to Express. -/
def servesSync (path : String) : Bool := Js.toLowerCase path ∈ ["/demo/sync", "/demo/sync/"]

/-- What the route gives to `exchange`. -/
def syncInput (config : SyncConfig) (subjectToken : String) : ExchangeTokenInput where
  subjectToken := subjectToken
  audience := some config.targetAudience
  scope := some config.scopes

section Sent

variable {P : Platform} {L : ClientLibrary} {trace : List ClientEvent}

/-- A response that is not the last one: it asks for a nonce, and says which. -/
def AsksAgain (asks : HttpResponse → Bool) (response : HttpResponse) : Prop :=
  response.status = 401 ∧ asks response = true ∧ ∃ nonce, response.dpopNonce = some nonce

/-- The reply to the last of these requests, none of which is to be sent again. -/
def LastAnswer (asks : HttpResponse → Bool) (sent : List Call) (response : HttpResponse) : Prop :=
  ∃ call ∈ sent.getLast?, call.reply = .ok response ∧
    (AsksAgain asks response → sent.length = 2)

/-- The requests of a call with retries: two at most, each built around its own proof. The call
returns with the last answer, or fails where there is none. -/
structure SentWith (asks : HttpResponse → Bool) (build : String → Except Fault OutboundRequest)
    (sent : List Call) (outcome : Except Fault HttpResponse) : Prop where
  short : sent.length ≤ 2
  built : ∀ call ∈ sent, ∃ proof, build proof = .ok call.request
  last : ∀ response, outcome = .ok response ↔ LastAnswer asks sent response

variable {htu : String} {build : String → Except Fault OutboundRequest} {accessToken : Json}
  {outcome : Except Fault HttpResponse}

theorem not_lastAnswer_nil {asks : HttpResponse → Bool} {response : HttpResponse} :
    ¬ LastAnswer asks [] response := by
  rintro ⟨call, impossible, _⟩
  cases impossible

theorem lastAnswer_single_iff {asks : HttpResponse → Bool} {call : Call} {response : HttpResponse} :
    LastAnswer asks [call] response ↔ call.reply = .ok response ∧ ¬ AsksAgain asks response := by
  simp [LastAnswer]

theorem lastAnswer_pair_iff {asks : HttpResponse → Bool} {first second : Call}
    {response : HttpResponse} :
    LastAnswer asks [first, second] response ↔ second.reply = .ok response := by
  simp [LastAnswer]

/-- An attempt sends one request at most, and its outcome is the reply to it. -/
theorem resourceAttempt_sent {nonce : Option String}
    (run : Runs (resourceAttempt P htu build accessToken nonce) trace outcome) :
    (calls trace = [] ∧ ∃ fault, outcome = .error fault) ∨
      ∃ call, calls trace = [call] ∧ (∃ proof, build proof = .ok call.request) ∧
        ∀ response, outcome = .ok response ↔ call.reply = .ok response := by
  rcases resourceAttempt_calls run with ⟨none, failed⟩ | ⟨proof, request, reply, built, sent, rfl⟩
  · exact .inl ⟨none, failed⟩
  · refine .inr ⟨_, sent, ⟨proof, built⟩, fun response => ?_⟩
    cases reply with
    | error err => exact iff_of_false (by intro same; cases same) (by intro same; cases same)
    | ok answer => exact ⟨fun same => by cases same; rfl, fun same => by cases same; rfl⟩

theorem retryOnChallenge_sent {asks : HttpResponse → Bool}
    (run : Runs (retryOnChallenge asks (resourceAttempt P htu build accessToken)) trace outcome) :
    SentWith asks build (calls trace) outcome := by
  have single {call : Call} (built : ∃ proof, build proof = .ok call.request) :
      ∀ other ∈ [call], ∃ proof, build proof = .ok other.request := by
    intro other member
    rwa [List.mem_singleton.mp member]
  rw [retryOnChallenge, runs_bind_iff] at run
  rcases run with ⟨first, before, after, rfl, tried, run⟩ | ⟨fault, tried, rfl⟩
  · rcases resourceAttempt_sent tried with ⟨_, _, impossible⟩ | ⟨call, sent, built, replies⟩
    · cases impossible
    · have settled (run : Runs (pure first : Client HttpResponse) after outcome)
          (last : ¬ AsksAgain asks first) : SentWith asks build (calls (before ++ after)) outcome := by
        obtain ⟨rfl, rfl⟩ := runs_pure_iff.mp run
        rw [List.append_nil, sent]
        refine ⟨Nat.le_succ 1, single built, fun response => ?_⟩
        rw [lastAnswer_single_iff, ← replies]
        refine ⟨fun same => ⟨same, ?_⟩, And.left⟩
        cases same
        exact last
      split at run
      · rename_i challenged
        split at run
        · rename_i nonce given
          have again : AsksAgain asks first := ⟨challenged.1, challenged.2, nonce, given⟩
          rw [calls_append, sent]
          rcases resourceAttempt_sent run with ⟨none, fault, rfl⟩ | ⟨second, sent', built', replies'⟩
          · rw [none, List.append_nil]
            refine ⟨Nat.le_succ 1, single built, fun response => ?_⟩
            rw [lastAnswer_single_iff, ← replies]
            refine ⟨fun impossible => ?_, fun answer => ?_⟩
            · cases impossible
            · obtain ⟨same, last⟩ := answer
              cases same
              exact absurd again last
          · rw [sent']
            refine ⟨Nat.le_refl 2, ?_, fun response => ?_⟩
            · intro other member
              rcases List.mem_cons.mp member with rfl | rest
              · exact built
              · exact single built' other rest
            · exact (replies' response).trans lastAnswer_pair_iff.symm
        · rename_i unsaid
          refine settled run fun again => ?_
          obtain ⟨_, _, nonce, given⟩ := again
          rw [unsaid] at given
          cases given
      · rename_i unchallenged
        exact settled run fun again => unchallenged ⟨again.1, again.2.1⟩
  · rcases resourceAttempt_sent tried with ⟨none, _⟩ | ⟨call, sent, built, replies⟩
    · rw [none]
      refine ⟨Nat.zero_le 2, ?_, fun response => ⟨fun same => ?_, fun answer => ?_⟩⟩
      · intro call member
        cases member
      · cases same
      · exact absurd answer not_lastAnswer_nil
    · rw [sent]
      refine ⟨Nat.le_succ 1, single built, fun response => ?_⟩
      rw [lastAnswer_single_iff, ← replies]
      refine ⟨fun impossible => ?_, fun answer => ?_⟩
      · cases impossible
      · cases answer.1

/-- The request of an exchange, and the token in the reply to it. -/
theorem exchangeToken_sent {opts : ExchangeTokenOptions} {input : ExchangeTokenInput}
    {granted : Except Fault ExchangeTokenResult}
    (run : Runs (exchangeToken P L opts input) trace granted) :
    (∀ call ∈ calls trace, ∃ secret proof,
        call.request = exchangeRequest L opts input secret proof) ∧
      (calls trace).length ≤ 1 ∧
      ∀ result, granted = .ok result → ∃ call response, calls trace = [call] ∧
        call.reply = .ok response ∧
        brokerToken response.status (brokerBody P response) = .ok result.accessToken := by
  have only {signing after : List ClientEvent} {secret : Except LibraryError String}
      {request : OutboundRequest} {reply : Except LibraryError HttpResponse}
      (signed : responses signing = []) (dated : calls after = []) :
      calls (⟨.actorClientSecret, secret⟩ :: (signing ++ ⟨.fetch request, reply⟩ :: after)) =
        [⟨request, reply⟩] := by
    change calls (signing ++ ([⟨.fetch request, reply⟩] ++ after)) = _
    rw [calls_append, calls_of_silent signed, calls_append, dated]
    rfl
  cases exchangeToken_run run with
  | secretless err =>
      refine ⟨?_, Nat.zero_le 1, ?_⟩
      · intro call member
        cases member
      · intro result impossible
        cases impossible
  | unsigned secret signing fault signed =>
      have silent : calls (⟨.actorClientSecret, .ok secret⟩ :: signing) = [] :=
        calls_of_silent signed.silent
      rw [silent]
      refine ⟨?_, Nat.zero_le 1, ?_⟩
      · intro call member
        cases member
      · intro result impossible
        cases impossible
  | unanswered secret signing dpop err fault signed =>
      rw [only signed.silent rfl]
      refine ⟨?_, Nat.le_refl 1, ?_⟩
      · intro call member
        cases List.mem_singleton.mp member
        exact ⟨secret, dpop.proof, rfl⟩
      · intro result impossible
        cases impossible
  | refused secret signing dpop response fault signed =>
      rw [only signed.silent rfl]
      refine ⟨?_, Nat.le_refl 1, ?_⟩
      · intro call member
        cases List.mem_singleton.mp member
        exact ⟨secret, dpop.proof, rfl⟩
      · intro result impossible
        cases impossible
  | granted secret signing dpop response accessToken nowMs signed token =>
      rw [only signed.silent rfl]
      refine ⟨?_, Nat.le_refl 1, ?_⟩
      · intro call member
        cases List.mem_singleton.mp member
        exact ⟨secret, dpop.proof, rfl⟩
      · intro result same
        refine ⟨_, response, rfl, rfl, ?_⟩
        unfold exchangeResult at same
        cases scopes : grantedScopes ((input.scope).getD opts.scope)
            (brokerField (brokerBody P response) "scope") with
        | error fault =>
            rw [scopes] at same
            cases same
        | ok list =>
            rw [scopes] at same
            cases same
            exact token

end Sent

/-- The requests of the route in the name of `caller`: its token is exchanged, and the token that
the broker has granted for it is sent to receiving-service, twice at most. -/
structure OnBehalf (P : Platform) (L : ClientLibrary) (useLatticeVar : Option String)
    (config : SyncConfig) (req : Request) (token : String) (caller : UserContext)
    (sent : List Call) : Prop where
  short : sent.length ≤ 3
  exchange : ∀ call ∈ sent.head?, ∃ secret proof,
    call.request = exchangeRequest L (syncExchange config) (syncInput config token) secret proof
  loans : ∀ call ∈ sent.tail, ∃ broker ∈ sent.head?, ∃ response accessToken proof,
    broker.reply = .ok response ∧
    brokerToken response.status (brokerBody P response) = .ok accessToken ∧
    syncCall L.toLatticeLibrary useLatticeVar config.toCallingServiceConfig req caller.sub
      accessToken.toText proof ((req.body.map P.stringify).getD "") = .ok call.request

/-- What the route answers: the last answer of receiving-service under the caller's name where there
is one whose body can be read, else a 502. -/
def RepliesTo (P : Platform) (caller : UserContext) (sent : List Call) : SyncReply → Prop
  | .unauthenticated _ _ => False
  | .forwarded status downstream sub roles => sub = caller.sub ∧ roles = caller.roles ∧
      ∃ response text, LastAnswer (asksForNonce P) sent.tail response ∧ response.body = .ok text ∧
        response.status = status ∧ downstream = downstreamBody P response text
  | .unavailable _ _ _ => ∀ response, LastAnswer (asksForNonce P) sent.tail response →
      ∃ err, response.body = .error err

section Route

variable {P : Platform} {L : ClientLibrary} {useLatticeVar : Option String} {config : SyncConfig}
  {req : Request} {trace : List ClientEvent}

theorem syncUpstream_sent {subjectToken : String} {caller : UserContext}
    {outcome : Except Fault HttpResponse}
    (run : Runs (syncUpstream P L useLatticeVar config req subjectToken caller.sub) trace outcome) :
    OnBehalf P L useLatticeVar config req subjectToken caller (calls trace) ∧
      ∀ response, outcome = .ok response ↔
        LastAnswer (asksForNonce P) (calls trace).tail response := by
  unfold syncUpstream at run
  rcases runs_bind_iff.mp run with ⟨exchanged, asking, trying, rfl, asked, run⟩ | ⟨fault, asked, rfl⟩
  · obtain ⟨requested, _, granted⟩ := exchangeToken_sent asked
    obtain ⟨broker, response, single, replied, token⟩ := granted exchanged rfl
    have sent := retryOnChallenge_sent run
    rw [calls_append, single]
    rw [single] at requested
    refine ⟨⟨?_, ?_, ?_⟩, sent.last⟩
    · have short := sent.short
      simp only [List.length_append, List.length_singleton]
      omega
    · intro call member
      cases Option.mem_some_iff.mp member
      exact requested broker List.mem_cons_self
    · intro call member
      obtain ⟨proof, built⟩ := sent.built call member
      exact ⟨broker, rfl, response, exchanged.accessToken, proof, replied, token, built⟩
  · obtain ⟨requested, short, _⟩ := exchangeToken_sent asked
    have none : (calls trace).tail = [] := (exchangeToken_calls asked).1
    rw [none]
    refine ⟨⟨by omega, ?_, ?_⟩, fun answer => ⟨fun impossible => ?_, fun answer => ?_⟩⟩
    · intro call member
      exact requested call (List.mem_of_mem_head? member)
    · intro call member
      rw [none] at member
      cases member
    · cases impossible
    · exact absurd answer not_lastAnswer_nil

/-- The `try` returns what it forwards, or fails where there is nothing to forward. -/
theorem syncForward_sent {caller : UserContext} {outcome : Except Fault SyncReply}
    (run : Runs (syncForward P L useLatticeVar config req caller) trace outcome) :
    OnBehalf P L useLatticeVar config req (withoutBearer (req.headerOrEmpty "authorization")) caller
        (calls trace) ∧
      (∀ reply, outcome = .ok reply → RepliesTo P caller (calls trace) reply) ∧
      ∀ fault, outcome = .error fault → ∀ response,
        LastAnswer (asksForNonce P) (calls trace).tail response → ∃ err, response.body = .error err := by
  unfold syncForward at run
  dsimp only at run
  rcases runs_bind_iff.mp run with ⟨upstream, before, after, rfl, forwarded, run⟩ |
    ⟨fault, forwarded, rfl⟩
  · obtain ⟨sent, last⟩ := syncUpstream_sent forwarded
    rcases runs_bind_iff.mp run with ⟨text, reading, rest, rfl, read, done⟩ | ⟨fault, read, rfl⟩
    · obtain ⟨rfl, readable⟩ := runs_ofExcept_iff.mp read
      obtain ⟨rfl, rfl⟩ := runs_pure_iff.mp done
      simp only [List.append_nil]
      have spelled : upstream.body = .ok text := by
        cases body : upstream.body with
        | error err =>
            rw [body] at readable
            cases readable
        | ok found =>
            rw [body] at readable
            cases readable
            rfl
      refine ⟨sent, fun reply same => ?_, fun fault impossible => ?_⟩
      · cases same
        exact ⟨rfl, rfl, upstream, text, (last upstream).mp rfl, spelled, rfl, rfl⟩
      · cases impossible
    · obtain ⟨rfl, unreadable⟩ := runs_ofExcept_iff.mp read
      simp only [List.append_nil]
      refine ⟨sent, fun reply impossible => ?_, fun _ _ response answer => ?_⟩
      · cases impossible
      · cases (last response).mpr answer
        cases body : upstream.body with
        | error err => exact ⟨err, rfl⟩
        | ok found =>
            rw [body] at unreadable
            cases unreadable
  · obtain ⟨sent, last⟩ := syncUpstream_sent forwarded
    refine ⟨sent, fun reply impossible => ?_, fun _ _ response answer => ?_⟩
    · cases impossible
    · cases (last response).mpr answer

theorem syncRoute_sent {caller : UserContext} {outcome : Except Fault SyncReply}
    (run : Runs (syncRoute P L useLatticeVar config req (some caller)) trace outcome) :
    OnBehalf P L useLatticeVar config req (withoutBearer (req.headerOrEmpty "authorization")) caller
        (calls trace) ∧
      ∃ reply, outcome = .ok reply ∧ RepliesTo P caller (calls trace) reply := by
  obtain ⟨inner, before, after, rfl, forwarded, replies⟩ := runs_attempt_bind_iff.mp run
  obtain ⟨sent, told, unforwarded⟩ := syncForward_sent forwarded
  cases inner with
  | ok reply =>
      obtain ⟨rfl, rfl⟩ := runs_pure_iff.mp replies
      rw [List.append_nil]
      exact ⟨sent, reply, rfl, told reply rfl⟩
  | error err =>
      obtain ⟨nowMs, rest, rfl, replied⟩ := runs_reply_bind_iff.mp replies
      obtain ⟨rfl, rfl⟩ := runs_pure_iff.mp replied
      have silent : calls (before ++ [⟨.date, nowMs⟩]) = calls before := by
        rw [calls_append]
        exact List.append_nil _
      rw [silent]
      exact ⟨sent, _, rfl, unforwarded err rfl⟩

end Route

/-- The middleware lets no request through to the route without a look at its token. -/
theorem servesSync_unskipped {path : String} (served : servesSync path = true) :
    shouldSkip path defaultSkip = false := by
  have lowered : path.toList.map Char.toLower = "/demo/sync".toList ∨
      path.toList.map Char.toLower = "/demo/sync/".toList := by
    have listed := of_decide_eq_true served
    simp only [Js.toLowerCase, List.mem_cons, List.not_mem_nil, or_false] at listed
    rcases listed with same | same
    · exact .inl (by rw [← same, String.toList_ofList])
    · exact .inr (by rw [← same, String.toList_ofList])
  have begins {word : String} (opening : word.toList <+: path.toList) :
      word.toList.map Char.toLower <+: "/demo/sync/".toList := by
    have mapped := opening.map Char.toLower
    rcases lowered with same | same
    · rw [same] at mapped
      exact mapped.trans (by decide)
    · rwa [same] at mapped
  by_contra skipped
  rw [Bool.not_eq_false, shouldSkip, List.any_eq_true] at skipped
  obtain ⟨skip, listed, matched⟩ := skipped
  have opening : skip.toList <+: path.toList := by
    rcases of_decide_eq_true matched with rfl | longer
    · exact List.prefix_refl _
    · rw [String.toList_append] at longer
      exact (List.prefix_append _ _).trans longer
  have impossible := begins opening
  revert impossible
  simp only [defaultSkip, List.mem_cons, List.not_mem_nil, or_false] at listed
  rcases listed with rfl | rfl | rfl | rfl <;> decide

/-- Whoever gets through to the route has shown a token of the user issuer, and the route acts for
the user of that token and for nobody else. -/
theorem sync_acts_for_caller {P : Platform} {issuer : LocalIssuerOptions} {L : ClientLibrary}
    {useLatticeVar : Option String} {config : SyncConfig} {req : Request} {checks : List Event}
    {user : Option UserContext} {trace : List ClientEvent} {outcome : Except Fault SyncReply}
    (served : servesSync req.path = true)
    (passed : Runs (userAuthMiddleware P issuer.userAuth req) checks (.ok (.next user)))
    (run : Runs (syncRoute P L useLatticeVar config req user) trace outcome) :
    ∃ token payload checkedAt, userBearer req = some token ∧
      AcceptedUserToken P issuer.userAuth.toValidateUserTokenOptions token payload checkedAt checks ∧
      OnBehalf P L useLatticeVar config req token (userContext payload.claims) (calls trace) ∧
      ∃ reply, outcome = .ok reply ∧
        RepliesTo P (userContext payload.claims) (calls trace) reply := by
  obtain ⟨gate, same, admitted⟩ := userAuthMiddleware_run passed
  cases same
  cases admitted with
  | skipped skips =>
      have looked : shouldSkip req.path issuer.userAuth.skips = false := servesSync_unskipped served
      rw [skips] at looked
      cases looked
  | passed token validation caller bearer validated =>
      obtain ⟨payload, checkedAt, accepted, rfl⟩ := validateUserToken_ok validated
      have extracted : token = withoutBearer (req.headerOrEmpty "authorization") := by
        simp only [userBearer] at bearer
        split at bearer
        · exact (Option.some.inj bearer).symm
        · cases bearer
      obtain ⟨sent, replies⟩ := syncRoute_sent run
      rw [← extracted] at sent
      exact ⟨token, payload, checkedAt, bearer, accepted, sent, replies⟩

section ForwardedLoan

/-! A user token that was signed in the same second, and a nonce that receiving-service asks for. -/

def callerIssuer : LocalIssuerOptions where
  issuer := "iss"
  audience := "aud"

def callerTable : TokenTable :=
  { sampleTable givenLists with texts := postingTable.texts }

def syncConfig : SyncConfig where
  receivingLatticeDns := ""
  receivingServiceUrl := "http://receiving.internal"
  targetBaseUrl := ""
  brokerTokenEndpoint := "https://broker/token"
  brokerActorClientId := "calling-service"
  targetAudience := "receiving"
  scopes := ["lending/write"]

def callerRequest : Request where
  method := "POST"
  protocol := "https"
  originalUrl := "/Demo/sync"
  path := "/Demo/sync"
  routePath := some "/sync"
  headers := [("authorization", "bearer  user-jwt")]
  body := some (.obj [("amount", .num 500)])

def callerContext : UserContext := userContext (sampleRow givenLists).payload.claims

def forwardedLoan : List ClientEvent × Except Fault SyncReply :=
  exec (answeredWith challengedResponses) [] (syncRoute callerTable.platform postingLibrary none
    syncConfig callerRequest (some callerContext))

theorem caller_passes : Runs (userAuthMiddleware callerTable.platform callerIssuer.userAuth
      callerRequest)
    (sampleServices.trace (userAuthMiddleware callerTable.platform callerIssuer.userAuth
      callerRequest)) (.ok (.next (some callerContext))) := by
  have passed : sampleServices.outcome (userAuthMiddleware callerTable.platform
      callerIssuer.userAuth callerRequest) = .ok (.next (some callerContext)) := by
    decide +kernel
  rw [← passed]
  exact sampleServices.runs _

/-- The loan is forwarded for the user of the token. -/
theorem forwardedLoan_for_caller : ∃ token payload checkedAt,
    userBearer callerRequest = some token ∧
      AcceptedUserToken callerTable.platform callerIssuer.userAuth.toValidateUserTokenOptions token
        payload checkedAt (sampleServices.trace (userAuthMiddleware callerTable.platform
          callerIssuer.userAuth callerRequest)) ∧
      OnBehalf callerTable.platform postingLibrary none syncConfig callerRequest token
        (userContext payload.claims) (calls forwardedLoan.1) ∧
      ∃ reply, forwardedLoan.2 = .ok reply ∧
        RepliesTo callerTable.platform (userContext payload.claims) (calls forwardedLoan.1) reply :=
  sync_acts_for_caller (by decide +kernel) caller_passes (exec_runs _ _ _)

end ForwardedLoan

end S2s
