import S2sStack.Broker.Available
import S2sStack.Dpop.HonestProof
import S2sStack.Service.ExchangeWire

set_option autoImplicit false

/- One exchange where nothing fails, from the call of the SDK over the broker to its result. -/
namespace S2s

open Effect Effect.Program
open Js (Json Obj)

/-- A call of the SDK by an actor of the catalog, for an audience and scopes that it may ask for,
and the broker's work on it. The broker spells its endpoint as the SDK does. -/
structure HonestExchange (P : Platform) (L : ClientLibrary) (deps : TokenRouterDeps)
    extends SentExchange P L where
  entry : ActorCatalogEntry
  catalogued : deps.catalog.get opts.actorClientId = some entry
  authentic : deps.catalog.authenticate P opts.actorClientId secret = true
  plain : opts.actorClientId ≠ "" ∧ ':' ∉ opts.actorClientId.toList
  audienceAllowed : input.requestedAudience opts ∈ entry.allowedAudiences
  scopesAllowed : ∀ scope ∈ input.requestedScopes opts, scope ∈ entry.allowedScopes
  key : ActiveKey
  thumbprint : String
  computed : P.calculateJwkThumbprint (.obj key.publicJwk) = .ok thumbprint
  hashed : thumbprint ≠ ""
  calling : List ClientEvent
  result : Except Fault ExchangeTokenResult
  called : Runs (exchangeToken P L opts input) calling result
  signer : SoundSigner P key calling
  secrets : ∀ reply, ⟨.actorClientSecret, reply⟩ ∈ calling → reply = .ok secret
  sends : ∀ sent reply, ⟨.fetch sent, reply⟩ ∈ calling →
    sent = exchangeRequest L opts input secret proof
  compact : Js.Word proof
  endpoint : brokerTokenEndpointHtu P toSentExchange.request = opts.brokerUrl
  handling : List Event
  outcome : Except Fault Unit
  handled : Runs (tokenRouter P deps toSentExchange.request) handling outcome
  signing : LoadedSigningKey
  serves : BrokerServes P signing handling
  timely : ∀ signedAt nowMs, ⟨.date, signedAt⟩ ∈ calling → ⟨.now, nowMs⟩ ∈ handling →
    |(toSeconds nowMs : Rat) - (toSeconds signedAt : Nat)| ≤
      (exchangeProofDeps deps.proofVerifier).tolerance
  answers : ∀ status body sent reply, ⟨.json status body, ()⟩ ∈ handling →
    ⟨.fetch sent, reply⟩ ∈ calling →
    ∃ response, reply = .ok response ∧ response.status = status ∧ response.json P = .ok body

namespace HonestExchange

variable {P : Platform} {L : ClientLibrary} {deps : TokenRouterDeps}

def actor (exchange : HonestExchange P L deps) : String := exchange.opts.actorClientId

def subject (exchange : HonestExchange P L deps) : String := exchange.input.subjectToken

def audience (exchange : HonestExchange P L deps) : String :=
  exchange.input.requestedAudience exchange.opts

/-- What the SDK signs for the broker. -/
def proofOptions (exchange : HonestExchange P L deps) : SignDPoPOptions where
  htm := "POST"
  htu := exchange.opts.brokerUrl

variable {exchange : HonestExchange P L deps}

/-- The SDK signs a proof, sends it, and returns what it finds in the response. -/
structure Calls (exchange : HonestExchange P L deps) (proof : DPoPProof) (signedAt : Millis)
    (reply : Except LibraryError HttpResponse) : Prop where
  text : proof.proof = exchange.proof
  clock : ⟨.date, signedAt⟩ ∈ exchange.calling
  honest : HonestProof P exchange.proofOptions exchange.key signedAt proof
  fetched : ⟨.fetch (exchangeRequest L exchange.opts exchange.input exchange.secret exchange.proof),
    reply⟩ ∈ exchange.calling
  returned : ∀ response accessToken, reply = .ok response →
    brokerToken response.status (brokerBody P response) = .ok accessToken →
    ∃ nowMs, exchange.result =
      exchangeResult exchange.opts exchange.input (brokerBody P response) accessToken nowMs

theorem exists_call : ∃ proof signedAt reply, exchange.Calls proof signedAt reply := by
  have calls {secret : String} {signing rest : List ClientEvent} {dpop : DPoPProof}
      {reply : Except LibraryError HttpResponse}
      (shape : exchange.calling = ⟨.actorClientSecret, .ok secret⟩ :: (signing ++
        (⟨.fetch (exchangeRequest L exchange.opts exchange.input secret dpop.proof), reply⟩ ::
          rest)))
      (run : SigningRun P exchange.proofOptions signing (.ok dpop))
      (returned : ∀ response accessToken, reply = .ok response →
        brokerToken response.status (brokerBody P response) = .ok accessToken →
        ∃ nowMs, exchange.result =
          exchangeResult exchange.opts exchange.input (brokerBody P response) accessToken nowMs) :
      ∃ proof signedAt reply, exchange.Calls proof signedAt reply := by
    have inside : signing ⊆ exchange.calling := fun event member => by
      rw [shape]
      exact List.mem_cons_of_mem _ (List.mem_append_left _ member)
    have fetched : ⟨.fetch (exchangeRequest L exchange.opts exchange.input secret dpop.proof),
        reply⟩ ∈ exchange.calling := by simp [shape]
    have same := exchange.sends _ _ fetched
    have text := congrArg OutboundRequest.headers same
    simp only [exchangeRequest, List.cons.injEq, Prod.mk.injEq, true_and, and_true] at text
    rw [same] at fetched
    obtain ⟨_, signedAt, signed, clock, honest⟩ := run.honest (exchange.signer.mono inside) rfl
    cases signed
    exact ⟨dpop, signedAt, reply, text.2, inside clock, honest, fetched, returned⟩
  have run := exchangeToken_run exchange.called
  generalize shape : exchange.calling = calling at run
  generalize ended : exchange.result = result at run
  cases run with
  | secretless err => cases exchange.secrets (.error err) (by simp [shape])
  | unsigned secret signing fault failed =>
      have inside : signing ⊆ exchange.calling := fun event member => by
        rw [shape]
        exact List.mem_cons_of_mem _ member
      obtain ⟨_, _, impossible, _⟩ := failed.honest (exchange.signer.mono inside) rfl
      cases impossible
  | unanswered secret signing dpop err fault signed =>
      refine calls shape signed fun _ _ impossible _ => ?_
      cases impossible
  | refused secret signing dpop response fault signed refused =>
      refine calls shape signed fun _ accessToken same taken => ?_
      cases same
      cases refused.symm.trans taken
  | granted secret signing dpop response accessToken nowMs signed granted =>
      refine calls shape signed fun _ _ same taken => ?_
      cases same
      cases granted.symm.trans taken
      exact ⟨nowMs, ended⟩

/-- The proof arrives as it was sent. -/
theorem dpop_header : exchange.request.headerOrEmpty "dpop" = exchange.proof := by
  have single : (exchangeRequest L exchange.opts exchange.input exchange.secret
      exchange.proof).headers.valuesOf "dpop" = [exchange.proof] := by
    have accept : Js.toLowerCase "accept" = "accept" := by decide
    have dpop : Js.toLowerCase "DPoP" = "dpop" := by decide
    have type : Js.toLowerCase "content-type" = "content-type" := by decide
    have authorization : Js.toLowerCase "authorization" = "authorization" := by decide
    simp [exchangeRequest, Js.HeaderRecord.valuesOf, accept, dpop, type, authorization]
  rw [SentExchange.request, deliver_header single]
  exact exchange.compact.kept

/-- The broker accepts the proof. -/
theorem proves : Returns (· ∈ exchange.handling)
    (fun proof => proof.jwkThumbprint = exchange.thumbprint)
    (verifyExchangeProof P deps.proofVerifier (exchange.request.headerOrEmpty "dpop")
      (brokerTokenEndpointHtu P exchange.request)) := by
  obtain ⟨proof, signedAt, _, call⟩ := exchange.exists_call
  have fits : FitsProof P exchange.proofOptions exchange.key proof
      (exchangeProofInput (exchange.request.headerOrEmpty "dpop")
        (brokerTokenEndpointHtu P exchange.request)) exchange.thumbprint := {
    presented := by rw [exchangeProofInput, dpop_header, call.text]
    method := rfl
    url := exchange.endpoint.symm
    token := nofun
    computed := exchange.computed
    bound := checkBinding_ok_iff.mpr ⟨nofun, nofun⟩ }
  have takes : TakesProof (exchangeProofDeps deps.proofVerifier) none signedAt proof.jti
      exchange.handling := {
    timely := fun nowMs read => exchange.timely signedAt nowMs call.clock read
    live := nofun
    fresh := fun ttl reply set => exchange.serves.fresh _ ttl reply set }
  exact call.honest.accepted fits takes

/-- The broker answers with a token, where it takes the subject token. -/
theorem granted (subject : Returns (· ∈ exchange.handling) (fun _ => True)
    (validateSubjectToken P deps.subjectValidator exchange.subject exchange.audience)) :
    ∃ token, token ≠ "" ∧
      ⟨.json 200 (exchangeResponse deps exchange.fields token), ()⟩ ∈ exchange.handling := by
  have credentials : parseBasicAuth P (exchange.request.header? "authorization") =
      some (exchange.actor, exchange.secret) := SentExchange.parseBasicAuth_iff.mpr exchange.plain
  have catalogued : deps.catalog.get exchange.actor = some exchange.entry := exchange.catalogued
  have authentic : deps.catalog.authenticate P exchange.actor exchange.secret = true :=
    exchange.authentic
  have target : authorizeTarget ⟨exchange.actor, exchange.entry⟩ exchange.fields = .ok () := by
    have audience : ¬ exchange.fields.audience ∉ exchange.entry.allowedAudiences :=
      not_not.mpr exchange.audienceAllowed
    have denied :
        exchange.fields.requestedScopes.filter (· ∉ exchange.entry.allowedScopes) = [] := by
      rw [List.filter_eq_nil_iff]
      intro scope member
      simpa using exchange.scopesAllowed scope member
    rw [authorizeTarget, if_neg audience, denied]
    rfl
  have welcome : Welcome P deps exchange.request exchange.fields ⟨exchange.actor, exchange.entry⟩
      exchange.handling := {
    requested := SentExchange.readExchangeRequest_body
    authenticated := by
      simp only [authenticateActor, credentials, catalogued, authentic, ↓reduceIte]
    target := target
    shown := by
      rw [dpop_header]
      exact exchange.compact.filled
    proven := exchange.proves.mono fun _ _ => trivial
    subject := subject }
  obtain ⟨_, _, member, token, filled, rfl⟩ :=
    (tokenRouter_reaches welcome exchange.serves).of_run exchange.handled
  exact ⟨token, filled, member⟩

/-- A token of the broker is what the SDK returns. -/
theorem result_ok {token : String} (filled : token ≠ "")
    (answered : ⟨.json 200 (exchangeResponse deps exchange.fields token), ()⟩ ∈ exchange.handling) :
    ∃ result, exchange.result = .ok result ∧ result.accessToken = .str token ∧
      result.scopes = exchange.scopes := by
  obtain ⟨proof, signedAt, reply, call⟩ := exchange.exists_call
  obtain ⟨response, rfl, status, parsed⟩ := exchange.answers _ _ _ _ answered call.fetched
  have body : brokerBody P response = exchangeResponse deps exchange.fields token := by
    rw [brokerBody, parsed]
  have taken : brokerToken response.status (brokerBody P response) = .ok (.str token) := by
    have field : brokerField (exchangeResponse deps exchange.fields token) "access_token" =
        some (.str token) := rfl
    have shape : exchangeResponse deps exchange.fields token ≠ .null := nofun
    rw [status, body, brokerToken]
    · simp [field, Json.truthy, filled]
    · exact shape
  obtain ⟨nowMs, same⟩ := call.returned response _ rfl taken
  have scopes : grantedScopes (exchange.input.scope.getD exchange.opts.scope) (brokerField
      (exchangeResponse deps exchange.fields token) "scope") = .ok exchange.scopes := by
    have found : brokerField (exchangeResponse deps exchange.fields token) "scope" =
        some (.str (" ".intercalate exchange.scopes)) := rfl
    have joined : " ".intercalate exchange.scopes ≠ "" :=
      SentExchange.joined_filled exchange.scopesFilled exchange.words
    have split : Js.splitSpace (" ".intercalate exchange.scopes) = exchange.scopes :=
      Js.splitSpace_intercalate exchange.scopesFilled exchange.words
    rw [found, grantedScopes, if_neg joined, split]
  rw [body, exchangeResult, scopes] at same
  exact ⟨_, same, rfl, rfl⟩

end HonestExchange

end S2s
