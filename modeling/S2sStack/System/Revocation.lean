import S2sStack.Authz.Overlap
import S2sStack.Service.AuthorizationCalls
import S2sStack.System.NonceBudget

set_option autoImplicit false

/- What is still let through after the policies have taken a permission back. -/
namespace S2s

open Effect Effect.Program
open Memo (Turn)

/-- The two services, each with the `authorize` that it has built. AVP decides, and answers only
what a request has asked. -/
structure PolicedRun (P : Platform) (config : LendingService → BrokerServiceConfig)
    (Thread : Type) [DecidableEq Thread] extends AdmissionRun P config Thread where
  policyStoreId : LendingService → String
  avpClient : Nat → AvpRequest → Except Fault AvpResponse
  log : (name : LendingService) → DecisionLog (serviceAuthorizer (policyStoreId name) avpClient)
  answered : ∀ step ∈ history, ∀ input reply, step.event = ⟨.authorize input, reply⟩ →
    (log (service step.thread)).Returned step.time input reply
  asked : ∀ name call moment now result, .ended call moment now result ∈ (log name).turns →
    ∃ step ∈ history, service step.thread = name ∧ step.time = now ∧
      ∃ reply, step.event = ⟨.authorize call.input, reply⟩

namespace PolicedRun

variable {P : Platform} {config : LendingService → BrokerServiceConfig} {Thread : Type}
  [DecidableEq Thread] (run : PolicedRun P config Thread)

/-- The service has accepted a token of this user from the request, and the proof for it. -/
def Shows (thread : Thread) (sub : String) : Prop :=
  ∃ accessToken validated validating proving,
    bearerToken (run.request thread) = .ok accessToken ∧ validated.sub = sub ∧
    validating ⊆ run.history.trace thread ∧
    Runs (validateToken P ((run.service thread).deps config).validateToken accessToken
      ((run.service thread).deps config).expectedAudience) validating (.ok validated) ∧
    proving ⊆ run.history.trace thread ∧
    Runs (checkServiceProof P ((run.service thread).deps config) (run.request thread) accessToken
      validated) proving (.ok ())

/-- AVP has allowed a request of this user to the service that has the same cache entry. -/
structure Permission (name : LendingService) (input : AuthorizeInput) where
  step : Step runtime Thread
  asked : AuthorizeInput
  sub : String
  moment : Nat
  member : step ∈ run.history
  served : run.service step.thread = name
  event : ∃ reply, step.event = ⟨.authorize asked, reply⟩
  principal : asked.principal = "ServicePrincipal::" ++ sub
  shown : run.Shows step.thread sub
  key : cacheKey asked = cacheKey input
  allowed : AvpAllows (run.policyStoreId name) run.avpClient moment asked

/-- From this moment on AVP allows nothing that has this cache entry. -/
def Revoked (name : LendingService) (input : AuthorizeInput) (since : Nat) : Prop :=
  ∀ asked moment, cacheKey asked = cacheKey input → since ≤ moment →
    ¬ AvpAllows (run.policyStoreId name) run.avpClient moment asked

variable {run}

/-- The services ask about users whose token and proof they have accepted. -/
theorem shows_of_asked {step : Step runtime Thread} (member : step ∈ run.history)
    {input : AuthorizeInput} {reply : Except Fault AuthorizationResult}
    (event : step.event = ⟨.authorize input, reply⟩) :
    ∃ sub, input.principal = "ServicePrincipal::" ++ sub ∧ run.Shows step.thread sub := by
  obtain ⟨rest, result, whole⟩ := run.running step.thread
  rw [LendingService.handle_eq] at whole
  have asked := History.mem_trace_of_mem member
  rw [event] at asked
  obtain ⟨requestId, accessToken, validated, chain, naming, validating, proving, after, shape,
    other, extracted, validate, prove, _, rfl⟩ :=
    brokerAuth_asked whole (List.mem_append_left rest asked)
  -- what comes before the question has been performed
  have performed := History.before_first_subset asked (fun inside => other _ inside) shape
  refine ⟨validated.sub, rfl, accessToken, validated, validating, proving, extracted, rfl, ?_,
    validate, ?_, prove⟩
  · exact fun _ inside => performed (by simp [inside])
  · exact fun _ inside => performed (by simp [inside])

/-- What a service has been allowed, AVP has allowed it lately. -/
theorem exists_permission {latency : Nat} (prompt : ∀ name, (run.log name).Prompt latency)
    {step : Step runtime Thread} (member : step ∈ run.history) {input : AuthorizeInput}
    {decision : AuthorizationResult} (event : step.event = ⟨.authorize input, .ok decision⟩)
    (allowed : decision.decision = .allow) :
    ∃ permission : run.Permission (run.service step.thread) input,
      permission.moment ≤ step.time ∧ step.time < permission.moment + latency + 30000 := by
  obtain ⟨call, moment, storedAt, result, inside, key, computed, same, past, young⟩ :=
    (run.answered step member input _ event).decided (prompt _)
  obtain ⟨source, within, served, _, reply, asked⟩ := run.asked _ _ _ _ _ inside
  obtain ⟨sub, principal, shown⟩ := shows_of_asked within asked
  have permits := avpAllows_of_decided computed (same.trans allowed)
  exact ⟨⟨source, call.input, sub, moment, within, served, ⟨reply, asked⟩, principal, shown, key,
    permits⟩, past, young⟩

variable (run)

/-- A request goes on only if AVP has allowed the same to the same user lately: less than the life
of a cache entry and the time that AVP takes for an answer ago. So once AVP allows it no more,
requests go on for less than that time. -/
theorem revocation_takes_effect {latency : Nat} (prompt : ∀ name, (run.log name).Prompt latency)
    {thread : Thread} (passes : run.Passes thread) :
    ∃ step ∈ run.history, step.thread = thread ∧ ∃ input decision sub,
      step.event = ⟨.authorize input, .ok decision⟩ ∧
      input.principal = "ServicePrincipal::" ++ sub ∧ run.Shows thread sub ∧
      (∃ permission : run.Permission (run.service thread) input,
        permission.moment ≤ step.time ∧ step.time < permission.moment + latency + 30000 ∧
        (':' ∉ sub.toList → ':' ∉ permission.sub.toList → permission.sub = sub)) ∧
      ∀ since, run.Revoked (run.service thread) input since →
        step.time + 1 < since + latency + 30000 := by
  obtain ⟨accessToken, validated, chain, decision, admission⟩ := run.admission_of_passes passes
  obtain ⟨requestId, decided⟩ := admission.decided
  obtain ⟨step, member, rfl, event⟩ := History.mem_trace.mp decided
  obtain ⟨sub, principal, shown⟩ := shows_of_asked member event
  obtain ⟨permission, past, young⟩ := exists_permission prompt member event admission.allowed
  refine ⟨step, member, rfl, _, decision, sub, event, principal, shown,
    ⟨permission, past, young, ?_⟩, ?_⟩
  · intro plain plain'
    exact sub_eq_of_cacheKey permission.principal principal plain' plain permission.key
  · intro since revoked
    have earlier : permission.moment < since := by
      by_contra late
      exact revoked _ _ permission.key (Nat.not_lt.mp late) permission.allowed
    omega

end PolicedRun

section PolicedHandshake

/-! AVP allows the request that goes on with its nonce, and would not allow it later. -/

def lendingInput : AuthorizeInput where
  principal := "ServicePrincipal::user-alice"
  action := "Action::POST__loans"
  resource := "lending::/loans"
  token := "loan-token"
  context := some [("dpop_confirmed", .bool true), ("scopes", strings ["lending/write"]),
    ("source_domain", .str "receiving"), ("correlation_id", .str "request-1"),
    ("user", .obj [("sub", .str "user-alice"), ("roles", strings ["loan-officer"]),
      ("groups", strings ["retail-banking"])]),
    ("actor_chain", strings ["calling-service"])]

def lendingDecision : AuthorizationResult := { decision := .allow, reasons := [], mode := .api }

def isAsking : Event → Bool
  | ⟨.authorize _, _⟩ => true
  | _ => false

theorem handshake_asks (thread : Bool) : (handshakeChecks thread).filter isAsking =
    if thread then [⟨.authorize lendingInput, .ok lendingDecision⟩] else [] := by
  cases thread <;> decide +kernel

/-- Who asks in the handshake, and what. -/
theorem handshake_asked {step : Step runtime Bool} (member : step ∈ handshakeHistory)
    {input : AuthorizeInput} {reply : Except Fault AuthorizationResult}
    (event : step.event = ⟨.authorize input, reply⟩) :
    step.time = 1700000000000 ∧ input = lendingInput ∧ reply = .ok lendingDecision := by
  have asks (thread : Bool) (inside : (⟨.authorize input, reply⟩ : Event) ∈
      handshakeChecks thread) : input = lendingInput ∧ reply = .ok lendingDecision := by
    have kept : (⟨.authorize input, reply⟩ : Event) ∈ (handshakeChecks thread).filter isAsking :=
      List.mem_filter.mpr ⟨inside, rfl⟩
    rw [handshake_asks] at kept
    cases thread with
    | false => cases kept
    | true =>
        cases List.mem_singleton.mp kept
        exact ⟨rfl, rfl⟩
  rcases List.mem_append.mp member with first | second
  · obtain ⟨_, inside, rfl⟩ := List.mem_map.mp first
    cases event
    exact ⟨rfl, asks false inside⟩
  · obtain ⟨_, inside, rfl⟩ := List.mem_map.mp second
    cases event
    exact ⟨rfl, asks true inside⟩

def lendingAvp : Nat → AvpRequest → Except Fault AvpResponse := permittedUntil 1700000000001

def lendingCall : Memo.Call AuthorizeInput := ⟨1700000000000, lendingInput⟩

/-- What `authorize` does at the two services. -/
def handshakeTurns : LendingService → List (Turn AuthorizeInput AuthorizationResult Fault)
  | .receiving => [.began lendingCall,
      .ended lendingCall lendingCall.now lendingCall.now (.ok lendingDecision)]
  | .ledger => []

theorem handshakeTurns_ended {name : LendingService} {call : Memo.Call AuthorizeInput}
    {moment now : Nat} {result : Except Fault AuthorizationResult}
    (member : .ended call moment now result ∈ handshakeTurns name) :
    name = .receiving ∧ call = lendingCall ∧ now = lendingCall.now := by
  cases name with
  | receiving =>
      simp only [handshakeTurns, List.mem_cons, reduceCtorEq, List.not_mem_nil, or_false, false_or,
        Turn.ended.injEq] at member
      obtain ⟨rfl, _, rfl, _⟩ := member
      exact ⟨rfl, rfl, rfl⟩
  | ledger => cases member

def handshakeLog (name : LendingService) :
    DecisionLog (serviceAuthorizer "lending-policies" lendingAvp) :=
  match name with
  | .receiving => {
      turns := handshakeTurns .receiving
      last := _
      evolves := by
        have computed : policyDecision (serviceAuthorizer "lending-policies" lendingAvp)
            lendingCall.now lendingInput = .ok lendingDecision := rfl
        exact .cons (.began rfl) (.cons (.answered (List.Perm.refl _) (Nat.le_refl _)
          (Nat.le_refl _) computed) (.nil _))
      ordered := by simp [handshakeTurns, Turn.time] }
  | .ledger => {
      turns := handshakeTurns .ledger
      last := Memo.Shared.empty
      evolves := .nil _
      ordered := List.Pairwise.nil }

theorem handshakeLog_turns (name : LendingService) :
    (handshakeLog name).turns = handshakeTurns name := by
  cases name <;> rfl

def policedHandshake : PolicedRun filingTable.platform lendingConfig Bool where
  toAdmissionRun := handshakeAdmissions
  policyStoreId _ := "lending-policies"
  avpClient := lendingAvp
  log := handshakeLog
  answered step member input reply event := by
    obtain ⟨time, rfl, rfl⟩ := handshake_asked member event
    have served : handshakeAdmissions.service step.thread = .receiving := rfl
    refine ⟨.ended lendingCall lendingCall.now lendingCall.now (.ok lendingDecision), ?_,
      time.symm, .ok (.computed lendingDecision), ⟨rfl, rfl⟩, rfl⟩
    rw [served, handshakeLog_turns]
    exact List.mem_cons_of_mem _ List.mem_cons_self
  asked name call moment now result member := by
    rw [handshakeLog_turns] at member
    obtain ⟨rfl, rfl, rfl⟩ := handshakeTurns_ended member
    have asked : (⟨.authorize lendingInput, .ok lendingDecision⟩ : Event) ∈
        handshakeChecks true := by decide +kernel
    exact ⟨⟨true, 1700000000000, _⟩, List.mem_append_right _ (List.mem_map.mpr ⟨_, asked, rfl⟩),
      rfl, rfl, _, rfl⟩

/-- The request goes on before the permission has been taken back for half a minute. -/
theorem handshake_in_time : ∃ step ∈ policedHandshake.history, step.thread = true ∧
    step.time + 1 < 1700000000001 + 0 + 30000 := by
  have prompt (name : LendingService) : (policedHandshake.log name).Prompt 0 := by
    intro call moment now result member
    change .ended call moment now result ∈ (handshakeLog name).turns at member
    rw [handshakeLog_turns] at member
    obtain ⟨_, rfl, rfl⟩ := handshakeTurns_ended member
    exact Nat.le_refl _
  have passes : policedHandshake.Passes true := by
    have member : (⟨.next, ()⟩ : Event) ∈ handshakeHistory.trace true := by decide +kernel
    exact member
  obtain ⟨step, member, own, input, _, _, _, _, _, _, revocation⟩ :=
    policedHandshake.revocation_takes_effect prompt passes
  refine ⟨step, member, own, revocation 1700000000001 ?_⟩
  intro asked moment _ late
  exact not_avpAllows_since late

end PolicedHandshake

end S2s
