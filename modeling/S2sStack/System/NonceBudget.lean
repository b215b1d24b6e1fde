import S2sStack.Dpop.SingleUse
import S2sStack.System.SingleEntry
import Mathlib.Data.List.Perm.Subperm

set_option autoImplicit false

/- The two services over one Redis, whatever is interleaved: each request that goes on has consumed
a nonce of its own, so they never let more requests through than they have drawn nonces. -/
namespace S2s

open Effect Effect.Program

/-- The services that ask for nonces. -/
inductive LendingService where
  | receiving
  | ledger
  deriving DecidableEq

namespace LendingService

def noncePrefix : LendingService → String
  | receiving => "dpop-nonce:"
  | ledger => "ledger-dpop-nonce:"

def deps (config : LendingService → BrokerServiceConfig) (service : LendingService) :
    BrokerAuthDeps :=
  match service with
  | receiving => serviceDeps receiving.noncePrefix "receiving" (config receiving)
  | ledger => serviceDeps ledger.noncePrefix "ledger" (config ledger)

/-- `buildBrokerAuthMiddleware` of the service. -/
def handle (P : Platform) (config : LendingService → BrokerServiceConfig) :
    LendingService → Request → Act Unit
  | receiving => receivingBrokerAuth P (config receiving)
  | ledger => ledgerBrokerAuth P (config ledger)

theorem handle_eq (P : Platform) (config : LendingService → BrokerServiceConfig)
    (service : LendingService) (req : Request) :
    handle P config service req = brokerAuth P (service.deps config) req := by
  cases service <;> rfl

/-- Both services keep their nonces apart from the replay records. -/
def nonces (config : LendingService → BrokerServiceConfig) (service : LendingService) :
    NonceProtected where
  deps := (service.deps config).verifyDPoP
  store := createNonceStore service.noncePrefix
  hasStore := by cases service <;> rfl
  required := by cases service <;> rfl
  separate nonce jti := by
    cases service
    · exact append_ne "dpop-nonce:" "dpop:jti:" (by decide) (by decide) nonce jti.toText
    · exact append_ne "ledger-dpop-nonce:" "dpop:jti:" (by decide) (by decide) nonce jti.toText

variable {config : LendingService → BrokerServiceConfig}

/-- Where the service keeps a nonce. -/
def nonceKey (service : LendingService) (nonce : String) : String :=
  (createNonceStore service.noncePrefix).key nonce

/-- The services keep their nonces apart from each other's. -/
theorem nonceKey_ne {one other : LendingService} (different : one ≠ other)
    (nonce nonce' : String) : one.nonceKey nonce ≠ other.nonceKey nonce' := by
  have apart := append_ne "dpop-nonce:" "ledger-dpop-nonce:" (by decide) (by decide)
  cases one <;> cases other
  · exact absurd rfl different
  · exact apart nonce nonce'
  · exact (apart nonce' nonce).symm
  · exact absurd rfl different

theorem jtiKey_eq (one other : LendingService) (jti : Js.Json) :
    (one.nonces config).deps.jtiKey jti = (other.nonces config).deps.jtiKey jti := by
  cases one <;> cases other <;> rfl

end LendingService

section Lifting

/-- Operations that send nothing to Redis. -/
def isStorelessOp : Op → Prop
  | .redisSet _ _ | .redisDel _ => False
  | _ => True

/-- Every trace of the middleware is of a kind that its verification is of, if that is closed and
says nothing about traces that leave Redis alone. -/
theorem traces_brokerAuth {kind : List Event → Prop} {P : Platform} {deps : BrokerAuthDeps}
    (closed : ∀ before after, kind before → kind after → kind (before ++ after))
    (storeless : ∀ trace, (∀ event ∈ trace, isStorelessOp event.op) → kind trace)
    (verification : ∀ input, Traces kind (verifyDPoP P deps.verifyDPoP input)) (req : Request) :
    Traces kind (brokerAuth P deps req) := by
  have empty : kind [] := storeless [] (by simp)
  have outside {α : Type} {program : Act α} (within : Within isStorelessOp program) :
      Traces kind program := fun trace outcome run => storeless trace (within trace outcome run)
  have answers (err : AuthError) (requestId : String) : Traces kind (sendError err requestId) :=
    outside ((within_sendError err requestId).mono fun op response => by cases op <;> trivial)
  have evaluation (requestId accessToken : String) :
      Traces kind (evaluateToken P deps req requestId accessToken) := by
    refine Traces.bind closed (outside ?_) fun validated => ?_
    · exact (within_validateToken P _ accessToken _).mono fun op validation => by
        cases op <;> trivial
    refine Traces.bind closed ?_ fun _ => Traces.ofExcept_bind empty fun chain _ => ?_
    · unfold checkServiceProof
      split
      · exact Traces.done _ empty
      · exact Traces.bind closed (verification _) fun _ => Traces.done _ empty
    · exact outside (Within.bind (Within.command trivial) fun _ => Within.done _)
  refine Traces.bind closed (outside (within_requestIdOf trivial req)) fun requestId => ?_
  refine Traces.bind closed (Traces.attempt ?_) fun result => ?_
  · exact Traces.ofExcept_bind empty fun accessToken _ => evaluation requestId accessToken
  · cases result with
    | error err => exact answers _ requestId
    | ok decided =>
        obtain ⟨auth, decision⟩ := decided
        dsimp only
        split
        · exact answers _ requestId
        · exact outside (Within.bind (Within.command trivial) fun _ => Within.command trivial)

end Lifting

section Balance

variable {nonces : NonceProtected} {nonce : String}

theorem Balanced.append {before after : List Event} (first : Balanced nonces nonce before)
    (second : Balanced nonces nonce after) : Balanced nonces nonce (before ++ after) := by
  intro part within
  rcases List.prefix_or_prefix_of_prefix within (List.prefix_append before after) with
    inside | ⟨rest, rfl⟩
  · exact first part inside
  · have bound := second rest ((List.prefix_append_right_inj before).mp within)
    have start := first before (List.prefix_refl before)
    rw [List.countP_append, List.countP_append]
    exact Nat.add_le_add start bound

/-- A trace that never writes the key of the nonce. -/
theorem balanced_of_unwritten {trace : List Event}
    (unwritten : ∀ event ∈ trace, writesKey (nonces.store.key nonce) event = false) :
    Balanced nonces nonce trace := by
  intro part within
  have none : part.countP (writesKey (nonces.store.key nonce)) = 0 := by
    apply List.countP_eq_zero.mpr
    intro event member
    simp [unwritten event (within.subset member)]
  rw [none]
  exact Nat.zero_le _

theorem unwritten_of_storeless {trace : List Event} {key : String}
    (storeless : ∀ event ∈ trace, isStorelessOp event.op) :
    ∀ event ∈ trace, writesKey key event = false := by
  intro event member
  have leaves := storeless event member
  obtain ⟨op, reply⟩ := event
  cases op <;> first | rfl | exact absurd leaves not_false

variable {P : Platform} {config : LendingService → BrokerServiceConfig}

theorem LendingService.handle_balanced (service : LendingService) (req : Request) :
    Traces (Balanced (service.nonces config) nonce) (service.handle P config req) := by
  rw [LendingService.handle_eq]
  refine traces_brokerAuth (fun _ _ => Balanced.append) ?_ ?_ req
  · intro trace storeless
    exact balanced_of_unwritten (unwritten_of_storeless storeless)
  · intro input trace outcome run
    have shaped : Shaped (service.nonces config) trace :=
      traces_verifyDPoP P input trace outcome run
    exact balanced_of_shaped shaped nonce

/-- A service never writes a nonce of the other one. -/
theorem LendingService.handle_elsewhere {one other : LendingService} (different : one ≠ other)
    (nonce : String) (req : Request) :
    Traces (fun trace => ∀ event ∈ trace, writesKey (other.nonceKey nonce) event = false)
      (one.handle P config req) := by
  rw [LendingService.handle_eq]
  refine traces_brokerAuth ?_ (fun _ => unwritten_of_storeless) ?_ req
  · intro before after first second event member
    exact (List.mem_append.mp member).elim (first event) (second event)
  · intro input trace outcome run event member
    have shaped : Shaped (one.nonces config) trace := traces_verifyDPoP P input trace outcome run
    obtain ⟨quiet, tail, rfl, silent, ending⟩ := shaped
    rcases List.mem_append.mp member with early | late
    · exact writesKey_of_quiet (silent event early) _
    · rcases ending with rfl | ⟨drawn, reply, rfl⟩ | ⟨jti, reply, rfl⟩
      · cases late
      · have apart := LendingService.nonceKey_ne different drawn nonce
        rcases List.mem_pair.mp late with rfl | rfl
        · rfl
        · exact decide_eq_false apart
      · have apart := (other.nonces config).separate nonce jti
        rw [LendingService.jtiKey_eq other one] at apart
        cases List.mem_singleton.mp late
        exact decide_eq_false (Ne.symm apart)

/-- A verification that succeeds removes the nonce of its proof. -/
theorem LendingService.removes_nonce (service : LendingService) (agrees : P.PayloadAgrees)
    {input : VerifyDPoPInput} {trace : List Event} {result : DPoPVerificationResult}
    (run : Runs (verifyDPoP P (service.deps config).verifyDPoP input) trace (.ok result)) :
    ∃ claims value, P.decodeJwt input.dpopProof = .ok claims ∧ claims.get? "nonce" = some value ∧
      ⟨.redisDel (service.nonceKey value.toText), .ok 1⟩ ∈ trace := by
  obtain ⟨jwk, key, currentDate, payload, nowMs, jti, thumbprint, consuming, accepted, consume,
    shape, _⟩ := verifyDPoP_ok run
  have decoded := agrees _ _ _ _ accepted.signature
  rcases consumeNonce_ok consume with ⟨off, _⟩ | ⟨_, store, nonce, present, carried, rfl⟩
  · cases ((service.nonces config).required).symm.trans off
  · cases ((service.nonces config).hasStore).symm.trans present
    refine ⟨payload.claims, nonce, decoded, carried, ?_⟩
    rw [shape]
    exact List.mem_cons_of_mem _ (List.mem_cons_of_mem _ List.mem_cons_self)

end Balance

/-- Requests to the two services, each of them finished or in progress, over one Redis that was
empty. No nonce is drawn twice. -/
structure AdmissionRun (P : Platform) (config : LendingService → BrokerServiceConfig)
    (Thread : Type) [DecidableEq Thread] where
  history : History runtime Thread
  service : Thread → LendingService
  request : Thread → Request
  running : ∀ thread,
    ((service thread).handle P config (request thread)).Performs (history.trace thread)
  redis : RedisServes history
  fresh : ∀ nonce, history.countP (fun step => drawsNonce nonce step.event) ≤ 1

/-- The nonce that is drawn here. -/
def drawnNonce : Event → Option String
  | ⟨.generateDPoPNonce, nonce⟩ => some nonce
  | _ => none

theorem drawnNonce_of_draws {nonce : String} {event : Event}
    (draws : drawsNonce nonce event = true) : drawnNonce event = some nonce := by
  obtain ⟨op, reply⟩ := event
  cases op <;> first | exact congrArg some (of_decide_eq_true draws) | cases draws

namespace AdmissionRun

variable {P : Platform} {config : LendingService → BrokerServiceConfig} {Thread : Type}
  [DecidableEq Thread] (run : AdmissionRun P config Thread)

/-- The run at an earlier moment. -/
def upTo {before after : History runtime Thread} (split : run.history = before ++ after) :
    AdmissionRun P config Thread where
  history := before
  service := run.service
  request := run.request
  running thread := by
    have running := run.running thread
    rw [split] at running
    exact History.performs_prefix running
  redis := by
    obtain ⟨final, served⟩ := run.redis
    rw [split, redisCommands_append, ExpiringStore.serves_append_iff] at served
    obtain ⟨middle, first, _⟩ := served
    exact ⟨middle, first⟩
  fresh nonce := by
    have few := run.fresh nonce
    rw [split, List.countP_append] at few
    omega

/-- The request goes on to its handler. -/
def Passes (thread : Thread) : Prop := ⟨.next, ()⟩ ∈ run.history.trace thread

/-- A request to this service was challenged with the nonce: it was drawn and stored for it. -/
def Challenged (history : History runtime Thread) (service : LendingService) (nonce : String) :
    Prop :=
  ∃ drawn ∈ history, ∃ stored ∈ history, drawn.thread = stored.thread ∧
    run.service stored.thread = service ∧ drawsNonce nonce drawn.event = true ∧
    writesKey (service.nonceKey nonce) stored.event = true

/-- The request removed the nonce that its proof carries, after its own service had challenged a
request with it. -/
def Consumes (thread : Thread) (nonce : String) : Prop :=
  (∃ claims value, P.decodeJwt ((run.request thread).headerOrEmpty "dpop") = .ok claims ∧
    claims.get? "nonce" = some value ∧ value.toText = nonce) ∧
  ∃ before step after, run.history = before ++ step :: after ∧ step.thread = thread ∧
    removesKey ((run.service thread).nonceKey nonce) step.event = true ∧
    run.Challenged before (run.service thread) nonce

theorem steps_balanced (service : LendingService) (nonce : String) (thread : Thread) :
    (run.history.steps thread).countP (fun step => writesKey (service.nonceKey nonce) step.event) ≤
      (run.history.steps thread).countP (fun step => drawsNonce nonce step.event) := by
  obtain ⟨rest, result, whole⟩ := run.running thread
  have balanced : Balanced (service.nonces config) nonce (run.history.trace thread ++ rest) := by
    by_cases own : run.service thread = service
    · subst own
      exact LendingService.handle_balanced _ _ _ _ whole
    · exact balanced_of_unwritten (LendingService.handle_elsewhere own nonce _ _ _ whole)
  have bound := balanced (run.history.trace thread) (List.prefix_append _ rest)
  rwa [History.trace, List.countP_map, List.countP_map] at bound

theorem removals_le_one (service : LendingService) (nonce : String) :
    run.history.countP (fun step => removesKey (service.nonceKey nonce) step.event) ≤ 1 := by
  have removed := removals_le_writes run.redis (service.nonceKey nonce)
  have written := History.countP_le_of_steps run.history _ _ (run.steps_balanced service nonce)
  exact Nat.le_trans removed (Nat.le_trans written (run.fresh nonce))

/-- What is removed has been issued by its service. -/
theorem challenged_of_removed {service : LendingService} {nonce : String}
    (removed : 0 < run.history.countP
      (fun step => removesKey (service.nonceKey nonce) step.event)) :
    run.Challenged run.history service nonce := by
  have written := removals_le_writes run.redis (service.nonceKey nonce)
  obtain ⟨stored, member, writes⟩ := List.countP_pos_iff.mp (Nat.lt_of_lt_of_le removed written)
  -- the request that wrote it had drawn it
  have own : 0 < (run.history.steps stored.thread).countP
      (fun step => writesKey (service.nonceKey nonce) step.event) :=
    List.countP_pos_iff.mpr ⟨stored, History.mem_steps.mpr ⟨member, rfl⟩, writes⟩
  have balanced := run.steps_balanced service nonce stored.thread
  obtain ⟨drawn, inside, draws⟩ := List.countP_pos_iff.mp (Nat.lt_of_lt_of_le own balanced)
  obtain ⟨earlier, same⟩ := History.mem_steps.mp inside
  refine ⟨drawn, earlier, stored, member, same, ?_, draws, writes⟩
  by_contra different
  obtain ⟨rest, result, whole⟩ := run.running stored.thread
  have unwritten := LendingService.handle_elsewhere different nonce _ _ _ whole stored.event
    (List.mem_append_left rest (History.mem_trace_of_mem member))
  rw [unwritten] at writes
  cases writes

theorem challenged_before {before after : History runtime Thread} {step : Step runtime Thread}
    {service : LendingService} {nonce : String} (split : run.history = before ++ step :: after)
    (removes : removesKey (service.nonceKey nonce) step.event = true) :
    run.Challenged before service nonce := by
  have until_now : run.history = (before ++ [step]) ++ after := by simp [split]
  have removed : 0 < (before ++ [step]).countP
      (fun step => removesKey (service.nonceKey nonce) step.event) :=
    List.countP_pos_iff.mpr ⟨step, by simp, removes⟩
  obtain ⟨drawn, inDrawn, stored, inStored, same, served, draws, writes⟩ :=
    (run.upTo until_now).challenged_of_removed removed
  -- the step itself neither draws nor stores
  have earlier {other : Step runtime Thread} (member : other ∈ before ++ [step])
      (different : removesKey (service.nonceKey nonce) other.event = false) : other ∈ before := by
    rcases List.mem_append.mp member with inside | last
    · exact inside
    · cases List.mem_singleton.mp last
      rw [removes] at different
      cases different
  refine ⟨drawn, earlier inDrawn ?_, stored, earlier inStored ?_, same, served, draws, writes⟩
  · obtain ⟨thread, time, op, reply⟩ := drawn
    cases op <;> first | rfl | cases draws
  · obtain ⟨thread, time, op, reply⟩ := stored
    cases op <;> first | rfl | cases writes

/-- A request that goes on has performed all its checks. -/
theorem admission_of_passes {thread : Thread} (passes : run.Passes thread) :
    ∃ accessToken validated chain decision, ServiceAdmission P ((run.service thread).deps config)
      (run.request thread) accessToken validated chain decision (run.history.trace thread) := by
  obtain ⟨rest, result, whole⟩ := run.running thread
  rw [LendingService.handle_eq] at whole
  obtain ⟨accessToken, validated, chain, decision, checks, admission, only, shape⟩ :=
    (brokerAuth_run whole).2.of_next (List.mem_append_left rest passes)
  have unchecked : (⟨.next, ()⟩ : Event) ∉
      checks ++ [⟨.setAuth (serviceAuth accessToken validated chain decision), ()⟩] := by
    intro member
    rcases List.mem_append.mp member with early | late
    · rcases only _ early with evaluation | drawn
      · exact evaluation
      · cases drawn
    · simp at late
  have performed := History.before_first_subset passes unchecked (by simpa using shape)
  refine ⟨accessToken, validated, chain, decision, admission.mono ?_⟩
  exact fun _ member => performed (List.mem_append_left _ member)

/-- A request that goes on has consumed a nonce. -/
theorem consumes_of_passes (agrees : P.PayloadAgrees) {thread : Thread}
    (passes : run.Passes thread) : ∃ nonce, run.Consumes thread nonce := by
  obtain ⟨accessToken, validated, chain, decision, admission⟩ := run.admission_of_passes passes
  obtain ⟨part, proved, inside, verified⟩ := admission.proof
  obtain ⟨claims, value, decoded, carried, removed⟩ :=
    (run.service thread).removes_nonce agrees verified
  have performed : (⟨.redisDel ((run.service thread).nonceKey value.toText), .ok 1⟩ : Event) ∈
      run.history.trace thread := inside removed
  obtain ⟨step, member, own, event⟩ := History.mem_trace.mp performed
  obtain ⟨before, after, split⟩ := List.append_of_mem member
  have removes : removesKey ((run.service thread).nonceKey value.toText) step.event = true := by
    rw [event]
    simp [removesKey]
  exact ⟨value.toText, ⟨claims, value, decoded, carried, rfl⟩, before, step, after, split, own,
    removes, run.challenged_before split removes⟩

/-- Two requests never consume one nonce, not even at different services. -/
theorem consumed_once {first second : Thread} {nonce : String} (one : run.Consumes first nonce)
    (two : run.Consumes second nonce) : first = second := by
  by_contra different
  obtain ⟨_, before, step, after, split, own, removes, challenged⟩ := one
  obtain ⟨_, before', step', after', split', own', removes', challenged'⟩ := two
  have inFirst : step ∈ run.history := by simp [split]
  have inSecond : step' ∈ run.history := by simp [split']
  by_cases served : run.service first = run.service second
  · have once := run.removals_le_one (run.service second) nonce
    have both := History.countP_two_threads run.history
      (fun step => removesKey ((run.service second).nonceKey nonce) step.event) different
    have here : 0 < (run.history.steps first).countP
        (fun step => removesKey ((run.service second).nonceKey nonce) step.event) := by
      rw [served] at removes
      exact List.countP_pos_iff.mpr ⟨step, History.mem_steps.mpr ⟨inFirst, own⟩, removes⟩
    have there : 0 < (run.history.steps second).countP
        (fun step => removesKey ((run.service second).nonceKey nonce) step.event) :=
      List.countP_pos_iff.mpr ⟨step', History.mem_steps.mpr ⟨inSecond, own'⟩, removes'⟩
    omega
  · -- each service has drawn it for a request of its own
    obtain ⟨drawn, inDrawn, stored, _, same, mine, draws, _⟩ := challenged
    obtain ⟨drawn', inDrawn', stored', _, same', yours, draws', _⟩ := challenged'
    have apart : drawn.thread ≠ drawn'.thread := by
      intro equal
      rw [same, same'] at equal
      exact served (by rw [← mine, ← yours, equal])
    have once := run.fresh nonce
    have both := History.countP_two_threads run.history
      (fun step => drawsNonce nonce step.event) apart
    have here : 0 < (run.history.steps drawn.thread).countP
        (fun step => drawsNonce nonce step.event) :=
      List.countP_pos_iff.mpr ⟨drawn, History.mem_steps.mpr ⟨by simp [split, inDrawn], rfl⟩, draws⟩
    have there : 0 < (run.history.steps drawn'.thread).countP
        (fun step => drawsNonce nonce step.event) :=
      List.countP_pos_iff.mpr
        ⟨drawn', History.mem_steps.mpr ⟨by simp [split', inDrawn'], rfl⟩, draws'⟩
    omega

/-- The nonces drawn so far. -/
def drawn (history : History runtime Thread) : List String :=
  history.filterMap fun step => drawnNonce step.event

theorem Consumes.drawn {nonce : String} {thread : Thread} (consumes : run.Consumes thread nonce) :
    nonce ∈ drawn run.history := by
  obtain ⟨_, before, step, after, split, _, _, drawn, member, _, _, _, _, draws, _⟩ := consumes
  apply List.mem_filterMap.mpr
  exact ⟨drawn, by simp [split, member], drawnNonce_of_draws draws⟩

theorem passes_le_drawn (agrees : P.PayloadAgrees) {threads : List Thread}
    (different : threads.Nodup) (passed : ∀ thread ∈ threads, run.Passes thread) :
    threads.length ≤ (drawn run.history).length := by
  choose! nonceOf consumes using fun thread (passes : run.Passes thread) =>
    run.consumes_of_passes agrees passes
  have distinct : (threads.map nonceOf).Nodup := by
    refine List.Nodup.map_on (fun first inFirst second inSecond same => ?_) different
    have one := consumes first (passed first inFirst)
    have two := consumes second (passed second inSecond)
    rw [same] at one
    exact run.consumed_once one two
  have issued : threads.map nonceOf ⊆ drawn run.history := by
    intro nonce member
    obtain ⟨thread, inside, rfl⟩ := List.mem_map.mp member
    exact (consumes thread (passed thread inside)).drawn
  have fewer := (List.subperm_of_subset distinct issued).length_le
  rwa [List.length_map] at fewer

/-- A request goes on only with a nonce of its own, which its service had issued before. So at no
moment have the services let more requests through than they have drawn nonces. -/
theorem nonce_for_each_pass (agrees : P.PayloadAgrees) :
    (∀ thread, run.Passes thread → ∃ nonce, run.Consumes thread nonce) ∧
    (∀ first second nonce, run.Consumes first nonce → run.Consumes second nonce →
      first = second) ∧
    ∀ before after, run.history = before ++ after → ∀ threads : List Thread, threads.Nodup →
      (∀ thread ∈ threads, ⟨.next, ()⟩ ∈ History.trace before thread) →
      threads.length ≤ (drawn before).length := by
  refine ⟨fun thread => run.consumes_of_passes agrees, ?_, ?_⟩
  · intro first second nonce
    exact run.consumed_once
  · intro before after split threads different passed
    exact (run.upTo split).passes_le_drawn agrees different passed

end AdmissionRun

section Handshake

/-! One client is asked for a nonce, and goes on with it. -/

def lendingConfig : LendingService → BrokerServiceConfig
  | .receiving => lendingService
  | .ledger => ledgerService

def handshakeProof (thread : Bool) : String :=
  if thread then "sync-proof-15" else "sync-proof-10"

def handshakeChecks (thread : Bool) : List Event :=
  loanChecks (handshakeProof thread)

def handshakeHistory : History runtime Bool :=
  (handshakeChecks false).map (Step.mk false 1700000000000) ++
    (handshakeChecks true).map (Step.mk true 1700000000000)

deriving instance DecidableEq for ExpiringStore.Command

theorem handshakeHistory_commands : redisCommands handshakeHistory =
    [(1700000000000, .set "dpop-nonce:nonce-1" 300000 (some true)),
      (1700000000000, .del "dpop-nonce:nonce-1" (some 1)),
      (1700000000000, .set "dpop:jti:sync-id-12" 120000 (some true))] := by
  decide +kernel

def handshakeAdmissions : AdmissionRun filingTable.platform lendingConfig Bool where
  history := handshakeHistory
  service _ := .receiving
  request thread := loanReceived (handshakeProof thread)
  running thread := by
    have run := (serverServices "nonce-1").runs (receivingBrokerAuth filingTable.platform
      lendingService (loanReceived (handshakeProof thread)))
    have own : handshakeHistory.trace thread = handshakeChecks thread := by
      rw [handshakeHistory, History.trace_append, History.trace_of_thread, History.trace_of_thread]
      cases thread <;> simp
    rw [own]
    exact run.performs
  redis := by
    rw [RedisServes, handshakeHistory_commands]
    refine ⟨_, .cons (.stored ?_ (by decide)) (.cons (.removed ?_ (.inl rfl))
      (.cons (.stored ?_ (by decide)) (.nil _)))⟩
    · rintro ⟨_, impossible, _⟩
      cases impossible
    · exact ⟨1700000300000, by decide, by decide⟩
    · rintro ⟨_, impossible, _⟩
      simp [ExpiringStore.State.empty, Function.update] at impossible
  fresh nonce := by
    have drawings : handshakeHistory.countP
        (fun step => decide (step.event.op = .generateDPoPNonce)) = 1 := by
      decide +kernel
    rw [← drawings]
    refine List.countP_mono_left fun step _ draws => ?_
    obtain ⟨thread, time, op, reply⟩ := step
    cases op <;> first | rfl | cases draws

/-- The second request went on with the nonce that was drawn for the first. -/
theorem handshakeAdmissions_paid :
    (∃ nonce, handshakeAdmissions.Consumes true nonce) ∧
      [true].length ≤ (AdmissionRun.drawn handshakeHistory).length := by
  obtain ⟨consumes, _, paid⟩ :=
    handshakeAdmissions.nonce_for_each_pass filingTable.platform_agrees
  have passes : handshakeAdmissions.Passes true := by
    have member : (⟨.next, ()⟩ : Event) ∈ handshakeHistory.trace true := by decide +kernel
    exact member
  refine ⟨consumes true passes, paid handshakeHistory [] (by simp; rfl) [true] (by simp) ?_⟩
  intro thread member
  cases List.mem_singleton.mp member
  exact passes

end Handshake

end S2s
