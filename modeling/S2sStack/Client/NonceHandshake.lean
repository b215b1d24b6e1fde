import S2sStack.Client.NonceRetry
import S2sStack.Dpop.SharedVerifiers

set_option autoImplicit false

/- The nonce handshake of a client with verifiers that share one Redis: the proof that echoes a
nonce meets it there, whatever other clients do in between. -/
namespace S2s

open Effect Effect.Program
open Js (Json Obj)

/-- The claims and the text of a proof. -/
def signedProofOf : ClientEvent → Option (Obj × String)
  | ⟨.signJwt _ claims _, .ok proof⟩ => some (claims, proof)
  | _ => none

/-- The proofs that a client signs, the one for the exchange first. -/
def signedProofs (trace : List ClientEvent) : List (Obj × String) := trace.filterMap signedProofOf

@[simp] theorem signedProofs_append (first second : List ClientEvent) :
    signedProofs (first ++ second) = signedProofs first ++ signedProofs second := by
  simp [signedProofs]

theorem signedProofs_cons (event : ClientEvent) (rest : List ClientEvent) :
    signedProofs (event :: rest) = (signedProofOf event).toList ++ signedProofs rest := by
  simp only [signedProofs, List.filterMap_cons]
  cases signedProofOf event <;> rfl

theorem signedProofs_fetch (request : OutboundRequest) (reply : Except LibraryError HttpResponse) :
    signedProofs [⟨.fetch request, reply⟩] = [] := rfl

/-- At most one proof, with this nonce. -/
def SignsOnce (nonce : Option String) (proofs : List (Obj × String)) : Prop :=
  proofs = [] ∨ ∃ claims proof, proofs = [(claims, proof)] ∧
    claims.get? "nonce" = nonce.map Json.str

section Proofs

variable {P : Platform} {L : ClientLibrary} {trace : List ClientEvent}

theorem nonce_of_claims {options : SignDPoPOptions} {ath : Obj} {jti : String} {nowMs : Millis}
    (hashed : athClaim P options.accessToken = .ok ath) :
    (dpopClaims options jti ath nowMs).get? "nonce" = options.nonce.map Json.str := by
  obtain rfl | ⟨hash, rfl⟩ := athClaim_ok hashed
  · cases given : options.nonce <;> simp [dpopClaims, nonceClaim, Obj.get?, given]
  · cases given : options.nonce <;> simp [dpopClaims, nonceClaim, Obj.get?, given]

theorem SigningRun.proofs {options : SignDPoPOptions} {outcome : Except Fault DPoPProof}
    (run : SigningRun P options trace outcome) :
    responses trace = [] ∧ SignsOnce options.nonce (signedProofs trace) := by
  cases run with
  | unhashed jti fault hashed => exact ⟨rfl, .inl rfl⟩
  | keyless jti ath err hashed => exact ⟨rfl, .inl rfl⟩
  | signed jti ath key nowMs reply hashed =>
      cases reply with
      | error err => exact ⟨rfl, .inl rfl⟩
      | ok text => exact ⟨rfl, .inr ⟨_, text, rfl, nonce_of_claims hashed⟩⟩

/-- The exchange of a flow, which no nonce is needed for. -/
theorem exchangeToken_proofs {opts : ExchangeTokenOptions} {input : ExchangeTokenInput}
    {outcome : Except Fault ExchangeTokenResult}
    (run : Runs (exchangeToken P L opts input) trace outcome) :
    SignsOnce none (signedProofs trace) ∧
      ∀ exchanged, outcome = .ok exchanged → ∃ reply, responses trace = [reply] := by
  cases exchangeToken_run run with
  | secretless err => exact ⟨.inl rfl, by simp⟩
  | unsigned secret signing fault signed =>
      rw [signedProofs_cons]
      exact ⟨signed.proofs.2, by simp⟩
  | unanswered secret signing dpop err fault signed =>
      rw [signedProofs_cons, signedProofs_append, signedProofs_fetch, List.append_nil]
      exact ⟨signed.proofs.2, by simp⟩
  | refused secret signing dpop response fault signed refused =>
      rw [signedProofs_cons, signedProofs_append, signedProofs_fetch, List.append_nil]
      exact ⟨signed.proofs.2, by simp⟩
  | granted secret signing dpop response accessToken nowMs signed granted =>
      obtain ⟨unanswered, once⟩ := signed.proofs
      refine ⟨?_, fun _ _ => ⟨.ok response, ?_⟩⟩
      · have unsigned : ∀ request, signedProofs
            [⟨.fetch request, .ok response⟩, ⟨.date, nowMs⟩] = [] := fun _ => rfl
        rw [signedProofs_cons, signedProofs_append, unsigned, List.append_nil]
        exact once
      · rw [responses_cons, responses_append, unanswered]
        rfl

theorem resourceAttempt_proofs {htu : String} {build : String → Except Fault OutboundRequest}
    {accessToken : Json} {nonce : Option String} {outcome : Except Fault HttpResponse}
    (run : Runs (resourceAttempt P htu build accessToken nonce) trace outcome) :
    SignsOnce nonce (signedProofs trace) ∧
      ∀ response, outcome = .ok response → responses trace = [.ok response] := by
  cases resourceAttempt_run run with
  | unsigned signing fault signed => exact ⟨signed.proofs.2, by simp⟩
  | unbuilt signing dpop fault signed unbuilt => exact ⟨signed.proofs.2, by simp⟩
  | sent signing dpop request reply signed sent =>
      obtain ⟨unanswered, once⟩ := signed.proofs
      rw [signedProofs_append, signedProofs_fetch, List.append_nil, responses_append, unanswered]
      refine ⟨once, fun response same => ?_⟩
      cases reply with
      | error err => cases same
      | ok answer =>
          cases same
          rfl

/-- The nonce of the response to the first request with the exchanged token. -/
def givenNonce (trace : List ClientEvent) : Option String :=
  match responses trace with
  | _ :: .ok response :: _ => response.dpopNonce
  | _ => none

/-- A flow signs at most three proofs, and the third one echoes the nonce it was given. -/
def EchoesOnce (trace : List ClientEvent) : Prop :=
  ∃ exchange first second, signedProofs trace = exchange ++ first ++ second ∧
    SignsOnce none exchange ∧ SignsOnce none first ∧
    (second = [] ∨ ∃ nonce, givenNonce trace = some nonce ∧ SignsOnce (some nonce) second)

theorem retryOnChallenge_proofs {asks : HttpResponse → Bool} {htu : String}
    {build : String → Except Fault OutboundRequest} {accessToken : Json}
    {outcome : Except Fault HttpResponse}
    (run : Runs (retryOnChallenge asks (resourceAttempt P htu build accessToken)) trace outcome) :
    ∃ first second, signedProofs trace = first ++ second ∧ SignsOnce none first ∧
      (second = [] ∨ ∃ response later nonce, responses trace = .ok response :: later ∧
        response.dpopNonce = some nonce ∧ SignsOnce (some nonce) second) := by
  obtain ⟨response, before, after, rfl, attempted, run⟩ | ⟨fault, attempted, -⟩ :=
    runs_bind_iff.mp run
  · obtain ⟨once, answered⟩ := resourceAttempt_proofs attempted
    refine ⟨signedProofs before, signedProofs after, signedProofs_append _ _, once, ?_⟩
    have settled : Runs (pure response : Client HttpResponse) after outcome →
        signedProofs after = [] := by
      intro run
      obtain ⟨rfl, -⟩ := runs_pure_iff.mp run
      rfl
    split at run
    · split at run
      · next nonce given =>
          refine .inr ⟨response, responses after, nonce, ?_, given, (resourceAttempt_proofs run).1⟩
          rw [responses_append, answered response rfl]
          rfl
      · exact .inl (settled run)
    · exact .inl (settled run)
  · refine ⟨signedProofs trace, [], (List.append_nil _).symm, ?_, .inl rfl⟩
    exact (resourceAttempt_proofs attempted).1

/-- An exchange, and requests with its token. -/
theorem echoesOnce_flow {opts : ExchangeTokenOptions} {input : ExchangeTokenInput} {α : Type}
    {next : ExchangeTokenResult → Client α} {outcome : Except Fault α}
    (run : Runs (exchangeToken P L opts input >>= next) trace outcome)
    (tries : ∀ exchanged after, Runs (next exchanged) after outcome →
      ∃ asks htu build response, Runs (retryOnChallenge asks
        (resourceAttempt P htu build exchanged.accessToken)) after response) :
    EchoesOnce trace := by
  obtain ⟨exchanged, before, after, rfl, exchange, run⟩ | ⟨fault, exchange, -⟩ :=
    runs_bind_iff.mp run
  · obtain ⟨once, returned⟩ := exchangeToken_proofs exchange
    obtain ⟨reply, granted⟩ := returned exchanged rfl
    obtain ⟨asks, htu, build, response, tried⟩ := tries exchanged after run
    obtain ⟨first, second, proofs, plain, echoed⟩ := retryOnChallenge_proofs tried
    refine ⟨signedProofs before, first, second, ?_, once, plain, ?_⟩
    · rw [signedProofs_append, proofs, List.append_assoc]
    · obtain none | ⟨answer, later, nonce, answers, given, echo⟩ := echoed
      · exact .inl none
      · refine .inr ⟨nonce, ?_, echo⟩
        rw [givenNonce, responses_append, granted, answers]
        exact given
  · have once := (exchangeToken_proofs exchange).1
    exact ⟨signedProofs trace, [], [], by simp, once, .inl rfl, .inl rfl⟩

/-- The flows that answer a nonce challenge. -/
inductive Follows (P : Platform) (L : ClientLibrary) (trace : List ClientEvent) : Prop
  | ledger (useLatticeVar : Option String) (config : LedgerClientConfig) (args : PostLedgerEntryArgs)
      (outcome : Except Fault Json) :
      Runs (postLedgerEntry P L useLatticeVar config args) trace outcome → Follows P L trace
  | sync (useLatticeVar : Option String) (config : SyncConfig) (req : Request)
      (subjectToken userSub : String) (outcome : Except Fault HttpResponse) :
      Runs (syncUpstream P L useLatticeVar config req subjectToken userSub) trace outcome →
      Follows P L trace

theorem Follows.echoesOnce (follows : Follows P L trace) : EchoesOnce trace := by
  cases follows with
  | ledger useLatticeVar config args outcome run =>
      unfold postLedgerEntry at run
      split at run
      · obtain ⟨rfl, -⟩ := runs_throwing_iff.mp run
        exact ⟨[], [], [], rfl, .inl rfl, .inl rfl, .inl rfl⟩
      · apply echoesOnce_flow run
        intro exchanged after run
        obtain ⟨response, tried⟩ := postLedgerEntry_tries run
        exact ⟨_, _, _, response, tried⟩
  | sync useLatticeVar config req subjectToken userSub outcome run =>
      apply echoesOnce_flow run
      intro exchanged after run
      exact ⟨_, _, _, outcome, run⟩

/-- Where a flow signs three proofs, the last one carries the nonce it was given. -/
theorem Follows.second_echoes (follows : Follows P L trace) {exchange first second : Obj × String}
    {more : List (Obj × String)}
    (signed : signedProofs trace = exchange :: first :: second :: more) :
    more = [] ∧ exchange.1.get? "nonce" = none ∧ first.1.get? "nonce" = none ∧
      ∃ nonce, givenNonce trace = some nonce ∧ second.1.get? "nonce" = some (.str nonce) := by
  obtain ⟨_, _, last, same, one, two, three⟩ := follows.echoesOnce
  rw [signed] at same
  have short : ∀ {proofs : List (Obj × String)} {nonce : Option String}, SignsOnce nonce proofs →
      proofs.length ≤ 1 := by
    rintro proofs nonce (rfl | ⟨_, _, rfl, _⟩)
    · exact Nat.zero_le 1
    · exact Nat.le_refl 1
  have counted := congrArg List.length same
  simp only [List.length_append, List.length_cons] at counted
  have oneShort := short one
  have twoShort := short two
  obtain rfl | ⟨nonce, given, echo⟩ := three
  · simp only [List.length_nil] at counted
    omega
  · have threeShort := short echo
    obtain rfl | ⟨claims, proof, rfl, unasked⟩ := one
    · simp only [List.length_nil] at counted
      omega
    obtain rfl | ⟨claims', proof', rfl, unasked'⟩ := two
    · simp only [List.length_nil, List.length_singleton] at counted
      omega
    obtain rfl | ⟨claims'', proof'', rfl, echoed⟩ := echo
    · simp only [List.length_nil, List.length_singleton] at counted
      omega
    cases same
    exact ⟨rfl, unasked, unasked', nonce, given, echoed⟩

theorem givenNonce_filled {nonce : String} (given : givenNonce trace = some nonce) :
    nonce ≠ "" := by
  unfold givenNonce at given
  split at given
  · unfold HttpResponse.dpopNonce at given
    split at given
    · split at given
      · cases given
      · next filled =>
          cases given
          exact filled
    · cases given
  · cases given

end Proofs

/-- One client of a callee behind shared verifiers: its requests are two of their calls, the
second one sent when the first one had been answered. All other calls are anybody's. -/
structure Handshake {P : Platform} {Thread : Type} [DecidableEq Thread]
    (verifiers : SharedVerifiers P Thread) (L : ClientLibrary) where
  trace : List ClientEvent
  follows : Follows P L trace
  exchangeProof : Obj × String
  firstProof : Obj × String
  secondProof : Obj × String
  more : List (Obj × String)
  signed : signedProofs trace = exchangeProof :: firstProof :: secondProof :: more
  /-- what was signed can be read -/
  decodes : ∀ claims proof, (claims, proof) ∈ signedProofs trace → P.decodeJwt proof = .ok claims
  callee : NonceProtected
  first : Thread
  second : Thread
  firstDeps : verifiers.deps first = callee.deps
  secondDeps : verifiers.deps second = callee.deps
  presentsFirst : (verifiers.input first).dpopProof = firstProof.2
  presentsSecond : (verifiers.input second).dpopProof = secondProof.2
  nonce : String
  given : givenNonce trace = some nonce
  /-- the nonce comes from the challenge that the first call ended with -/
  answered : Runs (verifyDPoP P callee.deps (verifiers.input first))
    (verifiers.history.trace first) (.error (nonceChallenge nonce))
  early : History runtime Thread
  late : History runtime Thread
  split : verifiers.history = early ++ late
  firstDone : History.trace late first = []
  secondLater : History.trace early second = []
  /-- no one but the client knows the nonce -/
  secret : ∀ thread claims value, verifiers.Presents thread claims →
    claims.get? "nonce" = some value → value.toText = nonce →
    ∃ own, (own, (verifiers.input thread).dpopProof) ∈ signedProofs trace
  /-- the second proof is sent once -/
  once : ∀ thread, (verifiers.input thread).dpopProof = secondProof.2 → thread = second
  freshJti : ∀ thread claims jti own, verifiers.Presents thread claims →
    claims.get? "jti" = some jti → secondProof.1.get? "jti" = some own →
    (verifiers.deps thread).jtiKey jti = callee.deps.jtiKey own → thread = second
  /-- the nonce is consumed within its lifetime -/
  inTime : ∀ issued ∈ verifiers.history, ∀ consuming ∈ verifiers.history,
    issued.thread = first → issued.event.op = .redisSet (callee.store.key nonce) callee.store.ttl →
    consuming.thread = second → consuming.event.op = .redisDel (callee.store.key nonce) →
    consuming.time < issued.time + callee.store.ttl * 1000

namespace Handshake

variable {P : Platform} {L : ClientLibrary} {Thread : Type} [DecidableEq Thread]
  {verifiers : SharedVerifiers P Thread} (handshake : Handshake verifiers L)

theorem second_store :
    (verifiers.deps handshake.second).nonceStore = some handshake.callee.store := by
  rw [handshake.secondDeps]
  exact handshake.callee.hasStore

theorem signed_three : signedProofs handshake.trace =
    [handshake.exchangeProof, handshake.firstProof, handshake.secondProof] := by
  have none := (handshake.follows.second_echoes handshake.signed).1
  rw [handshake.signed, none]

theorem second_nonce : handshake.secondProof.1.get? "nonce" = some (.str handshake.nonce) := by
  obtain ⟨_, _, _, nonce, given, echoed⟩ := handshake.follows.second_echoes handshake.signed
  rw [handshake.given] at given
  cases given
  exact echoed

theorem second_presents {claims : Obj} (presents : verifiers.Presents handshake.second claims) :
    claims = handshake.secondProof.1 := by
  have member : handshake.secondProof ∈ signedProofs handshake.trace := by
    rw [handshake.signed_three]
    simp
  have decoded := handshake.decodes _ _ member
  rw [← handshake.presentsSecond, presents] at decoded
  exact Except.ok.inj decoded

/-- The call that deletes the nonce is the second one of the client. -/
theorem deletes_second (agrees : P.PayloadAgrees) {step : Effect.Step runtime Thread}
    (member : step ∈ verifiers.history)
    (deletes : step.event.op = .redisDel (handshake.callee.store.key handshake.nonce)) :
    step.thread = handshake.second := by
  obtain ⟨claims, value, presents, carried, text⟩ :=
    verifiers.deletes_own agrees handshake.second_store member deletes
  obtain ⟨own, known⟩ := handshake.secret _ claims value presents carried text
  obtain ⟨_, exchangePlain, firstPlain, _⟩ := handshake.follows.second_echoes handshake.signed
  have decoded := handshake.decodes _ _ known
  rw [presents] at decoded
  cases decoded
  rw [handshake.signed_three] at known
  -- of the proofs of the client only the second one has a nonce
  obtain exchange | known := List.mem_cons.mp known
  · rw [← exchange, carried] at exchangePlain
    cases exchangePlain
  obtain first | known := List.mem_cons.mp known
  · rw [← first, carried] at firstPlain
    cases firstPlain
  · apply handshake.once
    rw [← List.mem_singleton.mp known]

theorem early_first : History.trace handshake.early handshake.first =
    verifiers.history.trace handshake.first := by
  rw [handshake.split, History.trace_append, handshake.firstDone, List.append_nil]

theorem late_second : History.trace handshake.late handshake.second =
    verifiers.history.trace handshake.second := by
  rw [handshake.split, History.trace_append, handshake.secondLater, List.nil_append]

/-- The first call stores the nonce. -/
theorem nonce_stored (library : P.ThrowsPlain) :
    ∃ before issued after, handshake.early = before ++ issued :: after ∧
      issued.thread = handshake.first ∧
      issued.event = ⟨.redisSet (handshake.callee.store.key handshake.nonce)
        handshake.callee.store.ttl, .ok true⟩ := by
  obtain ⟨jwk, key, currentDate, payload, nowMs, rest, checked, shape, rejected⟩ :=
    verifyDPoP_rejected library handshake.answered (.inl rfl) (verifiers.healthy handshake.first)
  cases rejected with
  | reused nonce jti carried claimed shape failed => cases failed
  | asked consuming fresh reply asks =>
      have drawn := nonceChallenge_inj (givenNonce_filled handshake.given) asks.fault
      rw [asks.trace, ← drawn] at shape
      have parts : History.trace handshake.early handshake.first =
          (⟨.date, currentDate⟩ :: ⟨.now, nowMs⟩ ::
            (consuming ++ [⟨.generateDPoPNonce, handshake.nonce⟩])) ++
          [⟨.redisSet (handshake.callee.store.key handshake.nonce) handshake.callee.store.ttl,
            reply⟩] := by
        rw [handshake.early_first, shape]
        simp
      obtain ⟨before, issued, after, split, own, event, left, _⟩ := History.split_of_trace parts
      refine ⟨before, issued, after, split, own, ?_⟩
      have whole : verifiers.history = before ++ issued :: (after ++ handshake.late) := by
        rw [handshake.split, split, List.append_assoc, List.cons_append]
      have stored : reply = .ok true := by
        apply verifiers.issued_stored handshake.second_store whole event
        rw [own, left]
        intro earlier member ttl
        simp only [List.mem_cons, List.mem_append, List.not_mem_nil, or_false] at member
        obtain rfl | rfl | consumed | rfl := member
        · simp
        · simp
        · exact asks.unwritten consumed _ ttl
        · simp
      rw [event, stored]

/-- The second call finds the nonce it consumes. -/
theorem nonce_consumed (agrees : P.PayloadAgrees) (library : P.ThrowsPlain)
    {clocks rest : List Event} {removed : Nat}
    (shape : verifiers.history.trace handshake.second =
      clocks ++ ⟨.redisDel (handshake.callee.store.key handshake.nonce), .ok removed⟩ :: rest)
    (quiet : ∀ event ∈ clocks, event.op ≠ .redisDel (handshake.callee.store.key handshake.nonce)) :
    removed = 1 := by
  obtain ⟨before, issued, kept, early, stores, issuing⟩ := handshake.nonce_stored library
  rw [← handshake.late_second] at shape
  obtain ⟨between, consuming, after, late, consumes, deleting, left, _⟩ :=
    History.split_of_trace shape
  have whole : verifiers.history =
      before ++ issued :: (kept ++ between) ++ consuming :: after := by
    rw [handshake.split, early, late]
    simp
  apply verifiers.redis.removed_within whole issuing deleting
  · intro step member deletes
    have inside : step ∈ verifiers.history := by
      rw [whole]
      exact List.mem_append_left _ (List.mem_append_right _ (List.mem_cons_of_mem _ member))
    have second := handshake.deletes_second agrees inside deletes
    have performed := History.mem_trace_of_mem member
    rw [second, History.trace_append, left] at performed
    obtain inEarly | inClocks := List.mem_append.mp performed
    · have nothing := handshake.secondLater
      rw [early, ← List.singleton_append, ← List.append_assoc, History.trace_append] at nothing
      rw [(List.append_eq_nil_iff.mp nothing).2] at inEarly
      cases inEarly
    · exact quiet _ inClocks deletes
  · have stored : issued.event.op =
        .redisSet (handshake.callee.store.key handshake.nonce) handshake.callee.store.ttl := by
      rw [issuing]
    have deleted : consuming.event.op =
        .redisDel (handshake.callee.store.key handshake.nonce) := by rw [deleting]
    exact handshake.inTime issued (by simp [whole]) consuming (by simp [whole]) stores stored
      consumes deleted

/-- The second call is the first one to record its `jti`. -/
theorem jti_new (agrees : P.PayloadAgrees) {prior rest : List Event} {jti : Json} {ttl : Nat}
    (carried : handshake.secondProof.1.get? "jti" = some jti)
    (shape : verifiers.history.trace handshake.second =
      prior ++ ⟨.redisSet (handshake.callee.deps.jtiKey jti) ttl, .ok false⟩ :: rest)
    (quiet : ∀ event ∈ prior, ∀ earlier,
      event.op ≠ .redisSet (handshake.callee.deps.jtiKey jti) earlier) : False := by
  obtain ⟨before, refused, after, split, own, event, left, _⟩ := History.split_of_trace shape
  rw [← handshake.secondDeps] at event
  obtain ⟨other, member, earlier, claims, used, writes, presents, usedJti, sameKey⟩ :=
    verifiers.refused_claimed agrees split event
  rw [handshake.secondDeps] at writes sameKey
  have second := handshake.freshJti _ claims used jti presents usedJti carried sameKey
  have performed := History.mem_trace_of_mem member
  rw [second, left] at performed
  exact quiet _ performed earlier writes

/-- The handshake of a client completes in one round: it sends no third request, and its second
proof is rejected neither for its nonce nor for its `jti`, whatever the other calls do. -/
theorem completes_in_one_round (agrees : P.PayloadAgrees) (library : P.ThrowsPlain) :
    signedProofs handshake.trace =
        [handshake.exchangeProof, handshake.firstProof, handshake.secondProof] ∧
      ∀ fault, Runs (verifyDPoP P handshake.callee.deps (verifiers.input handshake.second))
          (verifiers.history.trace handshake.second) (.error fault) →
        ¬ fault.HasCode .useDpopNonce ∧ ¬ fault.HasCode .dpopNonceReuse := by
  refine ⟨handshake.signed_three, fun fault run => not_or.mp fun replay => ?_⟩
  obtain ⟨jwk, key, currentDate, payload, nowMs, rest, checked, shape, rejected⟩ :=
    verifyDPoP_rejected library run replay (verifiers.healthy handshake.second)
  have claims := handshake.second_presents (agrees _ _ _ _ checked.signature)
  have echoed : payload.claims.get? "nonce" = some (.str handshake.nonce) := by
    rw [claims, handshake.second_nonce]
  cases rejected with
  | asked consuming fresh reply asks =>
      obtain ⟨_, missing⟩ | ⟨removed, kept, consumes⟩ := asks.consuming
      · rw [echoed] at missing
        have filled := givenNonce_filled handshake.given
        simp [Js.truthy, Json.truthy, filled] at missing
      · apply kept
        rw [asks.trace, consumes, echoed] at shape
        have parts : verifiers.history.trace handshake.second =
            [⟨.date, currentDate⟩, ⟨.now, nowMs⟩] ++
            ⟨.redisDel (handshake.callee.store.key handshake.nonce), .ok removed⟩ ::
              [⟨.generateDPoPNonce, fresh⟩,
                ⟨.redisSet (handshake.callee.store.key fresh) handshake.callee.store.ttl, reply⟩] :=
          shape
        apply handshake.nonce_consumed agrees library parts
        intro event member
        simp only [List.mem_cons, List.not_mem_nil, or_false] at member
        obtain rfl | rfl := member <;> simp
  | reused nonce jti carried claimed ending failed =>
      rw [ending] at shape
      rw [claims] at claimed
      have parts : verifiers.history.trace handshake.second =
          [⟨.date, currentDate⟩, ⟨.now, nowMs⟩,
            ⟨.redisDel (handshake.callee.store.key nonce.toText), .ok 1⟩] ++
          [⟨.redisSet (handshake.callee.deps.jtiKey jti) handshake.callee.deps.nonceTtl,
            .ok false⟩] := shape
      apply handshake.jti_new agrees claimed parts
      intro event member earlier
      simp only [List.mem_cons, List.not_mem_nil, or_false] at member
      obtain rfl | rfl | rfl := member <;> simp

end Handshake

section LedgerRound

/-- The first request of the client, its second one, and one of another client in between. -/
inductive RoundCall where
  | first
  | stranger
  | second
  deriving DecidableEq

def entryClaims (jti : String) (nonce : Option String) : Obj :=
  [("htm", .str "POST"), ("htu", .str "https://ledger.internal/api/ledger/entries"),
    ("jti", .str jti), ("ath", .str "hop-hash")] ++ nonceClaim nonce ++ [("iat", .num 1700000000)]

def roundHeader : Obj := dpopHeader { publicJwk := TokenTable.jwkOf ⟨1⟩, privateKey := ⟨1⟩ }

/-- The proof of each call, with its claims. -/
def RoundCall.proof : RoundCall → SignedToken
  | first => ⟨"proof-10", roundHeader, .ofClaims (entryClaims "jti-7" none) rfl, ⟨1⟩⟩
  | stranger => ⟨"stranger", roundHeader, .ofClaims (entryClaims "jti-2" none) rfl, ⟨1⟩⟩
  | second => ⟨"proof-15", roundHeader, .ofClaims (entryClaims "jti-12" (some "nonce-1")) rfl, ⟨1⟩⟩

def exchangeProofClaims : Obj :=
  [("htm", .str "POST"), ("htu", .str "https://broker/token"), ("jti", .str "jti-1"),
    ("iat", .num 1700000000)]

def roundTable : TokenTable where
  tokens := [⟨"proof-4", roundHeader, .ofClaims exchangeProofClaims rfl, ⟨1⟩⟩,
    RoundCall.first.proof, RoundCall.stranger.proof, RoundCall.second.proof]
  hashes := [("hop-token", "hop-hash")]
  texts := postingTable.texts

def roundPosting : List ClientEvent × Except Fault Json :=
  exec (answeredWith challengedResponses) [] (postLedgerEntry roundTable.platform postingLibrary
    none postingConfig postingArgs)

abbrev roundCallee : NonceProtected := .services none none

def roundInput (call : RoundCall) : VerifyDPoPInput where
  dpopProof := call.proof.token
  accessToken := some "hop-token"
  expectedHtm := "POST"
  expectedHtu := "https://ledger.internal/api/ledger/entries"

def roundIssue (nonce : String) : List Event :=
  [⟨.generateDPoPNonce, nonce⟩, ⟨.redisSet ("dpop-nonce:" ++ nonce) 300, .ok true⟩]

def RoundCall.trace : RoundCall → List Event
  | first => ⟨.date, 1700000000000⟩ :: ⟨.now, 1700000000000⟩ :: roundIssue "nonce-1"
  | stranger => ⟨.date, 1700000000000⟩ :: ⟨.now, 1700000000000⟩ :: roundIssue "nonce-2"
  | second => [⟨.date, 1700000000000⟩, ⟨.now, 1700000000000⟩,
      ⟨.redisDel "dpop-nonce:nonce-1", .ok 1⟩, ⟨.redisSet "dpop:jti:jti-12" 120, .ok true⟩]

def RoundCall.steps (call : RoundCall) (events : List Event) : History runtime RoundCall :=
  events.map (Step.mk call 1700000000000)

theorem round_checked (call : RoundCall) :
    CheckedProof roundTable.platform roundCallee.deps (roundInput call)
      (.obj (TokenTable.jwkOf ⟨1⟩)) ⟨1⟩ 1700000000000 call.proof.payload 1700000000000 where
  header := by cases call <;> exact ⟨roundHeader, rfl, rfl⟩
  imported := rfl
  signature := by cases call <;> rfl
  methodAndUrl := by cases call <;> rfl
  fresh := by cases call <;> exact checkIat_ok_iff.mpr (by decide +kernel)
  ath := by cases call <;> decide +kernel

theorem round_challenged (call : RoundCall) (nonce : String)
    (unasked : call.proof.payload.claims.get? "nonce" = none) :
    Runs (verifyDPoP roundTable.platform roundCallee.deps (roundInput call))
      (⟨.date, 1700000000000⟩ :: ⟨.now, 1700000000000⟩ :: roundIssue nonce)
      (.error (nonceChallenge nonce)) := by
  apply (round_checked call).runs
  apply Runs.bind_error
  unfold consumeNonce
  rw [unasked]
  exact issueChallenge_runs_iff.mpr ⟨nonce, .ok true, rfl, rfl⟩

theorem round_accepted :
    ∃ result, Runs (verifyDPoP roundTable.platform roundCallee.deps (roundInput .second))
      RoundCall.second.trace (.ok result) := by
  have accepted : AcceptedProof roundTable.platform roundCallee.deps (roundInput .second)
      (.obj (TokenTable.jwkOf ⟨1⟩)) ⟨1⟩ 1700000000000 RoundCall.second.proof.payload
      1700000000000 (.str "jti-12") "thumbprint-1" := {
    toCheckedProof := round_checked .second
    jtiClaim := rfl
    jtiTruthy := rfl
    computed := rfl
    binding := rfl }
  have echoed : RoundCall.second.proof.payload.claims.get? "nonce" = some (.str "nonce-1") := rfl
  exact ⟨_, accepted.runs (consumeNonce_runs rfl roundCallee.hasStore echoed rfl)⟩

def roundEarly : History runtime RoundCall := RoundCall.steps .first (RoundCall.trace .first)

def roundLate : History runtime RoundCall :=
  RoundCall.steps .second ((RoundCall.trace .second).take 2) ++
    RoundCall.steps .stranger (RoundCall.trace .stranger) ++
    RoundCall.steps .second ((RoundCall.trace .second).drop 2)

def roundVerifiers : SharedVerifiers roundTable.platform RoundCall where
  history := roundEarly ++ roundLate
  deps _ := roundCallee.deps
  input := roundInput
  running call := by
    cases call with
    | first => exact (round_challenged .first "nonce-1" rfl).performs
    | stranger => exact (round_challenged .stranger "nonce-2" rfl).performs
    | second =>
        obtain ⟨result, run⟩ := round_accepted
        exact run.performs
  spaces _ _ store nonces present present' own nonce same := by
    cases present
    cases present'
    exact String.append_right_inj _ |>.mp same
  separate _ _ store nonce jti present := by
    cases present
    exact roundCallee.separate nonce jti
  redis := by
    refine ⟨_, .cons (.stored ?_ (by decide)) (.cons (.stored ?_ (by decide))
      (.cons (.removed ?_ (.inl rfl)) (.cons (.stored ?_ (by decide)) (.nil _))))⟩
    · rintro ⟨_, impossible, _⟩
      cases impossible
    · rintro ⟨_, impossible, _⟩
      simp [ExpiringStore.State.empty, Function.update] at impossible
    · refine ⟨1700000300000, ?_, by decide⟩
      simp [Function.update]
    · rintro ⟨_, impossible, _⟩
      simp [ExpiringStore.State.empty, Function.update] at impossible
  healthy call := by
    intro event member
    have own : event ∈ call.trace := by cases call <;> exact member
    cases call with
    | second =>
        simp only [RoundCall.trace, List.mem_cons, List.not_mem_nil, or_false] at own
        obtain rfl | rfl | rfl | rfl := own
        · trivial
        · trivial
        · exact ⟨_, rfl⟩
        · exact ⟨_, rfl⟩
    | _ =>
        simp only [RoundCall.trace, roundIssue, List.mem_cons, List.not_mem_nil, or_false] at own
        obtain rfl | rfl | rfl | rfl := own
        · trivial
        · trivial
        · trivial
        · exact ⟨_, rfl⟩
  fresh nonce := by
    have drawn : (roundEarly ++ roundLate).countP (fun step => drawsNonce nonce step.event) =
        (if "nonce-1" = nonce then 1 else 0) + (if "nonce-2" = nonce then 1 else 0) := by
      simp [roundEarly, roundLate, RoundCall.steps, RoundCall.trace, roundIssue, drawsNonce,
        List.countP_cons]
      omega
    rw [drawn]
    split
    · next same =>
        subst same
        simp
    · split <;> simp

theorem roundPosting_signed : signedProofs roundPosting.1 =
    [(exchangeProofClaims, "proof-4"), (entryClaims "jti-7" none, "proof-10"),
      (entryClaims "jti-12" (some "nonce-1"), "proof-15")] := by
  decide +kernel

def roundHandshake : Handshake roundVerifiers postingLibrary where
  trace := roundPosting.1
  follows := .ledger none postingConfig postingArgs _ (exec_runs _ _ _)
  exchangeProof := (exchangeProofClaims, "proof-4")
  firstProof := (entryClaims "jti-7" none, "proof-10")
  secondProof := (entryClaims "jti-12" (some "nonce-1"), "proof-15")
  more := []
  signed := roundPosting_signed
  decodes := by
    intro claims proof member
    rw [roundPosting_signed] at member
    simp only [List.mem_cons, List.not_mem_nil, or_false, Prod.mk.injEq] at member
    obtain ⟨rfl, rfl⟩ | ⟨rfl, rfl⟩ | ⟨rfl, rfl⟩ := member <;> rfl
  callee := roundCallee
  first := .first
  second := .second
  firstDeps := rfl
  secondDeps := rfl
  presentsFirst := rfl
  presentsSecond := rfl
  nonce := "nonce-1"
  given := by decide +kernel
  answered := round_challenged .first "nonce-1" rfl
  early := roundEarly
  late := roundLate
  split := rfl
  firstDone := rfl
  secondLater := rfl
  secret call claims value presents carried _ := by
    cases call with
    | second =>
        refine ⟨entryClaims "jti-12" (some "nonce-1"), ?_⟩
        rw [roundPosting_signed]
        exact List.mem_cons_of_mem _ (List.mem_cons_of_mem _ List.mem_cons_self)
    | _ =>
        cases presents
        cases carried
  once call same := by
    cases call with
    | second => rfl
    | _ => exact absurd same (by decide)
  freshJti call claims jti own presents carried ownJti key := by
    cases call with
    | second => rfl
    | _ =>
        cases presents
        cases carried
        cases ownJti
        exact absurd key (by decide)
  inTime issued inHistory consuming inHistory' _ _ _ _ := by
    have moment : ∀ step ∈ roundEarly ++ roundLate, step.time = 1700000000000 := by decide
    rw [moment issued inHistory, moment consuming inHistory']
    decide

/-- The second proof is accepted, though another client was issued a nonce in between. -/
theorem ledgerRound_completes :
    (∃ result, Runs (verifyDPoP roundTable.platform roundCallee.deps (roundInput .second))
        (roundVerifiers.history.trace .second) (.ok result)) ∧
      signedProofs roundPosting.1 = [(exchangeProofClaims, "proof-4"),
        (entryClaims "jti-7" none, "proof-10"),
        (entryClaims "jti-12" (some "nonce-1"), "proof-15")] ∧
      ∀ fault, Runs (verifyDPoP roundTable.platform roundCallee.deps (roundInput .second))
          (roundVerifiers.history.trace .second) (.error fault) →
        ¬ fault.HasCode .useDpopNonce ∧ ¬ fault.HasCode .dpopNonceReuse :=
  ⟨round_accepted, roundHandshake.completes_in_one_round roundTable.platform_agrees
    roundTable.throwsPlain⟩

end LedgerRound

end S2s
