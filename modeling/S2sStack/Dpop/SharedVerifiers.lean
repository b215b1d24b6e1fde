import S2sStack.Dpop.Rejections
import S2sStack.Effect.Provenance

set_option autoImplicit false

/- Verifiers that share one Redis: a nonce stays there until its proof consumes it, and a `jti`
is refused only to a proof that has used it. -/
namespace S2s

open Effect Effect.Program
open Js (Json Obj)

/-- A record in the key space of the nonces is written for a nonce that was drawn before. -/
def DrawnBefore (nonces : RedisNonceStore) (before : List Event) (event : Event) : Prop :=
  ∀ nonce ttl, event.op = .redisSet (nonces.key nonce) ttl → ⟨.generateDPoPNonce, nonce⟩ ∈ before

/-- A key of both stores is the key of one nonce. -/
def OneNonce (store nonces : RedisNonceStore) : Prop :=
  ∀ own nonce, store.key own = nonces.key nonce → own = nonce

section Drawing

variable {P : Platform} {deps : VerifyDPoPDeps} {nonces : RedisNonceStore}

theorem drawnBefore_grows (earlier before : List Event) (event : Event)
    (drawn : DrawnBefore nonces before event) : DrawnBefore nonces (earlier ++ before) event :=
  fun nonce ttl op => List.mem_append_right _ (drawn nonce ttl op)

/-- A program that writes nothing into the key space. -/
theorem preceded_of_within {allowed : Op → Prop} {α : Type} {program : Act α}
    (within : Within allowed program)
    (elsewhere : ∀ nonce ttl, ¬ allowed (.redisSet (nonces.key nonce) ttl)) :
    Traces (Preceded (DrawnBefore nonces)) program := by
  rintro trace outcome run before event after rfl nonce ttl op
  have reached := within _ _ run event (by simp)
  rw [op] at reached
  exact absurd reached (elsewhere nonce ttl)

theorem preceded_issueChallenge {α : Type} {store : RedisNonceStore}
    (one : OneNonce store nonces) :
    Traces (Preceded (DrawnBefore nonces)) (issueChallenge store : Act α) := by
  intro trace outcome run
  obtain ⟨fresh, reply, rfl, _⟩ := issueChallenge_runs_iff.mp run
  have draw : Preceded (DrawnBefore nonces) [⟨.generateDPoPNonce, fresh⟩] :=
    .single fun _ _ impossible => by cases impossible
  refine draw.append_after (.single fun nonce ttl op => ?_)
  injection op with same
  cases one fresh nonce same
  exact List.mem_singleton_self _

theorem preceded_consumeNonce (payload : JwtPayload)
    (one : ∀ store, deps.nonceStore = some store → OneNonce store nonces) :
    Traces (Preceded (DrawnBefore nonces)) (consumeNonce deps payload) := by
  unfold consumeNonce
  split
  · exact Traces.done _ .nil
  · split
    · exact Traces.done _ .nil
    · next store present =>
        dsimp only
        split
        · exact preceded_issueChallenge (one store present)
        · have deletion : Within (fun op : Op => ∃ key, op = .redisDel key)
              (store.consume (Js.toText (payload.claims.get? "nonce"))) :=
            Within.bind (Within.command ⟨_, rfl⟩) fun _ => Within.done _
          refine Traces.bind (fun _ _ => Preceded.append drawnBefore_grows)
            (preceded_of_within deletion ?_) fun consumed => ?_
          · rintro nonce ttl ⟨_, impossible⟩
            cases impossible
          · split
            · exact Traces.done _ .nil
            · exact preceded_issueChallenge (one store present)

/-- A verification writes a nonce after it has drawn it. -/
theorem preceded_verifyDPoP (input : VerifyDPoPInput)
    (one : ∀ store, deps.nonceStore = some store → OneNonce store nonces)
    (separate : ∀ nonce jti, nonces.key nonce ≠ deps.jtiKey jti) :
    Traces (Preceded (DrawnBefore nonces)) (verifyDPoP P deps input) := by
  have checking : Within (fun op : Op => op = .date ∨ op = .now) (checkProof P deps input) :=
    within_checkProof (.inl rfl) (.inr rfl) P deps input
  refine Traces.bind (fun _ _ => Preceded.append drawnBefore_grows)
    (preceded_of_within checking ?_) fun proof => ?_
  · rintro nonce ttl (impossible | impossible) <;> cases impossible
  · refine Traces.bind (fun _ _ => Preceded.append drawnBefore_grows)
      (preceded_consumeNonce proof.2 one) fun _ => ?_
    refine Traces.bind (fun _ _ => Preceded.append drawnBefore_grows)
      (preceded_of_within (claimJti_within deps proof.2) ?_) fun jti => ?_
    · rintro nonce ttl ⟨jti, _, same⟩
      injection same with key
      exact separate nonce jti key
    · intro trace outcome run before event after split
      replace run := runs_bind_iff.mp run
      obtain ⟨_, _, _, rfl, bound, last⟩ | ⟨_, bound, _⟩ := run
      · rw [(runs_ofExcept_iff.mp bound).1, (runs_pure_iff.mp last).1] at split
        simp at split
      · rw [(runs_ofExcept_iff.mp bound).1] at split
        simp at split

end Drawing

/-- Concurrent verifications, of one service or of several, that share one Redis. It answers
every command, and the nonces that are drawn differ. -/
structure SharedVerifiers (P : Platform) (Thread : Type) [DecidableEq Thread] where
  history : History runtime Thread
  deps : Thread → VerifyDPoPDeps
  input : Thread → VerifyDPoPInput
  running : ∀ thread,
    (verifyDPoP P (deps thread) (input thread)).Performs (history.trace thread)
  /-- the stores have one key space, or several that are disjoint -/
  spaces : ∀ thread other store nonces, (deps thread).nonceStore = some store →
    (deps other).nonceStore = some nonces → OneNonce store nonces
  separate : ∀ thread other store nonce jti, (deps thread).nonceStore = some store →
    store.key nonce ≠ (deps other).jtiKey jti
  redis : RedisServes history
  healthy : ∀ thread, AnswersRedis (history.trace thread)
  fresh : ∀ nonce, history.countP (fun step => drawsNonce nonce step.event) ≤ 1

namespace SharedVerifiers

variable {P : Platform} {Thread : Type} [DecidableEq Thread] (verifiers : SharedVerifiers P Thread)
  {before after : History runtime Thread} {step : Effect.Step runtime Thread}
  {callee : Thread} {nonces : RedisNonceStore}

/-- The claims of the proof that a call verifies, where it can be read. -/
def Presents (thread : Thread) (claims : Obj) : Prop :=
  P.decodeJwt (verifiers.input thread).dpopProof = .ok claims

theorem command_of_step (agrees : P.PayloadAgrees) (member : step ∈ verifiers.history)
    (sent : step.event.op ≠ Op.date ∧ step.event.op ≠ Op.now) :
    ∃ payload : JwtPayload, verifiers.Presents step.thread payload.claims ∧
      (isNonceOp (verifiers.deps step.thread) payload step.event.op ∨
        isClaimOp (verifiers.deps step.thread) payload step.event.op) := by
  obtain ⟨rest, outcome, run⟩ := verifiers.running step.thread
  have inRun : step.event ∈ verifiers.history.trace step.thread ++ rest :=
    List.mem_append_left _ (History.mem_trace_of_mem member)
  exact verifyDPoP_command agrees run inRun sent

/-- Only a call whose proof carries a nonce deletes it. -/
theorem deletes_own (agrees : P.PayloadAgrees)
    (present : (verifiers.deps callee).nonceStore = some nonces)
    (member : step ∈ verifiers.history) {nonce : String}
    (deletes : step.event.op = .redisDel (nonces.key nonce)) :
    ∃ claims value, verifiers.Presents step.thread claims ∧
      claims.get? "nonce" = some value ∧ value.toText = nonce := by
  have sent : step.event.op ≠ Op.date ∧ step.event.op ≠ Op.now := by
    rw [deletes]
    exact ⟨by simp, by simp⟩
  obtain ⟨payload, presents, command⟩ := verifiers.command_of_step agrees member sent
  rw [deletes] at command
  obtain (impossible | ⟨store, stored, ⟨_, impossible⟩ | ⟨value, carried, same⟩⟩) |
    ⟨_, _, impossible⟩ := command
  · cases impossible
  · cases impossible
  · injection same with key
    have one := verifiers.spaces _ callee store nonces stored present
    exact ⟨payload.claims, value, presents, carried, one _ nonce key.symm⟩
  · cases impossible

/-- Only a call whose proof has a `jti` records it. -/
theorem claims_own (agrees : P.PayloadAgrees) (member : step ∈ verifiers.history) {thread : Thread}
    {jti : Json} {ttl : Nat}
    (claims : step.event.op = .redisSet ((verifiers.deps thread).jtiKey jti) ttl) :
    ∃ claims own, verifiers.Presents step.thread claims ∧ claims.get? "jti" = some own ∧
      (verifiers.deps step.thread).jtiKey own = (verifiers.deps thread).jtiKey jti := by
  have sent : step.event.op ≠ Op.date ∧ step.event.op ≠ Op.now := by
    rw [claims]
    exact ⟨by simp, by simp⟩
  obtain ⟨payload, presents, command⟩ := verifiers.command_of_step agrees member sent
  rw [claims] at command
  obtain (impossible | ⟨store, present, ⟨fresh, same⟩ | ⟨_, _, impossible⟩⟩) |
    ⟨own, carried, same⟩ := command
  · cases impossible
  · injection same with key
    exact absurd key.symm (verifiers.separate _ thread store fresh jti present)
  · cases impossible
  · injection same with key
    exact ⟨payload.claims, own, presents, carried, key.symm⟩

/-- A nonce is written by the call that drew it. -/
theorem writer_drew (present : (verifiers.deps callee).nonceStore = some nonces)
    (split : verifiers.history = before ++ step :: after) {nonce : String} {ttl : Nat}
    (writes : step.event.op = .redisSet (nonces.key nonce) ttl) :
    ⟨.generateDPoPNonce, nonce⟩ ∈ History.trace before step.thread := by
  obtain ⟨rest, outcome, run⟩ := verifiers.running step.thread
  have one : ∀ store, (verifiers.deps step.thread).nonceStore = some store →
      OneNonce store nonces :=
    fun store stored => verifiers.spaces _ callee store nonces stored present
  have separate : ∀ nonce jti, nonces.key nonce ≠ (verifiers.deps step.thread).jtiKey jti :=
    fun nonce jti => verifiers.separate callee _ nonces nonce jti present
  have whole := preceded_verifyDPoP _ one separate _ _ run
  exact History.needs_of_preceded whole.of_append split nonce ttl writes

/-- No two calls draw one nonce. -/
theorem drawn_once {first second : Thread} {nonce : String}
    (one : (⟨.generateDPoPNonce, nonce⟩ : Event) ∈ verifiers.history.trace first)
    (two : (⟨.generateDPoPNonce, nonce⟩ : Event) ∈ verifiers.history.trace second) :
    first = second := by
  by_contra different
  have once := verifiers.fresh nonce
  have both := History.countP_two_threads verifiers.history
    (fun step => drawsNonce nonce step.event) different
  have draws : ∀ thread, (⟨.generateDPoPNonce, nonce⟩ : Event) ∈ verifiers.history.trace thread →
      0 < (verifiers.history.steps thread).countP (fun step => drawsNonce nonce step.event) := by
    intro thread member
    obtain ⟨step, inside, same⟩ := List.mem_map.mp member
    apply List.countP_pos_iff.mpr
    exact ⟨step, inside, by simp [same, drawsNonce]⟩
  have inFirst := draws first one
  have inSecond := draws second two
  omega

/-- A nonce that was drawn is stored. -/
theorem issued_stored (present : (verifiers.deps callee).nonceStore = some nonces)
    (split : verifiers.history = before ++ step :: after) {nonce : String} {ttl : Nat}
    {reply : Except Fault Bool} (issues : step.event = ⟨.redisSet (nonces.key nonce) ttl, reply⟩)
    (unwritten : ∀ event ∈ History.trace before step.thread, ∀ earlier,
      event.op ≠ .redisSet (nonces.key nonce) earlier) : reply = .ok true := by
  have answered := verifiers.healthy step.thread step.event
    (History.mem_trace_of_mem (by simp [split]))
  rw [issues] at answered
  obtain ⟨stored, rfl⟩ := answered
  cases stored with
  | true => rfl
  | false =>
      -- the record that is in the way was written for a draw of the same nonce
      obtain ⟨other, member, earlier, answer, event, _⟩ := verifiers.redis.refused_by split issues
      have writes : other.event.op = .redisSet (nonces.key nonce) earlier := by rw [event]
      have own := verifiers.writer_drew present split (by rw [issues])
      obtain ⟨start, middle, rfl⟩ := List.append_of_mem member
      have inFront : verifiers.history = start ++ other :: (middle ++ step :: after) := by
        rw [split, List.append_assoc, List.cons_append]
      have theirs := verifiers.writer_drew present inFront writes
      have everywhere : ∀ {part rest : History runtime Thread} {thread : Thread},
          verifiers.history = part ++ rest → ∀ event ∈ History.trace part thread,
            event ∈ verifiers.history.trace thread := by
        intro part rest thread whole event inside
        rw [whole, History.trace_append]
        exact List.mem_append_left _ inside
      have same : other.thread = step.thread :=
        verifiers.drawn_once (everywhere inFront _ theirs) (everywhere split _ own)
      have inside := History.mem_trace_of_mem member
      rw [same] at inside
      exact absurd writes (unwritten _ inside earlier)

/-- A `jti` is refused to a call only where another record of it was written before. -/
theorem refused_claimed (agrees : P.PayloadAgrees)
    (split : verifiers.history = before ++ step :: after) {jti : Json} {ttl : Nat} {thread : Thread}
    (refused : step.event = ⟨.redisSet ((verifiers.deps thread).jtiKey jti) ttl, .ok false⟩) :
    ∃ other ∈ before, ∃ earlier claims own,
      other.event.op = .redisSet ((verifiers.deps thread).jtiKey jti) earlier ∧
      verifiers.Presents other.thread claims ∧ claims.get? "jti" = some own ∧
      (verifiers.deps other.thread).jtiKey own = (verifiers.deps thread).jtiKey jti := by
  obtain ⟨other, member, earlier, answer, event, _⟩ := verifiers.redis.refused_by split refused
  have writes : other.event.op = .redisSet ((verifiers.deps thread).jtiKey jti) earlier := by
    rw [event]
  obtain ⟨claims, own, presents, carried, same⟩ :=
    verifiers.claims_own agrees (by simp [split, member]) writes
  exact ⟨other, member, earlier, claims, own, writes, presents, carried, same⟩

end SharedVerifiers

end S2s
