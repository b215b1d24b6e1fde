import S2sStack.Dpop.RedisHistory
import S2sStack.Dpop.VerifyDPoP
import S2sStack.TokenTable

set_option autoImplicit false

/- Nonce-protected verification: the nonces that are issued and the proofs that are
accepted, over every interleaving of concurrent calls. -/
namespace S2s

open Effect Effect.Program
open Js (Json Obj)

/-- A verifier that requires a nonce from its store, with separate key spaces for nonces
and replay records. -/
structure NonceProtected where
  deps : VerifyDPoPDeps
  store : RedisNonceStore
  hasStore : deps.nonceStore = some store
  required : deps.requireNonce = true
  separate : ∀ nonce jti, store.key nonce ≠ deps.jtiKey jti

/-- The default key spaces, with any tolerance and any lifetimes. -/
def NonceProtected.default (tolerance : Option Rat) (jtiTtl nonceTtl : Option Nat) :
    NonceProtected where
  deps := {
    nonceTtlSeconds := jtiTtl
    iatToleranceSeconds := tolerance
    nonceStore := some { ttlSeconds := nonceTtl }
    requireNonce := true }
  store := { ttlSeconds := nonceTtl }
  hasStore := rfl
  required := rfl
  separate nonce jti :=
    append_ne "dpop:nonce:" "dpop:jti:" (by decide) (by decide) nonce jti.toText

/-- The key spaces of the services, which keep nonces under `dpop-nonce:`. -/
def NonceProtected.services (tolerance : Option Rat) (jtiTtl : Option Nat) : NonceProtected where
  deps := {
    nonceTtlSeconds := jtiTtl
    iatToleranceSeconds := tolerance
    nonceStore := some { ttlSeconds := some 300, prefix? := some "dpop-nonce:" }
    requireNonce := true }
  store := { ttlSeconds := some 300, prefix? := some "dpop-nonce:" }
  hasStore := rfl
  required := rfl
  separate nonce jti :=
    append_ne "dpop-nonce:" "dpop:jti:" (by decide) (by decide) nonce jti.toText

/-- Operations that neither issue a nonce nor write a record. -/
def isQuietOp : Op → Prop
  | .date | .now | .redisDel _ => True
  | _ => False

/-- A verification ends with at most one write: an issued nonce right after it was drawn,
or a replay record. -/
def Shaped (config : NonceProtected) (trace : List Event) : Prop :=
  ∃ quiet tail, trace = quiet ++ tail ∧ (∀ event ∈ quiet, isQuietOp event.op) ∧
    (tail = [] ∨
      (∃ nonce reply, tail = [⟨.generateDPoPNonce, nonce⟩,
        ⟨.redisSet (config.store.key nonce) config.store.ttl, reply⟩]) ∨
      ∃ jti reply, tail = [⟨.redisSet (config.deps.jtiKey jti) config.deps.nonceTtl, reply⟩])

section Shapes

variable {config : NonceProtected}

theorem shaped_nil : Shaped config [] :=
  ⟨[], [], rfl, by simp, .inl rfl⟩

theorem Shaped.after_quiet {first second : List Event}
    (quiet : ∀ event ∈ first, isQuietOp event.op) (shaped : Shaped config second) :
    Shaped config (first ++ second) := by
  obtain ⟨more, tail, rfl, also, ending⟩ := shaped
  refine ⟨first ++ more, tail, by simp, ?_, ending⟩
  intro event member
  rcases List.mem_append.mp member with early | late
  · exact quiet event early
  · exact also event late

theorem shaped_of_quiet {trace : List Event} (quiet : ∀ event ∈ trace, isQuietOp event.op) :
    Shaped config trace := by
  have shaped : Shaped config (trace ++ []) := Shaped.after_quiet quiet shaped_nil
  rwa [List.append_nil] at shaped

/-- A sequence is shaped when its first part is quiet where it returns. -/
theorem shaped_bind {α β : Type} {first : Act α} {next : α → Act β}
    (returned : ∀ trace value, Runs first trace (.ok value) → ∀ event ∈ trace, isQuietOp event.op)
    (failed : Traces (Shaped config) first) (rest : ∀ value, Traces (Shaped config) (next value)) :
    Traces (Shaped config) (first >>= next) := by
  intro trace outcome run
  rcases runs_bind_iff.mp run with ⟨value, before, after, rfl, head, tail⟩ | ⟨fault, head, _⟩
  · exact (rest value _ _ tail).after_quiet (returned before value head)
  · exact failed _ _ head

theorem traces_of_within {α : Type} {program : Act α} (quiet : Within isQuietOp program) :
    Traces (Shaped config) program :=
  fun trace outcome run => shaped_of_quiet (quiet trace outcome run)

theorem traces_issueChallenge {α : Type} :
    Traces (Shaped config) (issueChallenge config.store : Act α) := by
  intro trace outcome run
  obtain ⟨fresh, reply, rfl, _⟩ := issueChallenge_runs_iff.mp run
  exact ⟨[], _, rfl, by simp, .inr (.inl ⟨fresh, reply, rfl⟩)⟩

theorem quiet_consumeNonce {payload : JwtPayload} {trace : List Event} {value : Unit}
    (run : Runs (consumeNonce config.deps payload) trace (.ok value)) :
    ∀ event ∈ trace, isQuietOp event.op := by
  rcases consumeNonce_ok run with ⟨_, rfl⟩ | ⟨_, store, nonce, _, _, rfl⟩
  · simp
  · intro event member
    cases List.mem_singleton.mp member
    trivial

theorem traces_consumeNonce (payload : JwtPayload) :
    Traces (Shaped config) (consumeNonce config.deps payload) := by
  unfold consumeNonce
  simp only [config.required, config.hasStore, Bool.not_true, Bool.false_eq_true, ↓reduceIte]
  split
  · exact traces_issueChallenge
  · have quiet : ∀ nonce, Within isQuietOp (config.store.consume nonce) :=
      fun nonce => Within.bind (Within.command trivial) fun _ => Within.done _
    refine shaped_bind (fun trace value run => quiet _ trace _ run)
      (traces_of_within (quiet _)) fun consumed => ?_
    split
    · exact Traces.done _ shaped_nil
    · exact traces_issueChallenge

theorem traces_claimJti (payload : JwtPayload) :
    Traces (Shaped config) (claimJti config.deps payload) := by
  unfold claimJti
  split
  · rename_i jti _
    split
    · exact Traces.done _ shaped_nil
    · intro trace outcome run
      rcases runs_bind_iff.mp run with ⟨ok, before, after, rfl, set, rest⟩ | ⟨fault, set, _⟩
      · rw [Act.runs_redisSet_iff] at set
        subst set
        have silent : after = [] := by
          split at rest
          · exact (runs_pure_iff.mp rest).1
          · exact (runs_throwing_iff.mp rest).1
        subst silent
        exact ⟨[], _, rfl, by simp, .inr (.inr ⟨jti, .ok ok, by simp⟩)⟩
      · rw [Act.runs_redisSet_iff] at set
        subst set
        exact ⟨[], _, rfl, by simp, .inr (.inr ⟨jti, .error fault, rfl⟩)⟩
  · exact Traces.done _ shaped_nil

theorem traces_finishProof (P : Platform) (input : VerifyDPoPInput) (jwk : Json)
    (payload : JwtPayload) :
    Traces (Shaped config) (finishProof P config.deps input jwk payload) := by
  refine shaped_bind (fun _ _ run => quiet_consumeNonce run) (traces_consumeNonce payload)
    fun _ => ?_
  intro trace outcome run
  -- what follows the claim performs nothing
  rcases runs_bind_iff.mp run with ⟨jti, before, after, rfl, claim, rest⟩ | ⟨fault, claim, _⟩
  · have nothing : after = [] := by
      rcases runs_bind_iff.mp rest with ⟨_, _, _, rfl, bound, last⟩ | ⟨_, bound, _⟩
      · rw [(runs_ofExcept_iff.mp bound).1, (runs_pure_iff.mp last).1]
        rfl
      · exact (runs_ofExcept_iff.mp bound).1
    rw [nothing, List.append_nil]
    exact traces_claimJti payload _ _ claim
  · exact traces_claimJti payload _ _ claim

theorem traces_verifyDPoP (P : Platform) (input : VerifyDPoPInput) :
    Traces (Shaped config) (verifyDPoP P config.deps input) := by
  have quiet : Within isQuietOp (checkProof P config.deps input) :=
    within_checkProof trivial trivial P config.deps input
  exact shaped_bind (fun trace value run => quiet trace _ run) (traces_of_within quiet)
    fun proof => traces_finishProof P input proof.1 proof.2

end Shapes

def writesKey (key : String) : Event → Bool
  | ⟨.redisSet other _, _⟩ => other = key
  | _ => false

/-- A `DEL` that removed the key. -/
def removesKey (key : String) : Event → Bool
  | ⟨.redisDel other, .ok 1⟩ => other = key
  | _ => false

def drawsNonce (nonce : String) : Event → Bool
  | ⟨.generateDPoPNonce, drawn⟩ => drawn = nonce
  | _ => false

section Counting

variable {config : NonceProtected}

/-- In every part of a run so far, a nonce is written no more often than it was drawn. -/
def Balanced (config : NonceProtected) (nonce : String) (trace : List Event) : Prop :=
  ∀ part, part <+: trace →
    part.countP (writesKey (config.store.key nonce)) ≤ part.countP (drawsNonce nonce)

theorem balanced_nil (nonce : String) : Balanced config nonce [] := by
  intro part within
  rw [List.prefix_nil.mp within]
  exact Nat.le_refl _

theorem Balanced.cons {nonce : String} {trace : List Event} (balanced : Balanced config nonce trace)
    {event : Event} (other : writesKey (config.store.key nonce) event = false) :
    Balanced config nonce (event :: trace) := by
  intro part within
  rcases List.prefix_cons_iff.mp within with rfl | ⟨rest, rfl, inside⟩
  · exact Nat.le_refl _
  · have bound := balanced rest inside
    simp only [List.countP_cons, other, Bool.false_eq_true, ↓reduceIte]
    omega

theorem writesKey_of_quiet {event : Event} (quiet : isQuietOp event.op) (key : String) :
    writesKey key event = false := by
  obtain ⟨op, reply⟩ := event
  cases op <;> first | rfl | exact absurd quiet not_false

theorem key_injective {first second : String}
    (same : config.store.key first = config.store.key second) : first = second := by
  unfold RedisNonceStore.key at same
  exact String.append_right_inj _ |>.mp same

theorem balanced_of_shaped {trace : List Event} (shaped : Shaped config trace) (nonce : String) :
    Balanced config nonce trace := by
  obtain ⟨quiet, tail, rfl, silent, ending⟩ := shaped
  induction quiet with
  | nil =>
      rw [List.nil_append]
      rcases ending with rfl | ⟨drawn, reply, rfl⟩ | ⟨jti, reply, rfl⟩
      · exact balanced_nil nonce
      · intro part within
        rcases List.prefix_cons_iff.mp within with rfl | ⟨rest, rfl, inside⟩
        · exact Nat.le_refl _
        · rcases List.prefix_cons_iff.mp inside with rfl | ⟨last, rfl, atEnd⟩
          · simp [writesKey]
          · rw [List.prefix_nil.mp atEnd]
            by_cases own : config.store.key drawn = config.store.key nonce
            · simp [writesKey, drawsNonce, key_injective own]
            · simp [writesKey, own]
      · apply (balanced_nil nonce).cons
        have other := config.separate nonce jti
        simp [writesKey, Ne.symm other]
  | cons event rest ih =>
      apply (ih fun inner member => silent inner (List.mem_cons_of_mem event member)).cons
      exact writesKey_of_quiet (silent event List.mem_cons_self) _

theorem countP_redisCommands {Thread : Type} (history : History runtime Thread)
    (ofCommand : ExpiringStore.Command String → Bool) (ofEvent : Event → Bool)
    (agree : ∀ event, ofEvent event = ((redisCommand event).map ofCommand).getD false) :
    (redisCommands history).countP (fun command => ofCommand command.2) =
      history.countP (fun step => ofEvent step.event) := by
  induction history with
  | nil => rfl
  | cons step rest ih =>
      have here := agree step.event
      rw [List.countP_cons, ← ih, here]
      cases sent : redisCommand step.event with
      | none =>
          have skipped : redisCommands (step :: rest) = redisCommands rest := by
            simp [redisCommands, sent]
          simp [skipped]
      | some command =>
          have first : redisCommands (step :: rest) =
              (step.time, command) :: redisCommands rest := by
            simp [redisCommands, sent]
          rw [first, List.countP_cons]
          simp

theorem removesKey_eq (key : String) (event : Event) :
    removesKey key event =
      ((redisCommand event).map (ExpiringStore.Removes key)).getD false := by
  obtain ⟨op, reply⟩ := event
  cases op with
  | redisDel other =>
      change Except Fault Nat at reply
      cases reply with
      | error fault => simp [removesKey, redisCommand, ExpiringStore.Removes, Except.toOption]
      | ok count =>
          by_cases one : count = 1
          · subst one
            simp [removesKey, redisCommand, ExpiringStore.Removes, Except.toOption]
          · simp [removesKey, redisCommand, ExpiringStore.Removes, Except.toOption, one]
  | redisSet other ttl => rfl
  | _ => rfl

theorem writesKey_eq (key : String) (event : Event) :
    writesKey key event =
      ((redisCommand event).map (ExpiringStore.Attempts key)).getD false := by
  obtain ⟨op, reply⟩ := event
  cases op <;> rfl

/-- A Redis that was empty removes a key no more often than it was sent a `SET` of it. -/
theorem removals_le_writes {Thread : Type} {history : History runtime Thread}
    (redis : RedisServes history) (key : String) :
    history.countP (fun step => removesKey key step.event) ≤
      history.countP (fun step => writesKey key step.event) := by
  obtain ⟨final, served⟩ := redis
  have bound := served.removals_le_attempts key
  rwa [countP_redisCommands history _ _ (removesKey_eq key),
    countP_redisCommands history _ _ (writesKey_eq key)] at bound

end Counting

/-- Concurrent calls of one verifier, each of them finished or in progress. Every command
runs at a time of its own; nothing is assumed about these times or about the clocks. -/
structure NonceRun (P : Platform) (config : NonceProtected) (Thread : Type)
    [DecidableEq Thread] where
  history : History runtime Thread
  input : Thread → VerifyDPoPInput
  running : ∀ thread, (verifyDPoP P config.deps (input thread)).Performs (history.trace thread)
  redis : RedisServes history
  fresh : ∀ nonce, history.countP (fun step => drawsNonce nonce step.event) ≤ 1

namespace NonceRun

variable {P : Platform} {config : NonceProtected} {Thread : Type} [DecidableEq Thread]
variable (run : NonceRun P config Thread)

def Accepts (thread : Thread) : Prop :=
  ∃ result, Runs (verifyDPoP P config.deps (run.input thread)) (run.history.trace thread)
    (.ok result)

/-- A challenge drew the nonce and sent it to the store. -/
def Challenged (config : NonceProtected) (history : History runtime Thread) (nonce : String) :
    Prop :=
  ∃ drawn ∈ history, ∃ stored ∈ history, drawn.thread = stored.thread ∧
    drawsNonce nonce drawn.event = true ∧
    writesKey (config.store.key nonce) stored.event = true

/-- The call removed the nonce its proof carries, after a challenge had issued it. -/
def Consumes (thread : Thread) (nonce : String) : Prop :=
  (∃ claims value, P.decodeJwt (run.input thread).dpopProof = .ok claims ∧
    claims.get? "nonce" = some value ∧ value.toText = nonce) ∧
  ∃ before step after, run.history = before ++ step :: after ∧ step.thread = thread ∧
    removesKey (config.store.key nonce) step.event = true ∧ Challenged config before nonce

/-- In a part of the history, each thread writes a nonce no more often than it drew it. -/
theorem steps_balanced {part rest : History runtime Thread} (split : run.history = part ++ rest)
    (nonce : String) (thread : Thread) :
    (History.steps part thread).countP
        (fun step => writesKey (config.store.key nonce) step.event) ≤
      (History.steps part thread).countP (fun step => drawsNonce nonce step.event) := by
  have running := run.running thread
  rw [split] at running
  obtain ⟨more, result, whole⟩ := History.performs_prefix running
  have balanced := balanced_of_shaped (traces_verifyDPoP P _ _ _ whole) nonce
  have bound := balanced (History.trace part thread) (List.prefix_append _ more)
  rwa [History.trace, List.countP_map, List.countP_map] at bound

/-- No nonce is removed twice in a run. -/
theorem removals_le_one (nonce : String) :
    run.history.countP (fun step => removesKey (config.store.key nonce) step.event) ≤ 1 := by
  have removed := removals_le_writes run.redis (config.store.key nonce)
  have written := History.countP_le_of_steps run.history _ _
    (run.steps_balanced (List.append_nil run.history).symm nonce)
  exact Nat.le_trans removed (Nat.le_trans written (run.fresh nonce))

/-- What is removed was issued before. -/
theorem challenged_before {before after : History runtime Thread} {step : Step runtime Thread}
    {nonce : String} (split : run.history = before ++ step :: after)
    (removes : removesKey (config.store.key nonce) step.event = true) :
    Challenged config before nonce := by
  obtain ⟨final, served⟩ := run.redis
  have untilNow : RedisServes (before ++ [step]) := by
    rw [split, ← List.singleton_append, ← List.append_assoc, redisCommands_append,
      ExpiringStore.serves_append_iff] at served
    obtain ⟨middle, first, _⟩ := served
    exact ⟨middle, first⟩
  have removed := removals_le_writes untilNow (config.store.key nonce)
  have notWrite : writesKey (config.store.key nonce) step.event = false := by
    obtain ⟨thread, time, op, reply⟩ := step
    cases op <;> first | rfl | cases removes
  rw [List.countP_append, List.countP_append] at removed
  simp only [List.countP_singleton, removes, notWrite, ↓reduceIte, Bool.false_eq_true] at removed
  have some_write : 0 < before.countP
      (fun step => writesKey (config.store.key nonce) step.event) := by
    omega
  obtain ⟨stored, member, writes⟩ := List.countP_pos_iff.mp some_write
  -- the thread that wrote it had drawn it
  have own : 0 < (History.steps before stored.thread).countP
      (fun step => writesKey (config.store.key nonce) step.event) :=
    List.countP_pos_iff.mpr ⟨stored, History.mem_steps.mpr ⟨member, rfl⟩, writes⟩
  have balanced := run.steps_balanced split nonce stored.thread
  obtain ⟨drawn, inside, draws⟩ := List.countP_pos_iff.mp (Nat.lt_of_lt_of_le own balanced)
  obtain ⟨earlier, same⟩ := History.mem_steps.mp inside
  exact ⟨drawn, earlier, stored, member, same, draws, writes⟩

theorem consumes_of_accepts (agrees : P.PayloadAgrees) {thread : Thread}
    (accepts : run.Accepts thread) : ∃ nonce, run.Consumes thread nonce := by
  obtain ⟨result, whole⟩ := accepts
  obtain ⟨jwk, key, currentDate, payload, nowMs, jti, thumbprint, consuming, accepted, consume,
    shape, _⟩ := verifyDPoP_ok whole
  rcases consumeNonce_ok consume with ⟨off, _⟩ | ⟨_, store, nonce, present, carried, rfl⟩
  · rw [config.required] at off
    cases off
  · rw [config.hasStore] at present
    cases present
    have decoded := agrees _ _ _ _ accepted.signature
    have performed : (⟨.redisDel (config.store.key nonce.toText), .ok 1⟩ : Event) ∈
        run.history.trace thread := by
      rw [shape]
      simp
    obtain ⟨step, member, own, event⟩ := History.mem_trace.mp performed
    obtain ⟨before, after, split⟩ := List.append_of_mem member
    have removes : removesKey (config.store.key nonce.toText) step.event = true := by
      rw [event]
      simp [removesKey]
    exact ⟨nonce.toText, ⟨payload.claims, nonce, decoded, carried, rfl⟩, before, step, after,
      split, own, removes, run.challenged_before split removes⟩

theorem consumed_once {first second : Thread} {nonce : String} (one : run.Consumes first nonce)
    (two : run.Consumes second nonce) : first = second := by
  by_contra different
  have once := run.removals_le_one nonce
  have both := History.countP_two_threads run.history
    (fun step => removesKey (config.store.key nonce) step.event) different
  have removed : ∀ thread, run.Consumes thread nonce → 0 < (run.history.steps thread).countP
      (fun step => removesKey (config.store.key nonce) step.event) := by
    intro thread consumes
    obtain ⟨_, before, step, after, split, own, removes, _⟩ := consumes
    apply List.countP_pos_iff.mpr
    refine ⟨step, History.mem_steps.mpr ⟨?_, own⟩, removes⟩
    rw [split]
    simp
  have inFirst := removed first one
  have inSecond := removed second two
  omega

/-- No two calls accept one proof, which carries one nonce. -/
theorem accepted_once (agrees : P.PayloadAgrees) {first second : Thread}
    (firstAccepts : run.Accepts first) (secondAccepts : run.Accepts second)
    (same : (run.input first).dpopProof = (run.input second).dpopProof) : first = second := by
  obtain ⟨nonce, one⟩ := run.consumes_of_accepts agrees firstAccepts
  obtain ⟨nonce', two⟩ := run.consumes_of_accepts agrees secondAccepts
  have carried : nonce = nonce' := by
    obtain ⟨⟨claims, value, decoded, given, rfl⟩, _⟩ := one
    obtain ⟨⟨claims', value', decoded', given', rfl⟩, _⟩ := two
    rw [same, decoded'] at decoded
    cases decoded
    rw [given'] at given
    cases given
    rfl
  rw [← carried] at two
  exact run.consumed_once one two

/-- Every accepted proof consumed a nonce that was issued before, no two calls consumed
one nonce, and so no two calls accepted one proof. -/
theorem accepted_single_use (agrees : P.PayloadAgrees) :
    (∀ thread, run.Accepts thread → ∃ nonce, run.Consumes thread nonce) ∧
    (∀ first second nonce, run.Consumes first nonce → run.Consumes second nonce →
      first = second) ∧
    (∀ first second, run.Accepts first → run.Accepts second →
      (run.input first).dpopProof = (run.input second).dpopProof → first = second) := by
  refine ⟨?_, ?_, ?_⟩
  · intro thread
    exact run.consumes_of_accepts agrees
  · intro first second nonce
    exact run.consumed_once
  · intro first second
    exact run.accepted_once agrees

end NonceRun

section Handshake

/-- A client's first proof, without a nonce, and its second, with the nonce it was given. -/
def firstProof : JwtPayload := JwtPayload.ofClaims
  [("htm", .str "POST"), ("htu", .str "https://ledger/entries"), ("iat", .num 1000),
    ("jti", .str "jti-1")] rfl

def secondProof : JwtPayload := JwtPayload.ofClaims
  [("htm", .str "POST"), ("htu", .str "https://ledger/entries"), ("iat", .num 1000),
    ("jti", .str "jti-2"), ("nonce", .str "nonce-1")] rfl

def handshakeHeader : Obj :=
  [("typ", .str "dpop+jwt"), ("alg", .str "ES256"), ("jwk", .obj (TokenTable.jwkOf ⟨1⟩))]

def handshakeTable : TokenTable where
  tokens := [⟨"proof-1", handshakeHeader, firstProof, ⟨1⟩⟩,
    ⟨"proof-2", handshakeHeader, secondProof, ⟨1⟩⟩]

def handshakeInput (thread : Bool) : VerifyDPoPInput where
  dpopProof := if thread then "proof-2" else "proof-1"
  expectedHtm := "POST"
  expectedHtu := "https://ledger/entries"
  expectAth := false

abbrev defaultConfig : NonceProtected := NonceProtected.default none none none

def handshakeTrace : Bool → List Event
  | false => [⟨.date, 1000000⟩, ⟨.now, 1000000⟩, ⟨.generateDPoPNonce, "nonce-1"⟩,
      ⟨.redisSet "dpop:nonce:nonce-1" 300, .ok true⟩]
  | true => [⟨.date, 1000000⟩, ⟨.now, 1000000⟩, ⟨.redisDel "dpop:nonce:nonce-1", .ok 1⟩,
      ⟨.redisSet "dpop:jti:jti-2" 120, .ok true⟩]

theorem handshake_checked (thread : Bool) :
    CheckedProof handshakeTable.platform defaultConfig.deps (handshakeInput thread)
      (.obj (TokenTable.jwkOf ⟨1⟩)) ⟨1⟩ 1000000 (if thread then secondProof else firstProof)
      1000000 where
  header := by
    cases thread <;> exact ⟨handshakeHeader, rfl, rfl⟩
  imported := rfl
  signature := by cases thread <;> rfl
  methodAndUrl := by cases thread <;> rfl
  fresh := by cases thread <;> exact checkIat_ok_iff.mpr (by decide +kernel)
  ath := rfl

theorem handshake_accepted :
    ∃ result, Runs (verifyDPoP handshakeTable.platform defaultConfig.deps (handshakeInput true))
      (handshakeTrace true) (.ok result) := by
  have accepted : AcceptedProof handshakeTable.platform defaultConfig.deps
      (handshakeInput true) (.obj (TokenTable.jwkOf ⟨1⟩)) ⟨1⟩ 1000000 secondProof 1000000
      (.str "jti-2") "thumbprint-1" := {
    toCheckedProof := handshake_checked true
    jtiClaim := rfl
    jtiTruthy := rfl
    computed := rfl
    binding := rfl }
  have consume : Runs (consumeNonce defaultConfig.deps secondProof)
      [⟨.redisDel "dpop:nonce:nonce-1", .ok 1⟩] (.ok ()) := by
    have echoed : secondProof.claims.get? "nonce" = some (.str "nonce-1") := rfl
    exact consumeNonce_runs rfl defaultConfig.hasStore echoed rfl
  exact ⟨_, accepted.runs consume⟩

theorem handshake_runs (thread : Bool) :
    ∃ outcome, Runs (verifyDPoP handshakeTable.platform defaultConfig.deps (handshakeInput thread))
      (handshakeTrace thread) outcome := by
  cases thread with
  | false =>
      have challenge : Runs (consumeNonce defaultConfig.deps firstProof)
          [⟨.generateDPoPNonce, "nonce-1"⟩, ⟨.redisSet "dpop:nonce:nonce-1" 300, .ok true⟩]
          (.error (nonceChallenge "nonce-1")) :=
        issueChallenge_runs_iff.mpr ⟨"nonce-1", .ok true, rfl, rfl⟩
      exact ⟨_, (handshake_checked false).runs (Runs.bind_error challenge)⟩
  | true =>
      obtain ⟨result, run⟩ := handshake_accepted
      exact ⟨.ok result, run⟩

/-- The two calls of one client, one after the other. -/
def handshakeRun : NonceRun handshakeTable.platform defaultConfig Bool where
  history := (handshakeTrace false).map (fun event => ⟨false, 1000000, event⟩) ++
    (handshakeTrace true).map (fun event => ⟨true, 1000000, event⟩)
  input := handshakeInput
  running thread := by
    obtain ⟨outcome, run⟩ := handshake_runs thread
    cases thread <;> exact run.performs
  redis := by
    refine ⟨_, .cons (.stored ?_ (by decide)) (.cons (.removed ?_ (.inl rfl))
      (.cons (.stored ?_ (by decide)) (.nil _)))⟩
    · rintro ⟨_, impossible, _⟩
      cases impossible
    · exact ⟨1300000, by decide, by decide⟩
    · rintro ⟨_, impossible, _⟩
      simp [ExpiringStore.State.empty, Function.update] at impossible
  fresh nonce := by
    simp [handshakeTrace, drawsNonce, List.countP_cons]
    split <;> omega

/-- The second call of the handshake consumed a nonce, and did so alone. -/
theorem handshake_single_use :
    (∃ nonce, handshakeRun.Consumes true nonce) ∧
      ∀ nonce, handshakeRun.Consumes true nonce → ¬ handshakeRun.Consumes false nonce := by
  obtain ⟨consumes, once, _⟩ := handshakeRun.accepted_single_use handshakeTable.platform_agrees
  constructor
  · obtain ⟨result, run⟩ := handshake_accepted
    exact consumes true ⟨result, run⟩
  · intro nonce second first
    cases once true false nonce second first

end Handshake

end S2s
