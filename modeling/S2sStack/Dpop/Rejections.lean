import S2sStack.Dpop.SingleUse
import S2sStack.Middleware.Refusals

set_option autoImplicit false

/- Which records a verification touches, and when it rejects a proof for its nonce or its
`jti`. -/
namespace S2s

open Effect Effect.Program
open Js (Json Obj)

/-- A rejection with this code. -/
def Fault.HasCode (code : ErrorCode) : Fault → Prop
  | .auth err => err.code = code
  | .error _ _ => False

/-- A rejection for the nonce or the `jti` of a proof. -/
def Fault.IsReplay (fault : Fault) : Prop :=
  fault.HasCode .useDpopNonce ∨ fault.HasCode .dpopNonceReuse

/-- Every command that was sent to Redis got a reply. -/
def AnswersRedis (trace : List Event) : Prop :=
  ∀ event ∈ trace, match event with
    | ⟨.redisSet _ _, reply⟩ => ∃ stored, reply = .ok stored
    | ⟨.redisDel _, reply⟩ => ∃ removed, reply = .ok removed
    | _ => True

theorem unauthorized_not_replay {code : ErrorCode} (message : String)
    (other : code ≠ .useDpopNonce) (other' : code ≠ .dpopNonceReuse) :
    ¬ (unauthorized code message).IsReplay := by
  rintro (same | same)
  · exact other same
  · exact other' same

theorem error_not_replay (code : Option String) (message : String) :
    ¬ (Fault.error code message).IsReplay := by
  rintro (impossible | impossible) <;> exact impossible

theorem AnswersRedis.left {first second : List Event} (answers : AnswersRedis (first ++ second)) :
    AnswersRedis first :=
  fun event member => answers event (List.mem_append_left _ member)

theorem AnswersRedis.right {first second : List Event} (answers : AnswersRedis (first ++ second)) :
    AnswersRedis second :=
  fun event member => answers event (List.mem_append_right _ member)

section Verification

variable {P : Platform} {config : NonceProtected} {input : VerifyDPoPInput} {payload : JwtPayload}
  {trace : List Event}

/-- The checks of a proof throw other errors. -/
theorem checkProof_throws (deps : VerifyDPoPDeps) :
    Throws (fun _ => True) (fun fault => ¬ fault.IsReplay) (checkProof P deps input) := by
  have replaced : ∀ {α : Type} (result : Except Fault α) message fault,
      replaceError (invalidProof message) result = .error fault → ¬ fault.IsReplay := by
    intro α result message fault failed
    cases result with
    | ok value => cases failed
    | error thrown =>
        cases failed
        exact unauthorized_not_replay message (by decide) (by decide)
  refine Throws.bind (Throws.ofExcept (replaced _ _)) fun header => ?_
  refine Throws.bind (Throws.ofExcept fun fault failed => ?_) fun jwk => ?_
  · unfold proofJwk at failed
    split at failed
    · split at failed
      · cases failed
      · cases failed
        exact unauthorized_not_replay _ (by decide) (by decide)
    · cases failed
      exact unauthorized_not_replay _ (by decide) (by decide)
  refine Throws.bind (Throws.ofExcept (replaced _ _)) fun key => ?_
  refine Throws.bind (Throws.reply _) fun currentDate => ?_
  refine Throws.bind (Throws.ofExcept (replaced _ _)) fun payload => ?_
  refine Throws.bind (Throws.ofExcept fun fault failed => ?_) fun _ => ?_
  · unfold checkMethodAndUrl at failed
    split at failed
    · cases failed
    · cases failed
      exact unauthorized_not_replay _ (by decide) (by decide)
  refine Throws.bind (Throws.reply _) fun nowMs => ?_
  refine Throws.bind (Throws.ofExcept fun fault failed => ?_) fun _ => ?_
  · unfold checkIat at failed
    split at failed
    · cases failed
      exact unauthorized_not_replay _ (by decide) (by decide)
    · cases failed
  refine Throws.bind (Throws.ofExcept fun fault failed => ?_) fun _ => Throws.returning _
  unfold checkAth at failed
  split at failed
  · cases failed
  · split at failed
    · cases failed
      exact error_not_replay _ _
    · split at failed
      · cases failed
      · cases failed
        exact unauthorized_not_replay _ (by decide) (by decide)

/-- A nonce that is asked for: either the proof has none, or it was not there to be consumed. -/
structure Asks (config : NonceProtected) (payload : JwtPayload) (trace : List Event)
    (fault : Fault) (consuming : List Event) (fresh : String) (reply : Except Fault Bool) :
    Prop where
  trace : trace = consuming ++ [⟨.generateDPoPNonce, fresh⟩,
    ⟨.redisSet (config.store.key fresh) config.store.ttl, reply⟩]
  fault : fault = nonceChallenge fresh
  consuming : (consuming = [] ∧ Js.truthy (payload.claims.get? "nonce") = false) ∨
    ∃ removed, removed ≠ 1 ∧ consuming =
      [⟨.redisDel (config.store.key (Js.toText (payload.claims.get? "nonce"))), .ok removed⟩]

theorem nonceChallenge_inj {first second : String} (filled : first ≠ "")
    (same : nonceChallenge first = nonceChallenge second) : first = second := by
  simp only [nonceChallenge, filled, ↓reduceIte, Fault.auth.injEq, AuthError.mk.injEq, true_and]
    at same
  split at same
  · cases same
  · exact Option.some.inj same

theorem Asks.unwritten {fault : Fault} {consuming : List Event} {fresh : String}
    {reply : Except Fault Bool} (asks : Asks config payload trace fault consuming fresh reply)
    {event : Event} (member : event ∈ consuming) (key : String) (ttl : Nat) :
    event.op ≠ .redisSet key ttl := by
  obtain ⟨rfl, _⟩ | ⟨removed, _, rfl⟩ := asks.consuming
  · cases member
  · cases List.mem_singleton.mp member
    intro impossible
    cases impossible

theorem consumeNonce_fails {fault : Fault}
    (run : Runs (consumeNonce config.deps payload) trace (.error fault))
    (answers : AnswersRedis trace) :
    ∃ consuming fresh reply, Asks config payload trace fault consuming fresh reply := by
  unfold consumeNonce at run
  simp only [config.required, config.hasStore, Bool.not_true, Bool.false_eq_true, ↓reduceIte] at run
  split at run
  · next missing =>
      obtain ⟨fresh, reply, rfl, same⟩ := issueChallenge_runs_iff.mp run
      cases same
      exact ⟨[], fresh, reply, rfl, rfl, .inl ⟨rfl, by simpa using missing⟩⟩
  · replace run := runs_bind_iff.mp run
    obtain ⟨consumed, before, after, rfl, consume, run⟩ | ⟨failed, consume, same⟩ := run
    · obtain ⟨reply, rfl, counted⟩ := RedisNonceStore.consume_runs_iff.mp consume
      split at run
      · cases (runs_pure_iff.mp run).2
      · next kept =>
          obtain ⟨fresh, stored, rfl, same⟩ := issueChallenge_runs_iff.mp run
          cases same
          cases reply with
          | error fault => cases counted
          | ok removed =>
              refine ⟨_, fresh, stored, rfl, rfl, .inr ⟨removed, ?_, rfl⟩⟩
              rintro rfl
              cases counted
              exact kept rfl
    · obtain ⟨reply, rfl, counted⟩ := RedisNonceStore.consume_runs_iff.mp consume
      obtain ⟨removed, rfl⟩ := answers ⟨.redisDel _, reply⟩ List.mem_cons_self
      cases counted

/-- A `jti` is refused where its record exists. -/
theorem claimJti_fails {deps : VerifyDPoPDeps} {fault : Fault}
    (run : Runs (claimJti deps payload) trace (.error fault)) (answers : AnswersRedis trace) :
    ¬ fault.IsReplay ∨ ∃ jti, payload.claims.get? "jti" = some jti ∧
      trace = [⟨.redisSet (deps.jtiKey jti) deps.nonceTtl, .ok false⟩] ∧
      fault = unauthorized .dpopNonceReuse "dpop jti replay" := by
  unfold claimJti at run
  split at run
  · next jti present =>
      split at run
      · obtain ⟨-, same⟩ := runs_throwing_iff.mp run
        cases same
        exact .inl (unauthorized_not_replay _ (by decide) (by decide))
      · replace run := runs_bind_iff.mp run
        obtain ⟨ok, before, after, rfl, set, run⟩ | ⟨failed, set, same⟩ := run
        · rw [Act.runs_redisSet_iff] at set
          subst set
          cases ok with
          | true => cases (runs_pure_iff.mp run).2
          | false =>
              obtain ⟨rfl, same⟩ := runs_throwing_iff.mp run
              cases same
              exact .inr ⟨jti, present, rfl, rfl⟩
        · rw [Act.runs_redisSet_iff] at set
          subst set
          obtain ⟨_, impossible⟩ := answers ⟨.redisSet _ _, .error failed⟩ List.mem_cons_self
          cases impossible
  · obtain ⟨-, same⟩ := runs_throwing_iff.mp run
    cases same
    exact .inl (unauthorized_not_replay _ (by decide) (by decide))

theorem boundThumbprint_fails (library : P.ThrowsPlain) {jwk : Json} {fault : Fault}
    (failed : boundThumbprint P input jwk = .error fault) : ¬ fault.IsReplay := by
  unfold boundThumbprint at failed
  split at failed
  · next computed =>
      cases failed
      have plain := library.thumbprint _ _ computed
      cases fault with
      | auth err => exact plain.elim
      | error code message => exact error_not_replay code message
  · split at failed
    · next unbound =>
        cases failed
        unfold checkBinding at unbound
        simp only at unbound
        split at unbound
        · cases unbound
          exact unauthorized_not_replay _ (by decide) (by decide)
        · split at unbound
          · cases unbound
            exact unauthorized_not_replay _ (by decide) (by decide)
          · cases unbound
    · cases failed

/-- Why and how a verification rejects a proof for its nonce or its `jti`. -/
inductive Rejected (config : NonceProtected) (payload : JwtPayload) (trace : List Event)
    (fault : Fault) : Prop
  | asked (consuming : List Event) (fresh : String) (reply : Except Fault Bool) :
      Asks config payload trace fault consuming fresh reply → Rejected config payload trace fault
  | reused (nonce jti : Json) : payload.claims.get? "nonce" = some nonce →
      payload.claims.get? "jti" = some jti →
      trace = [⟨.redisDel (config.store.key nonce.toText), .ok 1⟩,
        ⟨.redisSet (config.deps.jtiKey jti) config.deps.nonceTtl, .ok false⟩] →
      fault = unauthorized .dpopNonceReuse "dpop jti replay" →
      Rejected config payload trace fault

theorem verifyDPoP_rejected (library : P.ThrowsPlain) {fault : Fault}
    (run : Runs (verifyDPoP P config.deps input) trace (.error fault)) (replay : fault.IsReplay)
    (answers : AnswersRedis trace) :
    ∃ jwk key currentDate payload nowMs rest,
      CheckedProof P config.deps input jwk key currentDate payload nowMs ∧
      trace = ⟨.date, currentDate⟩ :: ⟨.now, nowMs⟩ :: rest ∧
      Rejected config payload rest fault := by
  rw [verifyDPoP, runs_bind_iff] at run
  obtain ⟨⟨jwk, payload⟩, before, rest, rfl, check, run⟩ | ⟨failed, check, same⟩ := run
  · obtain ⟨key, currentDate, nowMs, checked, rfl⟩ := checkProof_ok_iff.mp check
    refine ⟨jwk, key, currentDate, payload, nowMs, rest, checked, rfl, ?_⟩
    replace answers := answers.right
    dsimp only at run
    rw [finishProof, runs_bind_iff] at run
    obtain ⟨_, consuming, claiming, rfl, consume, run⟩ | ⟨failed, consume, same⟩ := run
    · obtain ⟨off, _⟩ | ⟨_, store, nonce, present, carried, rfl⟩ := consumeNonce_ok consume
      · rw [config.required] at off
        cases off
      · rw [config.hasStore] at present
        cases present
        rw [runs_bind_iff] at run
        obtain ⟨jti, before, after, rfl, claim, run⟩ | ⟨failed, claim, same⟩ := run
        · exfalso
          cases bound : boundThumbprint P input jwk with
          | ok thumbprint =>
              rw [bound] at run
              cases (runs_pure_iff.mp run).2
          | error failed =>
              rw [bound] at run
              obtain ⟨-, same⟩ := runs_done_iff.mp run
              cases same
              exact boundThumbprint_fails library bound replay
        · cases same
          obtain other | ⟨jti, claimed, rfl, rfl⟩ := claimJti_fails claim answers.right
          · exact absurd replay other
          · exact .reused nonce jti carried claimed rfl rfl
    · cases same
      obtain ⟨asking, fresh, reply, asks⟩ := consumeNonce_fails consume answers
      exact .asked asking fresh reply asks
  · cases same
    exact absurd replay (checkProof_throws config.deps trace fault check fun _ _ => trivial)

end Verification

section Commands

variable {P : Platform} {deps : VerifyDPoPDeps} {input : VerifyDPoPInput} {payload : JwtPayload}
  {trace : List Event}

/-- The operations by which a nonce is consumed or issued. -/
def isNonceOp (deps : VerifyDPoPDeps) (payload : JwtPayload) (op : Op) : Prop :=
  op = .generateDPoPNonce ∨ ∃ store, deps.nonceStore = some store ∧
    ((∃ fresh, op = .redisSet (store.key fresh) store.ttl) ∨
      ∃ nonce, payload.claims.get? "nonce" = some nonce ∧ op = .redisDel (store.key nonce.toText))

def isClaimOp (deps : VerifyDPoPDeps) (payload : JwtPayload) (op : Op) : Prop :=
  ∃ jti, payload.claims.get? "jti" = some jti ∧ op = .redisSet (deps.jtiKey jti) deps.nonceTtl

theorem issueChallenge_within {α : Type} {store : RedisNonceStore}
    (present : deps.nonceStore = some store) :
    Within (isNonceOp deps payload) (issueChallenge store : Act α) := by
  intro trace outcome run event member
  obtain ⟨fresh, reply, rfl, _⟩ := issueChallenge_runs_iff.mp run
  obtain rfl | issued := List.mem_cons.mp member
  · exact .inl rfl
  · cases List.mem_singleton.mp issued
    exact .inr ⟨store, present, .inl ⟨fresh, rfl⟩⟩

theorem consumeNonce_within (deps : VerifyDPoPDeps) (payload : JwtPayload) :
    Within (isNonceOp deps payload) (consumeNonce deps payload) := by
  unfold consumeNonce
  split
  · exact Within.done _
  · split
    · exact Within.done _
    · next store present =>
        dsimp only
        split
        · exact issueChallenge_within present
        · next given =>
            cases carried : payload.claims.get? "nonce" with
            | none => simp [carried, Js.truthy] at given
            | some nonce =>
                have deletion : isNonceOp deps payload
                    (.redisDel (store.key (Js.toText (some nonce)))) :=
                  .inr ⟨store, present, .inr ⟨nonce, carried, rfl⟩⟩
                refine Within.bind (Within.bind (Within.command deletion) fun _ => Within.done _)
                  fun consumed => ?_
                split
                · exact Within.done _
                · exact issueChallenge_within present

theorem claimJti_within (deps : VerifyDPoPDeps) (payload : JwtPayload) :
    Within (isClaimOp deps payload) (claimJti deps payload) := by
  unfold claimJti
  split
  · next jti present =>
      split
      · exact Within.done _
      · refine Within.bind (Within.command ⟨jti, present, rfl⟩) fun ok => ?_
        split
        · exact Within.done _
        · exact Within.done _
  · exact Within.done _

/-- Every command of a verification is about the nonce or the `jti` of its proof, or issues a
nonce. -/
theorem verifyDPoP_command (agrees : P.PayloadAgrees)
    {outcome : Except Fault DPoPVerificationResult}
    (run : Runs (verifyDPoP P deps input) trace outcome) {event : Event}
    (member : event ∈ trace) (sent : event.op ≠ Op.date ∧ event.op ≠ Op.now) :
    ∃ payload, P.decodeJwt input.dpopProof = .ok payload.claims ∧
      (isNonceOp deps payload event.op ∨ isClaimOp deps payload event.op) := by
  rw [verifyDPoP] at run
  have quiet : Within (fun op : Op => op = .date ∨ op = .now) (checkProof P deps input) :=
    within_checkProof (.inl rfl) (.inr rfl) P deps input
  obtain ⟨⟨jwk, payload⟩, before, after, rfl, check, rest, inRest⟩ := run.skip quiet member (by
    rintro (same | same)
    · exact sent.1 same
    · exact sent.2 same)
  obtain ⟨key, currentDate, nowMs, checked, rfl⟩ := checkProof_ok_iff.mp check
  refine ⟨payload, agrees _ _ _ _ checked.signature, ?_⟩
  have finishing : Within (fun op : Op => isNonceOp deps payload op ∨ isClaimOp deps payload op)
      (finishProof P deps input jwk payload) := by
    refine Within.bind ((consumeNonce_within deps payload).mono fun _ => .inl) fun _ => ?_
    refine Within.bind ((claimJti_within deps payload).mono fun _ => .inr) fun jti => ?_
    exact Within.bind (Within.ofExcept _) fun _ => Within.done _
  exact finishing _ _ rest event inRest

end Commands

end S2s
