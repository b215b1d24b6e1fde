import S2sStack.Runtime

set_option autoImplicit false

/- `dpop/dpopNonce.ts`: nonces kept in Redis until they are consumed or expire. -/
namespace S2s

open Effect Effect.Program

/-- The options of `createRedisNonceStore`. -/
structure RedisNonceStore where
  ttlSeconds : Option Nat := none
  prefix? : Option String := none

namespace RedisNonceStore

def ttl (store : RedisNonceStore) : Nat := store.ttlSeconds.getD 300

def key (store : RedisNonceStore) (nonce : String) : String :=
  store.prefix?.getD "dpop:nonce:" ++ nonce

def issue (store : RedisNonceStore) (nonce : String) : Act Unit := do
  let ok ← Act.redisSet (store.key nonce) store.ttl
  if ok then return () else Act.fail (plainError "nonce collision (already issued)")

def consume (store : RedisNonceStore) (nonce : String) : Act Bool := do
  let removed ← Act.redisDel (store.key nonce)
  return removed = 1

theorem issue_runs {store : RedisNonceStore} {nonce : String} {trace : List Event}
    {outcome : Except Fault Unit} (run : Runs (store.issue nonce) trace outcome) :
    ∃ reply, trace = [⟨.redisSet (store.key nonce) store.ttl, reply⟩] := by
  rw [issue, runs_bind_iff] at run
  rcases run with ⟨ok, _, after, rfl, set, run⟩ | ⟨fault, set, _⟩
  · rw [Act.runs_redisSet_iff] at set
    subst set
    refine ⟨.ok ok, ?_⟩
    split at run
    · rw [(runs_pure_iff.mp run).1]
      rfl
    · rw [(runs_throwing_iff.mp run).1]
      rfl
  · exact ⟨.error fault, Act.runs_redisSet_iff.mp set⟩

theorem issue_total (store : RedisNonceStore) (nonce : String) (reply : Except Fault Bool) :
    ∃ outcome, Runs (store.issue nonce) [⟨.redisSet (store.key nonce) store.ttl, reply⟩] outcome := by
  cases reply with
  | error fault => exact ⟨.error fault, Runs.bind_error (Act.runs_redisSet_iff.mpr rfl)⟩
  | ok stored =>
      cases stored with
      | true => exact ⟨.ok (), Runs.bind (Act.runs_redisSet_iff.mpr rfl) (.done _)⟩
      | false =>
          exact ⟨.error (plainError "nonce collision (already issued)"),
            Runs.bind (Act.runs_redisSet_iff.mpr rfl) (.done _)⟩

theorem consume_runs_iff {store : RedisNonceStore} {nonce : String} {trace : List Event}
    {outcome : Except Fault Bool} :
    Runs (store.consume nonce) trace outcome ↔
      ∃ reply, trace = [⟨.redisDel (store.key nonce), reply⟩] ∧
        outcome = reply.map (fun removed => decide (removed = 1)) := by
  constructor
  · intro run
    rw [consume, runs_bind_iff] at run
    rcases run with ⟨removed, _, after, rfl, del, run⟩ | ⟨fault, del, rfl⟩
    · rw [Act.runs_redisDel_iff] at del
      subst del
      obtain ⟨rfl, rfl⟩ := runs_pure_iff.mp run
      exact ⟨.ok removed, rfl, rfl⟩
    · exact ⟨.error fault, Act.runs_redisDel_iff.mp del, rfl⟩
  · rintro ⟨reply, rfl, rfl⟩
    cases reply with
    | error fault => exact Runs.bind_error (Act.runs_redisDel_iff.mpr rfl)
    | ok removed => exact Runs.bind (Act.runs_redisDel_iff.mpr rfl) (.done _)

end RedisNonceStore

end S2s
