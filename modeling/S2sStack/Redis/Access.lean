import S2sStack.Dpop.SingleUse
import S2sStack.Effect.SharedStore
import S2sStack.Token.TokenCache

set_option autoImplicit false

/- The Redis commands of the sources, and what each does to the record under its key. -/
namespace S2s

open Effect Effect.Program

/-- A text, until the end of its life. -/
structure RedisRecord where
  value : String
  expiry : Nat

abbrev RedisCell := Option RedisRecord

def liveRecord (now : Millis) (cell : RedisCell) : Option RedisRecord :=
  cell.filter fun record => now < record.expiry

/-- What becomes of a command. -/
inductive Fate where
  | answered
  /-- The client sees an error; the command may have been applied. -/
  | lost (err : Fault) (applied : Bool)

structure RedisMoment where
  now : Millis
  fate : Fate

/-- What the client sees, and what is under the key then. -/
def RedisMoment.deliver {α : Type} (moment : RedisMoment) (cell : RedisCell)
    (served : Except Fault α × RedisCell) : Except Fault α × RedisCell :=
  match moment.fate with
  | .answered => served
  | .lost err applied => (.error err, if applied then served.2 else cell)

/-- The end of a life of `EX ttlSeconds`. -/
def redisExpiry (now : Millis) (ttlSeconds : Rat) : Except Fault Nat :=
  if !ttlSeconds.isInt then .error (plainError "ERR value is not an integer or out of range")
  else if ttlSeconds ≤ 0 then .error (plainError "ERR invalid expire time in 'set' command")
  else .ok (now + ttlSeconds.num.toNat * 1000)

/-- `SET key 1 EX ttlSeconds NX` -/
def redisSetNx (ttlSeconds : Nat) (moment : RedisMoment) (cell : RedisCell) :
    Except Fault Bool × RedisCell :=
  moment.deliver cell <|
    match redisExpiry moment.now ttlSeconds with
    | .error err => (.error err, cell)
    | .ok expiry =>
        match liveRecord moment.now cell with
        | some _ => (.ok false, cell)
        | none => (.ok true, some ⟨"1", expiry⟩)

/-- `SET key value EX ttlSeconds` -/
def redisSetEx (value : String) (ttlSeconds : Rat) (moment : RedisMoment) (cell : RedisCell) :
    Except Fault Unit × RedisCell :=
  moment.deliver cell <|
    match redisExpiry moment.now ttlSeconds with
    | .error err => (.error err, cell)
    | .ok expiry => (.ok (), some ⟨value, expiry⟩)

/-- `DEL key` -/
def redisDelete (moment : RedisMoment) (cell : RedisCell) : Except Fault Nat × RedisCell :=
  moment.deliver cell <|
    match liveRecord moment.now cell with
    | some _ => (.ok 1, none)
    | none => (.ok 0, cell)

/-- `GET key` -/
def redisRead (moment : RedisMoment) (cell : RedisCell) :
    Except Fault (Option String) × RedisCell :=
  moment.deliver cell (.ok ((liveRecord moment.now cell).map RedisRecord.value), cell)

def runtimeAccess : (op : Op) →
    Option (String × (RedisMoment → RedisCell → op.Reply × RedisCell))
  | .redisSet key ttlSeconds => some (key, redisSetNx ttlSeconds)
  | .redisDel key => some (key, redisDelete)
  | _ => none

/-- `JSON.stringify` of an entry, and `JSON.parse` of a text that is taken for one. -/
structure TokenTexts where
  stringify : CachedToken → String
  parse : String → Except Fault CachedToken

def TokenTexts.read (texts : TokenTexts) (raw : Except Fault (Option String)) :
    Except Fault (Option CachedToken) := do
  match ← raw with
  | none => return none
  | some text => return some (← texts.parse text)

def cacheAccess (texts : TokenTexts) : (op : CacheOp) →
    Option (String × (RedisMoment → RedisCell → op.Reply × RedisCell))
  | .redisSet key entry ttlSeconds => some (key, redisSetEx (texts.stringify entry) ttlSeconds)
  | .redisGet key => some (key, fun moment cell =>
      (texts.read (redisRead moment cell).1, (redisRead moment cell).2))
  | _ => none

/-- The moment at which each key expires. -/
def expiries (store : String → RedisCell) : ExpiringStore.State String :=
  fun key => (store key).map RedisRecord.expiry

section Applies

open ExpiringStore (Applies Live)

variable {store : String → RedisCell} {key : String}

theorem expiries_update (cell : RedisCell) :
    expiries (Function.update store key cell) =
      Function.update (expiries store) key (cell.map RedisRecord.expiry) := by
  funext other
  by_cases same : other = key
  · subst same
    simp [expiries]
  · simp [expiries, Function.update_of_ne same]

theorem expiries_update_self :
    expiries (Function.update store key (store key)) = expiries store := by
  rw [Function.update_eq_self]

theorem live_iff {now : Millis} :
    Live (expiries store) now key ↔ (liveRecord now (store key)).isSome := by
  unfold Live expiries liveRecord
  cases store key with
  | none => simp
  | some record => simp [Option.filter]

/-- A command is as good as applied or not where its reply is lost. -/
theorem deliver_applies {α : Type} (command : Option α → ExpiringStore.Command String)
    {moment : RedisMoment} {served : Except Fault α × RedisCell}
    (answered : Applies moment.now (expiries store) (command served.1.toOption)
      (expiries (Function.update store key served.2)))
    (applied : Applies moment.now (expiries store) (command none)
      (expiries (Function.update store key served.2)))
    (unapplied : Applies moment.now (expiries store) (command none) (expiries store)) :
    Applies moment.now (expiries store)
      (command (moment.deliver (store key) served).1.toOption)
      (expiries (Function.update store key (moment.deliver (store key) served).2)) := by
  obtain ⟨now, fate⟩ := moment
  cases fate with
  | answered => exact answered
  | lost err done =>
      cases done with
      | true => exact applied
      | false =>
          change Applies now (expiries store) (command none)
            (expiries (Function.update store key (store key)))
          rw [expiries_update_self]
          exact unapplied

theorem redisExpiry_ok {now ttlSeconds expiry : Nat}
    (ends : redisExpiry now ttlSeconds = .ok expiry) : expiry = now + ttlSeconds * 1000 := by
  unfold redisExpiry at ends
  split at ends
  · cases ends
  · split at ends
    · cases ends
    · cases ends
      rfl

/-- `SET … NX` is the set-if-absent of the expiring store. -/
theorem redisSetNx_applies (ttlSeconds : Nat) (moment : RedisMoment) :
    Applies moment.now (expiries store)
      (.set key (ttlSeconds * 1000) (redisSetNx ttlSeconds moment (store key)).1.toOption)
      (expiries (Function.update store key (redisSetNx ttlSeconds moment (store key)).2)) := by
  apply deliver_applies (fun reply => .set key (ttlSeconds * 1000) reply) ?_ ?_ .setLost
  all_goals
    split
    · rw [expiries_update_self]
      exact .setLost
    · rename_i expiry ends
      rw [redisExpiry_ok ends]
      split
      · rename_i record found
        have live : Live (expiries store) moment.now key := live_iff.mpr (by rw [found]; rfl)
        rw [expiries_update_self]
        exact .refused live (by simp [Except.toOption])
      · rename_i absent
        have dead : ¬ Live (expiries store) moment.now key := by
          rw [live_iff, absent]
          simp
        rw [expiries_update]
        exact .stored dead (by simp [Except.toOption])

/-- `DEL` is its delete. -/
theorem redisDelete_applies (moment : RedisMoment) :
    Applies moment.now (expiries store) (.del key (redisDelete moment (store key)).1.toOption)
      (expiries (Function.update store key (redisDelete moment (store key)).2)) := by
  apply deliver_applies (fun reply => .del key reply) ?_ ?_ .delLost
  all_goals
    split
    · rename_i record found
      have live : Live (expiries store) moment.now key := live_iff.mpr (by rw [found]; rfl)
      rw [expiries_update]
      exact .removed live (by simp [Except.toOption])
    · rename_i absent
      have dead : ¬ Live (expiries store) moment.now key := by
        rw [live_iff, absent]
        simp
      rw [expiries_update_self]
      exact .absent dead (by simp [Except.toOption])

end Applies

/-- A client of Redis. -/
abbrev RedisClient := Client String RedisCell RedisMoment Fault

abbrev runtimeClient {α : Type} (program : Act α) : RedisClient :=
  ⟨runtime, α, program, runtimeAccess⟩

abbrev cacheClient {α : Type} (texts : TokenTexts) (program : Caching α) : RedisClient :=
  ⟨tokenCaching, α, program, cacheAccess texts⟩

section Histories

variable {Thread : Type} {Answer : Thread → Type}
  {program : (thread : Thread) → Act (Answer thread)} [DecidableEq Thread]

abbrev runtimeClients (program : (thread : Thread) → Act (Answer thread)) : Thread → RedisClient :=
  fun thread => runtimeClient (program thread)

/-- A run of programs in front of Redis, as a history. -/
def historyOf (state : SharedStore (runtimeClients program))
    (turns : List (SharedTurn (runtimeClients program))) : History runtime Thread :=
  (state.log turns).map fun entry => ⟨entry.1, entry.2.1.now, entry.2.2⟩

theorem historyOf_cons (state : SharedStore (runtimeClients program))
    (turn : SharedTurn (runtimeClients program))
    (rest : List (SharedTurn (runtimeClients program))) :
    historyOf state (turn :: rest) =
      (Client.performs turn.2 (state.progress turn.1) state.store).toList.map
          (Step.mk turn.1 turn.2.moment.now) ++ historyOf (state.step turn) rest := by
  unfold historyOf
  rw [SharedStore.log, List.map_append]
  cases Client.performs turn.2 (state.progress turn.1) state.store <;> rfl

/-- A step sends what the store makes of it. -/
theorem step_serves (state : SharedStore (runtimeClients program))
    (turn : SharedTurn (runtimeClients program)) :
    ExpiringStore.Serves (expiries state.store)
      (redisCommands ((Client.performs turn.2 (state.progress turn.1) state.store).toList.map
        (Step.mk turn.1 turn.2.moment.now)))
      (expiries (state.step turn).store) := by
  obtain ⟨thread, turn⟩ := turn
  rw [SharedStore.step_store]
  unfold Client.performs Client.take
  cases (state.progress thread).rest with
  | done result => exact .nil _
  | call op next =>
      cases op with
      | redisSet key ttlSeconds => exact .cons (redisSetNx_applies ttlSeconds turn.moment) (.nil _)
      | redisDel key => exact .cons (redisDelete_applies turn.moment) (.nil _)
      | _ => exact .nil _

theorem historyOf_serves (state : SharedStore (runtimeClients program))
    (turns : List (SharedTurn (runtimeClients program))) :
    ExpiringStore.Serves (expiries state.store) (redisCommands (historyOf state turns))
      (expiries (state.play turns).store) := by
  induction turns generalizing state with
  | nil => exact .nil _
  | cons turn rest ih =>
      rw [historyOf_cons, redisCommands_append, ExpiringStore.serves_append_iff]
      exact ⟨_, step_serves state turn, ih (state.step turn)⟩

/-- A run in front of an empty Redis is a history that Redis serves. -/
theorem historyOf_redisServes (turns : List (SharedTurn (runtimeClients program))) :
    RedisServes (historyOf (SharedStore.initial (runtimeClients program) fun _ => none) turns) :=
  ⟨_, historyOf_serves (SharedStore.initial (runtimeClients program) fun _ => none) turns⟩

theorem historyOf_trace (state : SharedStore (runtimeClients program))
    (turns : List (SharedTurn (runtimeClients program))) (thread : Thread) :
    ((state.play turns).progress thread).trace =
      (state.progress thread).trace ++ (historyOf state turns).trace thread := by
  induction turns generalizing state with
  | nil => exact (List.append_nil _).symm
  | cons turn rest ih =>
      rw [SharedStore.play_cons, ih, historyOf_cons, History.trace_append, History.trace_of_thread]
      by_cases mover : turn.1 = thread
      · subst mover
        rw [SharedStore.step_mover, Client.take_trace, if_pos rfl, List.append_assoc]
      · rw [SharedStore.step_bystander state (Ne.symm mover), if_neg mover, List.nil_append]

theorem reply_nonempty (op : Op) : Nonempty op.Reply := by
  have failed {α : Type} : Nonempty (Except Fault α) := ⟨.error (plainError "")⟩
  cases op with
  | now | date => exact ⟨(0 : Nat)⟩
  | timestamp | randomUUID | generateDPoPNonce => exact ⟨""⟩
  | setHeader _ _ | json _ _ | setAuth _ | next | incShadow _ _ => exact ⟨()⟩
  | _ => exact failed

/-- In the history each thread performs its program. -/
theorem historyOf_performs (store : String → RedisCell)
    (turns : List (SharedTurn (runtimeClients program))) (thread : Thread) :
    (program thread).Performs
      ((historyOf (SharedStore.initial (runtimeClients program) store) turns).trace thread) := by
  have trace := historyOf_trace (SharedStore.initial (runtimeClients program) store) turns thread
  have reached := SharedStore.initial_reached store turns thread
  have run := reached _ _ (Program.exec_runs (fun _ op => (reply_nonempty op).some) _ [])
  rw [trace] at run
  exact ⟨_, _, run⟩

/-- A verdict is the outcome of a run of the thread's program. -/
theorem historyOf_runs (store : String → RedisCell)
    (turns : List (SharedTurn (runtimeClients program))) {thread : Thread}
    {result : Except Fault (Answer thread)}
    (verdict : (((SharedStore.initial (runtimeClients program) store).play turns).progress
      thread).verdict = some result) :
    Runs (program thread)
      ((historyOf (SharedStore.initial (runtimeClients program) store) turns).trace thread)
      result := by
  have run := SharedStore.runs_of_verdict turns store verdict
  rw [historyOf_trace] at run
  exact run

end Histories

section NonceRuns

variable {P : Platform} {config : NonceProtected} {Thread : Type} [DecidableEq Thread]
  {input : Thread → VerifyDPoPInput}

/-- Calls of one verifier in front of an empty Redis. -/
def nonceVerifications (P : Platform) (config : NonceProtected)
    (input : Thread → VerifyDPoPInput) :
    SharedStore (runtimeClients fun thread => verifyDPoP P config.deps (input thread)) :=
  SharedStore.initial _ fun _ => none

/-- They are concurrent calls of a nonce-protected verifier. -/
def nonceRunOf (turns : List (SharedTurn
      (runtimeClients fun thread => verifyDPoP P config.deps (input thread))))
    (fresh : ∀ nonce, (historyOf (nonceVerifications P config input) turns).countP
      (fun step => drawsNonce nonce step.event) ≤ 1) : NonceRun P config Thread where
  history := historyOf (nonceVerifications P config input) turns
  input := input
  running := historyOf_performs _ turns
  redis := historyOf_redisServes turns
  fresh := fresh

/-- Where no nonce is drawn twice, no two calls accept one proof, whatever their order. -/
theorem verdicts_once (agrees : P.PayloadAgrees)
    (turns : List (SharedTurn
      (runtimeClients fun thread => verifyDPoP P config.deps (input thread))))
    (fresh : ∀ nonce, (historyOf (nonceVerifications P config input) turns).countP
      (fun step => drawsNonce nonce step.event) ≤ 1)
    {first second : Thread} {one two : DPoPVerificationResult}
    (accepted : (((nonceVerifications P config input).play turns).progress first).verdict =
      some (.ok one))
    (again : (((nonceVerifications P config input).play turns).progress second).verdict =
      some (.ok two))
    (same : (input first).dpopProof = (input second).dpopProof) : first = second := by
  have runOne := historyOf_runs (fun _ => none) turns accepted
  have runTwo := historyOf_runs (fun _ => none) turns again
  exact (nonceRunOf turns fresh).accepted_once agrees ⟨one, runOne⟩ ⟨two, runTwo⟩ same

end NonceRuns

end S2s
