import S2sStack.Effect.ExpiringStore
import S2sStack.Effect.History
import S2sStack.Runtime

set_option autoImplicit false

/- Concurrent verifiers in front of one Redis. -/
namespace S2s

open Effect (History)
open ExpiringStore (Command Serves)

/-- Texts differ that begin with texts of which neither begins with the other. -/
theorem append_ne (one other : String) (unlike : ¬ one.toList <+: other.toList)
    (unlike' : ¬ other.toList <+: one.toList) (first second : String) :
    one ++ first ≠ other ++ second := by
  intro same
  have lists : one.toList ++ first.toList = other.toList ++ second.toList := by
    rw [← String.toList_append, same, String.toList_append]
  have begins : other.toList <+: one.toList ++ first.toList := by
    rw [lists]
    exact List.prefix_append _ _
  rcases List.prefix_or_prefix_of_prefix (List.prefix_append _ first.toList) begins with
    within | within
  · exact unlike within
  · exact unlike' within

variable {Thread : Type}

/-- What Redis was sent and what the client saw of the reply. Lifetimes are in
milliseconds, and an error leaves open whether the command was applied. -/
def redisCommand : Event → Option (Command String)
  | ⟨.redisSet key ttlSeconds, reply⟩ => some (.set key (ttlSeconds * 1000) reply.toOption)
  | ⟨.redisDel key, reply⟩ => some (.del key reply.toOption)
  | _ => none

/-- The commands of a history, each at the time of its step. -/
def redisCommands (history : History runtime Thread) : List (Nat × Command String) :=
  history.filterMap (fun step =>
    (redisCommand step.event).map (fun command => (step.time, command)))

/-- The history is one that an initially empty Redis, executing one command after the
other, can serve. -/
def RedisServes (history : History runtime Thread) : Prop :=
  ∃ final, Serves ExpiringStore.State.empty (redisCommands history) final

/-- The clock every verifier reads is the time of the history. -/
def ReadsClock (history : History runtime Thread) : Prop :=
  ∀ step ∈ history, ∀ moment, step.event = ⟨.now, moment⟩ → moment = step.time

theorem redisCommands_append (first second : History runtime Thread) :
    redisCommands (first ++ second) = redisCommands first ++ redisCommands second :=
  List.filterMap_append

theorem mem_redisCommands {history : History runtime Thread} {time : Nat}
    {command : Command String} (member : (time, command) ∈ redisCommands history) :
    ∃ step ∈ history, step.time = time ∧ redisCommand step.event = some command := by
  simp only [redisCommands, List.mem_filterMap, Option.map_eq_some_iff, Prod.mk.injEq] at member
  obtain ⟨step, inside, found, same, moment, rfl⟩ := member
  exact ⟨step, inside, moment, same⟩

/-- A command that can remove a key is a `DEL` of that key. -/
theorem redisDel_of_deletes {event : Event} {command : Command String} {key : String}
    (sent : redisCommand event = some command) (deletes : ExpiringStore.Deletes key command) :
    event.op = .redisDel key := by
  obtain ⟨op, reply⟩ := event
  cases op with
  | redisSet other ttl =>
      cases sent
      exact absurd deletes (by simp [ExpiringStore.Deletes])
  | redisDel other =>
      cases sent
      exact congrArg Op.redisDel deletes
  | _ => cases sent

theorem redisSet_of_set {event : Event} {key : String} {lifetime : Nat} {reply : Option Bool}
    (sent : redisCommand event = some (.set key lifetime reply)) :
    ∃ ttlSeconds answer, event = ⟨.redisSet key ttlSeconds, answer⟩ ∧
      lifetime = ttlSeconds * 1000 ∧ reply = answer.toOption := by
  obtain ⟨op, answer⟩ := event
  cases op with
  | redisSet other ttlSeconds =>
      cases sent
      exact ⟨ttlSeconds, answer, rfl, rfl, rfl⟩
  | _ => cases sent

theorem redisCommands_cons {step : Effect.Step runtime Thread} {command : Command String}
    (sent : redisCommand step.event = some command) (rest : History runtime Thread) :
    redisCommands (step :: rest) = (step.time, command) :: redisCommands rest := by
  simp [redisCommands, sent]

section Records

variable {history before between after : History runtime Thread} {key : String} {ttl : Nat}
  {first second : Effect.Step runtime Thread} {secondTtl : Nat}

theorem redisCommands_claim {claimed : Bool} {step : Effect.Step runtime Thread}
    (event : step.event = ⟨.redisSet key ttl, .ok claimed⟩) (rest : History runtime Thread) :
    redisCommands (step :: rest) =
      (step.time, .set key (ttl * 1000) (some claimed)) :: redisCommands rest := by
  apply redisCommands_cons
  rw [event]
  rfl

/-- Where no call deletes a key, of two records accepted for it the later one is written when
the earlier one has expired. -/
theorem RedisServes.apart (served : RedisServes history)
    (kept : ∀ step ∈ history, step.event.op ≠ .redisDel key)
    (split : history = before ++ first :: between ++ second :: after)
    (firstEvent : first.event = ⟨.redisSet key ttl, .ok true⟩)
    (secondEvent : second.event = ⟨.redisSet key secondTtl, .ok true⟩) :
    first.time + ttl * 1000 ≤ second.time := by
  obtain ⟨final, served⟩ := served
  rw [split, redisCommands_append, redisCommands_append, redisCommands_claim firstEvent,
    redisCommands_claim secondEvent] at served
  apply served.sets_apart
  rintro ⟨time, command⟩ member deletes
  obtain ⟨step, inside, _, sent⟩ := mem_redisCommands member
  have deleted := redisDel_of_deletes sent deletes
  exact kept step (by simp [split, inside]) deleted

/-- A `DEL` within the life of a record, with no other `DEL` of it in between, removes it. -/
theorem RedisServes.removed_within (served : RedisServes history) {count : Nat}
    (split : history = before ++ first :: between ++ second :: after)
    (firstEvent : first.event = ⟨.redisSet key ttl, .ok true⟩)
    (secondEvent : second.event = ⟨.redisDel key, .ok count⟩)
    (kept : ∀ step ∈ between, step.event.op ≠ .redisDel key)
    (young : second.time < first.time + ttl * 1000) : count = 1 := by
  obtain ⟨final, served⟩ := served
  have deletion : redisCommand second.event = some (.del key (some count)) := by
    rw [secondEvent]
    rfl
  rw [split, redisCommands_append, redisCommands_append, redisCommands_claim firstEvent,
    redisCommands_cons deletion] at served
  apply served.removed_within _ young
  rintro ⟨time, command⟩ member deletes
  obtain ⟨step, inside, _, sent⟩ := mem_redisCommands member
  exact kept step inside (redisDel_of_deletes sent deletes)

/-- A record is refused only within the life of one before it. -/
theorem RedisServes.refused_by (served : RedisServes history)
    (split : history = before ++ second :: after)
    (event : second.event = ⟨.redisSet key ttl, .ok false⟩) :
    ∃ first ∈ before, ∃ earlier reply, first.event = ⟨.redisSet key earlier, reply⟩ ∧
      reply ≠ .ok false ∧ second.time < first.time + earlier * 1000 := by
  obtain ⟨final, served⟩ := served
  rw [split, redisCommands_append, redisCommands_claim event] at served
  obtain ⟨moment, lifetime, reply, stored, accepted, young⟩ := served.refused_by
  obtain ⟨first, member, rfl, sent⟩ := mem_redisCommands stored
  obtain ⟨ttlSeconds, answer, firstEvent, rfl, rfl⟩ := redisSet_of_set sent
  refine ⟨first, member, ttlSeconds, answer, firstEvent, ?_, young⟩
  rintro rfl
  exact accepted rfl

/-- Where no call deletes a key and no answer is lost, a record is accepted exactly if all those
accepted before it have expired. -/
theorem RedisServes.accepted_iff (served : RedisServes history)
    (kept : ∀ step ∈ history, step.event.op ≠ .redisDel key) {claimed : Bool}
    (split : history = before ++ second :: after)
    (event : second.event = ⟨.redisSet key secondTtl, .ok claimed⟩)
    (answers : ∀ first ∈ before, ∀ ttl reply, first.event = ⟨.redisSet key ttl, reply⟩ →
      ∃ claimed, reply = .ok claimed) :
    claimed = true ↔ ∀ first ∈ before, ∀ ttl, first.event = ⟨.redisSet key ttl, .ok true⟩ →
      first.time + ttl * 1000 ≤ second.time := by
  constructor
  · rintro rfl first member ttl firstEvent
    obtain ⟨early, between, rfl⟩ := List.append_of_mem member
    exact served.apart kept split firstEvent event
  · intro expired
    cases claimed with
    | true => rfl
    | false =>
        obtain ⟨first, member, ttl, reply, firstEvent, stored, young⟩ :=
          served.refused_by split event
        obtain ⟨earlier, rfl⟩ := answers first member ttl reply firstEvent
        have accepted : earlier = true := by
          cases earlier with
          | true => rfl
          | false => exact absurd rfl stored
        rw [accepted] at firstEvent
        have old := expired first member ttl firstEvent
        omega

end Records

end S2s
