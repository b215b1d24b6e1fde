import S2sStack.Authz.Authorize
import S2sStack.Cache.Overlap

set_option autoImplicit false

/- `authorize` where calls overlap: the decision cache is read before the policy engine is asked,
and written when it has answered. -/
namespace S2s

open Memo (Call Log Turn Table)

/-- What one `authorize` does for its callers. -/
abbrev DecisionLog (deps : AuthorizeDeps) := Log (memo deps)

/-- A call has returned this. -/
def DecisionLog.Returned {deps : AuthorizeDeps} (log : DecisionLog deps) (now : Nat)
    (input : AuthorizeInput) (reply : Except Fault AuthorizationResult) : Prop :=
  ∃ turn ∈ log.turns, turn.time = now ∧ ∃ result, turn.Gives input result ∧
    reply = result.map rendered

/-- Calls of `authorize` one after the other are such a log. -/
theorem exists_decisionLog (deps : AuthorizeDeps) {calls : List (Call AuthorizeInput)}
    (ordered : calls.Pairwise fun earlier later => earlier.now ≤ later.now) :
    ∃ log : DecisionLog deps, log.last = ⟨cacheAfter deps calls, []⟩ ∧
      ∀ before call rest, calls = before ++ call :: rest →
        log.Returned call.now call.input (authorize deps (cacheAfter deps before) call).1 := by
  obtain ⟨log, last, _, given⟩ := Memo.exists_log (memo deps) ordered
  refine ⟨log, by rw [last, cacheAfter_eq_after], ?_⟩
  intro before call rest split
  obtain ⟨turn, member, now, gives⟩ := given before call rest split
  rw [authorize_eq_ask, cacheAfter_eq_after]
  exact ⟨turn, member, now, _, gives, rfl⟩

/-- A decision that a call returns was right for its key lately. -/
theorem DecisionLog.Returned.decided {deps : AuthorizeDeps} {log : DecisionLog deps}
    {latency now : Nat} {input : AuthorizeInput} {reply : AuthorizationResult}
    (returned : log.Returned now input (.ok reply)) (prompt : log.Prompt latency) :
    ∃ asked moment storedAt result, .ended asked moment storedAt (.ok result) ∈ log.turns ∧
      cacheKey asked.input = cacheKey input ∧
      policyDecision deps moment asked.input = .ok result ∧ result.decision = reply.decision ∧
      moment ≤ now ∧ now < moment + latency + max deps.ttl 1 := by
  obtain ⟨turn, member, rfl, result, gives, same⟩ := returned
  cases result with
  | error fault => cases same
  | ok served =>
      cases same
      obtain ⟨asked, moment, storedAt, inside, key, computed, past, young⟩ :=
        log.right_lately prompt member gives
      exact ⟨asked, moment, storedAt, served.answer, inside, key, computed,
        (rendered_decision served).symm, past, young⟩

section Keys

/-- What stands before the first colon. -/
theorem colon_free_inj {first second rest other : List Char} (plain : ':' ∉ first)
    (plain' : ':' ∉ second) (same : first ++ ':' :: rest = second ++ ':' :: other) :
    first = second := by
  induction first generalizing second with
  | nil =>
      cases second with
      | nil => rfl
      | cons c tail =>
          cases same
          exact absurd List.mem_cons_self plain'
  | cons c tail ih =>
      cases second with
      | nil =>
          cases same
          exact absurd List.mem_cons_self plain
      | cons d more =>
          obtain ⟨rfl, rest⟩ := List.cons.inj same
          rw [ih (fun inside => plain (List.mem_cons_of_mem _ inside))
            (fun inside => plain' (List.mem_cons_of_mem _ inside)) rest]

/-- Users without a colon in their `sub` share no cache entry. -/
theorem sub_eq_of_cacheKey {one other : AuthorizeInput} {sub sub' : String}
    (principal : one.principal = "ServicePrincipal::" ++ sub)
    (principal' : other.principal = "ServicePrincipal::" ++ sub') (plain : ':' ∉ sub.toList)
    (plain' : ':' ∉ sub'.toList) (same : cacheKey one = cacheKey other) : sub = sub' := by
  have chars := congrArg String.toList same
  simp only [cacheKey, principal, principal', String.toList_append, List.append_assoc,
    List.append_cancel_left_eq] at chars
  exact String.toList_inj.mp (colon_free_inj plain plain' chars)

end Keys

/-- The `authorize` that the services build: AVP decides, and nothing else where it fails. -/
def serviceAuthorizer (policyStoreId : String)
    (avpClient : Nat → AvpRequest → Except Fault AvpResponse) : AuthorizeDeps where
  avpClient := avpClient
  cedarLocal _ query := cedarEvaluate [] query
  mode := .avpApi
  policyStoreId := policyStoreId
  fallbackToLocal := false
  cacheTtlMs := none

section Service

variable {policyStoreId : String} {avpClient : Nat → AvpRequest → Except Fault AvpResponse}

theorem policyDecision_service (moment : Nat) (input : AuthorizeInput) :
    policyDecision (serviceAuthorizer policyStoreId avpClient) moment input =
      askAvp (serviceAuthorizer policyStoreId avpClient) moment input := by
  have mode : (serviceAuthorizer policyStoreId avpClient).mode = .avpApi := rfl
  rw [policyDecision, mode]
  dsimp only
  cases askAvp (serviceAuthorizer policyStoreId avpClient) moment input with
  | ok result => rfl
  | error err => rfl

/-- AVP allows the call at this moment. -/
def AvpAllows (policyStoreId : String) (avpClient : Nat → AvpRequest → Except Fault AvpResponse)
    (moment : Nat) (input : AuthorizeInput) : Prop :=
  ∃ response, avpClient moment (avpRequest (serviceAuthorizer policyStoreId avpClient) input) =
    .ok response ∧ response.decision = .allow

theorem avpAllows_of_decided {moment : Nat} {input : AuthorizeInput} {result : AuthorizationResult}
    (decided : policyDecision (serviceAuthorizer policyStoreId avpClient) moment input = .ok result)
    (allowed : result.decision = .allow) : AvpAllows policyStoreId avpClient moment input := by
  rw [policyDecision_service, askAvp] at decided
  split at decided
  · next response answered =>
      cases decided
      exact ⟨response, answered, allowed⟩
  · cases decided

end Service

section Bound

/-- A policy store that takes a permission back. -/
def permittedUntil (since moment : Nat) (_ : AvpRequest) : Except Fault AvpResponse :=
  .ok ⟨if moment < since then .allow else .deny, none⟩

theorem not_avpAllows_since {policyStoreId : String} {since moment : Nat} {input : AuthorizeInput}
    (late : since ≤ moment) :
    ¬ AvpAllows policyStoreId (permittedUntil since) moment input := by
  rintro ⟨response, answered, allowed⟩
  cases answered
  rw [if_neg (Nat.not_lt.mpr late)] at allowed
  cases allowed

/-- The permission is still used after a slow answer and the whole life of its entry. -/
theorem exists_late_decision (policyStoreId : String) (input : AuthorizeInput)
    (before latency : Nat) :
    ∃ log : DecisionLog (serviceAuthorizer policyStoreId (permittedUntil (before + 1))),
      log.Prompt latency ∧ ∃ reply, reply.decision = .allow ∧
        log.Returned (before + latency + 29999) input (.ok reply) := by
  let deps := serviceAuthorizer policyStoreId (permittedUntil (before + 1))
  let allowed : AuthorizationResult := { decision := .allow, reasons := [], mode := .api }
  let asked : Call AuthorizeInput := ⟨before, input⟩
  let again : Call AuthorizeInput := ⟨before + latency + 29999, input⟩
  have computed : policyDecision deps before input = .ok allowed := by
    rw [policyDecision_service]
    simp [askAvp, serviceAuthorizer, permittedUntil, allowed]
  let stored : Memo.Shared AuthorizeInput String AuthorizationResult :=
    ⟨Function.update Table.empty (cacheKey input) (some ⟨allowed, before + latency⟩), []⟩
  have began : Memo.Takes (memo deps) Memo.Shared.empty (.began asked) ⟨Table.empty, [asked]⟩ :=
    .began rfl
  have answered : Memo.Takes (memo deps) ⟨Table.empty, [asked]⟩
      (.ended asked before (before + latency) (.ok allowed)) stored :=
    .answered (List.Perm.refl _) (Nat.le_refl _) (Nat.le_add_right _ _) computed
  let entry : Memo.Entry AuthorizationResult := ⟨allowed, before + latency⟩
  have usable : Memo.live deps.ttl again.now (stored.table (cacheKey input)) = some entry := by
    refine Memo.live_eq_some.mpr ⟨Function.update_self _ _ _, ?_⟩
    change ((before + latency + 29999 : Nat) : Int) - (before + latency : Nat) < (30000 : Nat)
    omega
  have served : Memo.Takes (memo deps) stored (.found again entry.answer) stored := .found usable
  refine ⟨⟨_, stored, .cons began (.cons answered (.cons served (.nil _))), ?_⟩, ?_, ?_⟩
  · simp [Turn.time, asked, again]
    omega
  · intro call moment now result member
    simp only [List.mem_cons, reduceCtorEq, List.not_mem_nil, or_false, false_or,
      Turn.ended.injEq] at member
    obtain ⟨rfl, _, rfl, _⟩ := member
    exact Nat.le_refl _
  · exact ⟨_, rfl, .found again entry.answer, by simp, rfl, .ok (.stored entry.answer), ⟨rfl, rfl⟩,
      rfl⟩

end Bound

end S2s
