import S2sStack.Authz.Authorize

set_option autoImplicit false

/- When the decision cache cannot be noticed. -/
namespace S2s

open Js (Json Obj)
open Memo (Call Table)

/-- Every call that returns gives a decision of the backend for its own input, at a
moment at most the cache lifetime before it. -/
def Transparent (deps : AuthorizeDeps) (calls : List (Call AuthorizeInput)) : Prop :=
  ∀ before call rest, calls = before ++ call :: rest → ∀ result,
    (authorize deps (cacheAfter deps before) call).1 = .ok result →
      ∃ moment ≤ call.now, call.now - moment ≤ deps.ttl ∧ ∃ given,
        policyDecision deps moment call.input = .ok given ∧
          given.decision = result.decision ∧ given.reasons = result.reasons

/-- Two inputs that the backend cannot tell apart: it is sent the same requests. -/
def SameQuestion (deps : AuthorizeDeps) (first second : AuthorizeInput) : Prop :=
  match deps.mode with
  | .avpApi => avpRequest deps first = avpRequest deps second ∧
      (deps.fallbackToLocal → localQuery first = localQuery second)
  | .localCedar => localQuery first = localQuery second

theorem policyDecision_congr {deps : AuthorizeDeps} {first second : AuthorizeInput}
    (same : SameQuestion deps first second) (now : Nat) :
    policyDecision deps now first = policyDecision deps now second := by
  unfold SameQuestion at same
  unfold policyDecision askAvp
  cases chosen : deps.mode with
  | localCedar =>
      simp only [chosen] at same
      simp only [same]
  | avpApi =>
      simp only [chosen] at same
      by_cases fallback : deps.fallbackToLocal = true
      · simp only [same.1, same.2 fallback]
      · simp only [same.1, fallback, Bool.false_eq_true, ↓reduceIte]

/-- Calls that may share a cache entry ask the same question. -/
def KeyedApart (deps : AuthorizeDeps) (calls : List (Call AuthorizeInput)) : Prop :=
  calls.Pairwise (fun earlier later =>
    cacheKey earlier.input = cacheKey later.input →
      later.now - earlier.now < deps.ttl → SameQuestion deps earlier.input later.input)

theorem transparent_of_keyedApart (deps : AuthorizeDeps) (calls : List (Call AuthorizeInput))
    (ordered : calls.Pairwise (fun earlier later => earlier.now ≤ later.now))
    (apart : KeyedApart deps calls) : Transparent deps calls := by
  intro before call rest split result returned
  subst split
  rw [cacheAfter_eq_after, authorize_eq_ask] at returned
  cases outcome : (Memo.ask (memo deps) (Memo.after (memo deps) Table.empty before) call).1 with
  | error fault =>
      rw [outcome] at returned
      cases returned
  | ok served =>
      rw [outcome] at returned
      simp only [Except.map, Except.ok.injEq] at returned
      subst returned
      rw [rendered_decision, rendered_reasons]
      rcases Memo.served_source (memo deps) before call served outcome with
        computed | ⟨source, member, sameKey, young, computed⟩
      · exact ⟨call.now, Nat.le_refl _, by omega, served.answer, computed, rfl, rfl⟩
      · have earlier : source.now ≤ call.now :=
          (List.pairwise_append.mp ordered).2.2 source member call List.mem_cons_self
        have age : call.now - source.now < deps.ttl := by
          simp only [memo] at young
          omega
        have same : SameQuestion deps source.input call.input :=
          (List.pairwise_append.mp apart).2.2 source member call List.mem_cons_self sameKey age
        refine ⟨source.now, earlier, Nat.le_of_lt age, served.answer, ?_, rfl, rfl⟩
        rw [← policyDecision_congr same]
        exact computed

/-- The same function in front of other engines. -/
def AuthorizeDeps.withBackend (deps : AuthorizeDeps) (backend : PolicyBackend) : AuthorizeDeps :=
  { deps with toPolicyBackend := backend }

theorem avpRequest_withBackend (deps : AuthorizeDeps) (backend : PolicyBackend)
    (input : AuthorizeInput) : avpRequest (deps.withBackend backend) input = avpRequest deps input :=
  rfl

/-- A decision is the answer of AVP, or of the local engine where that one is asked. -/
theorem policyDecision_ok_iff (deps : AuthorizeDeps) (now : Nat) (input : AuthorizeInput)
    (result : AuthorizationResult) :
    policyDecision deps now input = .ok result ↔
      (deps.mode = .avpApi ∧ askAvp deps now input = .ok result) ∨
      ((deps.mode = .localCedar ∨ deps.mode = .avpApi ∧ deps.fallbackToLocal = true ∧
          ∃ err, askAvp deps now input = .error err) ∧
        deps.cedarLocal now (localQuery input) = .ok result) := by
  unfold policyDecision
  cases chosen : deps.mode with
  | localCedar => simp
  | avpApi =>
      cases asked : askAvp deps now input with
      | ok answer => simp
      | error err => by_cases fallback : deps.fallbackToLocal = true <;> simp [fallback]

open Classical in
/-- Engines of which one answers, at one moment and to the requests of one input. -/
noncomputable def answersOnly (deps : AuthorizeDeps) (moment : Nat) (input : AuthorizeInput)
    (throughAvp : Prop) : PolicyBackend where
  avpClient now request :=
    if throughAvp ∧ now = moment ∧ request = avpRequest deps input then .ok ⟨.allow, none⟩
    else .error (plainError "unavailable")
  cedarLocal now query :=
    if ¬ throughAvp ∧ now = moment ∧ query = localQuery input then .ok ⟨.allow, [], .local⟩
    else .error (plainError "unavailable")

section Distinguishing

variable (deps : AuthorizeDeps) (moment : Nat) (first : AuthorizeInput) (throughAvp : Prop)

theorem askAvp_answersOnly_ok (now : Nat) (input : AuthorizeInput) (result : AuthorizationResult) :
    askAvp (deps.withBackend (answersOnly deps moment first throughAvp)) now input = .ok result ↔
      (throughAvp ∧ now = moment ∧ avpRequest deps input = avpRequest deps first) ∧
        result = ⟨.allow, [], .api⟩ := by
  by_cases asked : throughAvp ∧ now = moment ∧ avpRequest deps input = avpRequest deps first
  · have answered : (deps.withBackend (answersOnly deps moment first throughAvp)).avpClient now
        (avpRequest deps input) = .ok ⟨.allow, none⟩ := if_pos asked
    rw [askAvp, avpRequest_withBackend, answered]
    simp only [asked, and_self, true_and, Except.ok.injEq, Option.getD_none]
    exact eq_comm
  · have silent : (deps.withBackend (answersOnly deps moment first throughAvp)).avpClient now
        (avpRequest deps input) = .error (plainError "unavailable") := if_neg asked
    rw [askAvp, avpRequest_withBackend, silent]
    simp only [asked, false_and, reduceCtorEq]

theorem cedarLocal_answersOnly_ok (now : Nat) (query : CedarLocalQuery)
    (result : AuthorizationResult) :
    (answersOnly deps moment first throughAvp).cedarLocal now query = .ok result ↔
      (¬ throughAvp ∧ now = moment ∧ query = localQuery first) ∧
        result = ⟨.allow, [], .local⟩ := by
  simp only [answersOnly]
  split
  · rename_i asked
    simp only [asked, not_false_eq_true, and_self, true_and, Except.ok.injEq]
    exact eq_comm
  · rename_i silent
    simp only [silent, false_and, reduceCtorEq]

/-- What the two engines together decide: they answer one question, once. -/
theorem policyDecision_answersOnly_ok (now : Nat) (input : AuthorizeInput)
    (result : AuthorizationResult) :
    policyDecision (deps.withBackend (answersOnly deps moment first throughAvp)) now input =
        .ok result ↔
      now = moment ∧
        ((deps.mode = .avpApi ∧ throughAvp ∧ avpRequest deps input = avpRequest deps first ∧
            result = ⟨.allow, [], .api⟩) ∨
          ((deps.mode = .localCedar ∨ deps.mode = .avpApi ∧ deps.fallbackToLocal = true) ∧
            ¬ throughAvp ∧ localQuery input = localQuery first ∧
            result = ⟨.allow, [], .local⟩)) := by
  rw [policyDecision_ok_iff, askAvp_answersOnly_ok]
  have failing : (∃ err, askAvp (deps.withBackend (answersOnly deps moment first throughAvp)) now
      input = .error err) ↔
      ¬ (throughAvp ∧ now = moment ∧ avpRequest deps input = avpRequest deps first) := by
    have succeeding := askAvp_answersOnly_ok deps moment first throughAvp now input
    cases asked : askAvp (deps.withBackend (answersOnly deps moment first throughAvp)) now
        input with
    | ok answer =>
        have held := (succeeding answer).mp asked
        simp [held.1]
    | error err =>
        have not_held : ¬ (throughAvp ∧ now = moment ∧
            avpRequest deps input = avpRequest deps first) := by
          intro held
          have impossible := (succeeding _).mpr ⟨held, rfl⟩
          rw [asked] at impossible
          cases impossible
        simp [not_held]
  have localAnswer := cedarLocal_answersOnly_ok deps moment first throughAvp now (localQuery input)
    result
  simp only [AuthorizeDeps.withBackend] at failing ⊢
  rw [failing, localAnswer]
  by_cases avp : throughAvp
  · simp only [avp, true_and, not_true_eq_false, false_and, and_false, or_false]
    tauto
  · simp only [avp, false_and, and_false, not_false_eq_true, and_true, true_and, false_or]
    tauto

end Distinguishing

/-- Inputs with different questions are told apart by some engines. -/
theorem exists_distinguishing (deps : AuthorizeDeps) (moment : Nat) (first second : AuthorizeInput)
    (different : ¬ SameQuestion deps first second) :
    ∃ backend answer, policyDecision (deps.withBackend backend) moment first = .ok answer ∧
      Memo.SingleMoment (memo (deps.withBackend backend)) moment answer ∧
      ∀ now given, policyDecision (deps.withBackend backend) now second ≠ .ok given := by
  by_cases throughAvp : deps.mode = .avpApi ∧ avpRequest deps second ≠ avpRequest deps first
  · refine ⟨answersOnly deps moment first True, ⟨.allow, [], .api⟩, ?_, ?_, ?_⟩
    · simp [policyDecision_answersOnly_ok, throughAvp.1]
    · intro now input given decided
      have decision := (policyDecision_answersOnly_ok deps moment first True now input given).mp
        decided
      simp only [not_true_eq_false, false_and, and_false, or_false] at decision
      exact ⟨decision.1, decision.2.2.2.2⟩
    · intro now given decided
      have decision := (policyDecision_answersOnly_ok deps moment first True now second given).mp
        decided
      simp only [not_true_eq_false, false_and, and_false, or_false] at decision
      exact throughAvp.2 decision.2.2.2.1
  · have asksLocal : (deps.mode = .localCedar ∨ deps.mode = .avpApi ∧
        deps.fallbackToLocal = true) ∧ localQuery second ≠ localQuery first := by
      unfold SameQuestion at different
      cases chosen : deps.mode with
      | localCedar =>
          simp only [chosen] at different
          exact ⟨.inl rfl, fun same => different same.symm⟩
      | avpApi =>
          simp only [chosen, true_and, ne_eq, not_not] at throughAvp
          simp only [chosen, throughAvp, true_and, not_forall] at different
          obtain ⟨enabled, other⟩ := different
          exact ⟨.inr ⟨rfl, enabled⟩, fun same => other same.symm⟩
    refine ⟨answersOnly deps moment first False, ⟨.allow, [], .local⟩, ?_, ?_, ?_⟩
    · simp [policyDecision_answersOnly_ok, asksLocal.1]
    · intro now input given decided
      have decision := (policyDecision_answersOnly_ok deps moment first False now input given).mp
        decided
      simp only [false_and, and_false, false_or] at decision
      exact ⟨decision.1, decision.2.2.2.2⟩
    · intro now given decided
      have decision := (policyDecision_answersOnly_ok deps moment first False now second given).mp
        decided
      simp only [false_and, and_false, false_or] at decision
      exact asksLocal.2 decision.2.2.2.1

/-- The cache cannot be noticed, whatever the policy engines answer, exactly when no two
calls of the same key within its lifetime ask different questions. -/
theorem transparent_iff (deps : AuthorizeDeps) (calls : List (Call AuthorizeInput))
    (ordered : calls.Pairwise (fun earlier later => earlier.now ≤ later.now)) :
    (∀ backend, Transparent (deps.withBackend backend) calls) ↔ KeyedApart deps calls := by
  constructor
  · intro transparent
    apply List.pairwise_iff_forall_sublist.mpr
    intro earlier later within sameKey young
    by_contra different
    obtain ⟨backend, answer, answered, single, silent⟩ :=
      exists_distinguishing deps earlier.now earlier.input later.input different
    obtain ⟨before, between, rest, split⟩ :
        ∃ before between rest, calls = before ++ earlier :: between ++ later :: rest := by
      obtain ⟨head, tail, rfl, inHead, inTail⟩ := List.cons_sublist_iff.mp within
      obtain ⟨before, middle, rfl⟩ := List.append_of_mem inHead
      obtain ⟨more, rest, rfl⟩ := List.append_of_mem (List.singleton_sublist.mp inTail)
      exact ⟨before, middle ++ more, rest, by simp⟩
    have recent : (later.now : Int) - earlier.now < deps.ttl := by
      omega
    have served := single.served answered before between later sameKey recent
    have returned : (authorize (deps.withBackend backend)
        (cacheAfter (deps.withBackend backend) (before ++ earlier :: between)) later).1 =
        .ok { answer with mode := .cache } := by
      rw [cacheAfter_eq_after, authorize_eq_ask, served]
      rfl
    obtain ⟨moment, _, _, given, decided, _⟩ :=
      transparent backend (before ++ earlier :: between) later rest split _ returned
    exact silent moment given decided
  · intro apart backend
    exact transparent_of_keyedApart (deps.withBackend backend) calls ordered apart

section SharedEntry

/-- A local engine that permits writing to tokens with the scope `ledger.write`. -/
def writersOnly : AuthorizeDeps where
  avpClient _ _ := .error (plainError "unavailable")
  cedarLocal _ := cedarEvaluate
    [{ id := "writers", effect := .permit, whenScopesInclude := some ["ledger.write"] }]
  mode := .localCedar
  policyStoreId := "store"
  fallbackToLocal := false
  cacheTtlMs := none

/-- One user's call of one endpoint, with this token and these scopes. -/
def writeEntry (now : Nat) (token : String) (scopes : List String) : Call AuthorizeInput where
  now := now
  input := {
    principal := "ServicePrincipal::user-alice"
    action := "Action::POST__entries"
    resource := "Endpoint::/entries"
    token := token
    context := some [("scopes", .arr (scopes.map Json.str))] }

/-- A token with the scope, and one second later another token without it. -/
def writerThenReader : List (Call AuthorizeInput) :=
  [writeEntry 1000 "token-1" ["ledger.write"], writeEntry 2000 "token-2" ["ledger.read"]]

theorem writerThenReader_not_transparent :
    ∃ deps calls, calls.Pairwise (fun earlier later => earlier.now ≤ later.now) ∧
      ¬ Transparent deps calls := by
  refine ⟨writersOnly, writerThenReader, by decide, ?_⟩
  intro transparent
  have cached : (authorize writersOnly
      (cacheAfter writersOnly [writeEntry 1000 "token-1" ["ledger.write"]])
      (writeEntry 2000 "token-2" ["ledger.read"])).1 = .ok ⟨.allow, ["writers"], .cache⟩ := by
    rfl
  obtain ⟨moment, _, _, given, decided, decision, _⟩ := transparent _ _ [] rfl _ cached
  have denied : policyDecision writersOnly moment
      (writeEntry 2000 "token-2" ["ledger.read"]).input = .ok ⟨.deny, [], .local⟩ := by
    rfl
  rw [denied, Except.ok.injEq] at decided
  subst decided
  cases decision

theorem transparent_iff_repeated :
    (∀ backend, Transparent (writersOnly.withBackend backend)
      [writeEntry 1000 "token-1" ["ledger.write"], writeEntry 2000 "token-1" ["ledger.write"]]) ↔
    KeyedApart writersOnly
      [writeEntry 1000 "token-1" ["ledger.write"], writeEntry 2000 "token-1" ["ledger.write"]] :=
  transparent_iff _ _ (by decide)

end SharedEntry

end S2s
