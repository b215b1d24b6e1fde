import S2sStack.Client.NonceRetry
import S2sStack.Service.LoansRouter

set_option autoImplicit false

/- Which loans a run of requests leaves in the store. -/
namespace S2s

open Effect Effect.Program
open Js (Json)

section Responses

variable {P : Platform} {L : ClientLibrary} {trace : List ClientEvent}

/-- No response comes in while a proof is signed. -/
theorem SigningRun.silent {options : SignDPoPOptions} {outcome : Except Fault DPoPProof}
    (run : SigningRun P options trace outcome) : responses trace = [] := by
  cases run with
  | unhashed jti fault => rfl
  | keyless jti ath err => rfl
  | signed jti ath key nowMs reply => rfl

/-- An exchange gets one response, or none where it fails. -/
theorem exchangeToken_responses {opts : ExchangeTokenOptions} {input : ExchangeTokenInput}
    {outcome : Except Fault ExchangeTokenResult}
    (run : Runs (exchangeToken P L opts input) trace outcome) :
    (responses trace).length ≤ 1 ∧
      ∀ result, outcome = .ok result → ∃ broker, responses trace = [broker] := by
  have failed (fault : Fault) (result : ExchangeTokenResult) :
      (.error fault : Except Fault ExchangeTokenResult) ≠ .ok result := by
    intro impossible
    cases impossible
  cases exchangeToken_run run with
  | secretless err => exact ⟨Nat.zero_le 1, fun _ done => absurd done (failed _ _)⟩
  | unsigned secret signing fault signed =>
      refine ⟨?_, fun _ done => absurd done (failed _ _)⟩
      rw [responses_cons, signed.silent]
      exact Nat.zero_le 1
  | unanswered secret signing dpop err fault signed =>
      refine ⟨?_, fun _ done => absurd done (failed _ _)⟩
      rw [responses_cons, responses_append, signed.silent]
      exact Nat.le_refl 1
  | refused secret signing dpop response fault signed =>
      refine ⟨?_, fun _ done => absurd done (failed _ _)⟩
      rw [responses_cons, responses_append, signed.silent]
      exact Nat.le_refl 1
  | granted secret signing dpop response accessToken nowMs signed =>
      have single : responses (⟨.actorClientSecret, .ok secret⟩ :: (signing ++
          [⟨.fetch (exchangeRequest L opts input secret dpop.proof), .ok response⟩,
            ⟨.date, nowMs⟩])) = [.ok response] := by
        rw [responses_cons, responses_append, signed.silent]
        rfl
      rw [single]
      exact ⟨Nat.le_refl 1, fun _ _ => ⟨_, rfl⟩⟩

/-- An attempt ends with the response it gets, or fails without one. -/
theorem resourceAttempt_responses {htu : String} {build : String → Except Fault OutboundRequest}
    {accessToken : Json} {nonce : Option String} {outcome : Except Fault HttpResponse}
    (run : Runs (resourceAttempt P htu build accessToken nonce) trace outcome) :
    (∃ response, outcome = .ok response ∧ responses trace = [.ok response]) ∨
      ((∃ fault, outcome = .error fault) ∧
        (responses trace = [] ∨ ∃ err, responses trace = [.error err])) := by
  cases resourceAttempt_run run with
  | unsigned signing fault signed => exact .inr ⟨⟨fault, rfl⟩, .inl signed.silent⟩
  | unbuilt signing dpop fault signed => exact .inr ⟨⟨fault, rfl⟩, .inl signed.silent⟩
  | sent signing dpop request reply signed =>
      have single : responses (signing ++ [⟨.fetch request, reply⟩]) = [reply] := by
        rw [responses_append, signed.silent]
        rfl
      rw [single]
      cases reply with
      | error err => exact .inr ⟨⟨err.fault, rfl⟩, .inr ⟨err, rfl⟩⟩
      | ok response => exact .inl ⟨response, rfl, rfl⟩

/-- The last response is no success. -/
def Refused (trace : List ClientEvent) : Prop :=
  ∀ response, (responses trace).getLast? = some (.ok response) → response.ok = false

theorem refused_of_failed {tail : List (Except LibraryError HttpResponse)}
    (failed : tail = [] ∨ ∃ err, tail = [.error err]) {response : HttpResponse} :
    tail.getLast? ≠ some (.ok response) := by
  rcases failed with rfl | ⟨err, rfl⟩
  · intro impossible
    cases impossible
  · intro impossible
    cases impossible

/-- The retry ends with its last response, or fails without one that is a success. -/
theorem retryOnChallenge_responses {asks : HttpResponse → Bool} {htu : String}
    {build : String → Except Fault OutboundRequest} {accessToken : Json}
    {outcome : Except Fault HttpResponse}
    (run : Runs (retryOnChallenge asks (resourceAttempt P htu build accessToken)) trace outcome) :
    (∃ response, outcome = .ok response ∧ ∃ before, responses trace = before ++ [.ok response]) ∨
      ((∃ fault, outcome = .error fault) ∧ Refused trace) := by
  rw [retryOnChallenge, runs_bind_iff] at run
  rcases run with ⟨first, before, after, rfl, tried, run⟩ | ⟨fault, tried, rfl⟩
  · have shown : responses before = [.ok first] := by
      rcases resourceAttempt_responses tried with ⟨response, same, shown⟩ | ⟨⟨_, failed⟩, _⟩
      · cases same
        exact shown
      · cases failed
    have returned (run : Runs (pure first : Client HttpResponse) after outcome) :
        ∃ response, outcome = .ok response ∧
          ∃ earlier, responses (before ++ after) = earlier ++ [.ok response] := by
      obtain ⟨rfl, same⟩ := runs_pure_iff.mp run
      exact ⟨first, same, [], by rw [List.append_nil, shown]; rfl⟩
    split at run
    · rename_i challenged
      split at run
      · rcases resourceAttempt_responses run with ⟨response, same, shown'⟩ | ⟨failed, shown'⟩
        · left
          refine ⟨response, same, [.ok first], ?_⟩
          rw [responses_append, shown, shown']
        · right
          refine ⟨failed, ?_⟩
          intro response last
          rw [responses_append, shown, List.getLast?_append] at last
          rcases shown' with none | ⟨err, refused⟩
          · rw [none] at last
            cases last
            simp [HttpResponse.ok, challenged.1]
          · rw [refused] at last
            cases last
      · exact .inl (returned run)
    · exact .inl (returned run)
  · right
    rcases resourceAttempt_responses tried with ⟨response, same, _⟩ | ⟨_, shown⟩
    · cases same
    · refine ⟨⟨fault, rfl⟩, ?_⟩
      intro response last
      exact absurd last (refused_of_failed shown)

/-- After the response of the broker, the last response is a success whose body is JSON, and not
`null`. -/
def LedgerAnswered (P : Platform) (trace : List ClientEvent) : Prop :=
  ∃ broker tries response ledger, responses trace = broker :: (tries ++ [.ok response]) ∧
    response.ok = true ∧ response.json P = .ok ledger ∧ ledger ≠ .null

theorem not_ledgerAnswered_of_short (short : (responses trace).length ≤ 1) :
    ¬ LedgerAnswered P trace := by
  intro ⟨broker, tries, response, ledger, shown, _⟩
  rw [shown, List.length_cons, List.length_append, List.length_singleton] at short
  omega

theorem not_ledgerAnswered_of_refused {exchanging posting : List ClientEvent}
    {broker : Except LibraryError HttpResponse} (asked : responses exchanging = [broker])
    (refused : Refused posting) : ¬ LedgerAnswered P (exchanging ++ posting) := by
  intro ⟨_, tries, response, ledger, shown, succeeded, _⟩
  rw [responses_append, asked, List.singleton_append, List.cons.injEq] at shown
  have last : (responses posting).getLast? = some (.ok response) := by
    rw [shown.2, List.getLast?_concat]
  rw [refused response last] at succeeded
  cases succeeded

theorem ledgerAnswered_iff {broker : Except LibraryError HttpResponse}
    {earlier : List (Except LibraryError HttpResponse)} {response : HttpResponse}
    (shown : responses trace = broker :: (earlier ++ [.ok response])) :
    LedgerAnswered P trace ↔
      response.ok = true ∧ ∃ ledger, response.json P = .ok ledger ∧ ledger ≠ .null := by
  constructor
  · intro ⟨_, tries, last, ledger, same, succeeded, parsed, filled⟩
    rw [shown, List.cons.injEq, List.append_singleton_inj, Except.ok.injEq] at same
    rw [same.2.2]
    exact ⟨succeeded, ledger, parsed, filled⟩
  · intro ⟨succeeded, ledger, parsed, filled⟩
    exact ⟨broker, earlier, response, ledger, shown, succeeded, parsed, filled⟩

variable {useLatticeVar : Option String} {config : LedgerClientConfig} {args : PostLedgerEntryArgs}

/-- A call fails without a success among the ledger's responses, or it makes of the last one what
it says. -/
theorem postLedgerEntry_answers {outcome : Except Fault Json}
    (run : Runs (postLedgerEntry P L useLatticeVar config args) trace outcome) :
    ((∃ fault, outcome = .error fault) ∧ ¬ LedgerAnswered P trace) ∨
      ∃ broker earlier response, responses trace = broker :: (earlier ++ [.ok response]) ∧
        outcome = if response.ok then response.json P
          else .error (ledgerOutboundError response.status none) := by
  rw [postLedgerEntry] at run
  split at run
  · obtain ⟨rfl, rfl⟩ := runs_throwing_iff.mp run
    exact .inl ⟨⟨_, rfl⟩, not_ledgerAnswered_of_short (Nat.zero_le 1)⟩
  · rcases runs_bind_iff.mp run with ⟨exchanged, asking, posting, rfl, asked, run⟩ |
      ⟨fault, asked, rfl⟩
    · obtain ⟨broker, shown⟩ := (exchangeToken_responses asked).2 exchanged rfl
      rcases runs_bind_iff.mp run with ⟨response, trying, after, rfl, tried, run⟩ |
        ⟨fault, tried, rfl⟩
      · rcases retryOnChallenge_responses tried with ⟨_, same, earlier, shown'⟩ | ⟨⟨_, failed⟩, _⟩
        · cases same
          have silent : after = [] ∧ outcome = if response.ok then response.json P
              else .error (ledgerOutboundError response.status none) := by
            split at run
            · rename_i succeeded
              rw [if_pos succeeded]
              exact runs_ofExcept_iff.mp run
            · rename_i refused
              rw [if_neg refused]
              exact runs_throwing_iff.mp run
          right
          refine ⟨broker, earlier, response, ?_, silent.2⟩
          rw [silent.1, List.append_nil, responses_append, shown, shown', List.singleton_append]
        · cases failed
      · rcases retryOnChallenge_responses tried with ⟨_, same, _⟩ | ⟨_, refused⟩
        · cases same
        · exact .inl ⟨⟨fault, rfl⟩, not_ledgerAnswered_of_refused shown refused⟩
    · exact .inl ⟨⟨fault, rfl⟩, not_ledgerAnswered_of_short (exchangeToken_responses asked).1⟩

/-- The ledger has recorded the loan exactly where the last response says so. -/
theorem recordInLedger_ok_iff {outcome : Except Fault LedgerEcho}
    (run : Runs (recordInLedger P L useLatticeVar config args) trace outcome) :
    (∃ echo, outcome = .ok echo) ↔ LedgerAnswered P trace := by
  have failed (fault : Fault) : ¬ ∃ echo, (.error fault : Except Fault LedgerEcho) = .ok echo := by
    intro ⟨_, impossible⟩
    cases impossible
  rcases runs_bind_iff.mp run with ⟨ledger, before, after, rfl, posted, run⟩ | ⟨fault, posted, rfl⟩
  · obtain ⟨rfl, rfl⟩ := runs_ofExcept_iff.mp run
    rw [List.append_nil]
    rcases postLedgerEntry_answers posted with ⟨⟨_, impossible⟩, _⟩ | ⟨broker, earlier, response,
      shown, same⟩
    · cases impossible
    · rw [ledgerAnswered_iff shown]
      split at same
      · rename_i succeeded
        rw [← same]
        cases ledger <;> simp [ledgerEcho, succeeded]
      · cases same
  · refine iff_of_false (failed fault) ?_
    rcases postLedgerEntry_answers posted with ⟨_, unanswered⟩ | ⟨broker, earlier, response, shown,
      same⟩
    · exact unanswered
    · rw [ledgerAnswered_iff shown]
      intro ⟨succeeded, ledger, parsed, _⟩
      rw [if_pos succeeded, parsed] at same
      cases same

end Responses

section Runs

variable {P : Platform} {L : ClientLibrary} {useLatticeVar : Option String} {config : LoansConfig}

/-- The loan of a 201. -/
def LoanReply.loans : LoanReply → List Loan
  | created loan _ _ _ => [loan]
  | unavailable _ _ _ => []

theorem loanCorrelationId_run {req : Request} {trace : List ClientEvent}
    {outcome : Except Fault String} (run : Runs (loanCorrelationId req) trace outcome) :
    responses trace = [] ∧ ∃ correlationId, outcome = .ok correlationId := by
  rw [loanCorrelationId] at run
  split at run
  · obtain ⟨rfl, same⟩ := runs_pure_iff.mp run
    exact ⟨rfl, _, same⟩
  · obtain ⟨uuid, rfl, same⟩ := runs_command_iff.mp run
    exact ⟨rfl, uuid, same⟩

theorem ledgerAnswered_congr {trace other : List ClientEvent}
    (same : responses trace = responses other) :
    LedgerAnswered P trace ↔ LedgerAnswered P other := by
  rw [LedgerAnswered, LedgerAnswered, same]

/-- A filed loan is answered with 201 exactly where the ledger has recorded it, and it is in the
store either way. -/
theorem fileLoan_run (enabled : config.ledgerOutboundEnabled = true) {req : Request}
    {auth : Option RequestAuth} {store : List Loan} {loan : Loan} {trace : List ClientEvent}
    {outcome : Except Fault (List Loan × LoanReply)}
    (run : Runs (fileLoan P L useLatticeVar config req auth store loan) trace outcome) :
    ∃ reply, outcome = .ok (store ++ [loan], reply) ∧
      ((LedgerAnswered P trace ∧ reply.status = 201 ∧ reply.loans = [loan]) ∨
        (¬ LedgerAnswered P trace ∧ reply.status = 502 ∧ reply.loans = [])) := by
  rw [fileLoan, if_pos enabled] at run
  rcases runs_bind_iff.mp run with ⟨correlationId, naming, rest, rfl, named, run⟩ | ⟨_, named, _⟩
  · obtain ⟨inner, recording, after, rfl, recorded, run⟩ := runs_attempt_bind_iff.mp run
    have unnamed := (loanCorrelationId_run named).1
    have answered := recordInLedger_ok_iff recorded
    have shown (silent : responses after = []) :
        LedgerAnswered P (naming ++ (recording ++ after)) ↔ LedgerAnswered P recording := by
      apply ledgerAnswered_congr
      rw [responses_append, unnamed, responses_append, silent, List.append_nil]
      rfl
    cases inner with
    | ok ledger =>
        obtain ⟨rfl, same⟩ := runs_pure_iff.mp run
        refine ⟨_, same, .inl ⟨?_, rfl, rfl⟩⟩
        exact (shown rfl).mpr (answered.mp ⟨ledger, rfl⟩)
    | error err =>
        obtain ⟨timestamp, last, dated, replied⟩ := runs_reply_bind_iff.mp run
        obtain ⟨ended, same⟩ := runs_pure_iff.mp replied
        rw [ended] at dated
        have silent : responses after = [] := by rw [dated]; rfl
        refine ⟨_, same, .inr ⟨?_, rfl, rfl⟩⟩
        intro recorded
        obtain ⟨_, impossible⟩ := answered.mpr ((shown silent).mp recorded)
        cases impossible
  · obtain ⟨_, _, impossible⟩ := loanCorrelationId_run named
    cases impossible

/-- What becomes of a request that the middleware hands on. -/
inductive LoanFiled (P : Platform) (req : Request) (store : List Loan) (trace : List ClientEvent) :
    Except Fault (List Loan × LoanReply) → Prop
  | recorded (loan : Loan) (reply : LoanReply) : LedgerAnswered P trace → reply.status = 201 →
      reply.loans = [loan] → LoanReadable req →
      LoanFiled P req store trace (.ok (store ++ [loan], reply))
  | unrecorded (loan : Loan) (reply : LoanReply) : ¬ LedgerAnswered P trace → reply.status = 502 →
      reply.loans = [] → LoanReadable req →
      LoanFiled P req store trace (.ok (store ++ [loan], reply))
  | unread (fault : Fault) : ¬ LoanReadable req → LoanFiled P req store trace (.error fault)

theorem postLoan_run (enabled : config.ledgerOutboundEnabled = true) {req : Request}
    {auth : Option RequestAuth} {store : List Loan} {trace : List ClientEvent}
    {outcome : Except Fault (List Loan × LoanReply)}
    (run : Runs (postLoan P L useLatticeVar config req auth store) trace outcome) :
    LoanFiled P req store trace outcome := by
  obtain ⟨readable, uuid, amount, applicantId, nowMs, filing, _, _, rfl, filed⟩ |
    ⟨unreadable, rfl, _⟩ := postLoan_cases run
  · have shown : LedgerAnswered P (⟨.randomUUID, uuid⟩ :: ⟨.date, nowMs⟩ :: filing) ↔
        LedgerAnswered P filing := by
      apply ledgerAnswered_congr
      rw [responses_cons, responses_cons]
      rfl
    obtain ⟨reply, rfl, ⟨answered, created, loans⟩ | ⟨unanswered, unavailable, none⟩⟩ :=
      fileLoan_run enabled filed
    · exact .recorded _ reply (shown.mpr answered) created loans readable
    · exact .unrecorded _ reply (mt shown.mp unanswered) unavailable none readable
  · exact .unread _ unreadable

/-- A `POST /loans`: one that the middleware answers, or one that it hands on. -/
inductive LoanCall where
  | refused (status : Nat)
  | admitted (req : Request) (auth : Option RequestAuth)

/-- One request of a run, with the store in front of it and behind it. -/
structure LoanStep where
  call : LoanCall
  before : List Loan
  trace : List ClientEvent
  after : List Loan
  /-- none where the handler has thrown, which nobody answers -/
  status : Option Nat
  /-- the loan of a 201 -/
  answered : List Loan

/-- What the service makes of a request. -/
inductive Serves (P : Platform) (L : ClientLibrary) (useLatticeVar : Option String)
    (config : LoansConfig) : LoanStep → Prop
  | refused (status : Nat) (store : List Loan) :
      Serves P L useLatticeVar config ⟨.refused status, store, [], store, some status, []⟩
  | admitted (req : Request) (auth : Option RequestAuth) (before after : List Loan)
      (trace : List ClientEvent) (reply : LoanReply) :
      Runs (postLoan P L useLatticeVar config req auth before) trace (.ok (after, reply)) →
      Serves P L useLatticeVar config
        ⟨.admitted req auth, before, trace, after, some reply.status, reply.loans⟩
  | failed (req : Request) (auth : Option RequestAuth) (store : List Loan)
      (trace : List ClientEvent) (fault : Fault) :
      Runs (postLoan P L useLatticeVar config req auth store) trace (.error fault) →
      Serves P L useLatticeVar config ⟨.admitted req auth, store, trace, store, none, []⟩

/-- One request after the other, from a store to another. -/
inductive LoanRun (P : Platform) (L : ClientLibrary) (useLatticeVar : Option String)
    (config : LoansConfig) : List Loan → List LoanStep → List Loan → Prop
  | nil (store : List Loan) : LoanRun P L useLatticeVar config store [] store
  | cons (step : LoanStep) (rest : List LoanStep) (final : List Loan) :
      Serves P L useLatticeVar config step →
      LoanRun P L useLatticeVar config step.after rest final →
      LoanRun P L useLatticeVar config step.before (step :: rest) final

/-- The store has grown by the loans that were answered with 201, a request that was answered with
502 left it alone, and retries of one request until success leave one loan. -/
structure KeepsAnswered (initial : List Loan) (steps : List LoanStep) (final : List Loan) :
    Prop where
  exact : final = initial ++ steps.flatMap LoanStep.answered
  unavailable : ∀ step ∈ steps, step.status = some 502 → step.after = step.before
  retried : ∀ failed last loan, steps = failed ++ [last] →
    (∀ step ∈ failed, step.status = some 502) → last.answered = [loan] → final = initial ++ [loan]

/-- What a request comes to. -/
inductive LoanStep.Handled (P : Platform) (step : LoanStep) : Prop
  | refused (status : Nat) (called : step.call = .refused status)
      (kept : step.after = step.before) (none : step.answered = [])
  | recorded (req : Request) (auth : Option RequestAuth) (loan : Loan)
      (called : step.call = .admitted req auth) (answered : LedgerAnswered P step.trace)
      (grown : step.after = step.before ++ [loan]) (created : step.status = some 201)
      (loans : step.answered = [loan])
  | unrecorded (req : Request) (auth : Option RequestAuth) (loan : Loan)
      (called : step.call = .admitted req auth) (readable : LoanReadable req)
      (unanswered : ¬ LedgerAnswered P step.trace) (grown : step.after = step.before ++ [loan])
      (unavailable : step.status = some 502) (none : step.answered = [])
  | unread (req : Request) (auth : Option RequestAuth) (called : step.call = .admitted req auth)
      (unreadable : ¬ LoanReadable req) (kept : step.after = step.before)
      (silent : step.status = Option.none) (none : step.answered = [])

theorem Serves.handled (enabled : config.ledgerOutboundEnabled = true) {step : LoanStep}
    (serves : Serves P L useLatticeVar config step) : step.Handled P := by
  cases serves with
  | refused status store => exact .refused status rfl rfl rfl
  | admitted req auth before after trace reply run =>
      cases postLoan_run enabled run with
      | recorded loan _ answered created loans _ =>
          exact .recorded req auth loan rfl answered rfl (congrArg some created) loans
      | unrecorded loan _ unanswered unavailable none readable =>
          exact .unrecorded req auth loan rfl readable unanswered rfl (congrArg some unavailable) none
  | failed req auth store trace fault run =>
      cases postLoan_run enabled run with
      | unread _ unreadable => exact .unread req auth rfl unreadable rfl rfl rfl

/-- What is answered with 502 hands no loan back. -/
theorem LoanStep.Handled.nothing {step : LoanStep} (handled : step.Handled P)
    (unavailable : step.status = some 502) : step.answered = [] := by
  cases handled with
  | refused status called kept none => exact none
  | recorded req auth loan called answered grown created loans =>
      rw [created] at unavailable
      cases unavailable
  | unrecorded req auth loan called readable unanswered grown unavailable none => exact none
  | unread req auth called unreadable kept silent none => exact none

theorem LoanRun.handled (enabled : config.ledgerOutboundEnabled = true)
    {initial final : List Loan} {steps : List LoanStep}
    (run : LoanRun P L useLatticeVar config initial steps final) :
    ∀ step ∈ steps, step.Handled P := by
  induction run with
  | nil store =>
      intro step member
      cases member
  | cons step rest final serves run ih =>
      intro later member
      rcases List.mem_cons.mp member with rfl | member
      · exact serves.handled enabled
      · exact ih later member

/-- Every request with a loan in it is recorded in the ledger. -/
def AlwaysAnswered (P : Platform) (steps : List LoanStep) : Prop :=
  ∀ step ∈ steps, ∀ req auth, step.call = .admitted req auth → LoanReadable req →
    LedgerAnswered P step.trace

/-- The store grows by the answered loans, step after step. -/
theorem LoanRun.grows (enabled : config.ledgerOutboundEnabled = true)
    {initial final : List Loan} {steps : List LoanStep}
    (run : LoanRun P L useLatticeVar config initial steps final)
    (always : AlwaysAnswered P steps) :
    final = initial ++ steps.flatMap LoanStep.answered := by
  induction run with
  | nil store => rw [List.flatMap_nil, List.append_nil]
  | cons step rest final serves run ih =>
      have grown : step.after = step.before ++ step.answered := by
        cases serves.handled enabled with
        | refused status called kept none => rw [kept, none, List.append_nil]
        | recorded req auth loan called answered grown created loans => rw [grown, loans]
        | unrecorded req auth loan called readable unanswered grown unavailable none =>
            exact absurd (always step List.mem_cons_self req auth called readable) unanswered
        | unread req auth called unreadable kept silent none => rw [kept, none, List.append_nil]
      rw [ih fun later member => always later (List.mem_cons_of_mem _ member), grown,
        List.flatMap_cons, List.append_assoc]

/-- A run keeps the loans that were answered exactly where the ledger records every loan that can
be made of a request. -/
theorem LoanRun.keepsAnswered_iff (enabled : config.ledgerOutboundEnabled = true)
    {initial final : List Loan} {steps : List LoanStep}
    (run : LoanRun P L useLatticeVar config initial steps final) :
    KeepsAnswered initial steps final ↔ AlwaysAnswered P steps := by
  have handled := run.handled enabled
  constructor
  · intro kept step member req auth admitted readable
    cases handled step member with
    | refused status called left none =>
        rw [called] at admitted
        cases admitted
    | recorded _ _ loan called answered grown created loans => exact answered
    | unrecorded _ _ loan called _ unanswered grown unavailable none =>
        have left := kept.unavailable step member unavailable
        rw [grown, List.append_right_eq_self] at left
        cases left
    | unread _ _ called unreadable left silent none =>
        rw [called] at admitted
        cases admitted
        exact absurd readable unreadable
  · intro always
    have exact := run.grows enabled always
    refine ⟨exact, ?_, ?_⟩
    · intro step member unavailable
      cases handled step member with
      | refused status called kept none => exact kept
      | recorded req auth loan called answered grown created loans =>
          rw [created] at unavailable
          cases unavailable
      | unrecorded req auth loan called readable unanswered grown unavailable none =>
          exact absurd (always step member req auth called readable) unanswered
      | unread req auth called unreadable kept silent none => exact kept
    · intro failed last loan split unavailable answered
      have none : failed.flatMap LoanStep.answered = [] := by
        rw [List.flatMap_eq_nil_iff]
        intro step member
        have among : step ∈ steps := by rw [split]; exact List.mem_append_left _ member
        exact (handled step among).nothing (unavailable step member)
      rw [exact, split, List.flatMap_append, none, List.flatMap_singleton, answered,
        List.nil_append]

end Runs

section DeniedLoan

def loansConfig : LoansConfig where
  toLedgerClientConfig := postingConfig
  ledgerOutboundEnabled := true

def filedRequest : Request where
  method := "POST"
  protocol := "https"
  originalUrl := "/api/loans"
  path := "/api/loans"
  routePath := some "/api/loans"
  headers := [("x-correlation-id", "request-1")]
  body := some (.obj [("amount", .num 500), ("applicantId", .str "A-9")])

def loanAuth : RequestAuth where
  sub := "alice"
  scopes := ["lending/loans:write"]
  decision := .allow
  reasons := []
  extras := some {
    user := {
      sub := "alice"
      roles := ["loan-officer"]
      groups := []
      claims := []
      issuer := "https://idp" }
    actorChain := .root "calling-service"
    token := "inbound-token" }

/-- The broker grants a token, and the ledger records the entry. -/
def recordedResponses : List (Except LibraryError HttpResponse) := [
  .ok { status := 200, headers := [], body := .ok "granted" },
  .ok { status := 201, headers := [], body := .ok "entry" }]

/-- The broker grants a token, and the ledger denies the write. -/
def deniedResponses : List (Except LibraryError HttpResponse) := [
  .ok { status := 200, headers := [], body := .ok "granted" },
  .ok { status := 403, headers := [], body := .ok "denied" }]

/-- The request against these responses. -/
def postedLoan (given : List (Except LibraryError HttpResponse)) (before : List Loan) :
    List ClientEvent × Except Fault (List Loan × LoanReply) :=
  exec (answeredWith given) [] (postLoan postingTable.platform postingLibrary none loansConfig
    filedRequest (some loanAuth) before)

def loanStep (given : List (Except LibraryError HttpResponse)) (before : List Loan) : LoanStep where
  call := .admitted filedRequest (some loanAuth)
  before := before
  trace := (postedLoan given before).1
  after := ((postedLoan given before).2.toOption.map Prod.fst).getD before
  status := (postedLoan given before).2.toOption.map fun posted => posted.2.status
  answered := ((postedLoan given before).2.toOption.map fun posted => posted.2.loans).getD []

theorem loanStep_serves (given : List (Except LibraryError HttpResponse)) (before : List Loan) :
    Serves postingTable.platform postingLibrary none loansConfig (loanStep given before) := by
  have run : Runs (postLoan postingTable.platform postingLibrary none loansConfig filedRequest
    (some loanAuth) before) (postedLoan given before).1 (postedLoan given before).2 :=
      exec_runs _ _ _
  generalize same : (postedLoan given before).2 = outcome at run
  cases outcome with
  | ok posted =>
      have serves := Serves.admitted filedRequest (some loanAuth) before _ _ posted.2 run
      simp only [loanStep, same]
      exact serves
  | error fault =>
      have serves := Serves.failed filedRequest (some loanAuth) before _ fault run
      simp only [loanStep, same]
      exact serves

def deniedStep : LoanStep := loanStep deniedResponses []

def retriedStep : LoanStep := loanStep recordedResponses deniedStep.after

def recordedStep : LoanStep := loanStep recordedResponses []

/-- The ledger denies the write, the request is answered with 502, and its loan is in the store;
the retry is answered with 201, and there are two. -/
theorem denied_loan_stays :
    LoanRun postingTable.platform postingLibrary none loansConfig [] [deniedStep, retriedStep]
        retriedStep.after ∧
      responses deniedStep.trace = deniedResponses ∧ deniedStep.status = some 502 ∧
      deniedStep.after.length = 1 ∧ retriedStep.status = some 201 ∧
      retriedStep.answered.length = 1 ∧ retriedStep.after.length = 2 ∧
      ¬ KeepsAnswered [] [deniedStep, retriedStep] retriedStep.after := by
  have kept : deniedStep.after.length = 1 := by decide +kernel
  have unavailable : deniedStep.status = some 502 := by decide +kernel
  refine ⟨.cons _ _ _ (loanStep_serves _ _) (.cons _ _ _ (loanStep_serves _ _) (.nil _)),
    by decide +kernel, unavailable, kept, by decide +kernel, by decide +kernel,
    by decide +kernel, ?_⟩
  intro keeps
  have left := keeps.unavailable deniedStep List.mem_cons_self unavailable
  rw [left] at kept
  cases kept

/-- A run in which the ledger records the loan. -/
theorem recorded_loan_kept :
    LoanRun postingTable.platform postingLibrary none loansConfig [] [recordedStep]
        recordedStep.after ∧
      AlwaysAnswered postingTable.platform [recordedStep] ∧
      KeepsAnswered [] [recordedStep] recordedStep.after := by
  have run : LoanRun postingTable.platform postingLibrary none loansConfig [] [recordedStep]
    recordedStep.after := .cons _ _ _ (loanStep_serves _ _) (.nil _)
  have answered : AlwaysAnswered postingTable.platform [recordedStep] := by
    intro step member _ _ _ _
    rw [List.mem_singleton.mp member]
    have shown : responses recordedStep.trace = recordedResponses := by decide +kernel
    exact ⟨_, [], _, .obj [], shown, by decide +kernel, by decide +kernel, by decide +kernel⟩
  exact ⟨run, answered, (LoanRun.keepsAnswered_iff rfl run).mpr answered⟩

end DeniedLoan

end S2s
