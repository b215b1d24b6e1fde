import S2sStack.Broker.Soundness
import S2sStack.Calling.SyncRoute
import S2sStack.Middleware.Shadow
import S2sStack.Policies.Vocabulary
import S2sStack.Service.Admission
import S2sStack.Service.EntriesRouter

set_option autoImplicit false

/- An outbound call files one record at most, and exactly one where it succeeds, over the two
services behind calling-service. -/
namespace S2s

open Effect Effect.Program
open Js (Json Obj Number)

section Network

variable {Record : Type}

/-- No service has answered this: the connection has failed, or a gateway answers with a 5xx. -/
def Unanswered (reply : Except LibraryError HttpResponse) : Prop :=
  ∀ response, reply = .ok response → 500 ≤ response.status

/-- A service behind a network that may lose a request, or the answer to it; a handler that throws
gives none. `serves` says what the service answers to a request and which records it files. -/
inductive ThroughNetwork (serves : OutboundRequest → Nat → List Record → Prop) :
    Call → List Record → Prop
  | answered {request : OutboundRequest} {response : HttpResponse} {filed : List Record} :
      serves request response.status filed →
      ThroughNetwork serves ⟨request, .ok response⟩ filed
  | unheard {request : OutboundRequest} {reply : Except LibraryError HttpResponse} {status : Nat}
      {filed : List Record} : serves request status filed → Unanswered reply →
      ThroughNetwork serves ⟨request, reply⟩ filed
  | lost {request : OutboundRequest} {reply : Except LibraryError HttpResponse} :
      Unanswered reply → ThroughNetwork serves ⟨request, reply⟩ []

variable {serves : OutboundRequest → Nat → List Record → Prop}

/-- A response that is no 5xx is the service's own. -/
theorem ThroughNetwork.own {request : OutboundRequest} {response : HttpResponse}
    {filed : List Record} (served : ThroughNetwork serves ⟨request, .ok response⟩ filed)
    (low : response.status < 500) : serves request response.status filed := by
  cases served with
  | answered own => exact own
  | unheard own unanswered =>
      have high := unanswered response rfl
      omega
  | lost unanswered =>
      have high := unanswered response rfl
      omega

theorem ThroughNetwork.filesOnce
    (single : ∀ request status filed, serves request status filed → filed.length ≤ 1)
    (unauthorized : ∀ request filed, serves request 401 filed → filed = []) :
    FilesOnce (ThroughNetwork serves) where
  single call filed served := by
    cases served with
    | answered own => exact single _ _ _ own
    | unheard own unanswered => exact single _ _ _ own
    | lost unanswered => exact Nat.zero_le 1
  unauthorized request response filed served status := by
    have own := served.own (by omega)
    rw [status] at own
    exact unauthorized request filed own

end Network

/-- A request as `express.json` gives it to the service. -/
structure Received (P : Platform) (request : OutboundRequest) (req : Request) : Prop where
  delivered : ∃ arrival, req = deliver request arrival
  parsed : ∃ body, P.parseJson request.body = .ok body ∧ req.body = some body

/-- What ledger-service answers to `POST /api/ledger/entries`, and which entry it files. -/
inductive LedgerServes (P : Platform) (config : BrokerServiceConfig) :
    OutboundRequest → Nat → List LedgerEntry → Prop
  | unread {request : OutboundRequest} {fault : Fault} : P.parseJson request.body = .error fault →
      LedgerServes P config request 400 []
  | refused {request : OutboundRequest} {req : Request} {trace : List Event}
      {outcome : Except Fault Unit} {status : Nat} {body : Json} : Received P request req →
      Runs (ledgerBrokerAuth P config req) trace outcome → (∀ event ∈ trace, PlainEvent event) →
      ⟨.json status body, ()⟩ ∈ trace → LedgerServes P config request status []
  | failed {request : OutboundRequest} {req : Request} {trace handling : List Event}
      {outcome : Except Fault Unit} {auth : RequestAuth} {store : List LedgerEntry} {fault : Fault} :
      Received P request req → Runs (ledgerBrokerAuth P config req) trace outcome →
      ⟨.next, ()⟩ ∈ trace → ⟨.setAuth auth, ()⟩ ∈ trace →
      Runs (postEntry req (some auth) store) handling (.error fault) →
      LedgerServes P config request 500 []
  | filed {request : OutboundRequest} {req : Request} {trace handling : List Event}
      {outcome : Except Fault Unit} {auth : RequestAuth} {store filed : List LedgerEntry}
      {reply : EntryReply} : Received P request req →
      Runs (ledgerBrokerAuth P config req) trace outcome → ⟨.next, ()⟩ ∈ trace →
      ⟨.setAuth auth, ()⟩ ∈ trace →
      Runs (postEntry req (some auth) store) handling (.ok (store ++ filed, reply)) →
      LedgerServes P config request 201 filed

/-- What the ledger reads of the amount of a loan: a number that is not finite has become `null`. -/
def ledgerAmount : Number → Number
  | .finite value => .finite value
  | _ => .finite 0

def ledgerPayload (loan : Loan) : Json :=
  .obj [("loanId", .str loan.loanId), ("amount", numberJson loan.amount)]

namespace LedgerServes

variable {P : Platform} {config : BrokerServiceConfig} {request : OutboundRequest} {status : Nat}
  {filed : List LedgerEntry}

/-- One entry is filed and answered with 201, or none is. -/
theorem answers (library : P.ThrowsPlain) (serves : LedgerServes P config request status filed) :
    (filed = [] ∧ status ∈ [400, 401, 403, 500]) ∨
      (status = 201 ∧ ∃ entry req, filed = [entry] ∧ Received P request req ∧
        numberField req "amount" = .ok entry.amount ∧
        textField req "reference" = .ok entry.reference) := by
  cases serves with
  | unread failed => exact .inl ⟨rfl, by simp⟩
  | refused received run plain answered =>
      rcases brokerAuth_answers library run plain answered with rfl | rfl
      · exact .inl ⟨rfl, by simp⟩
      · exact .inl ⟨rfl, by simp⟩
  | failed received run passed set threw => exact .inl ⟨rfl, by simp⟩
  | filed received run passed set posted =>
      right
      refine ⟨rfl, ?_⟩
      rcases postEntry_run posted with ⟨uuid, amount, reference, nowMs, counted, spelled, _, same⟩ |
        ⟨fault, impossible⟩
      · have grown := congrArg Prod.fst (Except.ok.inj same)
        have single := List.append_cancel_left grown
        exact ⟨_, _, single, received, counted, spelled⟩
      · cases impossible

theorem filesOnce (library : P.ThrowsPlain) :
    FilesOnce (ThroughNetwork (LedgerServes P config)) := by
  apply ThroughNetwork.filesOnce
  · intro request status filed serves
    rcases serves.answers library with ⟨rfl, _⟩ | ⟨_, entry, _, rfl, _⟩
    · exact Nat.zero_le 1
    · exact Nat.le_refl 1
  · intro request filed serves
    rcases serves.answers library with ⟨rfl, _⟩ | ⟨impossible, _⟩
    · rfl
    · cases impossible

/-- Behind a success one entry is filed. -/
theorem of_ok (library : P.ThrowsPlain) {response : HttpResponse}
    (served : ThroughNetwork (LedgerServes P config) ⟨request, .ok response⟩ filed)
    (succeeded : response.ok = true) : filed.length = 1 := by
  have range : 200 ≤ response.status ∧ response.status < 300 := of_decide_eq_true succeeded
  rcases (served.own (by omega)).answers library with ⟨_, listed⟩ | ⟨_, entry, _, rfl, _⟩
  · simp only [List.mem_cons, List.not_mem_nil, or_false] at listed
    omega
  · rfl

/-- An entry says what the request said of the loan. -/
theorem entry_of_loan (library : P.ThrowsPlain) {reply : Except LibraryError HttpResponse}
    {loan : Loan} (served : ThroughNetwork (LedgerServes P config) ⟨request, reply⟩ filed)
    (sent : request.body = P.stringify (ledgerPayload loan))
    (read : P.parseJson (P.stringify (ledgerPayload loan)) = .ok (ledgerPayload loan)) :
    ∀ entry ∈ filed, entry.amount = ledgerAmount loan.amount ∧ entry.reference = "" := by
  have own {status : Nat} (serves : LedgerServes P config request status filed) :
      ∀ entry ∈ filed, entry.amount = ledgerAmount loan.amount ∧ entry.reference = "" := by
    rcases serves.answers library with ⟨rfl, _⟩ | ⟨_, entry, req, rfl, received, counted, spelled⟩
    · intro entry member
      cases member
    · intro other member
      cases List.mem_singleton.mp member
      obtain ⟨body, parsed, given⟩ := received.parsed
      rw [sent, read, Except.ok.injEq] at parsed
      subst parsed
      constructor
      · cases amount : loan.amount <;>
          simp [numberField, loanField, given, ledgerPayload, Obj.get?, numberJson, amount,
            Js.convertible, Json.convertible, Js.nullish, Js.numberOf] at counted <;>
          rw [← counted] <;> rfl
      · simp [textField, loanField, given, ledgerPayload, Obj.get?, Js.convertible,
          Js.textOrEmpty, Js.nullish] at spelled
        exact spelled
  cases served with
  | answered serves => exact own serves
  | unheard serves unanswered => exact own serves
  | lost unanswered =>
      intro entry member
      cases member

end LedgerServes

section Handlers

variable {P : Platform} {L : ClientLibrary} {useLatticeVar : Option String}

/-- The records of an outbound call to the ledger come from one request with its payload. -/
theorem postLedgerEntry_files {Record : Type} {serves : Call → List Record → Prop}
    (once : FilesOnce serves) {config : LedgerClientConfig} {args : PostLedgerEntryArgs}
    {trace : List ClientEvent} {outcome : Except Fault Json} {records : List Record}
    (run : Runs (postLedgerEntry P L useLatticeVar config args) trace outcome)
    (files : Files serves (calls trace).tail records) :
    (records = [] ∧ ∃ fault, outcome = .error fault) ∨
      ∃ request reply, request.body = P.stringify args.payload ∧ serves ⟨request, reply⟩ records ∧
        ∀ json, outcome = .ok json → ∃ response, reply = .ok response ∧ response.ok = true := by
  rw [postLedgerEntry] at run
  split at run
  · obtain ⟨rfl, rfl⟩ := runs_throwing_iff.mp run
    exact .inl ⟨files.of_nil, _, rfl⟩
  · rcases runs_bind_iff.mp run with ⟨exchanged, asking, posting, rfl, asked, run⟩ |
      ⟨fault, asked, rfl⟩
    · obtain ⟨broker, single⟩ := (exchangeToken_calls asked).2 exchanged rfl
      rw [calls_append, single] at files
      change Files serves (calls posting) records at files
      rcases runs_bind_iff.mp run with ⟨response, trying, after, rfl, tried, run⟩ | ⟨fault, tried, rfl⟩
      · have silent : calls after = [] ∧ (∀ json, outcome = .ok json → response.ok = true) := by
          split at run
          · rename_i succeeded
            obtain ⟨rfl, _⟩ := runs_ofExcept_iff.mp run
            exact ⟨rfl, fun _ _ => succeeded⟩
          · obtain ⟨rfl, rfl⟩ := runs_throwing_iff.mp run
            refine ⟨rfl, fun json impossible => ?_⟩
            cases impossible
        rw [calls_append, silent.1, List.append_nil] at files
        rcases retryOnChallenge_files once tried files with ⟨_, _, impossible⟩ |
          ⟨proof, request, reply, built, served, same⟩
        · cases impossible
        · refine .inr ⟨request, reply, ledgerCall_body built, served, fun json done => ?_⟩
          cases reply with
          | error err => cases same
          | ok answer =>
              cases same
              exact ⟨response, rfl, silent.2 json done⟩
      · rcases retryOnChallenge_files once tried files with ⟨none, _⟩ |
          ⟨proof, request, reply, built, served, same⟩
        · exact .inl ⟨none, fault, rfl⟩
        · refine .inr ⟨request, reply, ledgerCall_body built, served, fun json impossible => ?_⟩
          cases impossible
    · rw [(exchangeToken_calls asked).1] at files
      exact .inl ⟨files.of_nil, fault, rfl⟩

/-- The fields of a loan are those that `Number` and `String` read in the body of a request. -/
structure Loan.ReadFrom (loan : Loan) (req : Request) : Prop where
  amount : numberField req "amount" = .ok loan.amount
  applicantId : textField req "applicantId" = .ok loan.applicantId

/-- The handler files its loan, and all its requests are those of one outbound call. -/
theorem fileLoan_calls {config : LoansConfig} {req : Request} {auth : Option RequestAuth}
    {store loans : List Loan} {loan : Loan} {trace : List ClientEvent} {reply : LoanReply}
    (run : Runs (fileLoan P L useLatticeVar config req auth store loan) trace (.ok (loans, reply))) :
    loans = store ++ [loan] ∧
      ((config.ledgerOutboundEnabled = false ∧ calls trace = []) ∨
        ∃ correlationId recording outcome, calls trace = calls recording ∧
          Runs (postLedgerEntry P L useLatticeVar config.toLedgerClientConfig
            (ledgerArgs auth correlationId loan)) recording outcome ∧
          (reply.status = 201 → ∃ json, outcome = .ok json)) := by
  rw [fileLoan] at run
  split at run
  · rcases runs_bind_iff.mp run with ⟨correlationId, naming, _, rfl, named, run⟩ | ⟨_, _, impossible⟩
    · obtain ⟨inner, recording, after, rfl, recorded, run⟩ := runs_attempt_bind_iff.mp run
      have unnamed := calls_of_silent (loanCorrelationId_run named).1
      have shown (silent : calls after = []) :
          calls (naming ++ (recording ++ after)) = calls recording := by
        rw [calls_append, unnamed, calls_append, silent, List.append_nil, List.nil_append]
      have posted : ∃ outcome, Runs (postLedgerEntry P L useLatticeVar config.toLedgerClientConfig
          (ledgerArgs auth correlationId loan)) recording outcome ∧
          ∀ echo, inner = .ok echo → ∃ json, outcome = .ok json := by
        rcases runs_bind_iff.mp recorded with ⟨json, before, rest, rfl, post, echoed⟩ |
          ⟨fault, post, rfl⟩
        · obtain ⟨rfl, _⟩ := runs_ofExcept_iff.mp echoed
          rw [List.append_nil]
          exact ⟨.ok json, post, fun _ _ => ⟨json, rfl⟩⟩
        · exact ⟨.error fault, post, fun _ impossible => by cases impossible⟩
      obtain ⟨outcome, post, returned⟩ := posted
      cases inner with
      | ok ledger =>
          obtain ⟨rfl, same⟩ := runs_pure_iff.mp run
          cases same
          exact ⟨rfl, .inr ⟨correlationId, recording, outcome, shown rfl, post,
            fun _ => returned ledger rfl⟩⟩
      | error err =>
          obtain ⟨timestamp, last, dated, replied⟩ := runs_reply_bind_iff.mp run
          obtain ⟨rfl, same⟩ := runs_pure_iff.mp replied
          cases same
          subst dated
          refine ⟨rfl, .inr ⟨correlationId, recording, outcome, shown rfl, post, ?_⟩⟩
          intro impossible
          cases impossible
    · cases impossible
  · rename_i disabled
    obtain ⟨rfl, same⟩ := runs_pure_iff.mp run
    cases same
    exact ⟨rfl, .inl ⟨by simpa using disabled, rfl⟩⟩

theorem postLoan_calls {config : LoansConfig} {req : Request} {auth : Option RequestAuth}
    {store loans : List Loan} {trace : List ClientEvent} {reply : LoanReply}
    (run : Runs (postLoan P L useLatticeVar config req auth store) trace (.ok (loans, reply))) :
    ∃ loan, loans = store ++ [loan] ∧ loan.ReadFrom req ∧
      ((config.ledgerOutboundEnabled = false ∧ calls trace = []) ∨
        ∃ correlationId recording outcome, calls trace = calls recording ∧
          Runs (postLedgerEntry P L useLatticeVar config.toLedgerClientConfig
            (ledgerArgs auth correlationId loan)) recording outcome ∧
          (reply.status = 201 → ∃ json, outcome = .ok json)) := by
  obtain ⟨_, uuid, amount, applicantId, nowMs, filing, counted, spelled, rfl, filed⟩ |
    ⟨_, impossible, _⟩ := postLoan_cases run
  · obtain ⟨grown, sent⟩ := fileLoan_calls filed
    exact ⟨loanOf auth uuid amount applicantId nowMs, grown, ⟨counted, spelled⟩, sent⟩
  · cases impossible

/-- A loan and the entries that its outbound call has filed. -/
structure Filing where
  loan : Loan
  entries : List LedgerEntry

/-- The one entry of a loan has its amount; it has no reference to the loan. -/
def Filing.Faithful (P : Platform) (filing : Filing) : Prop :=
  P.parseJson (P.stringify (ledgerPayload filing.loan)) = .ok (ledgerPayload filing.loan) →
    ∀ entry ∈ filing.entries,
      entry.amount = ledgerAmount filing.loan.amount ∧ entry.reference = ""

/-- The loan is the one that the body of a request asks for, if the body comes through as JSON. -/
def Filing.Requested (P : Platform) (req : Request) (filing : Filing) : Prop :=
  ∀ body, req.body = some body → P.parseJson (P.stringify body) = .ok body →
    filing.loan.ReadFrom req

/-- A loan leaves one entry in the ledger at most, and one where it is answered with 201. -/
theorem postLoan_entries (library : P.ThrowsPlain) {ledger : BrokerServiceConfig}
    {config : LoansConfig} {req : Request} {auth : Option RequestAuth} {store : List Loan}
    {loan : Loan} {trace : List ClientEvent} {reply : LoanReply} {entries : List LedgerEntry}
    (run : Runs (postLoan P L useLatticeVar config req auth store) trace
      (.ok (store ++ [loan], reply)))
    (served : Files (ThroughNetwork (LedgerServes P ledger)) (calls trace).tail entries) :
    loan.ReadFrom req ∧ entries.length ≤ 1 ∧ (Filing.mk loan entries).Faithful P ∧
      (config.ledgerOutboundEnabled = true → reply.status = 201 → entries.length = 1) := by
  obtain ⟨filed, grown, readFrom, ⟨disabled, none⟩ | ⟨correlationId, recording, outcome, same, post,
    returned⟩⟩ := postLoan_calls run
  all_goals
    cases List.append_cancel_left grown
    refine ⟨readFrom, ?_⟩
  · rw [none] at served
    rw [served.of_nil, disabled]
    refine ⟨Nat.zero_le 1, ?_, ?_⟩
    · intro read entry member
      cases member
    · intro impossible
      cases impossible
  · rw [same] at served
    rcases postLedgerEntry_files (LedgerServes.filesOnce library) post served with
      ⟨rfl, fault, failed⟩ | ⟨request, answer, body, filing, succeeded⟩
    · refine ⟨Nat.zero_le 1, ?_, ?_⟩
      · intro read entry member
        cases member
      · intro _ created
        obtain ⟨json, impossible⟩ := returned created
        rw [failed] at impossible
        cases impossible
    · refine ⟨(LedgerServes.filesOnce library).single _ _ filing,
        LedgerServes.entry_of_loan library filing body, fun _ created => ?_⟩
      obtain ⟨json, done⟩ := returned created
      obtain ⟨response, rfl, ok⟩ := succeeded json done
      exact LedgerServes.of_ok library filing ok

end Handlers

/-- What receiving-service answers to `POST /api/loans`, and what it files. -/
inductive ReceivingServes (P : Platform) (L : ClientLibrary) (useLatticeVar : Option String)
    (config : LoansConfig) (receiving ledger : BrokerServiceConfig) :
    OutboundRequest → Nat → List Filing → Prop
  | unread {request : OutboundRequest} {fault : Fault} : P.parseJson request.body = .error fault →
      ReceivingServes P L useLatticeVar config receiving ledger request 400 []
  | refused {request : OutboundRequest} {req : Request} {trace : List Event}
      {outcome : Except Fault Unit} {status : Nat} {body : Json} : Received P request req →
      Runs (receivingBrokerAuth P receiving req) trace outcome →
      (∀ event ∈ trace, PlainEvent event) → ⟨.json status body, ()⟩ ∈ trace →
      ReceivingServes P L useLatticeVar config receiving ledger request status []
  | filed {request : OutboundRequest} {req : Request} {trace : List Event}
      {outcome : Except Fault Unit} {auth : RequestAuth} {store : List Loan} {loan : Loan}
      {handling : List ClientEvent} {reply : LoanReply} {entries : List LedgerEntry} :
      Received P request req → Runs (receivingBrokerAuth P receiving req) trace outcome →
      ⟨.next, ()⟩ ∈ trace → ⟨.setAuth auth, ()⟩ ∈ trace →
      Runs (postLoan P L useLatticeVar config req (some auth) store) handling
        (.ok (store ++ [loan], reply)) →
      Files (ThroughNetwork (LedgerServes P ledger)) (calls handling).tail entries →
      ReceivingServes P L useLatticeVar config receiving ledger request reply.status
        [⟨loan, entries⟩]

namespace ReceivingServes

variable {P : Platform} {L : ClientLibrary} {useLatticeVar : Option String} {config : LoansConfig}
  {receiving ledger : BrokerServiceConfig} {request : OutboundRequest} {status : Nat}
  {filed : List Filing}

/-- One loan is filed and answered with 201 or 502, or none is. -/
theorem answers (library : P.ThrowsPlain)
    (serves : ReceivingServes P L useLatticeVar config receiving ledger request status filed) :
    (filed = [] ∧ status ∈ [400, 401, 403]) ∨
      (status ∈ [201, 502] ∧ ∃ filing req, filed = [filing] ∧ Received P request req ∧
        filing.loan.ReadFrom req ∧ filing.entries.length ≤ 1 ∧ filing.Faithful P ∧
        (config.ledgerOutboundEnabled = true → status = 201 → filing.entries.length = 1)) := by
  cases serves with
  | unread failed => exact .inl ⟨rfl, by simp⟩
  | refused received run plain answered =>
      rcases brokerAuth_answers library run plain answered with rfl | rfl
      · exact .inl ⟨rfl, by simp⟩
      · exact .inl ⟨rfl, by simp⟩
  | @filed req trace outcome auth store loan handling reply entries received run passed set posted
      served =>
      refine .inr ⟨?_, _, req, rfl, received, postLoan_entries library posted served⟩
      cases reply <;> simp [LoanReply.status]

theorem filesOnce (library : P.ThrowsPlain) : FilesOnce (ThroughNetwork
    (ReceivingServes P L useLatticeVar config receiving ledger)) := by
  apply ThroughNetwork.filesOnce
  · intro request status filed serves
    rcases serves.answers library with ⟨rfl, _⟩ | ⟨_, filing, _, rfl, _⟩
    · exact Nat.zero_le 1
    · exact Nat.le_refl 1
  · intro request filed serves
    rcases serves.answers library with ⟨rfl, _⟩ | ⟨impossible, _⟩
    · rfl
    · simp at impossible

end ReceivingServes

/-- What the service reads is what was sent, if that comes through as JSON. -/
theorem Loan.ReadFrom.sent {P : Platform} {loan : Loan} {req given : Request} {request : OutboundRequest}
    (readFrom : loan.ReadFrom given) (received : Received P request given)
    (body : request.body = (req.body.map P.stringify).getD "") (entries : List LedgerEntry) :
    (Filing.mk loan entries).Requested P req := by
  intro sent present through
  obtain ⟨found, parsed, handed⟩ := received.parsed
  rw [body, present, Option.map_some, Option.getD_some, through, Except.ok.injEq] at parsed
  have same (name : String) : loanField given name = loanField req name := by
    rw [loanField, loanField, handed, present, parsed]
  obtain ⟨amount, applicantId⟩ := readFrom
  rw [numberField, same] at amount
  rw [textField, same] at applicantId
  exact ⟨amount, applicantId⟩

/-- The call of the sync route files one loan and one entry at most, whatever the network loses and
whichever nonces are asked for; where it ends with a success, exactly one of each. -/
theorem sync_files_once {P : Platform} (library : P.ThrowsPlain) {L : ClientLibrary}
    {useLatticeVar : Option String} {config : SyncConfig} {loans : LoansConfig}
    {receiving ledger : BrokerServiceConfig} {req : Request} {subjectToken userSub : String}
    {trace : List ClientEvent} {outcome : Except Fault HttpResponse} {filed : List Filing}
    (run : Runs (syncUpstream P L useLatticeVar config req subjectToken userSub) trace outcome)
    (served : Files (ThroughNetwork (ReceivingServes P L useLatticeVar loans receiving ledger))
      (calls trace).tail filed) :
    (filed = [] ∨ ∃ filing, filed = [filing] ∧ filing.Requested P req ∧
        filing.entries.length ≤ 1 ∧ filing.Faithful P) ∧
      ∀ response, outcome = .ok response → response.ok = true →
        ∃ filing, filed = [filing] ∧
          (loans.ledgerOutboundEnabled = true → ∃ entry, filing.entries = [entry]) := by
  unfold syncUpstream callOnce at run
  have sent := exchanged_files (ReceivingServes.filesOnce library) run served
  rcases sent with ⟨none, fault, failed⟩ |
    ⟨exchanged, ⟨none, fault, failed⟩ | ⟨proof, request, reply, built, filing, same⟩⟩
  · refine ⟨.inl none, fun response done => ?_⟩
    rw [failed] at done
    cases done
  · refine ⟨.inl none, fun response done => ?_⟩
    rw [failed] at done
    cases done
  · have body := syncCall_body built
    constructor
    · have own {status : Nat}
          (serves : ReceivingServes P L useLatticeVar loans receiving ledger request status filed) :
          filed = [] ∨ ∃ filing, filed = [filing] ∧ filing.Requested P req ∧
            filing.entries.length ≤ 1 ∧ filing.Faithful P := by
        rcases serves.answers library with ⟨none, _⟩ |
          ⟨_, filing, given, single, received, readFrom, short, faithful, _⟩
        · exact .inl none
        · exact .inr ⟨filing, single, readFrom.sent received body filing.entries, short, faithful⟩
      cases filing with
      | answered serves => exact own serves
      | unheard serves unanswered => exact own serves
      | lost unanswered => exact .inl rfl
    · intro response done succeeded
      have range : 200 ≤ response.status ∧ response.status < 300 := of_decide_eq_true succeeded
      have replied : reply = .ok response := by
        rw [done] at same
        cases reply with
        | error err => cases same
        | ok answer =>
            cases same
            rfl
      rw [replied] at filing
      rcases (filing.own (by omega)).answers library with ⟨_, listed⟩ |
        ⟨listed, filing, _, single, _, _, _, _, exact⟩
      · simp only [List.mem_cons, List.not_mem_nil, or_false] at listed
        omega
      · refine ⟨filing, single, fun enabled => List.length_eq_one_iff.mp (exact enabled ?_)⟩
        simp only [List.mem_cons, List.not_mem_nil, or_false] at listed
        omega

section TwoHandshakes

/-! The sync route files one loan: both services ask for a nonce, and both requests are sent again. -/

/-- The surroundings of a client that names its proofs after itself. -/
def clientServices (name : String) (key : PrivateKey)
    (given : List (Except LibraryError HttpResponse)) : Environment outbound
  | _, .actorClientSecret => .ok "secret"
  | past, .randomUUID => name ++ "-id-" ++ toString past.length
  | _, .activeKey => .ok { publicJwk := TokenTable.jwkOf key.publicKey, privateKey := key }
  | _, .date => 1700000000000
  | past, .signJwt _ _ _ => .ok (name ++ "-proof-" ++ toString past.length)
  | past, .fetch _ =>
      given.getD (responses past).length (.error { code := none, message := "fetch failed" })
  | _, .checkInitialized => .ok ()
  | _, .generateKey => .ok { publicJwk := TokenTable.jwkOf key.publicKey, privateKey := key }
  | _, .installKey _ => ()

/-- The broker grants a token, the service asks for a nonce, and then it files the record. -/
def nonceResponses (granted : String) : List (Except LibraryError HttpResponse) := [
  .ok { status := 200, headers := [], body := .ok granted },
  .ok { status := 401, headers := [("dpop-nonce", "nonce-1")], body := .ok "challenge" },
  .ok { status := 201, headers := [], body := .ok "created" }]

def syncRequest : Request where
  method := "POST"
  protocol := "https"
  originalUrl := "/demo/sync"
  path := "/demo/sync"
  routePath := some "/sync"
  headers := [("x-correlation-id", "request-1")]
  body := some (.obj [("amount", .num 500), ("applicantId", .str "A-9")])

def filedLoan : Loan where
  loanId := "L-loan-id-"
  amount := .finite 500
  applicantId := "A-9"
  createdBy := "user-alice"
  createdAt := 1700000000000

def filedEntry : LedgerEntry where
  entryId := "E-entry-id"
  status := .posted
  amount := .finite 500
  reference := ""
  createdBy := "user-alice"
  createdAt := 1700000000000

def delegatedToken (audience scope thumbprint : String) (chain : ActorChain) : JwtPayload :=
  .ofClaims [("iss", .str "https://broker"), ("sub", .str "user-alice"), ("aud", .str audience),
    ("scope", .str scope), ("exp", .num 1700000600), ("roles", strings ["loan-officer"]),
    ("groups", strings ["retail-banking"]), ("act", chain.toJson),
    ("cnf", .obj [("jkt", .str thumbprint)])] (by cases chain <;> rfl)

/-- A proof of a client for a resource. -/
def resourceProof (name jti url ath : String) (key : PrivateKey) (nonce : Option String) :
    SignedToken where
  token := name
  header := dpopHeader { publicJwk := TokenTable.jwkOf key.publicKey, privateKey := key }
  payload := .ofClaims ([("htm", .str "POST"), ("htu", .str url), ("jti", .str jti),
    ("ath", .str ath)] ++ nonceClaim nonce ++ [("iat", .num 1700000000)])
    (by cases nonce <;> rfl)
  signer := key.publicKey

def loansUrl : String := "https://receiving.internal/api/loans"

def entriesUrl : String := "https://ledger.internal/api/ledger/entries"

def filingTable : TokenTable where
  tokens := [⟨"loan-token", brokerHeader,
      delegatedToken "receiving" "lending/write" "thumbprint-1" (.root "calling-service"), ⟨7⟩⟩,
    ⟨"entry-token", brokerHeader, delegatedToken "ledger" "ledger/write" "thumbprint-2"
      (.via "receiving-service" (.root "calling-service")), ⟨7⟩⟩,
    resourceProof "sync-proof-10" "sync-id-7" loansUrl "loan-hash" ⟨1⟩ none,
    resourceProof "sync-proof-15" "sync-id-12" loansUrl "loan-hash" ⟨1⟩ (some "nonce-1"),
    resourceProof "loan-proof-12" "loan-id-9" entriesUrl "entry-hash" ⟨2⟩ none,
    resourceProof "loan-proof-17" "loan-id-14" entriesUrl "entry-hash" ⟨2⟩ (some "nonce-1")]
  hashes := [("loan-token", "loan-hash"), ("entry-token", "entry-hash")]
  texts := [("granted-loan", .obj [("access_token", .str "loan-token")]),
    ("granted-entry", .obj [("access_token", .str "entry-token")]),
    ("challenge", .obj [("error", .str "use_dpop_nonce")]), ("created", .obj []),
    ("loan", .obj [("amount", .num 500), ("applicantId", .str "A-9")]),
    ("entry", ledgerPayload filedLoan)]

def serverServices (drawn : String) : SteadyServices where
  moment := 1700000000000
  keys _ := [("kid", .str "broker-key") :: TokenTable.jwkOf ⟨7⟩]
  signing := brokerSigningKey
  signed := ""
  drawn := drawn

def syncRun : List ClientEvent × Except Fault HttpResponse :=
  exec (clientServices "sync" ⟨1⟩ (nonceResponses "granted-loan")) [] (syncUpstream
    filingTable.platform postingLibrary none syncConfig syncRequest "alice-token" "user-alice")

/-- A request of `callOnce` or of `postLedgerEntry`. -/
def outboundPost (url proof token body : String) (extra : Js.HeaderRecord) : OutboundRequest where
  method := "POST"
  url := url
  headers := [("dpop", proof)] ++ extra ++ [("authorization", "DPoP " ++ token)]
  body := body

def loanPost (proof : String) : OutboundRequest :=
  outboundPost loansUrl proof "loan-token" "loan" [("content-type", "application/json"),
    ("x-correlation-id", "request-1"), ("x-user-sub", "user-alice")]

def entryPost (proof : String) : OutboundRequest :=
  outboundPost entriesUrl proof "entry-token" "entry" [("x-correlation-id", "request-1"),
    ("content-type", "application/json")]

def challengeResponse : HttpResponse where
  status := 401
  headers := [("dpop-nonce", "nonce-1")]
  body := .ok "challenge"

def createdResponse : HttpResponse where
  status := 201
  headers := []
  body := .ok "created"

/-- How a request arrives at a service. -/
def arrivalAt (host path : String) (body : Json) : Arrival where
  protocol := "https"
  originalUrl := "/api" ++ path
  path := path
  routePath := some path
  addedHeaders := [("host", host)]
  body := some body

def loanReceived (proof : String) : Request :=
  deliver (loanPost proof) (arrivalAt "receiving.internal" "/loans"
    (.obj [("amount", .num 500), ("applicantId", .str "A-9")]))

def entryReceived (proof : String) : Request :=
  deliver (entryPost proof) (arrivalAt "ledger.internal" "/ledger/entries"
    (ledgerPayload filedLoan))

def lendingService : BrokerServiceConfig := receivingConfigOf "lending"

def ledgerService : BrokerServiceConfig := { lendingService with
  brokerAudience := "ledger"
  resourcePrefix := "ledger" }

def loanChecks (proof : String) : List Event :=
  (serverServices "nonce-1").trace
    (receivingBrokerAuth filingTable.platform lendingService (loanReceived proof))

def entryChecks (proof : String) : List Event :=
  (serverServices "nonce-1").trace
    (ledgerBrokerAuth filingTable.platform ledgerService (entryReceived proof))

def lendingLoans : LoansConfig where
  ledgerOutboundClientId := "receiving-service"
  brokerTokenEndpoint := "https://broker/token"
  ledgerServiceUrl := "http://ledger.internal"
  ledgerLatticeDns := ""
  ledgerOutboundEnabled := true

def senderAuth : RequestAuth where
  sub := "user-alice"
  scopes := ["lending/write"]
  decision := .allow
  reasons := []
  extras := some {
    user := {
      sub := "user-alice"
      roles := ["loan-officer"]
      groups := ["retail-banking"]
      claims := (delegatedToken "receiving" "lending/write" "thumbprint-1"
        (.root "calling-service")).claims
      issuer := "https://broker" }
    actorChain := .root "calling-service"
    token := "loan-token" }

def lendingRun : List ClientEvent × Except Fault (List Loan × LoanReply) :=
  exec (clientServices "loan" ⟨2⟩ (nonceResponses "granted-entry")) [] (postLoan
    filingTable.platform postingLibrary none lendingLoans (loanReceived "sync-proof-15")
    (some senderAuth) [])

theorem syncRun_calls : (calls syncRun.1).tail =
    [⟨loanPost "sync-proof-10", .ok challengeResponse⟩,
      ⟨loanPost "sync-proof-15", .ok createdResponse⟩] := rfl

theorem lendingRun_calls : (calls lendingRun.1).tail =
    [⟨entryPost "loan-proof-12", .ok challengeResponse⟩,
      ⟨entryPost "loan-proof-17", .ok createdResponse⟩] := rfl

/-- What a service answers to a proof without a nonce. -/
def challengeBody : Json := .obj [("error", .str "use_dpop_nonce"),
  ("error_description", .str "server requires DPoP-Nonce echo"), ("request_id", .str "nonce-1"),
  ("timestamp", .str "1970-01-01T00:00:00.000Z")]

def recorderAuth : RequestAuth where
  sub := "user-alice"
  scopes := ["ledger/write"]
  decision := .allow
  reasons := []
  extras := some {
    user := {
      sub := "user-alice"
      roles := ["loan-officer"]
      groups := ["retail-banking"]
      claims := (delegatedToken "ledger" "ledger/write" "thumbprint-2"
        (.via "receiving-service" (.root "calling-service"))).claims
      issuer := "https://broker" }
    actorChain := .via "receiving-service" (.root "calling-service")
    token := "entry-token" }

theorem serverServices_plain (drawn : String) {α : Type} (program : Act α) :
    ∀ event ∈ (serverServices drawn).trace program, PlainEvent event :=
  yields_plain (serverServices drawn).plain (yields_exec _ _ _)

/-- The ledger asks for a nonce, and then it files the entry. -/
theorem lendingRun_entries : Files (ThroughNetwork (LedgerServes filingTable.platform
    ledgerService)) (calls lendingRun.1).tail [filedEntry] := by
  have received (proof : String) : Received filingTable.platform (entryPost proof)
      (entryReceived proof) := ⟨⟨_, rfl⟩, _, rfl, rfl⟩
  have asked : ThroughNetwork (LedgerServes filingTable.platform ledgerService)
      ⟨entryPost "loan-proof-12", .ok challengeResponse⟩ [] :=
    .answered <| .refused (received _) (SteadyServices.runs _ _) (serverServices_plain _ _)
      (by decide +kernel : ⟨.json 401 challengeBody, ()⟩ ∈ entryChecks "loan-proof-12")
  have filed : ThroughNetwork (LedgerServes filingTable.platform ledgerService)
      ⟨entryPost "loan-proof-17", .ok createdResponse⟩ [filedEntry] :=
    .answered <| .filed (received _) (SteadyServices.runs _ _)
      (by decide +kernel : ⟨.next, ()⟩ ∈ entryChecks "loan-proof-17")
      (by decide +kernel : ⟨.setAuth recorderAuth, ()⟩ ∈ entryChecks "loan-proof-17")
      ((serverServices "entry-id").runs (postEntry (entryReceived "loan-proof-17")
        (some recorderAuth) []))
  rw [lendingRun_calls]
  exact Files.cons asked (Files.cons filed Files.nil)

/-- So does receiving-service, and it files the loan with that entry. -/
theorem syncRun_filings : Files (ThroughNetwork (ReceivingServes filingTable.platform
    postingLibrary none lendingLoans lendingService ledgerService)) (calls syncRun.1).tail
    [⟨filedLoan, [filedEntry]⟩] := by
  have received (proof : String) : Received filingTable.platform (loanPost proof)
      (loanReceived proof) := ⟨⟨_, rfl⟩, _, rfl, rfl⟩
  have asked : ThroughNetwork (ReceivingServes filingTable.platform postingLibrary none
      lendingLoans lendingService ledgerService)
      ⟨loanPost "sync-proof-10", .ok challengeResponse⟩ [] :=
    .answered <| .refused (received _) (SteadyServices.runs _ _) (serverServices_plain _ _)
      (by decide +kernel : ⟨.json 401 challengeBody, ()⟩ ∈ loanChecks "sync-proof-10")
  have filed : ThroughNetwork (ReceivingServes filingTable.platform postingLibrary none
      lendingLoans lendingService ledgerService)
      ⟨loanPost "sync-proof-15", .ok createdResponse⟩ [⟨filedLoan, [filedEntry]⟩] :=
    .answered <| .filed (received _) (SteadyServices.runs _ _)
      (by decide +kernel : ⟨.next, ()⟩ ∈ loanChecks "sync-proof-15")
      (by decide +kernel : ⟨.setAuth senderAuth, ()⟩ ∈ loanChecks "sync-proof-15")
      (exec_runs _ _ _) lendingRun_entries
  rw [syncRun_calls]
  exact Files.cons asked (Files.cons filed Files.nil)

/-- One loan and one entry are filed, although each service is asked twice. -/
theorem syncRun_files_once :
    ([⟨filedLoan, [filedEntry]⟩] = ([] : List Filing) ∨
      ∃ filing : Filing, [⟨filedLoan, [filedEntry]⟩] = [filing] ∧
        filing.Requested filingTable.platform syncRequest ∧ filing.entries.length ≤ 1 ∧
        filing.Faithful filingTable.platform) ∧
      ∀ response, syncRun.2 = .ok response → response.ok = true →
        ∃ filing : Filing, [⟨filedLoan, [filedEntry]⟩] = [filing] ∧
          (lendingLoans.ledgerOutboundEnabled = true →
            ∃ entry, filing.entries = [entry]) :=
  sync_files_once filingTable.throwsPlain (exec_runs _ _ _) syncRun_filings

end TwoHandshakes

end S2s
