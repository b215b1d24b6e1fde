import S2sStack.Service.LoanStore

set_option autoImplicit false

/- What the requests of a client leave behind at the service that it calls, retries included. -/
namespace S2s

open Effect Effect.Program
open Js (Json)

/-- A request that is sent, and the reply to it. -/
structure Call where
  request : OutboundRequest
  reply : Except LibraryError HttpResponse

def callOf : ClientEvent → Option Call
  | ⟨.fetch request, reply⟩ => some ⟨request, reply⟩
  | _ => none

def calls (trace : List ClientEvent) : List Call := trace.filterMap callOf

section Filing

variable {Record : Type}

/-- The records that the calls leave behind, each as the callee serves it. -/
inductive Files (serves : Call → List Record → Prop) : List Call → List Record → Prop
  | nil : Files serves [] []
  | cons {call : Call} {rest : List Call} {filed later : List Record} :
      serves call filed → Files serves rest later → Files serves (call :: rest) (filed ++ later)

/-- A call leaves one record behind at most, and none if it is answered with 401. -/
structure FilesOnce (serves : Call → List Record → Prop) : Prop where
  single : ∀ call filed, serves call filed → filed.length ≤ 1
  unauthorized : ∀ request response filed, serves ⟨request, .ok response⟩ filed →
    response.status = 401 → filed = []

variable {serves : Call → List Record → Prop} {records : List Record}

theorem Files.of_nil (files : Files serves [] records) : records = [] := by
  cases files
  rfl

theorem Files.of_single {call : Call} (files : Files serves [call] records) :
    serves call records := by
  cases files with
  | cons served rest =>
      rw [rest.of_nil, List.append_nil]
      exact served

theorem Files.of_append {first second : List Call} (files : Files serves (first ++ second) records) :
    ∃ filed later, records = filed ++ later ∧ Files serves first filed ∧
      Files serves second later := by
  induction first generalizing records with
  | nil => exact ⟨[], records, rfl, .nil, files⟩
  | cons call rest ih =>
      cases files with
      | cons served further =>
          obtain ⟨filed, later, rfl, inFirst, inSecond⟩ := ih further
          exact ⟨_, later, (List.append_assoc _ _ _).symm, .cons served inFirst, inSecond⟩

end Filing

section Calls

variable {P : Platform} {L : ClientLibrary} {trace : List ClientEvent}

@[simp] theorem calls_append (first second : List ClientEvent) :
    calls (first ++ second) = calls first ++ calls second := by
  simp [calls]

theorem responses_eq_calls (trace : List ClientEvent) :
    responses trace = (calls trace).map Call.reply := by
  induction trace with
  | nil => rfl
  | cons event rest ih =>
      obtain ⟨op, reply⟩ := event
      cases op with
      | fetch request => exact congrArg (reply :: ·) ih
      | _ => exact ih

theorem calls_of_silent (silent : responses trace = []) : calls trace = [] := by
  rw [responses_eq_calls] at silent
  exact List.map_eq_nil_iff.mp silent

/-- An attempt sends what it has built, or fails without sending anything. -/
theorem resourceAttempt_calls {htu : String} {build : String → Except Fault OutboundRequest}
    {accessToken : Json} {nonce : Option String} {outcome : Except Fault HttpResponse}
    (run : Runs (resourceAttempt P htu build accessToken nonce) trace outcome) :
    (calls trace = [] ∧ ∃ fault, outcome = .error fault) ∨
      ∃ proof request reply, build proof = .ok request ∧ calls trace = [⟨request, reply⟩] ∧
        outcome = Client.orFault reply := by
  cases resourceAttempt_run run with
  | unsigned signing fault signed => exact .inl ⟨calls_of_silent signed.silent, fault, rfl⟩
  | unbuilt signing dpop fault signed => exact .inl ⟨calls_of_silent signed.silent, fault, rfl⟩
  | sent signing dpop request reply signed built =>
      refine .inr ⟨dpop.proof, request, reply, built, ?_, rfl⟩
      rw [calls_append, calls_of_silent signed.silent]
      rfl

variable {Record : Type} {serves : Call → List Record → Prop} {records : List Record}

/-- The records come from one of the calls, and it is the one whose reply counts. -/
def FiledBy (serves : Call → List Record → Prop) (build : String → Except Fault OutboundRequest)
    (outcome : Except Fault HttpResponse) (records : List Record) : Prop :=
  (records = [] ∧ ∃ fault, outcome = .error fault) ∨
    ∃ proof request reply, build proof = .ok request ∧ serves ⟨request, reply⟩ records ∧
      outcome = Client.orFault reply

theorem resourceAttempt_files {htu : String} {build : String → Except Fault OutboundRequest}
    {accessToken : Json} {nonce : Option String} {outcome : Except Fault HttpResponse}
    (run : Runs (resourceAttempt P htu build accessToken nonce) trace outcome)
    (files : Files serves (calls trace) records) : FiledBy serves build outcome records := by
  rcases resourceAttempt_calls run with ⟨none, failed⟩ | ⟨proof, request, reply, built, sent, same⟩
  · rw [none] at files
    exact .inl ⟨files.of_nil, failed⟩
  · rw [sent] at files
    exact .inr ⟨proof, request, reply, built, files.of_single, same⟩

/-- A retry comes after a 401, which has filed nothing. -/
theorem retryOnChallenge_files (once : FilesOnce serves) {asks : HttpResponse → Bool}
    {htu : String} {build : String → Except Fault OutboundRequest} {accessToken : Json}
    {outcome : Except Fault HttpResponse}
    (run : Runs (retryOnChallenge asks (resourceAttempt P htu build accessToken)) trace outcome)
    (files : Files serves (calls trace) records) : FiledBy serves build outcome records := by
  rw [retryOnChallenge, runs_bind_iff] at run
  rcases run with ⟨first, before, after, rfl, tried, run⟩ | ⟨fault, tried, rfl⟩
  · rw [calls_append] at files
    obtain ⟨filed, later, rfl, atFirst, atSecond⟩ := files.of_append
    have settled (run : Runs (pure first : Client HttpResponse) after outcome) :
        FiledBy serves build outcome (filed ++ later) := by
      obtain ⟨rfl, rfl⟩ := runs_pure_iff.mp run
      rw [atSecond.of_nil, List.append_nil]
      exact resourceAttempt_files tried atFirst
    split at run
    · rename_i challenged
      split at run
      · have nothing : filed = [] := by
          rcases resourceAttempt_files tried atFirst with ⟨none, _⟩ | ⟨_, request, reply, _, served,
            same⟩
          · exact none
          · cases reply with
            | error err => cases same
            | ok response =>
                cases same
                exact once.unauthorized request first filed served challenged.1
        rw [nothing]
        exact resourceAttempt_files run atSecond
      · exact settled run
    · exact settled run
  · rcases resourceAttempt_files tried files with none | ⟨proof, request, reply, built, served, same⟩
    · exact .inl none
    · exact .inr ⟨proof, request, reply, built, served, same⟩

/-- An exchange sends one request, or none where it fails. -/
theorem exchangeToken_calls {opts : ExchangeTokenOptions} {input : ExchangeTokenInput}
    {outcome : Except Fault ExchangeTokenResult}
    (run : Runs (exchangeToken P L opts input) trace outcome) :
    (calls trace).tail = [] ∧
      ∀ result, outcome = .ok result → ∃ broker, calls trace = [broker] := by
  obtain ⟨short, returned⟩ := exchangeToken_responses run
  rw [responses_eq_calls] at short returned
  rw [List.length_map] at short
  have none : (calls trace).tail.length = 0 := by
    rw [List.length_tail]
    omega
  refine ⟨List.eq_nil_of_length_eq_zero none, fun result same => ?_⟩
  obtain ⟨reply, single⟩ := returned result same
  obtain ⟨broker, rest, parts, _, empty⟩ := List.map_eq_cons_iff.mp single
  rw [List.map_eq_nil_iff.mp empty] at parts
  exact ⟨broker, parts⟩

/-- Behind an exchange, the requests after the first one are those of the retries. -/
theorem exchanged_files (once : FilesOnce serves) {opts : ExchangeTokenOptions}
    {input : ExchangeTokenInput} {asks : HttpResponse → Bool} {htu : String}
    {build : ExchangeTokenResult → String → Except Fault OutboundRequest}
    {outcome : Except Fault HttpResponse}
    (run : Runs (do
      let exchanged ← exchangeToken P L opts input
      retryOnChallenge asks
        (resourceAttempt P htu (build exchanged) exchanged.accessToken)) trace outcome)
    (files : Files serves (calls trace).tail records) :
    (records = [] ∧ ∃ fault, outcome = .error fault) ∨
      ∃ exchanged, FiledBy serves (build exchanged) outcome records := by
  rcases runs_bind_iff.mp run with ⟨exchanged, asking, trying, rfl, asked, run⟩ | ⟨fault, asked, rfl⟩
  · obtain ⟨broker, single⟩ := (exchangeToken_calls asked).2 exchanged rfl
    rw [calls_append, single] at files
    exact .inr ⟨exchanged, retryOnChallenge_files once run files⟩
  · rw [(exchangeToken_calls asked).1] at files
    exact .inl ⟨files.of_nil, fault, rfl⟩

end Calls

end S2s
