import S2sStack.System.Identity

set_option autoImplicit false

/- What the services store over a run, and in whose name. -/
namespace S2s

open Effect Effect.Program

/-- Each record was filed by a request of its own that was let through, in their order, and is in
the name of a user who had signed in before. `files` says which record the handler of a step appends
to a store. -/
inductive Attributed (P : Platform) {Record : Type}
    (files : SystemStep → RequestAuth → List Record → Record → Prop) (author : Record → String) :
    List SystemStep → List Record → Prop
  | nil : Attributed P files author [] []
  | skip {steps : List SystemStep} {records : List Record} (step : SystemStep) :
      Attributed P files author steps records → Attributed P files author (steps ++ [step]) records
  | file {steps : List SystemStep} {records : List Record} {step : SystemStep} {auth : RequestAuth}
      {record : Record} {user : TestUser} {req : Request} {trace : List Event} :
      Attributed P files author steps records → step.Admits auth → files step auth records record →
      .login req trace ∈ steps → SignsIn P req user → author record = user.sub →
      Attributed P files author (steps ++ [step]) (records ++ [record])

/-- The step is a loan request, and its handler appends this loan to the store. -/
def FilesLoan (P : Platform) (L : ClientLibrary) (d : Deployment) (step : SystemStep)
    (auth : RequestAuth) (store : List Loan) (loan : Loan) : Prop :=
  ∃ req trace handling reply, step = .loan req trace handling ∧
    Runs (postLoan P L d.useLatticeVar d.loans req (some auth) store) handling
      (.ok (store ++ [loan], reply))

/-- The step is an entry request, and its handler appends this entry to the store. -/
def FilesEntry (step : SystemStep) (auth : RequestAuth) (store : List LedgerEntry)
    (entry : LedgerEntry) : Prop :=
  ∃ req trace handling reply, step = .entry req trace handling ∧
    Runs (postEntry req (some auth) store) handling (.ok (store ++ [entry], reply))

/-- The handler files one loan, whatever becomes of the outbound call. -/
theorem postLoan_files {P : Platform} {L : ClientLibrary} {useLatticeVar : Option String}
    {config : LoansConfig} {req : Request} {auth : Option RequestAuth} {store loans : List Loan}
    {trace : List ClientEvent} {reply : LoanReply}
    (run : Runs (postLoan P L useLatticeVar config req auth store) trace (.ok (loans, reply))) :
    ∃ loan, loans = store ++ [loan] ∧ loan.createdBy = loanPrincipal auth := by
  obtain ⟨_, uuid, amount, applicantId, nowMs, filing, _, _, rfl, filed⟩ | ⟨_, impossible, _⟩ :=
    postLoan_cases run
  · refine ⟨loanOf auth uuid amount applicantId nowMs, ?_, rfl⟩
    rw [fileLoan] at filed
    split at filed
    · rw [runs_bind_ok] at filed
      obtain ⟨correlationId, _, _, rfl, _, filed⟩ := filed
      obtain ⟨outcome, _, _, rfl, _, filed⟩ := runs_attempt_bind_iff.mp filed
      cases outcome with
      | ok ledger =>
          have same := Except.ok.inj (runs_pure_iff.mp filed).2
          exact congrArg Prod.fst same
      | error err =>
          rw [runs_bind_ok] at filed
          obtain ⟨timestamp, _, _, rfl, _, filed⟩ := filed
          have same := Except.ok.inj (runs_pure_iff.mp filed).2
          exact congrArg Prod.fst same
    · have same := Except.ok.inj (runs_pure_iff.mp filed).2
      exact congrArg Prod.fst same
  · cases impossible

namespace SystemRun

variable {P : Platform} {L : ClientLibrary} {d : Deployment} (run : SystemRun P L d)

/-- The author of a record is the user for whom the request is let through. -/
theorem principal_signedIn (agrees : P.PayloadAgrees) {before after : List SystemStep}
    {step : SystemStep} {auth : RequestAuth} (split : run.steps = before ++ step :: after)
    (admits : step.Admits auth) :
    ∃ user req trace, .login req trace ∈ before ∧ SignsIn P req user ∧
      loanPrincipal (some auth) = user.sub := by
  obtain ⟨backing⟩ := run.exists_backing agrees split admits
  obtain ⟨req, trace, login, signsIn⟩ := backing.hops.signedIn
  refine ⟨backing.user, req, trace, login, signsIn, ?_⟩
  rw [loanPrincipal, congrArg RequestAuth.extras backing.auth]
  exact backing.sub

/-- Every step keeps both stores attributed. -/
theorem attributed_of_steps (agrees : P.PayloadAgrees) {steps : List SystemStep} {last : ServiceStores}
    (taken : Steps P L d ⟨[], []⟩ steps last) (inside : steps <+: run.steps) :
    Attributed P (FilesLoan P L d) Loan.createdBy steps last.loans ∧
      Attributed P FilesEntry LedgerEntry.createdBy steps last.entries := by
  induction taken with
  | nil => exact ⟨.nil, .nil⟩
  | @snoc middle last steps step earlier takes ih =>
      obtain ⟨loans, entries⟩ := ih ((List.prefix_append _ _).trans inside)
      obtain ⟨rest, whole⟩ := inside
      have split : run.steps = steps ++ step :: rest := by simp [← whole]
      cases takes with
      | login | exchange | loanRefused | loanFailed | entryRefused | entryFailed | forge =>
          exact ⟨loans.skip _, entries.skip _⟩
      | loanFiled ran passed set filed =>
          obtain ⟨loan, rfl, written⟩ := postLoan_files filed
          obtain ⟨user, req, trace, login, signsIn, principal⟩ :=
            run.principal_signedIn agrees split ⟨passed, set⟩
          exact ⟨loans.file ⟨passed, set⟩ ⟨_, _, _, _, rfl, filed⟩ login signsIn
            (written.trans principal), entries.skip _⟩
      | entryFiled ran passed set filed =>
          obtain ⟨uuid, amount, reference, nowMs, _, _, _, same⟩ | ⟨_, impossible⟩ :=
            postEntry_run filed
          · cases same
            obtain ⟨user, req, trace, login, signsIn, principal⟩ :=
              run.principal_signedIn agrees split ⟨passed, set⟩
            exact ⟨loans.skip _, entries.file ⟨passed, set⟩ ⟨_, _, _, _, rfl, filed⟩ login signsIn
              principal⟩
          · cases impossible

/-- After any run the loans and the entries are those of requests of their own that were let
through, in the order of these, and each is in the name of a user who had signed in before. -/
theorem records_attributed (agrees : P.PayloadAgrees) :
    Attributed P (FilesLoan P L d) Loan.createdBy run.steps run.stores.loans ∧
      Attributed P FilesEntry LedgerEntry.createdBy run.steps run.stores.entries :=
  run.attributed_of_steps agrees run.taken (List.prefix_refl _)

end SystemRun

/-- alice's entry is in her name. -/
theorem entry_attributed :
    Attributed entryTable.platform (FilesLoan entryTable.platform postingLibrary entryDeployment)
        Loan.createdBy entryRun.steps [] ∧
      Attributed entryTable.platform FilesEntry LedgerEntry.createdBy entryRun.steps [aliceEntry] :=
  entryRun.records_attributed entryTable.platform_agrees

end S2s
