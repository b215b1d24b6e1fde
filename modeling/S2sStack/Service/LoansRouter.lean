import S2sStack.Client.Flows
import S2sStack.Js.Number
import S2sStack.Token.ValidateToken

set_option autoImplicit false

/- `POST /loans` of receiving-service. -/
namespace S2s

open Effect Effect.Program
open Js (Json Obj Number)

structure Loan where
  loanId : String
  amount : Number
  applicantId : String
  createdBy : String
  /-- `new Date().toISOString()` -/
  createdAt : Millis
  deriving DecidableEq

structure LoansConfig extends LedgerClientConfig where
  ledgerOutboundEnabled : Bool

/-- `req.body?.[name]` -/
def loanField (req : Request) (name : String) : Option Json :=
  match req.body with
  | some (.obj fields) => Obj.get? name fields
  | _ => none

/-- `req.auth?.user?.sub ?? req.auth?.sub ?? 'unknown'` -/
def loanPrincipal : Option RequestAuth → String
  | none => "unknown"
  | some auth => (auth.extras.map fun extras => extras.user.sub).getD auth.sub

/-- `Number(req.body?.[name] ?? 0)`, which throws for an object without a primitive value. -/
def numberField (req : Request) (name : String) : Except Fault Number :=
  if Js.convertible (loanField req name) then
    .ok (((Js.nullish (loanField req name)).map Js.numberOf).getD (.finite 0))
  else .error noPrimitive

/-- `String(req.body?.[name] ?? '')` -/
def textField (req : Request) (name : String) : Except Fault String :=
  if Js.convertible (loanField req name) then .ok (Js.textOrEmpty (loanField req name))
  else .error noPrimitive

def loanOf (auth : Option RequestAuth) (uuid : String) (amount : Number) (applicantId : String)
    (nowMs : Millis) : Loan where
  loanId := "L-" ++ String.ofList (uuid.toList.take 8)
  amount := amount
  applicantId := applicantId
  createdBy := loanPrincipal auth
  createdAt := nowMs

/-- A number that is not finite is serialized as `null`. -/
def numberJson : Number → Json
  | .finite value => .num value
  | _ => .null

structure UserEcho where
  sub : String
  roles : List String
  groups : List String

def userEcho (auth : Option RequestAuth) : Option UserEcho :=
  (auth.bind RequestAuth.extras).map fun extras =>
    ⟨extras.user.sub, extras.user.roles, extras.user.groups⟩

def actorChainEcho (auth : Option RequestAuth) : List String :=
  actorChainAsString ((auth.bind RequestAuth.extras).map fun extras => extras.actorChain)

structure LedgerEcho where
  entryId : Option Json
  status : Option Json

/-- `ledger.entryId` and `ledger.status` -/
def ledgerEcho : Json → Except Fault LedgerEcho
  | .null => .error (plainError "Cannot read properties of null (reading 'entryId')")
  | .obj fields => .ok ⟨Obj.get? "entryId" fields, Obj.get? "status" fields⟩
  | _ => .ok ⟨none, none⟩

inductive LoanReply where
  | created (loan : Loan) (ledger : Option LedgerEcho) (user : Option UserEcho)
      (actorChain : List String)
  | unavailable (description requestId : String) (timestamp : Millis)

def LoanReply.status : LoanReply → Nat
  | created _ _ _ _ => 201
  | unavailable _ _ _ => 502

/-- `x-correlation-id`, else `x-request-id`, else a new id. -/
def loanCorrelationId (req : Request) : Client String :=
  match (req.header? "x-correlation-id").or (req.header? "x-request-id") with
  | some correlationId => return correlationId
  | none => Client.randomUUID

def ledgerArgs (auth : Option RequestAuth) (correlationId : String) (loan : Loan) :
    PostLedgerEntryArgs where
  correlationId := correlationId
  payload := .obj [("loanId", .str loan.loanId), ("amount", numberJson loan.amount)]
  subjectToken := (auth.bind RequestAuth.extras).map fun extras => extras.token

/-- The `try` block up to the body of the 201. -/
def recordInLedger (P : Platform) (L : ClientLibrary) (useLatticeVar : Option String)
    (config : LedgerClientConfig) (args : PostLedgerEntryArgs) : Client LedgerEcho := do
  let ledger ← postLedgerEntry P L useLatticeVar config args
  ofExcept (ledgerEcho ledger)

/-- The handler from `store.push(loan)` on; the store is handed on. -/
def fileLoan (P : Platform) (L : ClientLibrary) (useLatticeVar : Option String)
    (config : LoansConfig) (req : Request) (auth : Option RequestAuth) (store : List Loan)
    (loan : Loan) : Client (List Loan × LoanReply) := do
  -- the push is in front of the outbound call
  let pushed := store ++ [loan]
  if config.ledgerOutboundEnabled then do
    let correlationId ← loanCorrelationId req
    let outcome ← attempt (recordInLedger P L useLatticeVar config.toLedgerClientConfig
      (ledgerArgs auth correlationId loan))
    match outcome with
    | .ok ledger =>
        return (pushed, .created loan (some ledger) (userEcho auth) (actorChainEcho auth))
    | .error err => do
        let timestamp ← Client.date
        return (pushed, .unavailable err.message correlationId timestamp)
  else return (pushed, .created loan none (userEcho auth) (actorChainEcho auth))

/-- The handler behind the middleware. -/
def postLoan (P : Platform) (L : ClientLibrary) (useLatticeVar : Option String)
    (config : LoansConfig) (req : Request) (auth : Option RequestAuth) (store : List Loan) :
    Client (List Loan × LoanReply) := do
  let uuid ← Client.randomUUID
  let amount ← ofExcept (numberField req "amount")
  let applicantId ← ofExcept (textField req "applicantId")
  let nowMs ← Client.date
  fileLoan P L useLatticeVar config req auth store (loanOf auth uuid amount applicantId nowMs)

/-- `Number` and `String` find a primitive value in the fields of the loan. -/
def LoanReadable (req : Request) : Prop :=
  Js.convertible (loanField req "amount") = true ∧
    Js.convertible (loanField req "applicantId") = true

/-- A loan is made of its fields and filed, or the handler throws before there is one. -/
theorem postLoan_cases {P : Platform} {L : ClientLibrary} {useLatticeVar : Option String}
    {config : LoansConfig} {req : Request} {auth : Option RequestAuth} {store : List Loan}
    {trace : List ClientEvent} {outcome : Except Fault (List Loan × LoanReply)}
    (run : Runs (postLoan P L useLatticeVar config req auth store) trace outcome) :
    (LoanReadable req ∧ ∃ uuid amount applicantId nowMs filing, numberField req "amount" = .ok amount ∧
      textField req "applicantId" = .ok applicantId ∧
      trace = ⟨.randomUUID, uuid⟩ :: ⟨.date, nowMs⟩ :: filing ∧
      Runs (fileLoan P L useLatticeVar config req auth store
        (loanOf auth uuid amount applicantId nowMs)) filing outcome) ∨
    ¬ LoanReadable req ∧ outcome = .error noPrimitive ∧ ∃ uuid, trace = [⟨.randomUUID, uuid⟩] := by
  rw [postLoan, Client.randomUUID, runs_reply_bind_iff] at run
  obtain ⟨uuid, _, rfl, run⟩ := run
  by_cases amountReadable : Js.convertible (loanField req "amount") = true
  · rw [numberField, if_pos amountReadable] at run
    by_cases idReadable : Js.convertible (loanField req "applicantId") = true
    · rw [textField, if_pos idReadable] at run
      change Runs (Client.date >>= _) _ _ at run
      rw [Client.date, runs_reply_bind_iff] at run
      obtain ⟨nowMs, filing, rfl, run⟩ := run
      exact .inl ⟨⟨amountReadable, idReadable⟩, uuid, _, _, nowMs, filing,
        by rw [numberField, if_pos amountReadable], by rw [textField, if_pos idReadable], rfl, run⟩
    · rw [textField, if_neg idReadable] at run
      obtain ⟨rfl, rfl⟩ := runs_throwing_iff.mp run
      exact .inr ⟨fun readable => idReadable readable.2, rfl, uuid, rfl⟩
  · rw [numberField, if_neg amountReadable] at run
    obtain ⟨rfl, rfl⟩ := runs_throwing_iff.mp run
    exact .inr ⟨fun readable => amountReadable readable.1, rfl, uuid, rfl⟩

end S2s
