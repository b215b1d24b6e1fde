import S2sStack.Service.Admission
import S2sStack.Service.LoansRouter

set_option autoImplicit false

/- `routes/entries.ts` of ledger-service. -/
namespace S2s

open Effect Effect.Program
open Js (Json Obj Number)

inductive EntryStatus where
  | posted
  | pending
  deriving DecidableEq, Repr

def EntryStatus.text : EntryStatus → String
  | posted => "posted"
  | pending => "pending"

structure LedgerEntry where
  entryId : String
  status : EntryStatus
  amount : Number
  reference : String
  createdBy : String
  /-- `new Date().toISOString()` -/
  createdAt : Millis
  deriving DecidableEq

/-- The entry of a request. Its author is taken from `req.auth` as for a loan. -/
def entryOf (auth : Option RequestAuth) (uuid : String) (amount : Number) (reference : String)
    (nowMs : Millis) : LedgerEntry where
  entryId := "E-" ++ String.ofList (uuid.toList.take 8)
  status := .posted
  amount := amount
  reference := reference
  createdBy := loanPrincipal auth
  createdAt := nowMs

/-- The `audit` of a 201. -/
structure EntryAudit where
  userSub : Option String
  userRoles : List String
  actorChain : List String
  deriving DecidableEq

def entryAudit (auth : Option RequestAuth) : EntryAudit where
  userSub := (userEcho auth).map UserEcho.sub
  userRoles := ((userEcho auth).map UserEcho.roles).getD []
  actorChain := actorChainEcho auth

inductive EntryReply where
  /-- 201 -/
  | created (entryId : String) (status : EntryStatus) (audit : EntryAudit)

/-- `POST /ledger/entries` behind the middleware; the store is handed on. -/
def postEntry (req : Request) (auth : Option RequestAuth) (store : List LedgerEntry) :
    Act (List LedgerEntry × EntryReply) := do
  let uuid ← Act.randomUUID
  let amount ← ofExcept (numberField req "amount")
  let reference ← ofExcept (textField req "reference")
  let nowMs ← Act.date
  let entry := entryOf auth uuid amount reference nowMs
  return (store ++ [entry], .created entry.entryId entry.status (entryAudit auth))

/-- An entry is filed and answered with its id, or nothing is stored. -/
theorem postEntry_run {req : Request} {auth : Option RequestAuth} {store : List LedgerEntry}
    {trace : List Event} {outcome : Except Fault (List LedgerEntry × EntryReply)}
    (run : Runs (postEntry req auth store) trace outcome) :
    (∃ uuid amount reference nowMs, numberField req "amount" = .ok amount ∧
      textField req "reference" = .ok reference ∧ trace = [⟨.randomUUID, uuid⟩, ⟨.date, nowMs⟩] ∧
      outcome = .ok (store ++ [entryOf auth uuid amount reference nowMs],
        .created (entryOf auth uuid amount reference nowMs).entryId .posted (entryAudit auth))) ∨
    ∃ fault, outcome = .error fault := by
  rw [postEntry, Act.randomUUID, runs_reply_bind_iff] at run
  obtain ⟨uuid, _, rfl, run⟩ := run
  cases counted : numberField req "amount" with
  | error fault =>
      rw [counted] at run
      exact .inr ⟨fault, (runs_throwing_iff.mp run).2⟩
  | ok amount =>
      rw [counted] at run
      cases spelled : textField req "reference" with
      | error fault =>
          rw [spelled] at run
          exact .inr ⟨fault, (runs_throwing_iff.mp run).2⟩
      | ok reference =>
          rw [spelled] at run
          change Runs (Act.date >>= _) _ _ at run
          rw [Act.date, runs_reply_bind_iff] at run
          obtain ⟨nowMs, _, rfl, run⟩ := run
          obtain ⟨rfl, rfl⟩ := runs_pure_iff.mp run
          exact .inl ⟨uuid, amount, reference, nowMs, rfl, rfl, rfl, rfl⟩

end S2s
