import S2sStack.Runtime
import Mathlib.Algebra.Order.Ring.Rat

set_option autoImplicit false

/- `validation/jwksManager.ts` -/
namespace S2s

open Effect (Signature Program)
open Effect.Program
open Js (Obj)

structure JwksManagerOptions where
  jwksUri : String
  refreshHours : Rat

/-- `ttlMs` -/
def JwksManagerOptions.ttlMs (opts : JwksManagerOptions) : Rat := opts.refreshHours * 3600 * 1000

/-- What `getKeys` finds up to its first `await`: its two variables and the clock. -/
structure JwksLook where
  cached : Option (List Obj)
  cachedAtMs : Millis
  nowMs : Millis

/-- The response to a fetch, and the `keys` of its body if that can be read. -/
structure JwksResponse where
  status : Nat
  keys : Except Fault (List Obj)

/-- `res.ok` -/
def JwksResponse.ok (res : JwksResponse) : Bool := 200 ≤ res.status ∧ res.status ≤ 299

inductive JwksOp where
  | look
  /-- `fetchImpl(jwksUri)`, at the time when the issuer answers it -/
  | fetch (jwksUri : String)
  /-- `cached = json.keys; cachedAtMs = now()` -/
  | store (keys : List Obj)

@[reducible] def JwksOp.Reply : JwksOp → Type
  | look => JwksLook
  | fetch _ => Except Fault JwksResponse
  | store _ => Millis

abbrev jwksManager : Signature := ⟨JwksOp, JwksOp.Reply⟩

abbrev JwksEvent := Effect.Event jwksManager

abbrev Jwks (α : Type) := Program jwksManager Fault α

/-- The keys of a response, unless something before `cached = json.keys` throws. -/
def readJwks (reply : Except Fault JwksResponse) : Except Fault (List Obj) := do
  let res ← reply
  if !res.ok then .error (plainError ("JWKS fetch failed: " ++ toString res.status))
  else res.keys

namespace JwksManager

def fetchOnce (opts : JwksManagerOptions) : Jwks (List Obj) := do
  let keys ← Program.command (.fetch opts.jwksUri) readJwks
  let _ ← Program.command (.store keys) .ok
  return keys

def getKeys (opts : JwksManagerOptions) (forceRefresh : Bool) : Jwks (List Obj) := do
  let found ← Program.command .look .ok
  match found.cached with
  | none => fetchOnce opts
  | some keys =>
      if forceRefresh ∨ found.cachedAtMs + opts.ttlMs < found.nowMs then fetchOnce opts
      else return keys

/-- What a fetch does: it throws, or stores what it returns. -/
inductive FetchRun (opts : JwksManagerOptions) : List JwksEvent → Except Fault (List Obj) → Prop
  | failed (reply : Except Fault JwksResponse) (err : Fault) : readJwks reply = .error err →
      FetchRun opts [⟨.fetch opts.jwksUri, reply⟩] (.error err)
  | stored (reply : Except Fault JwksResponse) (keys : List Obj) (cachedAtMs : Millis) :
      readJwks reply = .ok keys →
      FetchRun opts [⟨.fetch opts.jwksUri, reply⟩, ⟨.store keys, cachedAtMs⟩] (.ok keys)

/-- What a call does: it returns what is cached, or fetches. -/
inductive GetKeysRun (opts : JwksManagerOptions) (forceRefresh : Bool) :
    List JwksEvent → Except Fault (List Obj) → Prop
  | cached (found : JwksLook) (keys : List Obj) : forceRefresh = false →
      found.cached = some keys → GetKeysRun opts forceRefresh [⟨.look, found⟩] (.ok keys)
  | fetched (found : JwksLook) (rest : List JwksEvent) (outcome : Except Fault (List Obj)) :
      FetchRun opts rest outcome → GetKeysRun opts forceRefresh (⟨.look, found⟩ :: rest) outcome

variable {opts : JwksManagerOptions} {forceRefresh : Bool} {trace : List JwksEvent}
  {outcome : Except Fault (List Obj)}

theorem fetchOnce_run (run : Runs (fetchOnce opts) trace outcome) : FetchRun opts trace outcome := by
  rw [fetchOnce, runs_command_bind_iff] at run
  obtain ⟨reply, rest, rfl, ⟨keys, read, run⟩ | ⟨err, read, rfl, rfl⟩⟩ := run
  · rw [runs_reply_bind_iff] at run
    obtain ⟨cachedAtMs, _, rfl, run⟩ := run
    obtain ⟨rfl, rfl⟩ := runs_pure_iff.mp run
    exact .stored reply keys cachedAtMs read
  · exact .failed reply err read

theorem getKeys_run (run : Runs (getKeys opts forceRefresh) trace outcome) :
    GetKeysRun opts forceRefresh trace outcome := by
  rw [getKeys, runs_reply_bind_iff] at run
  obtain ⟨found, rest, rfl, run⟩ := run
  cases held : found.cached with
  | none =>
      rw [held] at run
      exact .fetched found rest outcome (fetchOnce_run run)
  | some keys =>
      rw [held] at run
      by_cases refetch : forceRefresh ∨ found.cachedAtMs + opts.ttlMs < found.nowMs
      · simp only [refetch, ↓reduceIte] at run
        exact .fetched found rest outcome (fetchOnce_run run)
      · simp only [refetch, ↓reduceIte] at run
        obtain ⟨rfl, rfl⟩ := runs_pure_iff.mp run
        have lazy : forceRefresh = false := by
          simpa using (not_or.mp refetch).1
        exact .cached found keys lazy held

end JwksManager

end S2s
