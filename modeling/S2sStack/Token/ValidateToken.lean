import S2sStack.Js.Coercion
import S2sStack.Token.JwksVerification
import Mathlib.Algebra.Order.Ring.Rat

set_option autoImplicit false

/- `validation/validateToken.ts`: access tokens at a resource server. -/
namespace S2s

open Effect Effect.Program
open Js (Json Obj)

structure ValidateTokenDeps where
  jwksUri : String
  expectedIssuer : String

/-- `cnf` as the caller sees it: an object without a text `jkt` confirms nothing. -/
def cnfClaim : Option Json → Option CnfClaim
  | some (.obj cnf) =>
      match Obj.get? "jkt" cnf with
      | some (.str jkt) => some { jkt := some jkt }
      | _ => some { jkt := none }
  | some (.arr _) => some { jkt := none }
  | _ => none

/-- `scopeStr.length > 0 ? scopeStr.split(' ') : []` -/
def scopeList (scope : String) : List String :=
  if scope = "" then [] else Js.split ' ' scope

/-- The returned record. -/
def validatedToken (payload : JwtPayload) : ValidatedToken where
  sub := Js.textOrEmpty (payload.claims.get? "sub")
  scope := scopeList (Js.textOrEmpty (payload.claims.get? "scope"))
  iss := Js.textOrEmpty (payload.claims.get? "iss")
  aud := Js.textOrEmpty (payload.claims.get? "aud")
  exp := payload.dateOrZero "exp"
  cnf := cnfClaim (payload.claims.get? "cnf")
  raw := payload.claims

/-- What `String` throws for an object that it cannot convert. -/
def noPrimitive : Fault := plainError "Cannot convert object to primitive value"

/-- `String(payload[name] ?? '')` -/
def claimText (payload : JwtPayload) (name : String) : Except Fault String :=
  if Js.convertible (payload.claims.get? name) then .ok (Js.textOrEmpty (payload.claims.get? name))
  else .error noPrimitive

/-- What `validate` does with a verified payload. -/
def checkClaims (deps : ValidateTokenDeps) (expectedAudience : String) (payload : JwtPayload)
    (nowMs : Millis) : Except Fault ValidatedToken :=
  if payload.dateOrZero "exp" ≤ toSeconds nowMs then .error tokenExpired
  else do
    let aud ← claimText payload "aud"
    if aud ≠ expectedAudience then .error (unauthorized .invalidAudience "audience mismatch")
    else do
      let iss ← claimText payload "iss"
      if iss ≠ deps.expectedIssuer then .error (unauthorized .invalidToken "issuer mismatch")
      else do
        let scope ← claimText payload "scope"
        let sub ← claimText payload "sub"
        return {
          sub := sub
          scope := scopeList scope
          iss := iss
          aud := aud
          exp := payload.dateOrZero "exp"
          cnf := cnfClaim (payload.claims.get? "cnf")
          raw := payload.claims }

def validateToken (P : Platform) (deps : ValidateTokenDeps) (token expectedAudience : String) :
    Act ValidatedToken := do
  let payload ← verifyAgainstJwks P deps.jwksUri token
  let nowMs ← Act.now
  ofExcept (checkClaims deps expectedAudience payload nowMs)

theorem claimText_ok_iff {payload : JwtPayload} {name text : String} :
    claimText payload name = .ok text ↔ Js.convertible (payload.claims.get? name) = true ∧
      text = Js.textOrEmpty (payload.claims.get? name) := by
  unfold claimText
  split
  · rename_i convertible
    simp [convertible, eq_comm]
  · rename_i unconvertible
    simp [unconvertible]

/-- A payload whose claims pass at this clock reading. -/
structure PassesClaims (deps : ValidateTokenDeps) (expectedAudience : String) (payload : JwtPayload)
    (nowMs : Millis) : Prop where
  unexpired : (toSeconds nowMs : Rat) < payload.dateOrZero "exp"
  audience : Js.textOrEmpty (payload.claims.get? "aud") = expectedAudience
  issuer : Js.textOrEmpty (payload.claims.get? "iss") = deps.expectedIssuer
  convertible : ∀ name ∈ ["aud", "iss", "scope", "sub"],
    Js.convertible (payload.claims.get? name) = true

theorem checkClaims_ok_iff {deps : ValidateTokenDeps} {expectedAudience : String}
    {payload : JwtPayload} {nowMs : Millis} {validated : ValidatedToken} :
    checkClaims deps expectedAudience payload nowMs = .ok validated ↔
      PassesClaims deps expectedAudience payload nowMs ∧ validated = validatedToken payload := by
  have bind_ok {text : Except Fault String} {next : String → Except Fault ValidatedToken} :
      text >>= next = .ok validated ↔ ∃ value, text = .ok value ∧ next value = .ok validated := by
    cases text with
    | error fault =>
        constructor
        · intro failed
          cases failed
        · rintro ⟨_, impossible, _⟩
          cases impossible
    | ok value =>
        constructor
        · intro passed
          exact ⟨value, rfl, passed⟩
        · rintro ⟨_, ⟨⟩, passed⟩
          exact passed
  constructor
  · intro accepted
    unfold checkClaims at accepted
    split at accepted
    · cases accepted
    · rename_i unexpired
      obtain ⟨aud, audience, accepted⟩ := bind_ok.mp accepted
      split at accepted
      · cases accepted
      · rename_i expected
        obtain ⟨iss, issuer, accepted⟩ := bind_ok.mp accepted
        split at accepted
        · cases accepted
        · rename_i issued
          obtain ⟨scope, scopes, accepted⟩ := bind_ok.mp accepted
          obtain ⟨sub, subject, accepted⟩ := bind_ok.mp accepted
          obtain ⟨audText, rfl⟩ := claimText_ok_iff.mp audience
          obtain ⟨issText, rfl⟩ := claimText_ok_iff.mp issuer
          obtain ⟨scopeText, rfl⟩ := claimText_ok_iff.mp scopes
          obtain ⟨subText, rfl⟩ := claimText_ok_iff.mp subject
          cases accepted
          exact ⟨{
            unexpired := not_le.mp unexpired
            audience := not_not.mp expected
            issuer := not_not.mp issued
            convertible := by simp [audText, issText, scopeText, subText] }, rfl⟩
  · rintro ⟨passes, rfl⟩
    have text {name : String} (member : name ∈ ["aud", "iss", "scope", "sub"]) :
        claimText payload name = .ok (Js.textOrEmpty (payload.claims.get? name)) :=
      claimText_ok_iff.mpr ⟨passes.convertible name member, rfl⟩
    have alive : ¬ payload.dateOrZero "exp" ≤ toSeconds nowMs := not_le.mpr passes.unexpired
    rw [checkClaims, if_neg alive, text (by simp), text (by simp), text (by simp), text (by simp)]
    have audience : ¬ Js.textOrEmpty (payload.claims.get? "aud") ≠ expectedAudience :=
      not_not.mpr passes.audience
    have issuer : ¬ Js.textOrEmpty (payload.claims.get? "iss") ≠ deps.expectedIssuer :=
      not_not.mpr passes.issuer
    change (if _ then _ else if _ then _ else _) = _
    rw [if_neg audience, if_neg issuer]
    rfl

/-- An access token that was accepted with this payload at this clock reading. -/
structure AcceptedToken (P : Platform) (deps : ValidateTokenDeps) (token expectedAudience : String)
    (payload : JwtPayload) (checkedAt : Millis) (trace : List Event) : Prop where
  verified : VerifiedUnder P deps.jwksUri token payload trace
  clock : ⟨.now, checkedAt⟩ ∈ trace
  unexpired : (toSeconds checkedAt : Rat) < payload.dateOrZero "exp"
  audience : Js.textOrEmpty (payload.claims.get? "aud") = expectedAudience
  issuer : Js.textOrEmpty (payload.claims.get? "iss") = deps.expectedIssuer

theorem AcceptedToken.mono {P : Platform} {deps : ValidateTokenDeps}
    {token expectedAudience : String} {payload : JwtPayload} {checkedAt : Millis}
    {trace wider : List Event}
    (accepted : AcceptedToken P deps token expectedAudience payload checkedAt trace)
    (within : trace ⊆ wider) :
    AcceptedToken P deps token expectedAudience payload checkedAt wider where
  verified := accepted.verified.mono within
  clock := within accepted.clock
  unexpired := accepted.unexpired
  audience := accepted.audience
  issuer := accepted.issuer

theorem validateToken_ok {P : Platform} {deps : ValidateTokenDeps} {token expectedAudience : String}
    {validated : ValidatedToken} {trace : List Event}
    (run : Runs (validateToken P deps token expectedAudience) trace (.ok validated)) :
    ∃ payload checkedAt, AcceptedToken P deps token expectedAudience payload checkedAt trace ∧
      validated = validatedToken payload := by
  rw [validateToken, runs_bind_ok] at run
  obtain ⟨payload, verifying, after, rfl, verified, run⟩ := run
  rw [runs_bind_ok] at run
  obtain ⟨nowMs, _, after, rfl, read, run⟩ := run
  rw [Act.runs_now_iff] at read
  obtain ⟨_, rfl, same⟩ := read
  cases same
  obtain ⟨rfl, checked⟩ := runs_ofExcept_iff.mp run
  obtain ⟨passes, rfl⟩ := checkClaims_ok_iff.mp checked.symm
  have inside : verifying ⊆ verifying ++ ([⟨.now, nowMs⟩] ++ []) := List.subset_append_left _ _
  exact ⟨payload, nowMs, {
    verified := (verifyAgainstJwks_ok verified).mono inside
    clock := by simp
    unexpired := passes.unexpired
    audience := passes.audience
    issuer := passes.issuer }, rfl⟩

theorem within_validateToken (P : Platform) (deps : ValidateTokenDeps)
    (token expectedAudience : String) :
    Within isValidationOp (validateToken P deps token expectedAudience) := by
  refine Within.bind (within_verifyAgainstJwks P deps.jwksUri token) fun payload => ?_
  exact Within.bind within_now fun nowMs => Within.ofExcept _

end S2s
