import S2sStack.Js.Coercion
import S2sStack.Js.Lists
import S2sStack.Token.JwksVerification
import Mathlib.Algebra.Order.Ring.Rat

set_option autoImplicit false

/- `auth/validateUserToken.ts`: user tokens, and exchanged tokens on re-entry. -/
namespace S2s

open Effect Effect.Program
open Js (Json Obj)

structure ValidateUserTokenOptions where
  jwksUri : String
  expectedIssuer : String
  expectedAudience : String

def reservedClaims : List String :=
  ["iss", "sub", "aud", "exp", "iat", "nbf", "jti", "roles", "groups"]

def normaliseStringList : Option Json → List String
  | some (.arr items) => items.filterMap Json.str?
  | some (.str value) =>
      let trimmed := Js.trim value
      if trimmed = "" then [] else Js.splitSpace trimmed
  | _ => []

def audienceMatches (aud : Option Json) (expected : String) : Bool :=
  match aud with
  | some (.str value) => value = expected
  | some (.arr items) => items.any (fun a => Js.isText (some a) expected)
  | _ => false

def extractCustomClaims (payload : Obj) : Obj := Obj.without reservedClaims payload

/-- The returned record. -/
def userContext (payload : Obj) : UserContext where
  sub := Js.textOrEmpty (payload.get? "sub")
  roles := normaliseStringList (payload.get? "roles")
  groups := normaliseStringList (payload.get? "groups")
  claims := extractCustomClaims payload
  issuer := Js.textOrEmpty (payload.get? "iss")

/-- The names that a claim lists: the texts of an array, or the words of a text. -/
inductive Lists : Option Json → List String → Prop
  | array (items : List Json) : Lists (some (.arr items)) (items.filterMap Json.str?)
  | text {text : String} {names : List String} :
      Js.Spaced text.toList names → Lists (some (.str text)) names
  | other {claim : Option Json} : (∀ items, claim ≠ some (.arr items)) →
      (∀ text, claim ≠ some (.str text)) → Lists claim []

theorem lists_iff {claim : Option Json} {names : List String} :
    Lists claim names ↔ names = normaliseStringList claim := by
  constructor
  · intro lists
    cases lists with
    | array items => rfl
    | text spaced => exact Js.spaced_iff.mp spaced
    | other notArray notText =>
        cases claim with
        | none => rfl
        | some value =>
            cases value with
            | arr items => exact absurd rfl (notArray items)
            | str text => exact absurd rfl (notText text)
            | _ => rfl
  · rintro rfl
    cases claim with
    | none => exact .other (by simp) (by simp)
    | some value =>
        cases value with
        | arr items => exact .array items
        | str text => exact .text (Js.spaced_iff.mpr rfl)
        | _ => exact .other (by simp) (by simp)

/-- The user that the claims of a user token name. -/
structure NamesUser (claims : Obj) (user : UserContext) : Prop where
  sub : Js.Spells (claims.get? "sub") user.sub
  roles : Lists (claims.get? "roles") user.roles
  groups : Lists (claims.get? "groups") user.groups
  issuer : Js.Spells (claims.get? "iss") user.issuer

theorem namesUser_userContext (claims : Obj) : NamesUser claims (userContext claims) where
  sub := Js.spells_iff.mpr rfl
  roles := lists_iff.mpr rfl
  groups := lists_iff.mpr rfl
  issuer := Js.spells_iff.mpr rfl

def audienceMismatch : Fault := unauthorized .invalidAudience "audience mismatch"

def validateUserToken (P : Platform) (opts : ValidateUserTokenOptions) (token : String) :
    Act UserContext := do
  let payload ← verifyAgainstJwks P opts.jwksUri token
  let nowMs ← Act.now
  if payload.dateOrZero "exp" ≤ toSeconds nowMs then Act.fail tokenExpired
  else if Js.textOrEmpty (payload.claims.get? "iss") ≠ opts.expectedIssuer then
    Act.fail (unauthorized .invalidToken "issuer mismatch")
  else if !audienceMatches (payload.claims.get? "aud") opts.expectedAudience then
    Act.fail audienceMismatch
  else return userContext payload.claims

/-- A token that was accepted with this payload at this clock reading. -/
structure AcceptedUserToken (P : Platform) (opts : ValidateUserTokenOptions) (token : String)
    (payload : JwtPayload) (checkedAt : Millis) (trace : List Event) : Prop where
  verified : VerifiedUnder P opts.jwksUri token payload trace
  clock : ⟨.now, checkedAt⟩ ∈ trace
  unexpired : (toSeconds checkedAt : Rat) < payload.dateOrZero "exp"
  issuer : Js.textOrEmpty (payload.claims.get? "iss") = opts.expectedIssuer
  audience : audienceMatches (payload.claims.get? "aud") opts.expectedAudience = true

theorem AcceptedUserToken.mono {P : Platform} {opts : ValidateUserTokenOptions} {token : String}
    {payload : JwtPayload} {checkedAt : Millis} {trace wider : List Event}
    (accepted : AcceptedUserToken P opts token payload checkedAt trace) (within : trace ⊆ wider) :
    AcceptedUserToken P opts token payload checkedAt wider where
  verified := accepted.verified.mono within
  clock := within accepted.clock
  unexpired := accepted.unexpired
  issuer := accepted.issuer
  audience := accepted.audience

theorem validateUserToken_ok {P : Platform} {opts : ValidateUserTokenOptions} {token : String}
    {user : UserContext} {trace : List Event}
    (run : Runs (validateUserToken P opts token) trace (.ok user)) :
    ∃ payload checkedAt, AcceptedUserToken P opts token payload checkedAt trace ∧
      user = userContext payload.claims := by
  rw [validateUserToken, runs_bind_ok] at run
  obtain ⟨payload, verifying, after, rfl, verified, run⟩ := run
  rw [runs_bind_ok] at run
  obtain ⟨nowMs, _, after, rfl, read, run⟩ := run
  rw [Act.runs_now_iff] at read
  obtain ⟨_, rfl, same⟩ := read
  cases same
  split at run
  · cases (runs_throwing_iff.mp run).2
  · rename_i unexpired
    split at run
    · cases (runs_throwing_iff.mp run).2
    · rename_i issuer
      split at run
      · cases (runs_throwing_iff.mp run).2
      · rename_i audience
        rw [runs_pure_iff] at run
        obtain ⟨rfl, same⟩ := run
        cases same
        have inside : verifying ⊆ verifying ++ ([⟨.now, nowMs⟩] ++ []) :=
          List.subset_append_left _ _
        exact ⟨payload, nowMs, {
          verified := (verifyAgainstJwks_ok verified).mono inside
          clock := by simp
          unexpired := not_le.mp unexpired
          issuer := not_not.mp issuer
          audience := by simpa using audience }, rfl⟩

/-- A token signed with a published key and not expired passes or fails by its audience. -/
theorem validateUserToken_verified {P : Platform} {opts : ValidateUserTokenOptions}
    {token : String} {key : PublicKey} {claims : Obj} {trace : List Event}
    {outcome : Except Fault UserContext}
    (published : Publishes P opts.jwksUri token key trace)
    (verifies : VerifiesTo P token key claims trace)
    (unexpired : ∀ moment, ⟨.now, moment⟩ ∈ trace →
      (toSeconds moment : Rat) < dateOrZero claims "exp")
    (issuer : claims.get? "iss" = some (.str opts.expectedIssuer))
    (run : Runs (validateUserToken P opts token) trace outcome) :
    outcome = if audienceMatches (claims.get? "aud") opts.expectedAudience then
      .ok (userContext claims) else .error audienceMismatch := by
  rw [validateUserToken, runs_bind_iff] at run
  rcases run with ⟨payload, verifying, after, rfl, verify, run⟩ | ⟨fault, verify, rfl⟩
  · obtain ⟨_, same, rfl⟩ := verifyAgainstJwks_accepts
      (published.mono (List.subset_append_left _ _))
      (verifies.mono (List.subset_append_left _ _)) verify
    cases same
    rw [Act.now, runs_reply_bind_iff] at run
    obtain ⟨nowMs, rest, rfl, run⟩ := run
    have early := unexpired nowMs (by simp)
    have notExpired : ¬ payload.dateOrZero "exp" ≤ toSeconds nowMs := not_le.mpr early
    simp only [notExpired, issuer, Js.textOrEmpty_str, ne_eq, not_true_eq_false, ↓reduceIte] at run
    cases matching : audienceMatches (payload.claims.get? "aud") opts.expectedAudience with
    | true =>
        rw [matching] at run
        exact (runs_pure_iff.mp run).2
    | false =>
        rw [matching] at run
        exact (runs_throwing_iff.mp run).2
  · obtain ⟨_, impossible, _⟩ := verifyAgainstJwks_accepts published verifies verify
    cases impossible

theorem within_validateUserToken (P : Platform) (opts : ValidateUserTokenOptions)
    (token : String) : Within isValidationOp (validateUserToken P opts token) := by
  refine Within.bind (within_verifyAgainstJwks P opts.jwksUri token) fun payload => ?_
  refine Within.bind within_now fun nowMs => ?_
  split
  · exact Within.done _
  · split
    · exact Within.done _
    · split
      · exact Within.done _
      · exact Within.done _

end S2s
