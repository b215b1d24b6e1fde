import S2sStack.Runtime

set_option autoImplicit false

/- `auth/signUserJwt.ts` -/
namespace S2s

open Effect Effect.Program
open Js (Json Obj)

structure SignUserJwtOptions where
  privateKey : PrivateKey
  kid : String
  issuer : String
  /-- a string or an array of strings -/
  audience : Json
  ttlSeconds : Option Rat := none
  algorithm : Option String := none

structure SignUserJwtInput where
  sub : String
  roles : Option (List String)
  groups : Option (List String)
  customClaims : Option Obj

/-- The claims that `signUserJwt` sets itself; `roles` and `groups` are not among them. -/
def signedClaims : List String := ["iss", "sub", "aud", "exp", "iat", "nbf", "jti"]

def setList (name : String) (texts : Option (List String)) (claims : Obj) : Obj :=
  match texts with
  | some texts => claims.set name (strings texts)
  | none => claims

/-- The claims object handed to `SignJWT`. -/
def userClaims (input : SignUserJwtInput) : Obj :=
  setList "groups" input.groups
    (setList "roles" input.roles (Obj.without signedClaims (input.customClaims.getD [])))

/-- The claims after the setters of `SignJWT`, in the order they are called. -/
def signedPayload (opts : SignUserJwtOptions) (input : SignUserJwtInput) (nowSec : Nat)
    (jti : String) : Obj :=
  ((((((userClaims input).set "iss" (.str opts.issuer)).set "sub" (.str input.sub)).set "aud"
    opts.audience).set "iat" (.num nowSec)).set "exp" (.num (nowSec + opts.ttlSeconds.getD 900))).set
    "jti" (.str jti)

def userJwtHeader (opts : SignUserJwtOptions) : Obj :=
  [("alg", .str (opts.algorithm.getD "RS256")), ("kid", .str opts.kid), ("typ", .str "JWT")]

def signUserJwt (opts : SignUserJwtOptions) (input : SignUserJwtInput) : Act String := do
  let nowMs ← Act.now
  let jti ← Act.randomUUID
  Act.signJwt (userJwtHeader opts) (signedPayload opts input (toSeconds nowMs) jti) opts.privateKey

theorem get?_setList_ne {key name : String} (texts : Option (List String)) (claims : Obj)
    (other : key ≠ name) : Obj.get? name (setList key texts claims) = Obj.get? name claims := by
  cases texts with
  | none => rfl
  | some texts => exact Obj.get?_set_ne (strings texts) claims other

/-- A custom claim never gets in the place of one that the signer sets. -/
theorem userClaims_signed (input : SignUserJwtInput) (name : String)
    (signed : name ∈ signedClaims) : Obj.get? name (userClaims input) = none := by
  have not_groups : "groups" ≠ name := by
    intro same
    subst same
    simp [signedClaims] at signed
  have not_roles : "roles" ≠ name := by
    intro same
    subst same
    simp [signedClaims] at signed
  rw [userClaims, get?_setList_ne _ _ not_groups, get?_setList_ne _ _ not_roles]
  exact Obj.get?_without_self _ signed

theorem signUserJwt_runs {opts : SignUserJwtOptions} {input : SignUserJwtInput}
    {trace : List Event} {outcome : Except Fault String}
    (run : Runs (signUserJwt opts input) trace outcome) :
    ∃ nowMs jti, trace = [⟨.now, nowMs⟩, ⟨.randomUUID, jti⟩, ⟨.signJwt (userJwtHeader opts)
      (signedPayload opts input (toSeconds nowMs) jti) opts.privateKey, outcome⟩] := by
  rw [signUserJwt, Act.now, runs_reply_bind_iff] at run
  obtain ⟨nowMs, rest, rfl, run⟩ := run
  rw [Act.randomUUID, runs_reply_bind_iff] at run
  obtain ⟨jti, rest, rfl, run⟩ := run
  rw [Act.runs_signJwt_iff] at run
  subst run
  exact ⟨nowMs, jti, rfl⟩

end S2s
