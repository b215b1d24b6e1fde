import S2sStack.Token.ActorChain
import S2sStack.Token.SignUserJwt

set_option autoImplicit false

/- `lib/tokenMinter.ts` -/
namespace S2s

open Effect Effect.Program
open Js (Json Obj)

structure MintExchangedTokenOptions where
  privateKey : PrivateKey
  kid : String
  issuer : String
  ttlSeconds : Rat

structure MintExchangedTokenInput where
  user : UserContext
  audience : String
  scopes : List String
  actorClientId : String
  previousActorChain : Option ActorChain
  confirmationJkt : String

/-- `scopes.join(' ')` -/
def joinScopes (scopes : List String) : String := " ".intercalate scopes

def exchangeClaims (input : MintExchangedTokenInput) : Obj :=
  [("act", (composeActorChain input.actorClientId input.previousActorChain).toJson),
    ("scope", .str (joinScopes input.scopes)),
    ("user_issuer", .str input.user.issuer),
    ("cnf", .obj [("jkt", .str input.confirmationJkt)])]

def mintSignOptions (opts : MintExchangedTokenOptions) (input : MintExchangedTokenInput) :
    SignUserJwtOptions where
  privateKey := opts.privateKey
  kid := opts.kid
  issuer := opts.issuer
  audience := .str input.audience
  ttlSeconds := some opts.ttlSeconds

def mintSignInput (input : MintExchangedTokenInput) : SignUserJwtInput where
  sub := input.user.sub
  roles := some input.user.roles
  groups := some input.user.groups
  customClaims := some (exchangeClaims input)

def mintExchangedToken (opts : MintExchangedTokenOptions) (input : MintExchangedTokenInput) :
    Act String :=
  signUserJwt (mintSignOptions opts input) (mintSignInput input)

/-- The claims of a minted token that do not depend on when it was minted. -/
def delegatedClaims (issuer : String) (input : MintExchangedTokenInput) : Obj :=
  exchangeClaims input ++
    [("roles", strings input.user.roles), ("groups", strings input.user.groups),
      ("iss", .str issuer), ("sub", .str input.user.sub), ("aud", .str input.audience)]

/-- All claims of a minted token, in their order. -/
def mintedClaims (opts : MintExchangedTokenOptions) (input : MintExchangedTokenInput)
    (nowSec : Nat) (jti : String) : Obj :=
  delegatedClaims opts.issuer input ++
    [("iat", .num nowSec), ("exp", .num (nowSec + opts.ttlSeconds)), ("jti", .str jti)]

theorem signedPayload_mint (opts : MintExchangedTokenOptions) (input : MintExchangedTokenInput)
    (nowSec : Nat) (jti : String) :
    signedPayload (mintSignOptions opts input) (mintSignInput input) nowSec jti =
      mintedClaims opts input nowSec jti := by
  have kept : Obj.without signedClaims (exchangeClaims input) = exchangeClaims input := by
    simp [Obj.without, exchangeClaims, signedClaims]
  simp only [signedPayload, userClaims, mintSignInput, mintSignOptions, Option.getD_some, kept,
    setList]
  simp [exchangeClaims, Obj.set, mintedClaims, delegatedClaims]

theorem mintExchangedToken_runs {opts : MintExchangedTokenOptions}
    {input : MintExchangedTokenInput} {trace : List Event} {outcome : Except Fault String}
    (run : Runs (mintExchangedToken opts input) trace outcome) :
    ∃ nowMs jti, trace = [⟨.now, nowMs⟩, ⟨.randomUUID, jti⟩,
      ⟨.signJwt (userJwtHeader (mintSignOptions opts input))
        (mintedClaims opts input (toSeconds nowMs) jti) opts.privateKey, outcome⟩] := by
  obtain ⟨nowMs, jti, same⟩ := signUserJwt_runs run
  rw [signedPayload_mint] at same
  exact ⟨nowMs, jti, same⟩

end S2s
