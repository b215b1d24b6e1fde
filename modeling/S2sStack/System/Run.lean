import S2sStack.Broker.Signing
import S2sStack.Calling.SignIn
import S2sStack.Service.EntriesRouter

set_option autoImplicit false

/- The local issuer, the broker, receiving-service and ledger-service with everybody else around
them: what one request does, and what holds of the keys over a run. -/
namespace S2s

open Effect Effect.Program
open Js (Json Obj)

inductive KeyOwner where
  | userIssuer
  | broker
  | other
  deriving DecidableEq

/-- The settings of the services, and who holds which signing key. -/
structure Deployment where
  issuer : LocalIssuerOptions
  broker : TokenRouterDeps
  receiving : BrokerServiceConfig
  loans : LoansConfig
  useLatticeVar : Option String := none
  ledger : BrokerServiceConfig
  owner : PrivateKey → KeyOwner

/-- The stores of the two services. -/
structure ServiceStores where
  loans : List Loan
  entries : List LedgerEntry

/-- A request to one of the services. Where requests overlap, a step stands where its token is
signed or its record is stored. -/
inductive SystemStep where
  /-- `POST /auth/login` -/
  | login (req : Request) (trace : List Event)
  /-- `POST /oauth2/token` -/
  | exchange (req : Request) (trace : List Event)
  /-- `POST /api/loans`: the middleware, and the handler behind it -/
  | loan (req : Request) (trace : List Event) (handling : List ClientEvent)
  /-- `POST /api/ledger/entries`: the middleware, and the handler behind it -/
  | entry (req : Request) (trace handling : List Event)
  /-- Anybody signs what they like. -/
  | forge (header claims : Obj) (key : PrivateKey) (token : String)

/-- What the services do. -/
inductive Takes (P : Platform) (L : ClientLibrary) (d : Deployment) :
    ServiceStores → SystemStep → ServiceStores → Prop
  | login {stores : ServiceStores} {req : Request} {trace : List Event} {outcome : Except Fault Unit} :
      Runs (login P d.issuer req) trace outcome → Takes P L d stores (.login req trace) stores
  | exchange {stores : ServiceStores} {req : Request} {trace : List Event} {outcome : Except Fault Unit} :
      Runs (tokenRouter P d.broker req) trace outcome →
      Takes P L d stores (.exchange req trace) stores
  | loanRefused {stores : ServiceStores} {req : Request} {trace : List Event}
      {outcome : Except Fault Unit} : Runs (receivingBrokerAuth P d.receiving req) trace outcome →
      ⟨.next, ()⟩ ∉ trace → Takes P L d stores (.loan req trace []) stores
  | loanFailed {stores : ServiceStores} {req : Request} {trace : List Event}
      {handling : List ClientEvent} {outcome : Except Fault Unit} {auth : RequestAuth}
      {fault : Fault} : Runs (receivingBrokerAuth P d.receiving req) trace outcome →
      ⟨.next, ()⟩ ∈ trace → ⟨.setAuth auth, ()⟩ ∈ trace →
      Runs (postLoan P L d.useLatticeVar d.loans req (some auth) stores.loans) handling
        (.error fault) →
      Takes P L d stores (.loan req trace handling) stores
  | loanFiled {stores : ServiceStores} {req : Request} {trace : List Event} {handling : List ClientEvent}
      {outcome : Except Fault Unit} {auth : RequestAuth} {loans : List Loan} {reply : LoanReply} :
      Runs (receivingBrokerAuth P d.receiving req) trace outcome → ⟨.next, ()⟩ ∈ trace →
      ⟨.setAuth auth, ()⟩ ∈ trace →
      Runs (postLoan P L d.useLatticeVar d.loans req (some auth) stores.loans) handling
        (.ok (loans, reply)) →
      Takes P L d stores (.loan req trace handling) { stores with loans := loans }
  | entryRefused {stores : ServiceStores} {req : Request} {trace : List Event}
      {outcome : Except Fault Unit} : Runs (ledgerBrokerAuth P d.ledger req) trace outcome →
      ⟨.next, ()⟩ ∉ trace → Takes P L d stores (.entry req trace []) stores
  | entryFailed {stores : ServiceStores} {req : Request} {trace handling : List Event}
      {outcome : Except Fault Unit} {auth : RequestAuth} {fault : Fault} :
      Runs (ledgerBrokerAuth P d.ledger req) trace outcome → ⟨.next, ()⟩ ∈ trace →
      ⟨.setAuth auth, ()⟩ ∈ trace →
      Runs (postEntry req (some auth) stores.entries) handling (.error fault) →
      Takes P L d stores (.entry req trace handling) stores
  | entryFiled {stores : ServiceStores} {req : Request} {trace handling : List Event}
      {outcome : Except Fault Unit} {auth : RequestAuth} {entries : List LedgerEntry}
      {reply : EntryReply} : Runs (ledgerBrokerAuth P d.ledger req) trace outcome →
      ⟨.next, ()⟩ ∈ trace → ⟨.setAuth auth, ()⟩ ∈ trace →
      Runs (postEntry req (some auth) stores.entries) handling (.ok (entries, reply)) →
      Takes P L d stores (.entry req trace handling) { stores with entries := entries }
  | forge {stores : ServiceStores} {header claims : Obj} {key : PrivateKey} {token : String} :
      Takes P L d stores (.forge header claims key token) stores

/-- The services take these steps one after another. -/
inductive Steps (P : Platform) (L : ClientLibrary) (d : Deployment) (first : ServiceStores) :
    List SystemStep → ServiceStores → Prop
  | nil : Steps P L d first [] first
  | snoc {middle last : ServiceStores} {steps : List SystemStep} {step : SystemStep} :
      Steps P L d first steps middle → Takes P L d middle step last →
      Steps P L d first (steps ++ [step]) last

/-- The key sets fetched from this URI hold no keys but the owner's. -/
def KeysOf (P : Platform) (d : Deployment) (jwksUri : String) (owner : KeyOwner)
    (trace : List Event) : Prop :=
  ∀ forced keys, ⟨.getKeys jwksUri forced, .ok keys⟩ ∈ trace → ∀ jwk ∈ keys,
    ∀ signer : PrivateKey, importKey P jwk = .ok signer.publicKey → d.owner signer = owner

namespace SystemStep

/-- The step signs this token over these claims. -/
def Signs (key : PrivateKey) (claims : Obj) (token : String) : SystemStep → Prop
  | login _ trace => ∃ header, ⟨.signJwt header claims key, .ok token⟩ ∈ trace
  | exchange _ trace => ∃ header, ⟨.signJwt header claims key, .ok token⟩ ∈ trace
  | loan _ _ _ => False
  | entry _ _ _ => False
  | forge _ claims' key' token' => claims = claims' ∧ key = key' ∧ token = token'

/-- The step is given this token. -/
def Presents (token : String) : SystemStep → Prop
  | login _ _ => False
  | exchange req _ => getStringField req.body "subject_token" = some token
  | loan req _ _ => bearerToken req = .ok token
  | entry req _ _ => bearerToken req = .ok token
  | forge _ _ _ _ => False

/-- Everybody signs with their own keys, and is given those of the party they ask. -/
def KeepsKeys (P : Platform) (d : Deployment) : SystemStep → Prop
  | login _ trace => ∀ key, ⟨.signingKey, .ok key⟩ ∈ trace → d.owner key.privateKey = .userIssuer
  | exchange _ trace =>
      (∀ key, ⟨.signingKey, .ok key⟩ ∈ trace → d.owner key.privateKey = .broker) ∧
        KeysOf P d d.broker.subjectValidator.userIssuerJwksUri .userIssuer trace ∧
        KeysOf P d d.broker.subjectValidator.brokerJwksUri .broker trace
  | loan _ trace _ => KeysOf P d d.receiving.brokerJwksUri .broker trace
  | entry _ trace _ => KeysOf P d d.ledger.brokerJwksUri .broker trace
  | forge _ _ key _ => d.owner key = .other

end SystemStep

/-- Some step signs this token over these claims. -/
def SignedBefore (steps : List SystemStep) (key : PrivateKey) (claims : Obj) (token : String) : Prop :=
  ∃ step ∈ steps, step.Signs key claims token

/-- A run from empty stores in which nobody signs for the issuer or the broker. -/
structure SystemRun (P : Platform) (L : ClientLibrary) (d : Deployment) where
  steps : List SystemStep
  stores : ServiceStores
  taken : Steps P L d ⟨[], []⟩ steps stores
  keys : ∀ step ∈ steps, step.KeepsKeys P d
  unforgeable : ∀ before step after, steps = before ++ step :: after → ∀ token,
    step.Presents token → ∀ (signer : PrivateKey) options payload, d.owner signer ≠ .other →
      P.jwtVerify token signer.publicKey options = .ok payload →
        SignedBefore before signer payload.claims token

section Steps

variable {P : Platform} {L : ClientLibrary} {d : Deployment}

/-- Every step of a run is taken from some stores. -/
theorem Steps.takes {first last : ServiceStores} {steps : List SystemStep}
    (taken : Steps P L d first steps last) {step : SystemStep} (member : step ∈ steps) :
    ∃ before after, Takes P L d before step after := by
  induction taken with
  | nil => cases member
  | snoc earlier takes ih =>
      rcases List.mem_append.mp member with inside | final
      · exact ih inside
      · cases List.mem_singleton.mp final
        exact ⟨_, _, takes⟩

end Steps

end S2s
