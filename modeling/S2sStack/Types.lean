import S2sStack.Js.Json

set_option autoImplicit false

namespace S2s

open Js (Json Obj)

/-- An array of strings. -/
def strings (texts : List String) : Json := .arr (texts.map Json.str)

inductive Decision where
  | allow
  | deny
  deriving DecidableEq, Repr

def Decision.text : Decision → String
  | allow => "ALLOW"
  | deny => "DENY"

/-- Which engine a decision came from. -/
inductive DecisionMode where
  | api
  | «local»
  | cache
  deriving DecidableEq, Repr

structure AuthorizationResult where
  decision : Decision
  reasons : List String
  mode : DecisionMode
  deriving DecidableEq, Repr

structure AuthorizeInput where
  principal : String
  action : String
  resource : String
  token : String
  context : Option Obj
  deriving DecidableEq

/-- RFC 9449 confirmation claim. -/
structure CnfClaim where
  jkt : Option String
  deriving DecidableEq, Repr

structure ValidatedToken where
  sub : String
  scope : List String
  iss : String
  aud : String
  exp : Rat
  cnf : Option CnfClaim
  raw : Obj

structure UserContext where
  sub : String
  roles : List String
  groups : List String
  claims : Obj
  issuer : String
  deriving DecidableEq

/-- RFC 8693 `act` chain: an actor, or an actor above the hop before it. -/
inductive ActorChain where
  | root (sub : String)
  | via (sub : String) (act : ActorChain)
  deriving DecidableEq, Repr

namespace ActorChain

def sub : ActorChain → String
  | root sub => sub
  | via sub _ => sub

/-- The chain as the JSON object it is serialised to. -/
def toJson : ActorChain → Json
  | root sub => .obj [("sub", .str sub)]
  | via sub act => .obj [("sub", .str sub), ("act", act.toJson)]

end ActorChain

structure DPoPVerificationResult where
  jti : Json
  jwkThumbprint : String
  iat : Rat

/-- A message as the queue delivers it. -/
structure SqsMessage where
  body : Option String
  receiptHandle : Option String
  deriving DecidableEq, Repr

/-- What the services keep of a request besides the SDK's fields. -/
structure BrokerAuthExtras where
  user : UserContext
  actorChain : ActorChain
  token : String
  deriving DecidableEq

/-- `req.auth`; the SDK's middleware sets no extras. -/
structure RequestAuth where
  sub : String
  scopes : List String
  decision : Decision
  reasons : List String
  extras : Option BrokerAuthExtras := none
  deriving DecidableEq

end S2s
