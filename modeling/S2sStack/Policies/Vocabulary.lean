import S2sStack.Envelope.Delivery
import S2sStack.Policies.LeastPrivilege
import S2sStack.Policies.Requests
import S2sStack.Service.AuthorizationCalls
import S2sStack.TokenTable

set_option autoImplicit false

/- The requests that the services put to the policies, in the words that the policies use. -/
namespace S2s

open Effect Effect.Program
open Js (Json Obj)
open M2M (resourceGroup)

/-- The program can ask for a decision on this input. -/
def AsksFor {α : Type} (program : Act α) (input : AuthorizeInput) : Prop :=
  ∃ trace outcome reply, Runs program trace outcome ∧ ⟨.authorize input, reply⟩ ∈ trace

/-- `POST /api/loans` as the router under `/api` hands it on. -/
structure PostsLoan (req : Request) : Prop where
  method : req.method = "POST"
  route : req.routePath = some "/loans"

/-- `POST /api/ledger/entries` -/
structure PostsEntry (req : Request) : Prop where
  method : req.method = "POST"
  route : req.routePath = some "/ledger/entries"

/-- Some store allows the call to somebody, however it names its types. -/
def Allowed (input : AuthorizeInput) : Prop :=
  ∃ qualify principal entities,
    Cedar.isAuthorized (cedarRequest qualify principal input) entities M2M.allPolicies = .allow

/-- The type names of a call, in the namespace of the schema. -/
def inM2M : Qualifier := fun type => "M2M::" ++ type

/-- The policies allow the call to this principal wherever the resource is in the group. -/
def AllowedTo (client group : String) (input : AuthorizeInput) : Prop :=
  ∀ entities : Cedar.Entities,
    entities.isIn (cedarEntity inM2M (splitResource input.resource)) (resourceGroup group) = true →
      Cedar.isAuthorized (cedarRequest inM2M (M2M.servicePrincipal client) input) entities
        M2M.allPolicies = .allow

/-- The call is for a loan officer with this scope behind these actors. -/
structure ForOfficer (input : AuthorizeInput) (scope : String) (actors : List String) : Prop where
  scopes : (input.context.getD []).get? "scopes" = some (strings [scope])
  actors : (input.context.getD []).get? "actor_chain" = some (strings actors)
  user : ∃ (user : Obj) (roles : List String),
    (input.context.getD []).get? "user" = some (.obj user) ∧
    user.get? "roles" = some (strings roles) ∧ "loan-officer" ∈ roles

/-- The loan officer's request at receiving-service is allowed to calling-service. -/
def LoansAllowed : Prop :=
  ∀ P config req input, PostsLoan req → AsksFor (receivingBrokerAuth P config req) input →
    ForOfficer input "lending/write" ["calling-service"] →
      AllowedTo "calling-service" "lending-resources" input

/-- The loan officer's request at ledger-service is allowed to receiving-service. -/
def EntriesAllowed : Prop :=
  ∀ P config req input, PostsEntry req → AsksFor (ledgerBrokerAuth P config req) input →
    ForOfficer input "ledger/write" ["calling-service", "receiving-service-outbound"] →
      AllowedTo "receiving-service-outbound" "ledger-resources" input

/-- A loan application from the queue is allowed to lending-service. -/
def ApplicationsAllowed : Prop :=
  ∀ P config input, config.resourcePrefix = "lending" → AsksFor (processOneBatch P config) input →
    input.principal = servicePrincipal "lending-service-client-id" →
    input.action = "Action::POST_loan_application" →
    (input.context.getD []).get? "scopes" = some (strings ["lending/write"]) →
      AllowedTo "lending-service-client-id" "lending-resources" input

section Vocabulary

variable {input : AuthorizeInput}

theorem Allowed.of_allowedTo {client group : String} (allowed : AllowedTo client group input) :
    Allowed input := by
  let everywhere : Cedar.Entities := ⟨fun _ => [resourceGroup group]⟩
  have inside : everywhere.isIn (cedarEntity inM2M (splitResource input.resource))
      (resourceGroup group) = true := by
    simp [Cedar.Entities.isIn, everywhere]
  exact ⟨inM2M, _, everywhere, allowed everywhere inside⟩

/-- No action of the policies has a name that is not in the schema. -/
theorem not_allowed_of_action {id : String} (named : splitAction input.action = ⟨"Action", id⟩)
    (unknown : ∀ row ∈ M2M.contextActions, row.id ≠ id) : ¬ Allowed input := by
  rintro ⟨qualify, principal, entities, allowed⟩
  obtain ⟨row, member, acts, _⟩ := (M2M.permitted_of_allowed allowed).covered
  have same : id = row.id := by
    have ids := congrArg Cedar.EntityUID.id acts
    simp only [cedarRequest, named, cedarEntity] at ids
    exact ids
  exact unknown row member same.symm

/-- Nothing is allowed that is not confirmed. -/
theorem not_allowed_of_unconfirmed
    (unconfirmed : (input.context.getD []).get? "dpop_confirmed" = some (.bool false)) :
    ¬ Allowed input := by
  rintro ⟨qualify, principal, entities, allowed⟩
  have confirmed := (M2M.permitted_of_allowed allowed).confirmed
  simp only [cedarRequest, lookup_cedarFields, unconfirmed, Option.map_some, cedarValue]
    at confirmed
  cases confirmed

theorem serviceCall_not_allowed {P : Platform} {deps : BrokerAuthDeps} {req : Request}
    {id : String} (named : splitAction (actionOf req) = ⟨"Action", id⟩)
    (unknown : ∀ row ∈ M2M.contextActions, row.id ≠ id)
    (asks : AsksFor (brokerAuth P deps req) input) : ¬ Allowed input := by
  obtain ⟨trace, outcome, reply, run, asked⟩ := asks
  obtain ⟨requestId, accessToken, validated, _, chain, _, _, _, rfl⟩ :=
    brokerAuth_authorize run asked
  exact not_allowed_of_action named unknown

theorem actionOf_loan {req : Request} (posts : PostsLoan req) :
    splitAction (actionOf req) = ⟨"Action", "POST__loans"⟩ := by
  simp only [actionOf, posts.method, posts.route, Option.getD_some]
  decide +kernel

theorem actionOf_entry {req : Request} (posts : PostsEntry req) :
    splitAction (actionOf req) = ⟨"Action", "POST__ledger_entries"⟩ := by
  simp only [actionOf, posts.method, posts.route, Option.getD_some]
  decide +kernel

/-- No request of the three flows is ever allowed: the routes are called by names that no policy
has, and the consumer never confirms a proof. -/
theorem flows_never_allowed (P : Platform) (config : BrokerServiceConfig)
    (consumer : ConsumerConfig) (req : Request) (input : AuthorizeInput) :
    (PostsLoan req → AsksFor (receivingBrokerAuth P config req) input → ¬ Allowed input) ∧
    (PostsEntry req → AsksFor (ledgerBrokerAuth P config req) input → ¬ Allowed input) ∧
    (AsksFor (processOneBatch P consumer) input → ¬ Allowed input) := by
  refine ⟨?_, ?_, ?_⟩
  · intro posts asks
    exact serviceCall_not_allowed (actionOf_loan posts) (by decide +kernel) asks
  · intro posts asks
    exact serviceCall_not_allowed (actionOf_entry posts) (by decide +kernel) asks
  · intro asks
    obtain ⟨trace, outcome, reply, run, asked⟩ := asks
    obtain ⟨_, _, message, _, judging, _, _, judge, inside⟩ := Batch.authorize_of_runs run asked
    obtain ⟨_, _, verified, _, _, _, rfl⟩ := judgeMessage_authorize judge inside
    exact not_allowed_of_unconfirmed rfl

end Vocabulary

section LoanOfficer

/-- alice's token for receiving-service, and a proof for her application. -/
def officerToken : JwtPayload := JwtPayload.ofClaims
  [("iss", .str "https://broker"), ("sub", .str "user-alice"), ("aud", .str "receiving"),
    ("scope", .str "lending/write"), ("exp", .num 2000), ("roles", strings ["loan-officer"]),
    ("groups", strings ["retail-banking"]), ("act", .obj [("sub", .str "calling-service")]),
    ("cnf", .obj [("jkt", .str "thumbprint-1")])] rfl

def officerProof : JwtPayload := JwtPayload.ofClaims
  [("htm", .str "POST"), ("htu", .str "https://receiving/api/loans"), ("iat", .num 1000),
    ("jti", .str "jti-1"), ("ath", .str "hash"), ("nonce", .str "nonce-1")] rfl

def officerTable : TokenTable where
  tokens := [⟨"token", [("alg", .str "RS256")], officerToken, ⟨7⟩⟩,
    ⟨"proof", [("typ", .str "dpop+jwt"), ("alg", .str "ES256"),
      ("jwk", .obj (TokenTable.jwkOf ⟨1⟩))], officerProof, ⟨1⟩⟩]
  hashes := [("token", "hash")]

def officerServices : SteadyServices where
  moment := 1000000
  keys _ := [TokenTable.jwkOf ⟨7⟩]
  signing := { privateKey := ⟨7⟩, publicJwk := TokenTable.jwkOf ⟨7⟩, kid := "k1" }
  signed := ""

def receivingConfigOf (resourcePrefix : String) : BrokerServiceConfig where
  brokerJwksUri := "https://broker/jwks"
  brokerIssuer := "https://broker"
  brokerAudience := "receiving"
  resourcePrefix := resourcePrefix
  nonceTtlSeconds := 120

def applicationRequest : Request where
  method := "POST"
  protocol := "https"
  originalUrl := "/api/loans"
  path := "/loans"
  routePath := some "/loans"
  headers := [("host", "receiving"), ("authorization", "DPoP token"), ("dpop", "proof"),
    ("x-request-id", "request-1")]
  body := none

def applicationInput : AuthorizeInput where
  principal := "ServicePrincipal::user-alice"
  action := "Action::POST__loans"
  resource := "lending::/loans"
  token := "token"
  context := some [("dpop_confirmed", .bool true), ("scopes", strings ["lending/write"]),
    ("source_domain", .str "receiving"), ("correlation_id", .str "request-1"),
    ("user", .obj [("sub", .str "user-alice"), ("roles", strings ["loan-officer"]),
      ("groups", strings ["retail-banking"])]),
    ("actor_chain", strings ["calling-service"])]

theorem application_asked :
    AsksFor (receivingBrokerAuth officerTable.platform (receivingConfigOf "lending")
      applicationRequest) applicationInput := by
  refine ⟨_, _, .ok officerServices.decision, officerServices.runs _, ?_⟩
  decide +kernel

theorem application_forOfficer :
    ForOfficer applicationInput "lending/write" ["calling-service"] where
  scopes := rfl
  actors := rfl
  user := ⟨_, _, rfl, rfl, List.mem_cons_self⟩

/-- alice's loan application is well formed, and no policy allows it. -/
theorem application_not_allowed : ¬ (LoansAllowed ∧ EntriesAllowed ∧ ApplicationsAllowed) := by
  rintro ⟨loans, _, _⟩
  have allowed := loans _ _ _ _ ⟨rfl, rfl⟩ application_asked application_forOfficer
  have unknown : ∀ row ∈ M2M.contextActions, row.id ≠ "POST__loans" := by decide +kernel
  have id : splitAction applicationInput.action = ⟨"Action", "POST__loans"⟩ := by decide +kernel
  exact not_allowed_of_action id unknown (Allowed.of_allowedTo allowed)

/-- The three kinds of request are not allowed, alice's among them. -/
theorem application_never_allowed : ¬ Allowed applicationInput :=
  have consumer : ConsumerConfig :=
    { queueUrl := "queue", queueArn := "arn", resourcePrefix := "lending" }
  (flows_never_allowed officerTable.platform (receivingConfigOf "lending") consumer
    applicationRequest applicationInput).1 ⟨rfl, rfl⟩ application_asked

end LoanOfficer

end S2s
