import S2sStack.Policies.Vocabulary

set_option autoImplicit false

/- The user and the actors behind a request, as the policies of the two middlewares see them. -/
namespace S2s

open Effect Effect.Program
open Js (Json Obj)

/-- `{ sub, roles, groups }` -/
def identityOf (user : UserContext) : Json :=
  .obj [("sub", .str user.sub), ("roles", strings user.roles), ("groups", strings user.groups)]

/-- The context of the call has the user and the actor chain of the token. -/
structure CarriesIdentity (input : AuthorizeInput) (validated : ValidatedToken) : Prop where
  user : (input.context.getD []).get? "user" = some (identityOf (serviceUser validated))
  actors : ∃ chain, extractActorChain validated.raw = some chain ∧
    (input.context.getD []).get? "actor_chain" = some (strings (actorChainAsString (some chain)))

/-- A policy over `context.user.roles` and `context.actor_chain`. -/
def identityPolicy (kind : Cedar.PolicyKind) (roles actors : List String) : Cedar.Policy where
  kind := kind
  whenHolds := roles.map M2M.rolesContain ++ actors.map M2M.chainContains

/-- No set of such policies tells the two calls apart. -/
def DecidedAlike (first second : AuthorizeInput) : Prop :=
  ∀ policies, (∀ policy ∈ policies, ∃ kind roles actors, policy = identityPolicy kind roles actors) →
    ∀ qualify principal entities,
      Cedar.isAuthorized (cedarRequest qualify principal first) entities policies =
        Cedar.isAuthorized (cedarRequest qualify principal second) entities policies

/-- The two middlewares check the same tokens and proofs for the same resource. -/
structure SameSettings (deps : AuthMiddlewareDeps) (service : BrokerAuthDeps) : Prop where
  validateToken : deps.validateToken = service.validateToken
  verifyDPoP : deps.verifyDPoP = service.verifyDPoP
  audience : deps.expectedAudience = service.expectedAudience
  resource : deps.resourcePrefix = service.resourcePrefix

/-- The SDK hands the identity over, and decides like the service. -/
def HandsIdentity : Prop :=
  ∀ P deps service req input other, SameSettings deps service →
    AsksFor (authMiddleware P deps req) input → AsksFor (brokerAuth P service req) other →
      (∃ validated, CarriesIdentity input validated) ∧ DecidedAlike input other

section Identity

variable {P : Platform} {deps : AuthMiddlewareDeps} {service : BrokerAuthDeps} {req : Request}
  {input other : AuthorizeInput}

/-- The SDK's context has the confirmation and the scopes, and nothing else. -/
theorem sdk_context (asks : AsksFor (authMiddleware P deps req) input) :
    ∃ scopes, input.context = some [("dpop_confirmed", .bool deps.dpopRequired),
      ("scopes", strings scopes)] := by
  obtain ⟨trace, outcome, reply, run, asked⟩ := asks
  obtain ⟨_, validated, _, _, _, rfl⟩ := authMiddleware_authorize run asked
  exact ⟨validated.scope, rfl⟩

theorem chainSubs_ne_nil (chain : ActorChain) : chainSubs chain ≠ [] := by
  cases chain <;> simp [chainSubs]

/-- The service's context has a chain with an actor in it. -/
theorem service_actor (asks : AsksFor (brokerAuth P service req) other) :
    ∃ actors actor, (other.context.getD []).get? "actor_chain" = some (strings actors) ∧
      actor ∈ actors := by
  obtain ⟨trace, outcome, reply, run, asked⟩ := asks
  obtain ⟨_, _, _, _, chain, _, _, _, rfl⟩ := brokerAuth_authorize run asked
  obtain ⟨actor, member⟩ := List.exists_mem_of_ne_nil _ (chainSubs_ne_nil chain)
  exact ⟨actorChainAsString (some chain), actor, rfl, List.mem_reverse.mpr member⟩

/-- A permit for one actor is satisfied exactly where the actor is in the chain. -/
theorem actorPermit_allows_iff {actor : String} {req : Cedar.Request} {entities : Cedar.Entities} :
    Cedar.isAuthorized req entities [identityPolicy .permit [] [actor]] = .allow ↔
      M2M.HasActor req actor := by
  rw [Cedar.isAuthorized_allow_iff]
  simp [Cedar.satisfied_iff, identityPolicy, Cedar.Scope.admits, M2M.is_chainContains_iff]

/-- Whatever the token, the SDK's middleware withholds the user and the actors, and some policy
over them decides otherwise than behind the service's middleware. -/
theorem identity_withheld (asks : AsksFor (authMiddleware P deps req) input) :
    (∀ validated, ¬ CarriesIdentity input validated) ∧
      ∀ service other, AsksFor (brokerAuth P service req) other → ¬ DecidedAlike input other := by
  obtain ⟨scopes, context⟩ := sdk_context asks
  have noChain : (input.context.getD []).get? "actor_chain" = none := by
    rw [context]
    rfl
  constructor
  · intro validated carries
    obtain ⟨chain, _, present⟩ := carries.actors
    rw [noChain] at present
    cases present
  · intro service other asksOther alike
    obtain ⟨actors, actor, chain, member⟩ := service_actor asksOther
    let principal := M2M.servicePrincipal "calling-service"
    let entities : Cedar.Entities := ⟨fun _ => []⟩
    have same := alike [identityPolicy .permit [] [actor]]
      (fun policy one => ⟨.permit, [], [actor], List.mem_singleton.mp one⟩) id principal entities
    have allowed : Cedar.isAuthorized (cedarRequest id principal other) entities
        [identityPolicy .permit [] [actor]] = .allow := by
      apply actorPermit_allows_iff.mpr
      refine ⟨actors.map Cedar.Value.string, ?_, List.mem_map_of_mem member⟩
      simp only [cedarRequest, lookup_cedarFields, chain, Option.map_some, cedarValue_strings]
    obtain ⟨_, present, _⟩ := actorPermit_allows_iff.mp (same.trans allowed)
    simp only [cedarRequest, lookup_cedarFields, noChain, Option.map_none] at present
    cases present

end Identity

section SameRequest

def sdkDeps : AuthMiddlewareDeps :=
  let service := serviceDeps "dpop-nonce:" "receiving" (receivingConfigOf "lending")
  { expectedAudience := service.expectedAudience
    resourcePrefix := service.resourcePrefix
    validateToken := service.validateToken
    verifyDPoP := service.verifyDPoP }

def sdkInput : AuthorizeInput :=
  { applicationInput with
    context := some [("dpop_confirmed", .bool true), ("scopes", strings ["lending/write"])] }

theorem sdk_asked : AsksFor (authMiddleware officerTable.platform sdkDeps applicationRequest)
    sdkInput := by
  refine ⟨_, _, .ok officerServices.decision, officerServices.runs _, ?_⟩
  decide +kernel

/-- alice's application at the SDK's middleware comes without her roles and without its actor. -/
theorem application_withheld :
    (∀ validated, ¬ CarriesIdentity sdkInput validated) ∧ ¬ DecidedAlike sdkInput applicationInput :=
  have withheld := identity_withheld sdk_asked
  ⟨withheld.1, withheld.2 _ _ application_asked⟩

theorem application_not_handed : ¬ HandsIdentity := by
  intro hands
  have alike := (hands _ _ _ _ _ _ ⟨rfl, rfl, rfl, rfl⟩ sdk_asked application_asked).2
  let policies := [identityPolicy .permit ["loan-officer"] []]
  have same := alike policies
    (fun policy one => ⟨.permit, ["loan-officer"], [], List.mem_singleton.mp one⟩) id
    (M2M.servicePrincipal "calling-service") ⟨fun _ => []⟩
  revert same
  decide +kernel

end SameRequest

end S2s
