import S2sStack.Policies.LeastPrivilege

set_option autoImplicit false

/- The closed groups, and the POSTs of other contexts that go into them. -/
namespace S2s.M2M

open Cedar

def closedGroups : List String := ["payments-sanctioned", "fraud-cases-closed", "accounts-closed"]

/-- The closed groups are closed to every POST. -/
def ClosedToPosts (req : Request) (entities : Entities) : Prop :=
  ∀ id, isPost id = true → req.action = action id → ∀ group ∈ closedGroups,
    entities.isIn req.resource (resourceGroup group) = false

/-- A context that its own service alone writes to. -/
structure OwnService where
  domain : String
  client : String
  post : String
  get : String
  group : String
  deriving DecidableEq

namespace OwnService

def permit (own : OwnService) : Policy :=
  ownServicePermit own.domain own.client own.post own.get own.group

end OwnService

def accountsService : OwnService :=
  ⟨"accounts", "accounts-service-client-id", "POST_account", "GET_account", "accounts-resources"⟩

def depositsService : OwnService :=
  ⟨"deposits", "deposits-service-client-id", "POST_deposit", "GET_deposit", "deposits-resources"⟩

def fraudService : OwnService :=
  ⟨"fraud", "fraud-service-client-id", "POST_fraud_signal", "GET_fraud_case", "fraud-resources"⟩

def notificationsService : OwnService :=
  ⟨"notifications", "notifications-service-client-id", "POST_notification",
    "GET_notification_status", "notifications-resources"⟩

def paymentsService : OwnService :=
  ⟨"payments", "payments-service-client-id", "POST_payment", "GET_payment", "payments-resources"⟩

def ownServices : List OwnService :=
  [accountsService, depositsService, fraudService, notificationsService, paymentsService]

/-- The client, the scope, the resource and the context record that a POST goes with. -/
inductive Posts (req : Request) (entities : Entities) : Prop
  | own (service : OwnService) : service ∈ ownServices → req.action = action service.post →
      req.principal = servicePrincipal service.client →
      entities.isIn req.resource (resourceGroup service.group) = true →
      req.context.lookup "source_domain" = some (.string service.domain) →
      HasScope req (service.domain ++ "/write") → Posts req entities
  | ledgerEntry : req.action = action "POST_ledger_entry" →
      req.principal = servicePrincipal "receiving-service-outbound" →
      entities.isIn req.resource (resourceGroup "ledger-resources") = true →
      HasScope req "ledger/write" → HasRole req "loan-officer" → HasActor req "calling-service" →
      Posts req entities
  | lending : req.action = action "POST_loan_application" →
      req.principal = servicePrincipal "lending-service-client-id" →
      entities.isIn req.resource (resourceGroup "lending-resources") = true →
      req.context.lookup "source_domain" = some (.string "lending") →
      HasScope req "lending/write" → Posts req entities
  | calling : req.action = action "POST_loan_application" →
      req.principal = servicePrincipal "calling-service" →
      entities.isIn req.resource (resourceGroup "lending-resources") = true →
      HasScope req "lending/write" → (HasRole req "loan-officer" ∨ HasRole req "auditor") →
      Posts req entities

/-- A POST that meets every demand of its own context, and those of the common file. -/
structure InOrder (req : Request) (entities : Entities) : Prop where
  confirmed : req.context.lookup "dpop_confirmed" = some (.bool true)
  posts : Posts req entities
  gated : Gated req entities
  closed : ClosedToOwnPost req entities
  notReader : req.action = action "POST_loan_application" → HasRole req "reader" →
    HasRole req "loan-officer" ∨ HasRole req "auditor"

section Rules

variable {req : Request} {entities : Entities}

/-- A role that a user with roles has not. -/
theorem is_rolesContain_false {role other : String} (user : HasRole req other)
    (lacks : ¬ HasRole req role) : Is req false (rolesContain role) := by
  obtain ⟨record, roles, present, given, _⟩ := user
  refine is_contains_iff.mpr ⟨roles, evaluate_attr_iff.mpr
    ⟨record, evaluate_context_attr_iff.mpr present, given⟩, ?_⟩
  apply Bool.eq_false_iff.mpr
  intro member
  exact lacks ⟨record, roles, present, given, anyEquals_string_iff.mp member⟩

theorem not_is_both {expr : Expr} (yes : Is req true expr) : ¬ Is req false expr := by
  intro no
  unfold Is at yes no
  rw [yes] at no
  cases no

theorem HasRole.has_user {role : String} (held : HasRole req role) :
    Is req true (contextHas "user") := by
  obtain ⟨user, _, present, _⟩ := held
  exact is_context_has_iff.mpr ⟨_, present⟩

theorem HasActor.has_chain {actor : String} (named : HasActor req actor) :
    Is req true (contextHas "actor_chain") := by
  obtain ⟨chain, present, _⟩ := named
  exact is_context_has_iff.mpr ⟨_, present⟩

/-- A ledger entry is posted for a loan officer. -/
theorem Posts.ledger_officer (posts : Posts req entities)
    (acts : req.action = action "POST_ledger_entry") : HasRole req "loan-officer" := by
  cases posts with
  | own service member same _ _ _ _ =>
      have other : ∀ service ∈ ownServices, "POST_ledger_entry" ≠ service.post := by decide
      exact absurd (action_inj.mp (acts.symm.trans same)) (other service member)
  | ledgerEntry _ _ _ _ officer _ => exact officer
  | lending same _ _ _ _ => exact absurd (acts.symm.trans same) (by simp)
  | calling same _ _ _ _ => exact absurd (acts.symm.trans same) (by simp)

/-- Where the policy permits a POST, the request goes with that POST. -/
def PermitsPosts (policy : Policy) : Prop :=
  policy.kind = .permit → ∀ req entities id, isPost id = true → req.action = action id →
    policy.satisfied req entities = true → Posts req entities

theorem permitsPosts_of_forbid {policy : Policy} (forbids : policy.kind = .forbid) :
    PermitsPosts policy := by
  intro permits
  rw [forbids] at permits
  cases permits

theorem own_permitsPosts {service : OwnService} (member : service ∈ ownServices) :
    PermitsPosts service.permit := by
  intro _ req entities id posts acts satisfied
  obtain ⟨principal, _, inside, conditions, _⟩ := satisfied_iff.mp satisfied
  have condition := conditions _ List.mem_cons_self
  simp only [is_and_true_iff, is_sourceDomain_iff] at condition
  obtain ⟨⟨_, domain⟩, access⟩ := condition
  rcases is_or_true_iff.mp access with writes | ⟨_, reads⟩
  · obtain ⟨acts, scope⟩ := is_and_true_iff.mp writes
    exact .own service member (is_actionIs_iff.mp acts) (of_decide_eq_true principal) inside domain
      (is_scopesContain_iff.mp scope)
  · have reading := is_actionIs_iff.mp (is_and_true_iff.mp reads).1
    have notPost : ∀ service ∈ ownServices, isPost service.get = false := by decide +kernel
    have same : id = service.get := action_inj.mp (acts.symm.trans reading)
    rw [same, notPost service member] at posts
    cases posts

/-- A permit of another action permits no POST. -/
theorem permitsPosts_of_read {policy : Policy} {get : String}
    (only : policy.action = .eq (action get)) (reads : isPost get = false) :
    PermitsPosts policy := by
  intro _ req entities id posts acts satisfied
  have admits := (satisfied_iff.mp satisfied).2.1
  rw [only] at admits
  have same : id = get := action_inj.mp (acts.symm.trans (of_decide_eq_true admits))
  rw [same, reads] at posts
  cases posts

theorem ledgerEntry_permitsPosts : PermitsPosts ledgerEntryPermit := by
  intro _ req entities id _ _ satisfied
  obtain ⟨principal, acts, inside, conditions, _⟩ := satisfied_iff.mp satisfied
  have condition := conditions _ List.mem_cons_self
  simp only [is_and_true_iff, is_scopesContain_iff, is_rolesContain_iff, is_chainContains_iff]
    at condition
  obtain ⟨⟨⟨⟨⟨_, scope⟩, _⟩, officer⟩, _⟩, chain⟩ := condition
  exact .ledgerEntry (of_decide_eq_true acts) (of_decide_eq_true principal) inside scope officer chain

theorem lending_permitsPosts :
    PermitsPosts (lendingPermit "POST_loan_application" "lending/write") := by
  intro _ req entities id _ _ satisfied
  obtain ⟨principal, acts, inside, conditions, _⟩ := satisfied_iff.mp satisfied
  have condition := conditions _ List.mem_cons_self
  simp only [is_and_true_iff, is_scopesContain_iff, is_sourceDomain_iff] at condition
  obtain ⟨⟨_, scope⟩, domain⟩ := condition
  exact .lending (of_decide_eq_true acts) (of_decide_eq_true principal) inside domain scope

theorem calling_permitsPosts : PermitsPosts callingServicePermit := by
  intro _ req entities id _ _ satisfied
  obtain ⟨principal, acts, inside, conditions, _⟩ := satisfied_iff.mp satisfied
  have condition := conditions _ List.mem_cons_self
  simp only [is_and_true_iff, is_or_true_iff, is_scopesContain_iff, is_rolesContain_iff]
    at condition
  obtain ⟨⟨⟨_, scope⟩, _⟩, roles⟩ := condition
  exact .calling (of_decide_eq_true acts) (of_decide_eq_true principal) inside scope
    (roles.imp_right And.right)

theorem all_permitsPosts : ∀ policy ∈ allPolicies, PermitsPosts policy := by
  have accounts : PermitsPosts accountsService.permit := own_permitsPosts (by decide)
  have deposits : PermitsPosts depositsService.permit := own_permitsPosts (by decide)
  have fraud : PermitsPosts fraudService.permit := own_permitsPosts (by decide)
  have notifications : PermitsPosts notificationsService.permit := own_permitsPosts (by decide)
  have payments : PermitsPosts paymentsService.permit := own_permitsPosts (by decide)
  have forbids {policy : Policy} := @permitsPosts_of_forbid policy
  have reads {get : String} (reading : isPost get = false) : PermitsPosts (auditPermit get) :=
    permitsPosts_of_read rfl reading
  have status : PermitsPosts (lendingPermit "GET_loan_status" "lending/read") :=
    permitsPosts_of_read rfl (by decide)
  have batch : PermitsPosts batchPermit := permitsPosts_of_read rfl (by decide)
  simp only [allPolicies, accountsPolicies, commonPolicies, depositsPolicies, fraudPolicies,
    ledgerPolicies, lendingPolicies, notificationsPolicies, paymentsPolicies,
    List.forall_mem_append, List.forall_mem_cons]
  have none := List.forall_mem_nil PermitsPosts
  exact ⟨⟨⟨⟨⟨⟨⟨⟨accounts, forbids rfl, none⟩, forbids rfl, forbids rfl, none⟩,
    deposits, forbids rfl, none⟩, fraud, forbids rfl, none⟩,
    ledgerEntry_permitsPosts, forbids rfl, reads (by decide), reads (by decide), none⟩,
    lending_permitsPosts, status, calling_permitsPosts, forbids rfl, batch, none⟩,
    notifications, forbids rfl, none⟩, payments, forbids rfl, none⟩

/-- A permit with one condition is satisfied where its head admits the request and that holds. -/
theorem satisfied_of_condition {policy : Policy} {condition : Expr}
    (principal : policy.principal.admits entities req.principal = true)
    (acts : policy.action.admits entities req.action = true)
    (inside : policy.resource.admits entities req.resource = true)
    (single : policy.whenHolds = [condition]) (bare : policy.unlessHolds = [])
    (holds : Is req true condition) : policy.satisfied req entities = true := by
  refine satisfied_iff.mpr ⟨principal, acts, inside, ?_, ?_⟩
  · intro expr member
    rw [single] at member
    rwa [List.mem_singleton.mp member]
  · intro expr member
    rw [bare] at member
    exact absurd member List.not_mem_nil

theorem own_satisfied {service : OwnService}
    (confirmed : req.context.lookup "dpop_confirmed" = some (.bool true))
    (acts : req.action = action service.post)
    (principal : req.principal = servicePrincipal service.client)
    (inside : entities.isIn req.resource (resourceGroup service.group) = true)
    (domain : req.context.lookup "source_domain" = some (.string service.domain))
    (scope : HasScope req (service.domain ++ "/write")) :
    service.permit.satisfied req entities = true := by
  have condition : Is req true (.and (.and dpopConfirmed (sourceDomain service.domain))
      (.or (.and (actionIs service.post) (scopesContain (service.domain ++ "/write")))
        (.and (actionIs service.get) (scopesContain (service.domain ++ "/read"))))) := by
    simp only [is_and_true_iff, is_or_true_iff, is_dpopConfirmed_iff, is_sourceDomain_iff,
      is_actionIs_iff, is_scopesContain_iff]
    exact ⟨⟨confirmed, domain⟩, .inl ⟨acts, scope⟩⟩
  have among : Scope.admits entities req.action
      (.among [action service.post, action service.get]) = true := by
    simp [Scope.admits, Entities.isIn, acts]
  exact satisfied_of_condition (decide_eq_true principal) among inside rfl rfl condition

theorem ownPermit_listed : ∀ service ∈ ownServices, service.permit ∈ allPolicies := by
  intro service member
  simp only [ownServices, List.mem_cons, List.not_mem_nil, or_false] at member
  rcases member with rfl | rfl | rfl | rfl | rfl <;>
    simp [allPolicies, accountsPolicies, depositsPolicies, fraudPolicies,
      notificationsPolicies, paymentsPolicies, OwnService.permit, accountsService,
      depositsService, fraudService, notificationsService, paymentsService]

/-- One of the two roles, looked for one after the other. -/
theorem is_officer_or_auditor (roles : HasRole req "loan-officer" ∨ HasRole req "auditor") :
    Is req true (.or (rolesContain "loan-officer") (rolesContain "auditor")) := by
  apply is_or_true_iff.mpr
  by_cases officer : HasRole req "loan-officer"
  · exact .inl (is_rolesContain_iff.mpr officer)
  · have auditor := roles.resolve_left officer
    exact .inr ⟨is_rolesContain_false auditor officer, is_rolesContain_iff.mpr auditor⟩

/-- A POST that goes with its context is permitted, if it is confirmed. -/
theorem exists_permit (confirmed : req.context.lookup "dpop_confirmed" = some (.bool true))
    (posts : Posts req entities) :
    ∃ policy ∈ allPolicies, policy.kind = .permit ∧ policy.satisfied req entities = true := by
  have dpop := is_dpopConfirmed_iff.mpr confirmed
  cases posts with
  | own service member acts principal inside domain scope =>
      exact ⟨service.permit, ownPermit_listed service member, rfl,
        own_satisfied confirmed acts principal inside domain scope⟩
  | ledgerEntry acts principal inside scope officer chain =>
      have condition : Is req true (.and (.and (.and (.and (.and dpopConfirmed
          (scopesContain "ledger/write")) (contextHas "user")) (rolesContain "loan-officer"))
          (contextHas "actor_chain")) (chainContains "calling-service")) := by
        simp only [is_and_true_iff, is_scopesContain_iff, is_rolesContain_iff, is_chainContains_iff]
        exact ⟨⟨⟨⟨⟨dpop, scope⟩, officer.has_user⟩, officer⟩, chain.has_chain⟩, chain⟩
      exact ⟨ledgerEntryPermit, by simp [allPolicies, ledgerPolicies], rfl,
        satisfied_of_condition (decide_eq_true principal) (decide_eq_true acts) inside rfl rfl
          condition⟩
  | lending acts principal inside domain scope =>
      have condition : Is req true (.and (.and dpopConfirmed (scopesContain "lending/write"))
          (sourceDomain "lending")) := by
        simp only [is_and_true_iff, is_scopesContain_iff, is_sourceDomain_iff]
        exact ⟨⟨dpop, scope⟩, domain⟩
      exact ⟨lendingPermit "POST_loan_application" "lending/write",
        by simp [allPolicies, lendingPolicies], rfl,
        satisfied_of_condition (decide_eq_true principal) (decide_eq_true acts) inside rfl rfl
          condition⟩
  | calling acts principal inside scope roles =>
      have user : Is req true (contextHas "user") :=
        roles.elim HasRole.has_user HasRole.has_user
      have condition : Is req true (.and (.and (.and dpopConfirmed (scopesContain "lending/write"))
          (contextHas "user")) (.or (rolesContain "loan-officer") (rolesContain "auditor"))) := by
        simp only [is_and_true_iff, is_scopesContain_iff]
        exact ⟨⟨⟨dpop, scope⟩, user⟩, is_officer_or_auditor roles⟩
      exact ⟨callingServicePermit, by simp [allPolicies, lendingPolicies], rfl,
        satisfied_of_condition (decide_eq_true principal) (decide_eq_true acts) inside rfl rfl
          condition⟩

/-- A gate whose scope the request has does not apply. -/
theorem gate_free {actions : Scope} {group scope : String}
    (has : actions.admits entities req.action = true →
      entities.isIn req.resource (resourceGroup group) = true → HasScope req scope) :
    (gatedGroup actions group scope).satisfied req entities = false := by
  apply Bool.eq_false_iff.mpr
  intro satisfied
  obtain ⟨_, acts, inside, _, missing⟩ := satisfied_iff.mp satisfied
  exact not_is_both (is_scopesContain_iff.mpr (has acts inside)) (missing _ List.mem_cons_self)

theorem closed_free {post group : String} (outside : req.action = action post →
    entities.isIn req.resource (resourceGroup group) = false) :
    (closedGroup post group).satisfied req entities = false := by
  apply Bool.eq_false_iff.mpr
  intro satisfied
  obtain ⟨_, acts, inside, _⟩ := satisfied_iff.mp satisfied
  have impossible := outside (of_decide_eq_true acts)
  rw [show entities.isIn req.resource (resourceGroup group) = true from inside] at impossible
  cases impossible

theorem dpopGate_free (confirmed : req.context.lookup "dpop_confirmed" = some (.bool true)) :
    dpopGate.satisfied req entities = false := by
  apply Bool.eq_false_iff.mpr
  intro satisfied
  have missing := (satisfied_iff.mp satisfied).2.2.2.2 _ List.mem_cons_self
  exact not_is_both (is_dpopConfirmed_iff.mpr confirmed) missing

theorem ledgerEntryForbid_free
    (officer : req.action = action "POST_ledger_entry" → HasRole req "loan-officer") :
    ledgerEntryForbid.satisfied req entities = false := by
  apply Bool.eq_false_iff.mpr
  intro satisfied
  obtain ⟨_, acts, _, conditions, _⟩ := satisfied_iff.mp satisfied
  have condition := conditions _ List.mem_cons_self
  simp only [is_and_true_iff, is_not_iff] at condition
  exact not_is_both (is_rolesContain_iff.mpr (officer (of_decide_eq_true acts))) condition.2

theorem readerForbid_free (notReader : req.action = action "POST_loan_application" →
    HasRole req "reader" → HasRole req "loan-officer" ∨ HasRole req "auditor") :
    readerForbid.satisfied req entities = false := by
  apply Bool.eq_false_iff.mpr
  intro satisfied
  obtain ⟨_, acts, _, conditions, _⟩ := satisfied_iff.mp satisfied
  have condition := conditions _ List.mem_cons_self
  simp only [is_and_true_iff, is_not_iff, is_rolesContain_iff] at condition
  obtain ⟨⟨⟨_, reader⟩, notOfficer⟩, notAuditor⟩ := condition
  rcases notReader (of_decide_eq_true acts) reader with officer | auditor
  · exact not_is_both (is_rolesContain_iff.mpr officer) notOfficer
  · exact not_is_both (is_rolesContain_iff.mpr auditor) notAuditor

/-- Nothing forbids a POST that is in order. -/
theorem free_of_inOrder (order : InOrder req entities) :
    ∀ policy ∈ allPolicies, policy.kind = .forbid → policy.satisfied req entities = false := by
  have dpop : dpopGate.satisfied req entities = false := dpopGate_free order.confirmed
  have entry : ledgerEntryForbid.satisfied req entities = false :=
    ledgerEntryForbid_free order.posts.ledger_officer
  have reader : readerForbid.satisfied req entities = false := readerForbid_free order.notReader
  have pii : (gatedGroup .any "pii-resources" "data-privacy/pii-access").satisfied req entities =
      false := gate_free fun _ => order.gated.pii
  have highValue : (gatedGroup .any "deposits-high-value" "deposits/high-value").satisfied req
      entities = false := gate_free fun _ => order.gated.highValue
  have marketing : (gatedGroup (.eq (action "POST_notification")) "notifications-marketing"
      "notifications/marketing").satisfied req entities = false :=
    gate_free fun acts => order.gated.marketing (of_decide_eq_true acts)
  have accounts : (closedGroup "POST_account" "accounts-closed").satisfied req entities = false :=
    closed_free order.closed.accounts
  have fraud : (closedGroup "POST_fraud_signal" "fraud-cases-closed").satisfied req entities =
      false := closed_free order.closed.fraud
  have payments : (closedGroup "POST_payment" "payments-sanctioned").satisfied req entities =
      false := closed_free order.closed.payments
  have permits {policy : Policy} (permit : policy.kind = .permit) (forbid : policy.kind = .forbid) :
      policy.satisfied req entities = false := by
    rw [permit] at forbid
    cases forbid
  have none := List.forall_mem_nil
    fun policy : Policy => policy.kind = .forbid → policy.satisfied req entities = false
  simp only [allPolicies, accountsPolicies, commonPolicies, depositsPolicies, fraudPolicies,
    ledgerPolicies, lendingPolicies, notificationsPolicies, paymentsPolicies,
    List.forall_mem_append, List.forall_mem_cons]
  exact ⟨⟨⟨⟨⟨⟨⟨⟨permits rfl, fun _ => accounts, none⟩, fun _ => dpop, fun _ => pii, none⟩,
    permits rfl, fun _ => highValue, none⟩, permits rfl, fun _ => fraud, none⟩,
    permits rfl, fun _ => entry, permits rfl, permits rfl, none⟩,
    permits rfl, permits rfl, permits rfl, fun _ => reader, permits rfl, none⟩,
    permits rfl, fun _ => marketing, none⟩, permits rfl, fun _ => payments, none⟩

theorem not_only_reader (free : readerForbid.satisfied req entities = false)
    (applies : req.action = action "POST_loan_application") (reader : HasRole req "reader") :
    HasRole req "loan-officer" ∨ HasRole req "auditor" := by
  apply Classical.byContradiction
  intro neither
  obtain ⟨notOfficer, notAuditor⟩ := not_or.mp neither
  have condition : Is req true (.and (.and (.and (contextHas "user") (rolesContain "reader"))
      (.not (rolesContain "loan-officer"))) (.not (rolesContain "auditor"))) := by
    simp only [is_and_true_iff, is_not_iff, is_rolesContain_iff]
    exact ⟨⟨⟨reader.has_user, reader⟩, is_rolesContain_false reader notOfficer⟩,
      is_rolesContain_false reader notAuditor⟩
  apply Bool.eq_false_iff.mp free
  apply satisfied_iff.mpr
  refine ⟨rfl, decide_eq_true applies, rfl, ?_, List.forall_mem_nil _⟩
  intro expr member
  rwa [List.mem_singleton.mp member]

/-- A POST is allowed exactly where it is in order. -/
theorem allowed_iff_inOrder {id : String} (posts : isPost id = true)
    (acts : req.action = action id) :
    isAuthorized req entities allPolicies = .allow ↔ InOrder req entities := by
  rw [isAuthorized_allow_iff]
  constructor
  · rintro ⟨free, policy, member, permits, satisfied⟩
    have allowed := isAuthorized_allow_iff.mpr ⟨free, policy, member, permits, satisfied⟩
    have permitted := permitted_of_allowed allowed
    exact {
      confirmed := permitted.confirmed
      posts := all_permitsPosts policy member permits req entities id posts acts satisfied
      gated := gated_of_allowed allowed
      closed := closed_of_allowed allowed
      notReader := fun applies => not_only_reader
        (free readerForbid (by simp [allPolicies, lendingPolicies]) rfl) applies }
  · intro order
    exact ⟨free_of_inOrder order, exists_permit order.confirmed order.posts⟩

/-- Only POSTs are in order. -/
theorem Posts.exists_post (posts : Posts req entities) :
    ∃ id, isPost id = true ∧ req.action = action id := by
  cases posts with
  | own service member acts _ _ _ _ =>
      have post : ∀ service ∈ ownServices, isPost service.post = true := by decide +kernel
      exact ⟨service.post, post service member, acts⟩
  | ledgerEntry acts _ _ _ _ _ => exact ⟨_, by decide, acts⟩
  | lending acts _ _ _ _ => exact ⟨_, by decide, acts⟩
  | calling acts _ _ _ _ => exact ⟨_, by decide, acts⟩

end Rules

/-- Whatever is allowed has its scope and its client, is past the gates, and posts nothing into a
closed group. -/
def LeastPrivilege (req : Request) (entities : Entities) : Prop :=
  isAuthorized req entities allPolicies = .allow →
    Permitted req ∧ Gated req entities ∧ ClosedToPosts req entities

/-- A POST that is in order for its own context, on a resource that another context has closed. -/
def PostsIntoClosed (req : Request) (entities : Entities) : Prop :=
  InOrder req entities ∧
    ∃ group ∈ closedGroups, entities.isIn req.resource (resourceGroup group) = true

/-- The policies keep least privilege except for the POSTs that are in order for their own context
while their resource is in a group that another context has closed. -/
theorem leastPrivilege_iff (req : Request) (entities : Entities) :
    LeastPrivilege req entities ↔ ¬ PostsIntoClosed req entities := by
  constructor
  · rintro least ⟨order, group, member, inside⟩
    obtain ⟨id, posts, acts⟩ := order.posts.exists_post
    have closed := (least ((allowed_iff_inOrder posts acts).mpr order)).2.2
    rw [closed id posts acts group member] at inside
    cases inside
  · intro apart allowed
    obtain ⟨permitted, gated, _⟩ := leastPrivilege req entities allowed
    refine ⟨permitted, gated, fun id posts acts group member => ?_⟩
    apply Bool.eq_false_iff.mpr
    intro inside
    exact apart ⟨(allowed_iff_inOrder posts acts).mp allowed, group, member, inside⟩

section ClosedAccount

/-- A deposit into a group of the deposits context that is a closed account as well. -/
def closedAccountDeposit : Request where
  principal := servicePrincipal "deposits-service-client-id"
  action := action "POST_deposit"
  resource := resourceGroup "savings-2019"
  context := [("dpop_confirmed", .bool true), ("scopes", .set [.string "deposits/write"]),
    ("source_domain", .string "deposits"), ("correlation_id", .string "request-1")]

def closedAccountEntities : Entities where
  ancestors uid :=
    if uid = resourceGroup "savings-2019" then
      [resourceGroup "deposits-resources", resourceGroup "accounts-closed"]
    else []

/-- The forbid of a closed group names the POST of its own context only. -/
theorem closedAccount_open : ¬ ∀ req entities, LeastPrivilege req entities := by
  intro least
  have allowed : isAuthorized closedAccountDeposit closedAccountEntities allPolicies = .allow := by
    decide +kernel
  obtain ⟨_, _, closed⟩ := least _ _ allowed
  have outside := closed "POST_deposit" (by decide) rfl "accounts-closed" (by decide)
  revert outside
  decide +kernel

end ClosedAccount

end S2s.M2M
