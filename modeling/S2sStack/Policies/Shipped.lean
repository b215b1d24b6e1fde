import S2sStack.Cedar.Authorizer

set_option autoImplicit false

/- `cedar-policies/policies`: the policy files, one definition for each. -/
namespace S2s.M2M

open Cedar

def servicePrincipal (client : String) : EntityUID := ⟨"M2M::ServicePrincipal", client⟩

def action (id : String) : EntityUID := ⟨"M2M::Action", id⟩

def resourceGroup (name : String) : EntityUID := ⟨"M2M::ResourceGroup", name⟩

/-- `context.name` -/
def contextAttr (name : String) : Expr := .attr (.var .context) name

/-- `context.dpop_confirmed == true` -/
def dpopConfirmed : Expr := .eq (contextAttr "dpop_confirmed") (.lit (.bool true))

/-- `context.scopes.contains(scope)` -/
def scopesContain (scope : String) : Expr := .contains (contextAttr "scopes") (.lit (.string scope))

/-- `context.source_domain == domain` -/
def sourceDomain (domain : String) : Expr :=
  .eq (contextAttr "source_domain") (.lit (.string domain))

/-- `context has name` -/
def contextHas (name : String) : Expr := .has (.var .context) name

/-- `context.user.roles.contains(role)` -/
def rolesContain (role : String) : Expr :=
  .contains (.attr (contextAttr "user") "roles") (.lit (.string role))

/-- `context.actor_chain.contains(actor)` -/
def chainContains (actor : String) : Expr :=
  .contains (contextAttr "actor_chain") (.lit (.string actor))

/-- `action == id` -/
def actionIs (id : String) : Expr := .eq (.var .action) (.lit (.entity (action id)))

/-- The permit of a context that its own service alone reads and writes. -/
def ownServicePermit (domain client post get group : String) : Policy where
  kind := .permit
  principal := .eq (servicePrincipal client)
  action := .among [action post, action get]
  resource := .within (resourceGroup group)
  whenHolds := [.and (.and dpopConfirmed (sourceDomain domain))
    (.or (.and (actionIs post) (scopesContain (domain ++ "/write")))
      (.and (actionIs get) (scopesContain (domain ++ "/read"))))]

/-- Nobody does `post` in the group. -/
def closedGroup (post group : String) : Policy where
  kind := .forbid
  action := .eq (action post)
  resource := .within (resourceGroup group)

/-- Access to the group takes a scope of its own. -/
def gatedGroup (actions : Scope) (group scope : String) : Policy where
  kind := .forbid
  action := actions
  resource := .within (resourceGroup group)
  unlessHolds := [scopesContain scope]

/-- `accounts.cedar` -/
def accountsPolicies : List Policy :=
  [ownServicePermit "accounts" "accounts-service-client-id" "POST_account" "GET_account"
      "accounts-resources",
    closedGroup "POST_account" "accounts-closed"]

/-- The global DPoP gate of `common.cedar`. -/
def dpopGate : Policy where
  kind := .forbid
  unlessHolds := [dpopConfirmed]

/-- `common.cedar` -/
def commonPolicies : List Policy :=
  [dpopGate, gatedGroup .any "pii-resources" "data-privacy/pii-access"]

/-- `deposits.cedar` -/
def depositsPolicies : List Policy :=
  [ownServicePermit "deposits" "deposits-service-client-id" "POST_deposit" "GET_deposit"
      "deposits-resources",
    gatedGroup .any "deposits-high-value" "deposits/high-value"]

/-- `fraud.cedar` -/
def fraudPolicies : List Policy :=
  [ownServicePermit "fraud" "fraud-service-client-id" "POST_fraud_signal" "GET_fraud_case"
      "fraud-resources",
    closedGroup "POST_fraud_signal" "fraud-cases-closed"]

/-- The outbound client of receiving-service writes entries for a loan officer. -/
def ledgerEntryPermit : Policy where
  kind := .permit
  principal := .eq (servicePrincipal "receiving-service-outbound")
  action := .eq (action "POST_ledger_entry")
  resource := .within (resourceGroup "ledger-resources")
  whenHolds := [.and (.and (.and (.and (.and dpopConfirmed (scopesContain "ledger/write"))
    (contextHas "user")) (rolesContain "loan-officer")) (contextHas "actor_chain"))
    (chainContains "calling-service")]

def ledgerEntryForbid : Policy where
  kind := .forbid
  action := .eq (action "POST_ledger_entry")
  whenHolds := [.and (contextHas "user") (.not (rolesContain "loan-officer"))]

/-- audit-service reads the ledger. -/
def auditPermit (get : String) : Policy where
  kind := .permit
  principal := .eq (servicePrincipal "audit-service")
  action := .eq (action get)
  resource := .within (resourceGroup "ledger-resources")
  whenHolds := [.and dpopConfirmed (scopesContain "ledger/read")]

/-- `ledger.cedar` -/
def ledgerPolicies : List Policy :=
  [ledgerEntryPermit, ledgerEntryForbid, auditPermit "GET_ledger_entry",
    auditPermit "LIST_ledger_entries"]

/-- lending-service on its own resources. -/
def lendingPermit (id scope : String) : Policy where
  kind := .permit
  principal := .eq (servicePrincipal "lending-service-client-id")
  action := .eq (action id)
  resource := .within (resourceGroup "lending-resources")
  whenHolds := [.and (.and dpopConfirmed (scopesContain scope)) (sourceDomain "lending")]

/-- calling-service applies for a loan on behalf of a loan officer or an auditor. -/
def callingServicePermit : Policy where
  kind := .permit
  principal := .eq (servicePrincipal "calling-service")
  action := .eq (action "POST_loan_application")
  resource := .within (resourceGroup "lending-resources")
  whenHolds := [.and (.and (.and dpopConfirmed (scopesContain "lending/write")) (contextHas "user"))
    (.or (rolesContain "loan-officer") (rolesContain "auditor"))]

def readerForbid : Policy where
  kind := .forbid
  action := .eq (action "POST_loan_application")
  whenHolds := [.and (.and (.and (contextHas "user") (rolesContain "reader"))
    (.not (rolesContain "loan-officer"))) (.not (rolesContain "auditor"))]

/-- batch-processor reads loan status between 02:00 and 05:00 UTC. -/
def batchPermit : Policy where
  kind := .permit
  principal := .eq (servicePrincipal "batch-processor-client-id")
  action := .eq (action "GET_loan_status")
  resource := .within (resourceGroup "reporting-resources")
  whenHolds := [.and (.and (.and (.and (.and dpopConfirmed (scopesContain "lending/read"))
    (sourceDomain "batch")) (contextHas "request_hour"))
    (.lessEq (.lit (.long 2)) (contextAttr "request_hour")))
    (.lessEq (contextAttr "request_hour") (.lit (.long 5)))]

/-- `lending.cedar` -/
def lendingPolicies : List Policy :=
  [lendingPermit "POST_loan_application" "lending/write",
    lendingPermit "GET_loan_status" "lending/read", callingServicePermit, readerForbid, batchPermit]

/-- `notifications.cedar` -/
def notificationsPolicies : List Policy :=
  [ownServicePermit "notifications" "notifications-service-client-id" "POST_notification"
      "GET_notification_status" "notifications-resources",
    gatedGroup (.eq (action "POST_notification")) "notifications-marketing"
      "notifications/marketing"]

/-- `payments.cedar` -/
def paymentsPolicies : List Policy :=
  [ownServicePermit "payments" "payments-service-client-id" "POST_payment" "GET_payment"
      "payments-resources",
    closedGroup "POST_payment" "payments-sanctioned"]

/-- `loadAllPolicies()` -/
def allPolicies : List Policy :=
  accountsPolicies ++ commonPolicies ++ depositsPolicies ++ fraudPolicies ++ ledgerPolicies ++
    lendingPolicies ++ notificationsPolicies ++ paymentsPolicies

section Conditions

variable {req : Request} {truth : Bool}

/-- The context has a set of scopes with this one in it. -/
def HasScope (req : Request) (scope : String) : Prop :=
  ∃ scopes, req.context.lookup "scopes" = some (.set scopes) ∧ .string scope ∈ scopes

/-- The context has a user with this role. -/
def HasRole (req : Request) (role : String) : Prop :=
  ∃ user roles, req.context.lookup "user" = some (.record user) ∧
    user.lookup "roles" = some (.set roles) ∧ .string role ∈ roles

/-- The actor is in the chain of the context. -/
def HasActor (req : Request) (actor : String) : Prop :=
  ∃ chain, req.context.lookup "actor_chain" = some (.set chain) ∧ .string actor ∈ chain

theorem anyEquals_string_iff {items : List Value} {text : String} :
    Value.anyEquals items (.string text) = true ↔ .string text ∈ items := by
  simp [Value.anyEquals_iff]

theorem is_dpopConfirmed_iff :
    Is req true dpopConfirmed ↔ req.context.lookup "dpop_confirmed" = some (.bool true) := by
  simp [dpopConfirmed, contextAttr, is_eq_iff, evaluate_context_attr_iff]

theorem is_sourceDomain_iff {domain : String} : Is req true (sourceDomain domain) ↔
    req.context.lookup "source_domain" = some (.string domain) := by
  simp [sourceDomain, contextAttr, is_eq_iff, evaluate_context_attr_iff]

theorem is_scopesContain_iff {scope : String} :
    Is req true (scopesContain scope) ↔ HasScope req scope := by
  simp [scopesContain, contextAttr, is_contains_iff, evaluate_context_attr_iff,
    anyEquals_string_iff, HasScope]

theorem is_rolesContain_iff {role : String} :
    Is req true (rolesContain role) ↔ HasRole req role := by
  rw [rolesContain, is_contains_iff]
  constructor
  · rintro ⟨roles, read, member⟩
    obtain ⟨user, present, given⟩ := evaluate_attr_iff.mp read
    exact ⟨user, roles, evaluate_context_attr_iff.mp present, given,
      anyEquals_string_iff.mp member⟩
  · rintro ⟨user, roles, present, given, member⟩
    exact ⟨roles, evaluate_attr_iff.mpr ⟨user, evaluate_context_attr_iff.mpr present, given⟩,
      anyEquals_string_iff.mpr member⟩

theorem is_chainContains_iff {actor : String} :
    Is req true (chainContains actor) ↔ HasActor req actor := by
  simp [chainContains, contextAttr, is_contains_iff, evaluate_context_attr_iff,
    anyEquals_string_iff, HasActor]

theorem is_actionIs_iff {id : String} : Is req true (actionIs id) ↔ req.action = action id := by
  simp [actionIs, is_eq_iff, readVar]

/-- Where the scopes are a set, a scope that is not denied is there. -/
theorem hasScope_of_not_denied {scope : String} {scopes : List Value}
    (given : req.context.lookup "scopes" = some (.set scopes))
    (kept : ¬ Is req false (scopesContain scope)) : HasScope req scope := by
  refine ⟨scopes, given, anyEquals_string_iff.mp ?_⟩
  apply Bool.not_eq_false _ |>.mp
  intro missing
  apply kept
  simp only [scopesContain, contextAttr, is_contains_iff, evaluate_context_attr_iff]
  exact ⟨scopes, given, missing⟩

end Conditions

end S2s.M2M
