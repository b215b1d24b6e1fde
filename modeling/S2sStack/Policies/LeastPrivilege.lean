import S2sStack.Policies.Shipped

set_option autoImplicit false

/- What the shipped policies demand of a request before they allow it. -/
namespace S2s.M2M

open Cedar

/-- One context for each policy file except the common one. -/
inductive BoundedContext where
  | accounts
  | deposits
  | fraud
  | ledger
  | lending
  | notifications
  | payments
  deriving DecidableEq, Repr

namespace BoundedContext

def name : BoundedContext → String
  | accounts => "accounts"
  | deposits => "deposits"
  | fraud => "fraud"
  | ledger => "ledger"
  | lending => "lending"
  | notifications => "notifications"
  | payments => "payments"

def clients : BoundedContext → List String
  | accounts => ["accounts-service-client-id"]
  | deposits => ["deposits-service-client-id"]
  | fraud => ["fraud-service-client-id"]
  | ledger => ["receiving-service-outbound", "audit-service"]
  | lending => ["lending-service-client-id", "calling-service", "batch-processor-client-id"]
  | notifications => ["notifications-service-client-id"]
  | payments => ["payments-service-client-id"]

end BoundedContext

def isPost (id : String) : Bool := "POST_".toList.isPrefixOf id.toList

/-- An action of the schema and the context it belongs to. -/
structure ContextAction where
  id : String
  context : BoundedContext
  deriving DecidableEq

/-- The write scope of the context for a POST, else its read scope. -/
def ContextAction.scope (row : ContextAction) : String :=
  row.context.name ++ if isPost row.id then "/write" else "/read"

def contextActions : List ContextAction :=
  [⟨"POST_account", .accounts⟩, ⟨"GET_account", .accounts⟩, ⟨"POST_deposit", .deposits⟩,
    ⟨"GET_deposit", .deposits⟩, ⟨"POST_fraud_signal", .fraud⟩, ⟨"GET_fraud_case", .fraud⟩,
    ⟨"POST_ledger_entry", .ledger⟩, ⟨"GET_ledger_entry", .ledger⟩,
    ⟨"LIST_ledger_entries", .ledger⟩, ⟨"POST_loan_application", .lending⟩,
    ⟨"GET_loan_status", .lending⟩, ⟨"POST_notification", .notifications⟩,
    ⟨"GET_notification_status", .notifications⟩, ⟨"POST_payment", .payments⟩,
    ⟨"GET_payment", .payments⟩]

/-- The request is one of a context's own client with that context's scope. -/
def ContextAction.Covers (row : ContextAction) (req : Request) : Prop :=
  req.action = action row.id ∧ HasScope req row.scope ∧
    ∃ client ∈ row.context.clients, req.principal = servicePrincipal client

/-- What a permit asks of the request itself. -/
structure Permitted (req : Request) : Prop where
  confirmed : req.context.lookup "dpop_confirmed" = some (.bool true)
  covered : ∃ row ∈ contextActions, row.Covers req
  ledgerEntry : req.action = action "POST_ledger_entry" →
    HasRole req "loan-officer" ∧ HasActor req "calling-service"
  loanApplication : req.action = action "POST_loan_application" →
    req.principal = servicePrincipal "calling-service" →
      HasRole req "loan-officer" ∨ HasRole req "auditor"

/-- What the gated groups ask for on top. -/
structure Gated (req : Request) (entities : Entities) : Prop where
  pii : entities.isIn req.resource (resourceGroup "pii-resources") = true →
    HasScope req "data-privacy/pii-access"
  highValue : entities.isIn req.resource (resourceGroup "deposits-high-value") = true →
    HasScope req "deposits/high-value"
  marketing : req.action = action "POST_notification" →
    entities.isIn req.resource (resourceGroup "notifications-marketing") = true →
      HasScope req "notifications/marketing"

/-- Each closed group is closed to the POST of its own context. -/
structure ClosedToOwnPost (req : Request) (entities : Entities) : Prop where
  payments : req.action = action "POST_payment" →
    entities.isIn req.resource (resourceGroup "payments-sanctioned") = false
  fraud : req.action = action "POST_fraud_signal" →
    entities.isIn req.resource (resourceGroup "fraud-cases-closed") = false
  accounts : req.action = action "POST_account" →
    entities.isIn req.resource (resourceGroup "accounts-closed") = false

section Permits

variable {req : Request} {entities : Entities}

@[simp] theorem action_inj {first second : String} :
    action first = action second ↔ first = second := by
  simp [action]

@[simp] theorem servicePrincipal_inj {first second : String} :
    servicePrincipal first = servicePrincipal second ↔ first = second := by
  simp [servicePrincipal]

/-- A covered request of an action without a rule of its own is permitted. -/
theorem Permitted.of_covers {row : ContextAction} (member : row ∈ contextActions)
    (confirmed : req.context.lookup "dpop_confirmed" = some (.bool true)) (covers : row.Covers req)
    (notLedger : row.id ≠ "POST_ledger_entry") (notLoan : row.id ≠ "POST_loan_application") :
    Permitted req where
  confirmed := confirmed
  covered := ⟨row, member, covers⟩
  ledgerEntry same := absurd (action_inj.mp (covers.1.symm.trans same)) notLedger
  loanApplication same := absurd (action_inj.mp (covers.1.symm.trans same)) notLoan

/-- The rows of a context with one service of its own. -/
structure OwnRows (context : BoundedContext) (domain client post get : String) : Prop where
  named : context.name = domain
  postRow : ⟨post, context⟩ ∈ contextActions
  getRow : ⟨get, context⟩ ∈ contextActions
  isPost : isPost post = true
  isGet : M2M.isPost get = false
  client : client ∈ context.clients
  notLedger : post ≠ "POST_ledger_entry"
  notLoan : post ≠ "POST_loan_application"

theorem ownService_permitted {context : BoundedContext} {domain client post get group : String}
    (rows : OwnRows context domain client post get)
    (satisfied : (ownServicePermit domain client post get group).satisfied req entities = true) :
    Permitted req := by
  obtain ⟨principal, _, _, conditions, _⟩ := satisfied_iff.mp satisfied
  have named : req.principal = servicePrincipal client := of_decide_eq_true principal
  have condition := conditions _ List.mem_cons_self
  simp only [is_and_true_iff, is_dpopConfirmed_iff] at condition
  obtain ⟨⟨confirmed, _⟩, access⟩ := condition
  have own : ∃ name ∈ context.clients, req.principal = servicePrincipal name :=
    ⟨client, rows.client, named⟩
  rcases is_or_true_iff.mp access with writes | ⟨_, reads⟩
  · obtain ⟨posts, scope⟩ := is_and_true_iff.mp writes
    have covers : ContextAction.Covers ⟨post, context⟩ req := by
      refine ⟨is_actionIs_iff.mp posts, ?_, own⟩
      simpa only [ContextAction.scope, rows.named, rows.isPost, ↓reduceIte] using
        is_scopesContain_iff.mp scope
    exact .of_covers rows.postRow confirmed covers rows.notLedger rows.notLoan
  · obtain ⟨gets, scope⟩ := is_and_true_iff.mp reads
    have covers : ContextAction.Covers ⟨get, context⟩ req := by
      refine ⟨is_actionIs_iff.mp gets, ?_, own⟩
      simpa only [ContextAction.scope, rows.named, rows.isGet, Bool.false_eq_true, ↓reduceIte] using
        is_scopesContain_iff.mp scope
    have notPost : ∀ id, M2M.isPost id = true → get ≠ id := by
      rintro id posts rfl
      rw [rows.isGet] at posts
      cases posts
    exact .of_covers rows.getRow confirmed covers (notPost _ (by decide)) (notPost _ (by decide))

/-- A permit for one principal and one action covers exactly these. -/
theorem covers_of_scopes {row : ContextAction} {client scope : String} {group : Scope}
    {conditions : List Expr}
    (satisfied : Policy.satisfied req entities {
      kind := .permit
      principal := .eq (servicePrincipal client)
      action := .eq (action row.id)
      resource := group
      whenHolds := conditions } = true)
    (named : client ∈ row.context.clients) (own : row.scope = scope) (has : HasScope req scope) :
    row.Covers req := by
  obtain ⟨principal, acts, _⟩ := satisfied_iff.mp satisfied
  refine ⟨of_decide_eq_true acts, ?_, client, named, of_decide_eq_true principal⟩
  rwa [own]

theorem audit_permitted {get : String} (member : ⟨get, .ledger⟩ ∈ contextActions)
    (reads : isPost get = false)
    (satisfied : (auditPermit get).satisfied req entities = true) : Permitted req := by
  have condition := (satisfied_iff.mp satisfied).2.2.2.1 _ List.mem_cons_self
  simp only [is_and_true_iff, is_dpopConfirmed_iff, is_scopesContain_iff] at condition
  obtain ⟨confirmed, scope⟩ := condition
  have own : ContextAction.scope ⟨get, .ledger⟩ = "ledger/read" := by
    simp only [ContextAction.scope, reads]
    decide
  have notPost : ∀ id, isPost id = true → get ≠ id := by
    rintro id posts rfl
    rw [reads] at posts
    cases posts
  have named : "audit-service" ∈ BoundedContext.ledger.clients := by decide
  exact .of_covers member confirmed (covers_of_scopes satisfied named own scope)
    (notPost _ (by decide)) (notPost _ (by decide))

theorem ledgerEntry_permitted (satisfied : ledgerEntryPermit.satisfied req entities = true) :
    Permitted req := by
  have condition := (satisfied_iff.mp satisfied).2.2.2.1 _ List.mem_cons_self
  simp only [is_and_true_iff, is_dpopConfirmed_iff, is_scopesContain_iff, is_rolesContain_iff,
    is_chainContains_iff] at condition
  obtain ⟨⟨⟨⟨⟨confirmed, scope⟩, _⟩, officer⟩, _⟩, chain⟩ := condition
  have covers : ContextAction.Covers ⟨"POST_ledger_entry", .ledger⟩ req :=
    covers_of_scopes satisfied (by decide) (by decide) scope
  exact {
    confirmed := confirmed
    covered := ⟨_, by decide, covers⟩
    ledgerEntry := fun _ => ⟨officer, chain⟩
    loanApplication := fun same => absurd (covers.1.symm.trans same) (by simp) }

theorem lendingService_permitted {id scope : String} (member : ⟨id, .lending⟩ ∈ contextActions)
    (own : ContextAction.scope ⟨id, .lending⟩ = scope) (notLedger : id ≠ "POST_ledger_entry")
    (satisfied : (lendingPermit id scope).satisfied req entities = true) : Permitted req := by
  obtain ⟨principal, _, _, conditions, _⟩ := satisfied_iff.mp satisfied
  have named : req.principal = servicePrincipal "lending-service-client-id" :=
    of_decide_eq_true principal
  have condition := conditions _ List.mem_cons_self
  simp only [is_and_true_iff, is_dpopConfirmed_iff, is_scopesContain_iff] at condition
  obtain ⟨⟨confirmed, has⟩, _⟩ := condition
  have client : "lending-service-client-id" ∈ BoundedContext.lending.clients := by decide
  have covers : ContextAction.Covers ⟨id, .lending⟩ req :=
    covers_of_scopes satisfied client own has
  exact {
    confirmed := confirmed
    covered := ⟨_, member, covers⟩
    ledgerEntry := fun same => absurd (action_inj.mp (covers.1.symm.trans same)) notLedger
    loanApplication := fun _ same => absurd (named.symm.trans same) (by simp) }

theorem callingService_permitted (satisfied : callingServicePermit.satisfied req entities = true) :
    Permitted req := by
  have condition := (satisfied_iff.mp satisfied).2.2.2.1 _ List.mem_cons_self
  simp only [is_and_true_iff, is_or_true_iff, is_dpopConfirmed_iff, is_scopesContain_iff,
    is_rolesContain_iff] at condition
  obtain ⟨⟨⟨confirmed, scope⟩, _⟩, roles⟩ := condition
  have covers : ContextAction.Covers ⟨"POST_loan_application", .lending⟩ req :=
    covers_of_scopes satisfied (by decide) (by decide) scope
  exact {
    confirmed := confirmed
    covered := ⟨_, by decide, covers⟩
    ledgerEntry := fun same => absurd (covers.1.symm.trans same) (by simp)
    loanApplication := fun _ _ => roles.imp_right And.right }

theorem batch_permitted (satisfied : batchPermit.satisfied req entities = true) :
    Permitted req := by
  have condition := (satisfied_iff.mp satisfied).2.2.2.1 _ List.mem_cons_self
  simp only [is_and_true_iff, is_dpopConfirmed_iff, is_scopesContain_iff] at condition
  obtain ⟨⟨⟨⟨⟨confirmed, scope⟩, _⟩, _⟩, _⟩, _⟩ := condition
  have covers : ContextAction.Covers ⟨"GET_loan_status", .lending⟩ req :=
    covers_of_scopes satisfied (by decide) (by decide) scope
  exact .of_covers (by decide) confirmed covers (by decide) (by decide)

/-- Where the policy permits, it permits a request that is in order. -/
def PermitsLeast (policy : Policy) : Prop :=
  policy.kind = .permit → ∀ req entities, policy.satisfied req entities = true → Permitted req

theorem permitsLeast_of_forbid {policy : Policy} (forbids : policy.kind = .forbid) :
    PermitsLeast policy := by
  intro permits
  rw [forbids] at permits
  cases permits

theorem ownService_permitsLeast {context : BoundedContext} {domain client post get group : String}
    (rows : OwnRows context domain client post get) :
    PermitsLeast (ownServicePermit domain client post get group) :=
  fun _ _ _ => ownService_permitted rows

/-- A policy file with the permit of its own service and one forbid. -/
theorem permitsLeast_pair {permit forbid : Policy} (permits : PermitsLeast permit)
    (forbids : forbid.kind = .forbid) : ∀ policy ∈ [permit, forbid], PermitsLeast policy := by
  intro policy member
  simp only [List.mem_cons, List.not_mem_nil, or_false] at member
  rcases member with rfl | rfl
  · exact permits
  · exact permitsLeast_of_forbid forbids

theorem accounts_permitsLeast : ∀ policy ∈ accountsPolicies, PermitsLeast policy := by
  have rows : OwnRows .accounts "accounts" "accounts-service-client-id"
      "POST_account" "GET_account" := by
    constructor <;> decide +kernel
  exact permitsLeast_pair (ownService_permitsLeast rows) rfl

theorem deposits_permitsLeast : ∀ policy ∈ depositsPolicies, PermitsLeast policy := by
  have rows : OwnRows .deposits "deposits" "deposits-service-client-id"
      "POST_deposit" "GET_deposit" := by
    constructor <;> decide +kernel
  exact permitsLeast_pair (ownService_permitsLeast rows) rfl

theorem fraud_permitsLeast : ∀ policy ∈ fraudPolicies, PermitsLeast policy := by
  have rows : OwnRows .fraud "fraud" "fraud-service-client-id"
      "POST_fraud_signal" "GET_fraud_case" := by
    constructor <;> decide +kernel
  exact permitsLeast_pair (ownService_permitsLeast rows) rfl

theorem notifications_permitsLeast : ∀ policy ∈ notificationsPolicies, PermitsLeast policy := by
  have rows : OwnRows .notifications "notifications" "notifications-service-client-id"
      "POST_notification" "GET_notification_status" := by
    constructor <;> decide +kernel
  exact permitsLeast_pair (ownService_permitsLeast rows) rfl

theorem payments_permitsLeast : ∀ policy ∈ paymentsPolicies, PermitsLeast policy := by
  have rows : OwnRows .payments "payments" "payments-service-client-id"
      "POST_payment" "GET_payment" := by
    constructor <;> decide +kernel
  exact permitsLeast_pair (ownService_permitsLeast rows) rfl

theorem common_permitsLeast : ∀ policy ∈ commonPolicies, PermitsLeast policy :=
  permitsLeast_pair (permitsLeast_of_forbid rfl) rfl

theorem ledger_permitsLeast : ∀ policy ∈ ledgerPolicies, PermitsLeast policy := by
  intro policy member
  simp only [ledgerPolicies, List.mem_cons, List.not_mem_nil, or_false] at member
  rcases member with rfl | rfl | rfl | rfl
  · exact fun _ _ _ => ledgerEntry_permitted
  · exact permitsLeast_of_forbid rfl
  · exact fun _ _ _ => audit_permitted (by decide) (by decide)
  · exact fun _ _ _ => audit_permitted (by decide) (by decide)

theorem lending_permitsLeast : ∀ policy ∈ lendingPolicies, PermitsLeast policy := by
  intro policy member
  simp only [lendingPolicies, List.mem_cons, List.not_mem_nil, or_false] at member
  rcases member with rfl | rfl | rfl | rfl | rfl
  · exact fun _ _ _ => lendingService_permitted (by decide) (by decide) (by decide)
  · exact fun _ _ _ => lendingService_permitted (by decide) (by decide) (by decide)
  · exact fun _ _ _ => callingService_permitted
  · exact permitsLeast_of_forbid rfl
  · exact fun _ _ _ => batch_permitted

theorem all_permitsLeast : ∀ policy ∈ allPolicies, PermitsLeast policy := by
  simp only [allPolicies, List.forall_mem_append]
  exact ⟨⟨⟨⟨⟨⟨⟨accounts_permitsLeast, common_permitsLeast⟩, deposits_permitsLeast⟩,
    fraud_permitsLeast⟩, ledger_permitsLeast⟩, lending_permitsLeast⟩,
    notifications_permitsLeast⟩, payments_permitsLeast⟩

end Permits

section Forbids

variable {req : Request} {entities : Entities}

/-- Past a gate that is not satisfied, what is in its group has its scope. -/
theorem hasScope_of_gate {actions : Scope} {group scope : String} {scopes : List Value}
    (given : req.context.lookup "scopes" = some (.set scopes))
    (free : (gatedGroup actions group scope).satisfied req entities = false)
    (applies : actions.admits entities req.action = true)
    (inside : entities.isIn req.resource (resourceGroup group) = true) : HasScope req scope := by
  apply hasScope_of_not_denied given
  intro denied
  apply Bool.eq_false_iff.mp free
  apply satisfied_iff.mpr
  refine ⟨rfl, applies, inside, List.forall_mem_nil _, ?_⟩
  intro expr member
  cases List.mem_singleton.mp member
  exact denied

theorem outside_of_closed {post group : String}
    (free : (closedGroup post group).satisfied req entities = false)
    (posts : req.action = action post) :
    entities.isIn req.resource (resourceGroup group) = false := by
  apply Bool.eq_false_iff.mpr
  intro inside
  apply Bool.eq_false_iff.mp free
  apply satisfied_iff.mpr
  exact ⟨rfl, decide_eq_true posts, inside, List.forall_mem_nil _, List.forall_mem_nil _⟩

theorem permitted_of_allowed (allowed : isAuthorized req entities allPolicies = .allow) :
    Permitted req := by
  obtain ⟨_, policy, member, permits, satisfied⟩ := isAuthorized_allow_iff.mp allowed
  exact all_permitsLeast policy member permits req entities satisfied

theorem gated_of_allowed (allowed : isAuthorized req entities allPolicies = .allow) :
    Gated req entities := by
  have free := (isAuthorized_allow_iff.mp allowed).1
  obtain ⟨_, _, _, ⟨scopes, given, _⟩, _⟩ := (permitted_of_allowed allowed).covered
  have pii := free (gatedGroup .any "pii-resources" "data-privacy/pii-access")
    (by simp [allPolicies, commonPolicies]) rfl
  have highValue := free (gatedGroup .any "deposits-high-value" "deposits/high-value")
    (by simp [allPolicies, depositsPolicies]) rfl
  have marketing := free (gatedGroup (.eq (action "POST_notification")) "notifications-marketing"
    "notifications/marketing") (by simp [allPolicies, notificationsPolicies]) rfl
  exact {
    pii := hasScope_of_gate given pii rfl
    highValue := hasScope_of_gate given highValue rfl
    marketing := fun posts => hasScope_of_gate given marketing (decide_eq_true posts) }

theorem closed_of_allowed (allowed : isAuthorized req entities allPolicies = .allow) :
    ClosedToOwnPost req entities := by
  have free := (isAuthorized_allow_iff.mp allowed).1
  have payments := free (closedGroup "POST_payment" "payments-sanctioned")
    (by simp [allPolicies, paymentsPolicies]) rfl
  have fraud := free (closedGroup "POST_fraud_signal" "fraud-cases-closed")
    (by simp [allPolicies, fraudPolicies]) rfl
  have accounts := free (closedGroup "POST_account" "accounts-closed")
    (by simp [allPolicies, accountsPolicies]) rfl
  exact {
    payments := outside_of_closed payments
    fraud := outside_of_closed fraud
    accounts := outside_of_closed accounts }

/-- What the shipped policies allow is confirmed, covered by a scope of its own context and by
one of that context's clients, and past every gate. -/
theorem leastPrivilege (req : Request) (entities : Entities)
    (allowed : isAuthorized req entities allPolicies = .allow) :
    Permitted req ∧ Gated req entities ∧ ClosedToOwnPost req entities :=
  ⟨permitted_of_allowed allowed, gated_of_allowed allowed, closed_of_allowed allowed⟩

end Forbids

end S2s.M2M
