import S2sStack.Authz.Authorize
import S2sStack.Js.Separators
import S2sStack.Middleware.Auth

set_option autoImplicit false

/- The entity that a request to the policy service names: the middleware joins the configured
prefix and the path, and `splitResource` takes the joined text apart. -/
namespace S2s

/-- The `Resource` of the policy request for an authenticated request. -/
def requestedEntity (engine : AuthorizeDeps) (deps : AuthMiddlewareDeps) (req : Request)
    (accessToken : String) (validated : ValidatedToken) : EntityName :=
  (avpRequest engine (authorizeInput deps req accessToken validated)).resource

/-- A path that makes no `::` of its own, nor one with the separator before it. -/
def PlainPath (path : String) : Prop :=
  path.toList.head? ≠ some ':' ∧ ¬ Js.HasColons path.toList

/-- The text that an entity name is taken from. -/
def EntityName.joined (entity : EntityName) : List Char :=
  entity.type.toList ++ ':' :: ':' :: entity.id.toList

theorem toList_joined (type id : String) :
    (type ++ "::" ++ id).toList = type.toList ++ ':' :: ':' :: id.toList := by
  rw [String.toList_append, String.toList_append, List.append_assoc]
  rfl

theorem splitResource_joined (type id : String) :
    (splitResource (type ++ "::" ++ id)).joined = type.toList ++ ':' :: ':' :: id.toList := by
  obtain ⟨type', id', split⟩ := Js.exists_splitLastColons type.toList id.toList
  rw [splitResource, toList_joined, split, entityName, EntityName.joined, String.toList_ofList,
    String.toList_ofList]
  exact (Js.splitLastColons_join split).symm

theorem splitResource_eq_iff {type id : String} :
    splitResource (type ++ "::" ++ id) = ⟨type, id⟩ ↔ PlainPath id := by
  have plain_iff : PlainPath id ↔ ¬ Js.HasColons (':' :: id.toList) := by
    rw [PlainPath, Js.hasColons_colon_iff, not_or]
  obtain ⟨type', id', split⟩ := Js.exists_splitLastColons type.toList id.toList
  rw [plain_iff, splitResource, toList_joined, split, entityName, EntityName.mk.injEq]
  constructor
  · rintro ⟨-, same⟩
    rw [← same, String.toList_ofList]
    exact Js.splitLastColons_last split
  · intro last
    rw [Js.splitLastColons_of_last last, Option.some.injEq, Prod.mk.injEq] at split
    rw [← split.1, ← split.2, String.ofList_toList, String.ofList_toList]
    exact ⟨rfl, rfl⟩

/-- The policy request names the configured type and the path exactly for a plain path; it names
different entities for different paths in any case. -/
theorem requestedEntity_iff (engine : AuthorizeDeps) (deps : AuthMiddlewareDeps) (req : Request)
    (accessToken : String) (validated : ValidatedToken) :
    (requestedEntity engine deps req accessToken validated = ⟨deps.resourcePrefix, req.path⟩ ↔
        PlainPath req.path) ∧
      ∀ other accessToken' validated', req.path ≠ other.path →
        requestedEntity engine deps req accessToken validated ≠
          requestedEntity engine deps other accessToken' validated' := by
  refine ⟨splitResource_eq_iff, ?_⟩
  intro other accessToken' validated' different same
  have joined := congrArg EntityName.joined same
  change (splitResource (deps.resourcePrefix ++ "::" ++ req.path)).joined =
    (splitResource (deps.resourcePrefix ++ "::" ++ other.path)).joined at joined
  rw [splitResource_joined, splitResource_joined, List.append_cancel_left_eq] at joined
  apply different
  apply String.toList_inj.mp
  simpa using joined

section ColonPath

def colonEngine : AuthorizeDeps where
  avpClient _ _ := .ok { decision := .deny, determiningPolicies := none }
  cedarLocal _ _ := .ok { decision := .deny, reasons := [], mode := .local }
  mode := .avpApi
  policyStoreId := "ps"
  fallbackToLocal := false
  cacheTtlMs := none

def colonDeps : AuthMiddlewareDeps where
  expectedAudience := "ledger"
  resourcePrefix := "ledger"
  validateToken := { jwksUri := "https://broker/.well-known/jwks.json", expectedIssuer := "https://broker" }
  verifyDPoP := {}

def colonRequest : Request where
  method := "GET"
  protocol := "https"
  originalUrl := "/entries/admin::e-1"
  path := "/entries/admin::e-1"
  routePath := some "/entries/:id"
  headers := []
  body := none

def colonToken : ValidatedToken where
  sub := "calling-service"
  scope := []
  iss := "https://broker"
  aud := "ledger"
  exp := 1700000900
  cnf := none
  raw := []

/-- A path with a `::` in it gets its first part into the type. -/
theorem colonPath_retyped :
    requestedEntity colonEngine colonDeps colonRequest "token" colonToken =
        ⟨"ledger::/entries/admin", "e-1"⟩ ∧
      requestedEntity colonEngine colonDeps colonRequest "token" colonToken ≠
        ⟨colonDeps.resourcePrefix, colonRequest.path⟩ := by
  decide

end ColonPath
end S2s
