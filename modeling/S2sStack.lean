import S2sStack.Effect.Program
import S2sStack.Effect.Environment
import S2sStack.Effect.Replace
import S2sStack.Effect.History
import S2sStack.Effect.Provenance
import S2sStack.Effect.ExpiringStore
import S2sStack.Effect.Plan
import S2sStack.Cache.Memo
import S2sStack.Js.Json
import S2sStack.Js.Text
import S2sStack.Js.Headers
import S2sStack.Js.Words
import S2sStack.Js.Lists
import S2sStack.Js.Record
import S2sStack.Js.Paths
import S2sStack.Errors
import S2sStack.Types
import S2sStack.Runtime
import S2sStack.TokenTable
import S2sStack.Authz.CedarLocal
import S2sStack.Authz.Authorize
import S2sStack.Authz.Transparency
import S2sStack.Token.JwksVerification
import S2sStack.Token.ValidateToken
import S2sStack.Token.ValidateUserToken
import S2sStack.Token.ActorChain
import S2sStack.Token.SignUserJwt
import S2sStack.Token.TokenCache
import S2sStack.Token.CacheRuns
import S2sStack.Token.TokenStores
import S2sStack.Token.CacheHits
import S2sStack.Token.CacheExpiry
import S2sStack.Dpop.Nonce
import S2sStack.Dpop.VerifyDPoP
import S2sStack.Dpop.RedisHistory
import S2sStack.Dpop.ExchangeProof
import S2sStack.Dpop.SingleUse
import S2sStack.Broker.ActorCatalog
import S2sStack.Broker.SubjectToken
import S2sStack.Broker.TokenMinter
import S2sStack.Broker.TokenRouter
import S2sStack.Broker.Grant
import S2sStack.Broker.Soundness
import S2sStack.Broker.Delegation
import S2sStack.Broker.Noninterference
import S2sStack.Broker.SigningKeys
import S2sStack.Broker.SigningKeySources
import S2sStack.Broker.SigningKeyRotation
import S2sStack.Broker.SigningKeyLoads
import S2sStack.Broker.SigningKeyFreshness
import S2sStack.Broker.TokenEndpoint
import S2sStack.Middleware.Auth
import S2sStack.Middleware.Enforce
import S2sStack.Middleware.Refusals
import S2sStack.Middleware.Challenge
import S2sStack.Middleware.Shadow
import S2sStack.Dpop.Rejections
import S2sStack.Dpop.SharedVerifiers
import S2sStack.Envelope.Sign
import S2sStack.Envelope.Verify
import S2sStack.Envelope.Consumer
import S2sStack.Envelope.Delivery
import S2sStack.Envelope.Authenticity
import S2sStack.Envelope.DedupWindow
import S2sStack.Envelope.RoundTrip
import S2sStack.Service.BrokerAuthMiddleware
import S2sStack.Service.Transport
import S2sStack.Service.AuthorizationCalls
import S2sStack.Cedar.Language
import S2sStack.Cedar.Authorizer
import S2sStack.Cedar.PolicyFiles
import S2sStack.Rbac.RoleLinks
import S2sStack.Policies.Shipped
import S2sStack.Policies.LeastPrivilege
import S2sStack.Policies.ClosedGroups
import S2sStack.Policies.Requests
import S2sStack.Policies.Vocabulary
import S2sStack.Policies.Identity
import S2sStack.Policies.LocalEngine
import S2sStack.Policies.Upload
import S2sStack.Policies.PolicyStore
import S2sStack.Policies.Replace
import S2sStack.Policies.FailOpen
import S2sStack.Policies.ReportsApps
import S2sStack.Policies.ReportsMigration
import S2sStack.Client.Outbound
import S2sStack.Client.Flows
import S2sStack.Service.ExchangeWire
import S2sStack.Client.NonceRetry
import S2sStack.Client.KeyRotation
import S2sStack.Client.NonceHandshake
import S2sStack.Js.Separators
import S2sStack.Authz.ResourceEntity
import S2sStack.Js.Sorting
import S2sStack.Token.CacheIsolation
import S2sStack.Token.UserTokenRoundTrip
import S2sStack.Js.Coercion
import S2sStack.Token.AcceptedClaims
import S2sStack.Effect.Counts
import S2sStack.Token.JwksManager
import S2sStack.Token.JwksRefresh
import S2sStack.Token.JwksOrder
import S2sStack.Effect.Evolution
import S2sStack.Token.AcquireFaults
import S2sStack.Dpop.KeyManager
import S2sStack.Dpop.KeyOverlap
import S2sStack.Dpop.KeyWindow
import S2sStack.Dpop.ProofRoundTrip
import S2sStack.Envelope.Separation
import S2sStack.Middleware.Outcome
import S2sStack.Token.AcquireRetry
import S2sStack.Js.Number
import S2sStack.CreateService.CliArgs
import S2sStack.CreateService.ArgOrder
import S2sStack.Files.Tree
import S2sStack.CreateService.Render
import S2sStack.CreateService.Writes
import S2sStack.CreateService.ExistingApp
import S2sStack.CreateService.Validators
import S2sStack.CreateService.Main
import S2sStack.CreateService.Overwrite
import S2sStack.Lattice.Sigv4Client
import S2sStack.Js.Fields
import S2sStack.Lattice.SentAsGiven
import S2sStack.Service.LoansRouter
import S2sStack.Service.LoanStore
import S2sStack.Redis.Access
import S2sStack.Redis.Keyspaces
import S2sStack.Effect.SharedStore
import S2sStack.Calling.LocalIssuer
import S2sStack.Calling.SignIn
import S2sStack.Service.Admission
import S2sStack.Service.EntriesRouter
import S2sStack.Broker.Signing
import S2sStack.Client.Filing
import S2sStack.System.Run
import S2sStack.System.Hops
import S2sStack.System.Identity
import S2sStack.System.Records
import S2sStack.System.SingleEntry
import S2sStack.Calling.UserAuth
import S2sStack.Calling.SyncRoute
import S2sStack.Calling.Session
import S2sStack.System.Config
import S2sStack.System.NonceBudget
import S2sStack.System.Lifetime
import S2sStack.System.AsyncFlow
import S2sStack.Effect.Returns
import S2sStack.Dpop.HonestProof
import S2sStack.Broker.Available
import S2sStack.Service.HonestVisit
import S2sStack.System.HonestExchange
import S2sStack.System.Available
import S2sStack.Authz.Overlap
import S2sStack.System.Revocation
