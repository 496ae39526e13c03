import JBCenter.Auth.Grants
import JBCenter.Auth.Memory
import JBCenter.Auth.NonceHeap
import JBCenter.Auth.Onboarding
import JBCenter.Auth.Postgres
import JBCenter.Auth.Replay
import JBCenter.Auth.Requests
import JBCenter.Auth.Reserve
import JBCenter.Auth.Revocation
import JBCenter.Auth.Signatures
import JBCenter.Base.Answers
import JBCenter.Base.Assignments
import JBCenter.Base.Fallible
import JBCenter.Base.Generations
import JBCenter.Base.HeapOrder
import JBCenter.Base.IndexedHeap
import JBCenter.Base.JsonTexts
import JBCenter.Base.JsonTokens
import JBCenter.Base.JsonValues
import JBCenter.Base.Lanes
import JBCenter.Base.Leases
import JBCenter.Base.Loops
import JBCenter.Base.Matching
import JBCenter.Base.Newest
import JBCenter.Base.Numerals
import JBCenter.Base.OrderedMap
import JBCenter.Base.Outcomes
import JBCenter.Base.Pages
import JBCenter.Base.Pairings
import JBCenter.Base.Passes
import JBCenter.Base.Pointwise
import JBCenter.Base.Pools
import JBCenter.Base.Programs
import JBCenter.Base.Quotients
import JBCenter.Base.Ranks
import JBCenter.Base.RowLocks
import JBCenter.Base.Runs
import JBCenter.Base.Search
import JBCenter.Base.Totals
import JBCenter.Base.Utf16
import JBCenter.Base.Words
import JBCenter.Base.Worklists
import JBCenter.Deployments.Dispatch
import JBCenter.Deployments.Effects
import JBCenter.Deployments.Exclusivity
import JBCenter.Deployments.Lane
import JBCenter.Deployments.Methods
import JBCenter.Deployments.Observation
import JBCenter.Deployments.Permanence
import JBCenter.Deployments.Settlement
import JBCenter.Deployments.Solvency
import JBCenter.Deployments.Store
import JBCenter.Deployments.Treasury
import JBCenter.Deployments.Types
import JBCenter.Dispatch.Approvals
import JBCenter.Dispatch.Authority
import JBCenter.Dispatch.Consent
import JBCenter.Dispatch.Effects
import JBCenter.Gateway.Ranges
import JBCenter.Gateway.Responses
import JBCenter.Guards.Budget
import JBCenter.Guards.Execution
import JBCenter.Guards.SessionGuard
import JBCenter.Mcp.CashOuts
import JBCenter.Mcp.LockedSplits
import JBCenter.Mcp.PlanVerification
import JBCenter.Mcp.Rulesets
import JBCenter.Mcp.Schemas
import JBCenter.Mcp.Stages
import JBCenter.Omnichain.Discovery
import JBCenter.Omnichain.Readings
import JBCenter.Rest.Core
import JBCenter.Rest.Decimals
import JBCenter.Rest.Hex
import JBCenter.Rest.Json
import JBCenter.Rest.Preimages
import JBCenter.Sessions.Admission
import JBCenter.Sessions.Budget
import JBCenter.Sessions.Concord
import JBCenter.Sessions.Evidence
import JBCenter.Sessions.Lifecycle
import JBCenter.Sessions.Memory
import JBCenter.Sessions.Postgres
import JBCenter.Sessions.Refinement
import JBCenter.Sessions.Reservations
import JBCenter.Sessions.Store
import JBCenter.Sessions.Types
import JBCenter.Sessions.Wallets
import JBCenter.SmartAccounts.CheckpointStores
import JBCenter.SmartAccounts.Checkpoints
import JBCenter.SmartAccounts.Completeness
import JBCenter.SmartAccounts.Creations
import JBCenter.SmartAccounts.Encoding
import JBCenter.SmartAccounts.Envelopes
import JBCenter.SmartAccounts.FactoryHistory
import JBCenter.SmartAccounts.Installed
import JBCenter.SmartAccounts.LogHistory
import JBCenter.SmartAccounts.OwnerSignatures
import JBCenter.SmartAccounts.Retention
import JBCenter.SmartAccounts.TraceScan
import JBCenter.Sponsor.Accounts
import JBCenter.Sponsor.Admission
import JBCenter.Sponsor.Attempts
import JBCenter.Sponsor.Attribution
import JBCenter.Sponsor.Budgets
import JBCenter.Sponsor.Bundles
import JBCenter.Sponsor.Chain
import JBCenter.Sponsor.ClaimRules
import JBCenter.Sponsor.Claims
import JBCenter.Sponsor.Coverage
import JBCenter.Sponsor.Definitive
import JBCenter.Sponsor.Deploy
import JBCenter.Sponsor.Entries
import JBCenter.Sponsor.Exclusion
import JBCenter.Sponsor.Grouping
import JBCenter.Sponsor.Groups
import JBCenter.Sponsor.Held
import JBCenter.Sponsor.Lane
import JBCenter.Sponsor.LaneRules
import JBCenter.Sponsor.Ledger
import JBCenter.Sponsor.Operations
import JBCenter.Sponsor.PaidClaims
import JBCenter.Sponsor.PaidPasses
import JBCenter.Sponsor.Policy
import JBCenter.Sponsor.Prepayment
import JBCenter.Sponsor.Queue
import JBCenter.Sponsor.Resumption
import JBCenter.Sponsor.Rewrites
import JBCenter.Sponsor.Route
import JBCenter.Sponsor.Spending
import JBCenter.Sponsor.Verdicts
import JBCenter.Sponsor.Worker
import JBCenter.Sponsorship.Bindings
import JBCenter.Sponsorship.Forwarding
import JBCenter.Sponsorship.Lifecycle
import JBCenter.Sponsorship.Memory
import JBCenter.Sponsorship.Sequencing
import JBCenter.Sponsorship.Statuses
import JBCenter.Sponsorship.Store
import JBCenter.Sponsorship.Types
import JBCenter.Transactions.Atomicity
import JBCenter.Transactions.Bound
import JBCenter.Transactions.Cursors
import JBCenter.Transactions.Documents
import JBCenter.Transactions.Effects
import JBCenter.Transactions.Exclusivity
import JBCenter.Transactions.Idempotency
import JBCenter.Transactions.Leases
import JBCenter.Transactions.Listing
import JBCenter.Transactions.Memory
import JBCenter.Transactions.Observations
import JBCenter.Transactions.Readiness
import JBCenter.Transactions.Refresh
import JBCenter.Transactions.RefreshAgreement
import JBCenter.Transactions.Reservations
import JBCenter.Transactions.Settlements
import JBCenter.Transactions.Steps
import JBCenter.Transactions.Store
import JBCenter.Transactions.Types
import JBCenter.UserOperations.Codec
import JBCenter.UserOperations.Estimation
import JBCenter.UserOperations.Finalization
import JBCenter.UserOperations.GasBudget
import JBCenter.UserOperations.Memory
import JBCenter.UserOperations.Nonces
import JBCenter.UserOperations.Packing
import JBCenter.UserOperations.PaymentEffects
import JBCenter.UserOperations.Semantics
import JBCenter.UserOperations.Store
import JBCenter.UserOperations.Types
import JBCenter.Verifier.CommittedCalls
import JBCenter.Verifier.Traces
import JBCenter.Wallet.Admissions
import JBCenter.Wallet.Agreement
import JBCenter.Wallet.AppGrants
import JBCenter.Wallet.Assertions
import JBCenter.Wallet.Authority
import JBCenter.Wallet.AuthorityRows
import JBCenter.Wallet.Ceremonies
import JBCenter.Wallet.ClientData
import JBCenter.Wallet.DerSignatures
import JBCenter.Wallet.FastLz
import JBCenter.Wallet.Generations
import JBCenter.Wallet.GrantGuards
import JBCenter.Wallet.Policy
import JBCenter.Wallet.ReceiptFees
import JBCenter.Wallet.Refresh
import JBCenter.Wallet.RefreshBounds
import JBCenter.Wallet.Shapes
import JBCenter.Wallet.SignedFees
import JBCenter.Wallet.SingleUse
import JBCenter.Wallet.Transitions
import JBCenter.Web.JourneyGraph
import JBCenter.Web.JourneyResolution
