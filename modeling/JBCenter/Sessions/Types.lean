import JBCenter.Rest.Core

/-! The session record and the requests that change it. Of the compiled policy only what
the store's checks read is kept; amounts and nonces are decimal strings, as observed. -/
namespace JBCenter.Sessions
open Rest

inductive SessionState where
  | prepared | installing | active | revoking | revoked | expired | stale
  deriving DecidableEq

inductive LifecycleKind where
  | activation | revocation
  deriving DecidableEq

structure SessionAllocation where
  id : String
  chainId : Int
  asset : String
  limit : String
  assetReviewId : String
  deriving DecidableEq

structure SessionAllocationGroup where
  id : String
  assetIdentity : String
  decimals : Int
  total : String
  allocations : List SessionAllocation
  deriving DecidableEq

/-- The policy document the owner reviewed. -/
structure ReviewedPolicy where
  ownerAccountId : String
  bindingId : String
  grantId : String
  sessionKey : String
  chainId : Int
  wallet : String
  generation : String
  nonce : String
  validAfter : Int
  validUntil : Int
  salt : String
  allocations : List SessionAllocationGroup

structure CompiledSession where
  schemaVersion : Int
  stack : String
  ownerAccountId : String
  bindingId : String
  grantId : String
  sessionKey : String
  chainId : Int
  wallet : String
  generation : String
  nonce : String
  validAfter : Int
  validUntil : Int
  salt : String
  policyHash : String
  compiledHash : String
  permissionId : String
  manifestRevision : String
  activationEnableNonce : String
  reviewedPolicy : ReviewedPolicy

structure Counter where
  policy : String
  configId : String
  name : String
  used : String
  limit : String

structure Initialization where
  epoch : String
  permissionIds : List String

structure Administration where
  epoch : String
  hash : String
  lastInitialization : Option Initialization

structure RestBlockEvidence where
  source : String
  chainId : Int
  blockNumber : String
  blockHash : String
  timestamp : String

structure InstalledSessionObservation where
  permissionId : String
  compiledHash : String
  account : String
  chainId : Int
  enabled : Bool
  enableNonce : String
  configurationHash : String
  evidence : RestBlockEvidence
  counters : List Counter
  administration : Option Administration

structure SessionCanonicalObservation where
  installed : InstalledSessionObservation
  observedAt : Int
  finalized : Bool
  proofHash : String

inductive InvalidationReason where
  | reorg | configurationChanged | counterReset | grantInactive | bindingUnlinked | verificationUnavailable

structure SessionInvalidation where
  reason : InvalidationReason
  priorProofHash : Option String
  observedAt : Int

structure SessionOwnerApproval where
  kind : LifecycleKind
  accountId : String
  sessionId : String
  policyHash : String
  compiledHash : String
  planId : String
  planCommitment : String
  digest : String
  issuedAt : Int
  expiresAt : Int

structure SupersededApproval where
  approval : SessionOwnerApproval
  supersededAt : Int

/-- A record; `preparedEpoch` and `preparedHash` are its administration baseline. -/
structure StoredSession where
  id : String
  actor : RestActor
  compiled : CompiledSession
  preparedEpoch : String
  preparedHash : String
  allocationGroups : List SessionAllocationGroup
  allocationManifestHash : String
  createdAt : Int
  updatedAt : Int
  revision : Int
  state : SessionState
  activation : Option SessionOwnerApproval
  revocation : Option SessionOwnerApproval
  supersededApprovals : List SupersededApproval
  observation : Option SessionCanonicalObservation
  invalidation : Option SessionInvalidation
  reservationsReleased : Bool

structure SessionIdempotency where
  key : String
  requestHash : String

structure SessionClaim where
  actor : RestActor
  id : String
  expectedRevision : Int
  approval : SessionOwnerApproval
  idempotency : SessionIdempotency

structure SessionObservationUpdate where
  actor : RestActor
  id : String
  expectedRevision : Int
  expectedObservationHash : Option String
  observation : SessionCanonicalObservation

structure SessionInvalidationUpdate where
  actor : RestActor
  id : String
  expectedRevision : Int
  reason : InvalidationReason

/-- A session as a request that spends under it names it. -/
structure UserOperationSessionBinding where
  id : String
  policyHash : String
  compiledHash : String
  generation : String
  grantId : String
  permissionId : String
  sessionKey : String
  observationHash : String

/-- The byte lengths of canonical encodings, and the hashes of documents: every result below
holds whatever they are. -/
structure Encoding where
  record : StoredSession → Nat
  approval : SessionOwnerApproval → Nat
  observation : SessionCanonicalObservation → Nat
  invalidation : SessionInvalidation → Nat
  idempotency : SessionIdempotency → Nat
  claim : SessionClaim → Nat
  observationUpdate : SessionObservationUpdate → Nat
  invalidationUpdate : SessionInvalidationUpdate → Nat
  /-- A record with the flag of the operation that answers with it. -/
  result : StoredSession × Bool → Nat
  fingerprint : InstalledSessionObservation → Int → Bool → String
  /-- Of the compiled document without its own hash. -/
  compiledHash : CompiledSession → String
  policyHash : ReviewedPolicy → String
  groupsHash : List SessionAllocationGroup → String

def maximumBytes : Nat := 524288
def sessionsPerAccount : Nat := 1000
def idempotencyPerAccount : Nat := 4000
def maximumObservationAgeSeconds : Int := 60

end JBCenter.Sessions
