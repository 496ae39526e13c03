import JBCenter.Base.Totals
import JBCenter.Deployments.Observation

/-! The records of the wallet deployment store: the pool and its accounting, the operations, the
dispatch journal, the settlements, and the evidence each transition is asked with. -/
namespace JBCenter.Deployments
open Rest

structure PoolPolicy where
  maximumRawBytes : Nat
  maximumGas : Nat
  maximumFeePerGas : Nat
  maximumTransactionCost : Nat
  maximumObservationAgeMs : Int
  deriving DecidableEq

structure WalletDeploymentPoolConfiguration where
  id : String
  sender : Address
  allocationWei : Nat
  globalAllocationLimitWei : Nat
  policy : PoolPolicy
  deriving DecidableEq

inductive WalletDeploymentEnvironment where
  | unforkedAnvil (genesisHash instanceId : Word)
  | baseMainnet (genesisHash : Word)
  deriving DecidableEq

inductive EnvironmentKind where
  | unforkedAnvil
  | baseMainnet
  deriving DecidableEq

def WalletDeploymentEnvironment.kind : WalletDeploymentEnvironment → EnvironmentKind
  | .unforkedAnvil _ _ => .unforkedAnvil
  | .baseMainnet _ => .baseMainnet

def WalletDeploymentEnvironment.genesisHash : WalletDeploymentEnvironment → Word
  | .unforkedAnvil genesisHash _ => genesisHash
  | .baseMainnet genesisHash => genesisHash

inductive FenceReason where
  | restoreRequired
  | environmentChanged
  | finalizedAnchorReplaced
  | nonceConflict
  | balanceDeficit
  | allocationExceeded
  | inclusionReorged
  deriving DecidableEq

structure WalletDeploymentAccountingFence where
  reason : FenceReason
  recordedAt : Int
  deriving DecidableEq

structure WalletDeploymentAccounting where
  environment : WalletDeploymentEnvironment
  initialHead : RestBlockEvidence
  initialNonce : Nat
  spentWei : Nat
  sequence : Nat
  nextNonce : Nat
  lastSettlementId : Option String
  lastSettlementAnchor : Option RestBlockEvidence
  fence : Option WalletDeploymentAccountingFence
  deriving DecidableEq

inductive PoolState where
  | active
  | paused
  deriving DecidableEq

/-- The pool as it is stored. -/
structure PoolRow where
  configuration : WalletDeploymentPoolConfiguration
  createdAt : Int
  state : PoolState
  activeOperationId : Option String
  revision : Int
  accounting : Option WalletDeploymentAccounting
  deriving DecidableEq

/-- The pool as it is read: with what its released, unsettled operations reserve. -/
structure WalletDeploymentPool extends PoolRow where
  reservedWei : Nat
  deriving DecidableEq

/-- What the store reads of a wallet's enrollment. -/
structure WalletEnrollment where
  id : String
  verified : Bool
  address : Address
  initializerHash : Word
  manifestRevision : Word
  commitment : Word
  rest : Payload
  deriving DecidableEq

structure WalletDeploymentApproval where
  id : String
  enrollmentId : String
  enrollmentCommitment : Word
  issuedAt : Int
  expiresAt : Int
  rest : Payload
  deriving DecidableEq

structure WalletDeploymentAdmission where
  sender : Address
  blockNumber : Nat
  blockHash : Word
  confirmedNonce : Nat
  pendingNonce : Nat
  observedAt : Int
  enrollmentCommitment : Word
  manifestRevision : Word
  initializerHash : Word
  gas : Nat
  maxFeePerGas : Nat
  maxPriorityFeePerGas : Nat
  deriving DecidableEq

inductive OperationState where
  | prepared
  | claimed
  | signed
  deriving DecidableEq

structure SigningLease where
  token : String
  expires : Int
  deriving DecidableEq

structure SignedDeployment where
  rawTransaction : String
  hash : Word
  maximumExecutionCost : Nat
  deriving DecidableEq

structure WalletDeploymentOperation where
  id : String
  poolId : String
  enrollmentId : String
  poolConfigurationDigest : WalletDeploymentPoolConfiguration
  approval : WalletDeploymentApproval
  state : OperationState
  createdAt : Int
  retainUntil : Int
  claimedAt : Option Int
  proofDigest : Option String
  admission : Option WalletDeploymentAdmission
  template : Option WalletDeploymentTemplate
  templateCommitment : Option WalletDeploymentTemplate
  signingLease : Option SigningLease
  signed : Option SignedDeployment
  observation : Option WalletDeploymentObservation
  observationSavedAt : Option Int
  historicalCanonicalObservation : Option WalletDeploymentObservation
  highestObservedHead : Option Nat
  settlementId : Option String
  releasedAt : Option Int
  reservedWei : Option Nat
  revision : Int
  deriving DecidableEq

structure WalletDeploymentFundingEvidence where
  poolId : String
  configurationDigest : WalletDeploymentPoolConfiguration
  poolRevision : Int
  accountingDigest : Option WalletDeploymentAccounting
  environment : WalletDeploymentEnvironment
  head : RestBlockEvidence
  observedAt : Int
  expiresAt : Int
  confirmedNonce : Nat
  pendingNonce : Nat
  balanceWei : Nat
  previousAnchor : Option RestBlockEvidence
  deriving DecidableEq

/-- Fees only, by the profile of the chain they were paid on. -/
inductive WalletDeploymentSettlementFees where
  | unforkedAnvil (executionWei totalWei : Nat)
  | base (executionWei l1Wei operatorWei totalWei : Nat)
  deriving DecidableEq

def WalletDeploymentSettlementFees.executionWei : WalletDeploymentSettlementFees → Nat
  | .unforkedAnvil executionWei _ => executionWei
  | .base executionWei _ _ _ => executionWei

def WalletDeploymentSettlementFees.totalWei : WalletDeploymentSettlementFees → Nat
  | .unforkedAnvil _ totalWei => totalWei
  | .base _ _ _ totalWei => totalWei

structure WalletDeploymentSettlementEvidence where
  funding : WalletDeploymentFundingEvidence
  operationId : String
  operationRevision : Int
  transactionHash : Word
  templateCommitment : WalletDeploymentTemplate
  observation : WalletDeploymentObservation
  finalizedNonce : Nat
  fees : WalletDeploymentSettlementFees
  deriving DecidableEq

structure WalletDeploymentSettlementReceipt where
  id : String
  poolId : String
  operationId : String
  evidence : WalletDeploymentSettlementEvidence
  nonce : Nat
  priorSequence : Nat
  sequence : Nat
  spentWei : Nat
  nextNonce : Nat
  settledAt : Int
  deriving DecidableEq

/-- Which admission a dispatch was given, with the reservation a Base admission carries. -/
structure WalletDeploymentBaseReservation where
  attributesTransaction : Word
  l1WeiAtParameters : Nat
  operatorMaximumWei : Nat
  totalWei : Nat
  deriving DecidableEq

inductive AdmissionVersion where
  | localV1
  | localV2
  | baseV1
  deriving DecidableEq

structure AdmissionAccounting where
  digest : WalletDeploymentAccounting
  remainingWei : Nat
  nextNonce : Nat
  deriving DecidableEq

inductive FeeScope where
  | localExecutionOnly
  | baseExecutionL1OperatorReserved
  deriving DecidableEq

inductive BaseTotalAffordability where
  | unknown
  | reserved
  deriving DecidableEq

structure WalletDeploymentDispatchAdmission where
  version : AdmissionVersion
  operationId : String
  poolConfigurationDigest : WalletDeploymentPoolConfiguration
  templateCommitment : WalletDeploymentTemplate
  transactionHash : Word
  operationRevision : Int
  observationDigest : WalletDeploymentObservation
  environmentKind : EnvironmentKind
  genesisHash : Word
  head : RestBlockEvidence
  observedAt : Int
  expiresAt : Int
  balanceWei : Nat
  maximumExecutionCost : Nat
  feeScope : FeeScope
  baseTotalAffordability : BaseTotalAffordability
  accounting : Option AdmissionAccounting
  reservation : Option WalletDeploymentBaseReservation
  deriving DecidableEq

inductive DispatchStatus where
  | inFlight
  | accepted
  | unknown
  deriving DecidableEq

structure WalletDeploymentDispatchJournal where
  operationId : String
  transactionHash : Word
  templateCommitment : WalletDeploymentTemplate
  revision : Int
  attempts : Nat
  status : DispatchStatus
  leaseToken : String
  leaseUntil : Int
  admission : WalletDeploymentDispatchAdmission
  claimedAt : Int
  settledAt : Option Int
  nextAttemptAt : Int
  deriving DecidableEq

structure WalletDeploymentFundingContext where
  pool : WalletDeploymentPool
  lastSettlement : Option WalletDeploymentSettlementReceipt

structure WalletDeploymentExecutionContext where
  pool : WalletDeploymentPool
  enrollment : WalletEnrollment
  operation : WalletDeploymentOperation
  deriving DecidableEq

structure WalletDeploymentSettlementContext extends WalletDeploymentExecutionContext where
  dispatch : Option WalletDeploymentDispatchJournal
  lastSettlement : Option WalletDeploymentSettlementReceipt
  deriving DecidableEq

/-- The tables of the store. There is one pool. -/
structure Store where
  pool : PoolRow
  operations : OrderedMap String WalletDeploymentOperation
  dispatches : OrderedMap String WalletDeploymentDispatchJournal
  settlements : OrderedMap String WalletDeploymentSettlementReceipt

def maximumUnsettled : Nat := 8
def evidenceLifetimeMs : Int := 60000
def maximumHeadAgeMs : Int := 300000
def maximumAttempts : Nat := 8
def dispatchLeaseMs : Int := 15000
def cooldownMs : Int := 1000
def admissionLifetimeMs : Int := 20000
def walletDeploymentBaseReservationMargin : Nat := 2

/-- An operation that left the lane and is not settled yet. -/
def WalletDeploymentOperation.queued (operation : WalletDeploymentOperation) : Bool :=
  operation.releasedAt.isSome && operation.settlementId.isNone

/-- The sum over the queue, `rest_wallet_deployment_reserved_wei`. -/
def Store.reservedWei (s : Store) : Nat :=
  s.operations.total (fun operation => if operation.queued then operation.reservedWei.getD 0 else 0)

/-- The length of the queue, `rest_wallet_deployment_released_count`. -/
def Store.releasedCount (s : Store) : Nat := s.operations.total (fun operation => if operation.queued then 1 else 0)

end JBCenter.Deployments
