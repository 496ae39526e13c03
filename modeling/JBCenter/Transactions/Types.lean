import JBCenter.Rest.Core

/-! The documents of the transaction store. A field the store only copies is a `Payload`;
an optional property is an `Option`, absent and `undefined` being the same to every check. -/
namespace JBCenter.Transactions
open Rest

inductive StepState where
  | waiting | reserved | submitted | unknown | confirming | confirmed | reverted | reorged
  deriving DecidableEq

inductive SemanticStatus where
  | verified | failed | unknown | unmodeled
  deriving DecidableEq

structure SemanticResult where
  status : SemanticStatus
  details : Option Payload := none
  deriving DecidableEq

inductive ReceiptStatus where
  | success | reverted
  deriving DecidableEq

structure StoredReceipt where
  transactionHash : String
  blockHash : String
  blockNumber : String
  status : ReceiptStatus
  confirmations : Int
  canonical : Bool
  observedAt : Int
  logs : List Payload
  logCount : Option Int := none
  logsHash : Option String := none
  logsStored : Option Bool := none
  deriving DecidableEq

inductive TransactionType where
  | legacy | eip2930 | eip1559
  deriving DecidableEq

structure LastError where
  code : String
  message : String
  deriving DecidableEq

structure SignedAttempt where
  hash : String
  rawTransaction : String
  sender : String
  chainId : Int
  nonce : String
  type : TransactionType
  gas : String
  maximumFeePerGas : String
  maximumCost : String
  reservedAt : Int
  leaseToken : String
  leaseUntil : Int
  dispatchCount : Int
  broadcastAt : Option Int := none
  lastError : Option LastError := none
  deriving DecidableEq

inductive ReservedTransport where
  | direct | relayr | erc4337
  deriving DecidableEq

structure ExternalExecution where
  transport : ReservedTransport
  bindingId : String
  chainId : Int
  transactionHash : Option String := none
  deriving DecidableEq

structure StoredStep where
  index : Int
  state : StepState
  attempt : Option SignedAttempt := none
  externalExecution : Option ExternalExecution := none
  receipt : Option StoredReceipt := none
  semantic : Option SemanticResult := none
  deriving DecidableEq

structure PlanCall where
  chainId : Int
  dependsOn : List Int
  deriving DecidableEq

/-- The reviewed draft. Its operation, evidence, summary, warnings and calldata are in
`reviewed`: the store keeps them unchanged. -/
structure PlanDraft where
  account : String
  calls : List PlanCall
  reviewed : Payload
  deriving DecidableEq

structure StoredPlan where
  id : String
  actor : RestActor
  draft : PlanDraft
  commitment : String
  createdAt : Int
  expiresAt : Int
  revision : Int
  smartAccount : Option Payload := none
  steps : List StoredStep
  deriving DecidableEq

structure IdempotencyClaim where
  key : String
  requestHash : String
  operation : String
  deriving DecidableEq

structure Authorization where
  issuedAt : Int
  expiresAt : Int

structure SubmissionClaim where
  actor : RestActor
  planId : String
  stepIndex : Int
  expectedRevision : Int
  attempt : SignedAttempt
  idempotency : IdempotencyClaim
  now : Int
  authorization : Option Authorization := none
  dispatch : Bool

structure SubmissionPatch where
  state : StepState
  broadcastAt : Option Int := none
  lastError : Option LastError := none

structure ExternalStepObservation where
  index : Int
  state : StepState
  transactionHash : Option String := none
  receipt : Option StoredReceipt := none
  semantic : Option SemanticResult := none

structure TransportReservation where
  stepIndex : Int
  transport : ReservedTransport
  bindingId : String

structure StoredIdempotency where
  claim : IdempotencyClaim
  planId : String
  stepIndex : Option Int
  accountId : String
  deriving DecidableEq

/-- The byte length of each document's JSON text. Every result below holds whatever these
lengths are; they only decide which documents are too large to store. -/
structure JsonBytes where
  plan : StoredPlan → Nat
  claim : SubmissionClaim → Nat
  receipt : StoredReceipt → Nat
  semantic : SemanticResult → Nat
  lastError : LastError → Nat

def maximumPlanBytes : Nat := 1048576
def maximumSteps : Nat := 32
def plansPerAccount : Nat := 10000
def idempotencyPerAccount : Nat := 10000

/-- Position `index` of an array, undefined outside it. -/
def at? (items : List α) (index : Int) : Option α :=
  if index < 0 then none else items[index.toNat]?

theorem at?_natCast (items : List α) (i : Nat) : at? items (i : Int) = items[i]? := by
  rw [at?, if_neg (by omega), Int.toNat_natCast]

theorem at?_some {items : List α} {index : Int} {item : α} (found : at? items index = some item) :
    0 ≤ index ∧ items[index.toNat]? = some item := by
  unfold at? at found
  split at found
  · contradiction
  · exact ⟨by omega, found⟩

end JBCenter.Transactions
