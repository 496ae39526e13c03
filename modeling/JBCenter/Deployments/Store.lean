import JBCenter.Base.Answers
import JBCenter.Deployments.Dispatch

/-! The durable store of wallet deployments. Every method is one transaction on the pool row and the
operation's rows; the pool row is locked first, so methods are serial. What other tables and
services answer inside a transaction (the enrollment, the ceremony, the verified proof, a random
token, the database's clock) is part of a request. -/
namespace JBCenter.Deployments
open Rest

def invalid : RestError :=
  ⟨400, "WALLET_DEPLOYMENT_INVALID", "Deployment storage fields or bounds are invalid.", none⟩
def conflict : RestError := ⟨409, "WALLET_DEPLOYMENT_CONFLICT",
  "Deployment does not match its immutable allocation or operation.", none⟩
def missing : RestError := ⟨404, "WALLET_DEPLOYMENT_NOT_FOUND", "Deployment or pool is unavailable.", none⟩
def expired : RestError := ⟨410, "WALLET_DEPLOYMENT_EXPIRED", "Fresh deployment admission has expired.", none⟩
def busy : RestError := ⟨409, "WALLET_DEPLOYMENT_BUSY", "Deployment sender lane or signing lease is occupied.", none⟩
def leaseBusy : RestError :=
  ⟨409, "WALLET_DEPLOYMENT_LEASE_BUSY", "Deployment sender lane or signing lease is occupied.", none⟩
def observationExpired : RestError := ⟨410, "WALLET_DEPLOYMENT_OBSERVATION_EXPIRED",
  "Deployment chain admission must be refreshed.", none⟩
def invalidContext : RestError := ⟨400, "WALLET_DEPLOYMENT_INVALID",
  "Wallet deployment context or immutable transaction is invalid.", none⟩
def invalidProof : RestError := ⟨403, "WALLET_DEPLOYMENT_PROOF_INVALID",
  "A fresh matching wallet deployment approval is required.", none⟩

/-- A signed transaction as it parses back to its own bytes, with its recovered sender. -/
structure RecoveredTransaction where
  nonce : Nat
  gas : Nat
  maxFeePerGas : Nat
  maxPriorityFeePerGas : Nat
  value : Nat
  sender : Address
  call : Payload
  hash : Word

/-- What the store takes from wallet documents, passkey proofs and the transaction library. -/
structure Rules where
  /-- The approval is a document of this enrollment. -/
  document : WalletEnrollment → WalletDeploymentApproval → Bool
  /-- The digest of an assertion that verifies at a time. -/
  verifyProof : WalletEnrollment → WalletDeploymentApproval → Payload → Int → Option String
  call : WalletEnrollment → Payload
  commitments : WalletEnrollment → WalletDeploymentApproval → Payload
  recover : String → Option RecoveredTransaction

def configurationValid (config : WalletDeploymentPoolConfiguration) : Bool :=
  config.sender > 1 && 1 ≤ config.policy.maximumRawBytes && config.policy.maximumRawBytes ≤ 131072 &&
  1 ≤ config.policy.maximumObservationAgeMs && config.policy.maximumObservationAgeMs ≤ 60000 &&
  isUint config.allocationWei && 0 < config.allocationWei && isUint config.globalAllocationLimitWei &&
  config.allocationWei ≤ config.globalAllocationLimitWei && 0 < config.policy.maximumTransactionCost &&
  config.policy.maximumTransactionCost ≤ config.allocationWei && 0 < config.policy.maximumGas &&
  isUint config.policy.maximumGas && 0 < config.policy.maximumFeePerGas && isUint config.policy.maximumFeePerGas

/-- The store as `configurePool` first leaves it. -/
def Store.configured (config : WalletDeploymentPoolConfiguration) (now : Int) : Store :=
  ⟨⟨config, now, .active, none, 0, none⟩, .empty, .empty, .empty⟩

def poolOf (row : PoolRow) (reservedWei : Nat) : Except RestError WalletDeploymentPool := do
  refuse (!configurationValid row.configuration) invalid
  refuse (!isUint reservedWei) invalid
  optionally (assertWalletDeploymentAccounting · row.configuration) row.accounting
  return { row with reservedWei }

def settledAs (operation : WalletDeploymentOperation) : WalletDeploymentOperation :=
  { operation with settlementId := some operation.id }

namespace Store

def poolRecord (s : Store) (poolId : String) : Except RestError WalletDeploymentPool := do
  refuse (poolId != s.pool.configuration.id) missing
  poolOf s.pool s.reservedWei

def required (s : Store) (operationId : String) : Except RestError WalletDeploymentOperation :=
  match s.operations.get operationId with
  | none => .error missing
  | some operation => .ok operation

def lastSettlement (s : Store) (pool : WalletDeploymentPool) :
    Except RestError (Option WalletDeploymentSettlementReceipt) :=
  match pool.accounting.bind (·.lastSettlementId) with
  | none => .ok none
  | some id =>
    match s.settlements.get id with
    | none => .error conflict
    | some receipt => .ok (some receipt)

def putOperation (s : Store) (operation : WalletDeploymentOperation) : Store :=
  { s with operations := s.operations.set operation.id operation }

/-- A settlement is recorded, and the operation marked with it. -/
def putSettlement (s : Store) (operation : WalletDeploymentOperation) (receipt : WalletDeploymentSettlementReceipt) : Store :=
  { s.putOperation (settledAs operation) with settlements := s.settlements.set operation.id receipt }

def putDispatch (s : Store) (journal : WalletDeploymentDispatchJournal) : Store :=
  { s with dispatches := s.dispatches.set journal.operationId journal }

def putLane (s : Store) (operationId : String) : Store :=
  { s with pool := { s.pool with activeOperationId := some operationId, revision := s.pool.revision + 1 } }

def putAccounting (s : Store) (accounting : WalletDeploymentAccounting) (release : Bool) : Store :=
  { s with pool := { s.pool with
      accounting := some accounting
      revision := s.pool.revision + 1
      activeOperationId := if release then none else s.pool.activeOperationId } }

/-- The rows a cleanup takes are prepared ones past their retention; which of them, the database chooses. -/
def sweep (s : Store) (swept : List String) (now : Int) : Store :=
  { s with operations := s.operations.filter (fun id operation =>
      !(swept.contains id && operation.state = .prepared && operation.retainUntil ≤ now)) }

variable {s : Store}

@[simp] theorem get_putOperation (operation : WalletDeploymentOperation) (id : String) :
    (s.putOperation operation).operations.get id = if id = operation.id then some operation else s.operations.get id :=
  OrderedMap.get_set ..

@[simp] theorem get_putSettlement (operation : WalletDeploymentOperation) (receipt : WalletDeploymentSettlementReceipt)
    (id : String) : (s.putSettlement operation receipt).operations.get id =
      if id = operation.id then some (settledAs operation) else s.operations.get id :=
  OrderedMap.get_set ..

@[simp] theorem settlements_putSettlement (operation : WalletDeploymentOperation) (receipt : WalletDeploymentSettlementReceipt)
    (id : String) : (s.putSettlement operation receipt).settlements.get id =
      if id = operation.id then some receipt else s.settlements.get id :=
  OrderedMap.get_set ..

@[simp] theorem get_putDispatch (journal : WalletDeploymentDispatchJournal) (id : String) :
    (s.putDispatch journal).dispatches.get id = if id = journal.operationId then some journal else s.dispatches.get id :=
  OrderedMap.get_set ..

variable {swept : List String}

/-- What a cleanup leaves was there, and what it takes was prepared. -/
theorem sweep_some {now : Int} {id : String} {operation : WalletDeploymentOperation}
    (left : (s.sweep swept now).operations.get id = some operation) : s.operations.get id = some operation := by
  rw [sweep, OrderedMap.get_filter] at left
  exact (Option.filter_eq_some_iff.mp left).1

theorem sweep_none {now : Int} {id : String} (absent : s.operations.get id = none) :
    (s.sweep swept now).operations.get id = none := by
  simp [sweep, absent]

theorem sweep_kept {now : Int} {id : String} {operation : WalletDeploymentOperation}
    (stored : s.operations.get id = some operation) (unprepared : operation.state ≠ .prepared) :
    (s.sweep swept now).operations.get id = some operation := by
  simp [sweep, stored, Option.filter, unprepared]

/-- A write moves the queue by what it changes in its own row. -/
theorem releasedCount_put {prior : WalletDeploymentOperation} (operation : WalletDeploymentOperation)
    (stored : s.operations.get operation.id = some prior) : (s.putOperation operation).releasedCount +
      (if prior.queued then 1 else 0) = s.releasedCount + if operation.queued then 1 else 0 := by
  have moved := s.operations.total_set (fun operation => if operation.queued then 1 else 0) operation.id operation
  rw [stored, Option.elim_some] at moved
  exact moved

theorem reservedWei_put {prior : WalletDeploymentOperation} (operation : WalletDeploymentOperation)
    (stored : s.operations.get operation.id = some prior) : (s.putOperation operation).reservedWei +
      (if prior.queued then prior.reservedWei.getD 0 else 0) =
        s.reservedWei + if operation.queued then operation.reservedWei.getD 0 else 0 := by
  have moved := s.operations.total_set (fun operation => if operation.queued then operation.reservedWei.getD 0 else 0)
    operation.id operation
  rw [stored, Option.elim_some] at moved
  exact moved

end Store

def writeAccounting (s : Store) (pool : WalletDeploymentPool) (accounting : WalletDeploymentAccounting)
    (release : Bool) : Except RestError (WalletDeploymentPool × Store) := do
  assertWalletDeploymentAccounting accounting pool.configuration
  refuse (s.pool.revision != pool.revision) conflict
  let result ← (s.putAccounting accounting release).poolRecord pool.configuration.id
  return (result, s.putAccounting accounting release)

/-- The operation, its enrollment and its pool still are of one context. -/
def sameContext (rules : Rules) (enrollment : WalletEnrollment) (operation : WalletDeploymentOperation)
    (pool : WalletDeploymentPool) : Except RestError Unit := do
  refuse (!rules.document enrollment operation.approval) invalidContext
  refuse (operation.poolConfigurationDigest != pool.configuration) conflict

/-- What a method finds under the pool's lock. -/
def loadContext (rules : Rules) (s : Store) (operationId : String) (enrollment : WalletEnrollment) :
    Except RestError (WalletDeploymentPool × WalletDeploymentOperation) := do
  let operation ← s.required operationId
  let pool ← s.poolRecord operation.poolId
  sameContext rules enrollment operation pool
  return (pool, operation)

structure TemplateFees where
  sender : Address
  nonce : Nat
  gas : Nat
  maxFeePerGas : Nat
  maxPriorityFeePerGas : Nat

def prepareWalletDeploymentTemplate (rules : Rules) (enrollment : WalletEnrollment) (approval : WalletDeploymentApproval)
    (fees : TemplateFees) (policy : PoolPolicy) : Except RestError WalletDeploymentTemplate := do
  refuse (!rules.document enrollment approval) invalidContext
  refuse (!(isUint fees.nonce && isUint fees.gas && 0 < fees.gas && isUint fees.maxFeePerGas && 0 < fees.maxFeePerGas &&
    isUint fees.maxPriorityFeePerGas && 0 < fees.maxPriorityFeePerGas)) invalidContext
  refuse (!(fees.sender > 1 && isSafeNonce fees.nonce && fees.gas ≤ policy.maximumGas &&
    fees.maxFeePerGas ≤ policy.maximumFeePerGas && fees.maxPriorityFeePerGas ≤ fees.maxFeePerGas &&
    fees.gas * fees.maxFeePerGas ≤ policy.maximumTransactionCost)) invalidContext
  return ⟨fees.sender, enrollment.address, enrollment.initializerHash, fees.nonce, fees.gas, fees.maxFeePerGas,
    fees.maxPriorityFeePerGas, rules.call enrollment, rules.commitments enrollment approval⟩

def admissionTemplate (rules : Rules) (enrollment : WalletEnrollment) (operation : WalletDeploymentOperation)
    (pool : WalletDeploymentPool) (admission : WalletDeploymentAdmission) : Except RestError WalletDeploymentTemplate := do
  refuse (admission.sender != pool.configuration.sender ||
    admission.enrollmentCommitment != operation.approval.enrollmentCommitment ||
    admission.manifestRevision != enrollment.manifestRevision || admission.initializerHash != enrollment.initializerHash) conflict
  prepareWalletDeploymentTemplate rules enrollment operation.approval ⟨admission.sender, admission.confirmedNonce,
    admission.gas, admission.maxFeePerGas, admission.maxPriorityFeePerGas⟩ pool.configuration.policy

def validateSignedWalletDeployment (rules : Rules) (enrollment : WalletEnrollment) (approval : WalletDeploymentApproval)
    (template : WalletDeploymentTemplate) (rawTransaction : String) (policy : PoolPolicy) :
    Except RestError SignedDeployment := do
  let expected ← prepareWalletDeploymentTemplate rules enrollment approval ⟨template.sender, template.nonce, template.gas,
    template.maxFeePerGas, template.maxPriorityFeePerGas⟩ policy
  refuse (template != expected || rawTransaction.length - 2 > 2 * policy.maximumRawBytes) invalidContext
  match rules.recover rawTransaction with
  | none => .error invalidContext
  | some tx => do
    refuse (!(tx.nonce = template.nonce && tx.gas = template.gas && tx.maxFeePerGas = template.maxFeePerGas &&
      tx.maxPriorityFeePerGas = template.maxPriorityFeePerGas && tx.value = 0 && tx.sender = template.sender &&
      tx.call = template.call)) invalidContext
    return ⟨rawTransaction, tx.hash, tx.value + tx.gas * tx.maxFeePerGas⟩

end JBCenter.Deployments
