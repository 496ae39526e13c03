import JBCenter.Deployments.Types

/-! The accounting of a pool, and the evidence that funds a claim or settles an operation. -/
namespace JBCenter.Deployments
open Rest

def invalidSettlement : RestError := ⟨409, "WALLET_DEPLOYMENT_SETTLEMENT_INVALID",
  "Qualified local accounting evidence does not match the durable context.", none⟩

def isUint (value : Nat) : Bool := value < 2 ^ 256

def isCount (value : Int) : Bool := isSafeInteger value && 0 ≤ value

def isSafeNonce (value : Nat) : Bool := (value : Int) ≤ maxSafeInteger

def wellFormedEnvironment : WalletDeploymentEnvironment → Bool
  | .unforkedAnvil genesisHash instanceId => genesisHash != 0 && instanceId != 0
  | .baseMainnet genesisHash => genesisHash != 0

/-- Allocation minus finalized debits minus what the queue reserves. The pool was read, so its
accounting is asserted. -/
def walletDeploymentRemainingWei (pool : WalletDeploymentPool) : Nat :=
  pool.configuration.allocationWei - ((pool.accounting.map (·.spentWei)).getD 0 + pool.reservedWei)

def walletDeploymentReleasedCount (accounting : WalletDeploymentAccounting) : Int :=
  accounting.nextNonce - accounting.initialNonce - accounting.sequence

/-- The nonces and the amount an accounting holds are within its bounds. -/
def boundedAccounting (value : WalletDeploymentAccounting) (allocationWei : Nat) : Bool :=
  isCount value.sequence && isUint value.initialNonce && isUint value.nextNonce && isUint value.spentWei &&
  !(value.nextNonce < value.initialNonce + value.sequence) &&
  !(value.nextNonce > value.initialNonce + value.sequence + maximumUnsettled) && isSafeNonce value.nextNonce &&
  !(value.spentWei > allocationWei && !value.fence.any (·.reason = .allocationExceeded))

/-- The last settlement an accounting names goes with its sequence. -/
def anchoredAccounting (value : WalletDeploymentAccounting) : Bool :=
  if value.sequence = 0 then
    value.spentWei = 0 && value.lastSettlementId.isNone && value.lastSettlementAnchor.isNone
  else
    value.spentWei != 0 && value.lastSettlementId.isSome && value.lastSettlementAnchor.any (fun anchor =>
      wellFormedBlock anchor && !(anchor.blockNumber < value.initialHead.blockNumber))

def fencedAccounting (value : WalletDeploymentAccounting) (allocationWei : Nat) : Bool :=
  value.fence.all (fun fence => !(fence.reason = .allocationExceeded && value.spentWei ≤ allocationWei) &&
    positiveTime fence.recordedAt)

def assertWalletDeploymentAccounting (value : WalletDeploymentAccounting)
    (configuration : WalletDeploymentPoolConfiguration) : Except RestError Unit :=
  refuse (!(wellFormedEnvironment value.environment && wellFormedBlock value.initialHead &&
    boundedAccounting value configuration.allocationWei && anchoredAccounting value &&
    fencedAccounting value configuration.allocationWei)) invalidSettlement

/-- The anchor a funding read found at the height of the last settlement. -/
def anchorMatches (value : WalletDeploymentFundingEvidence) (accounting : Option WalletDeploymentAccounting) : Bool :=
  match accounting.bind (·.lastSettlementAnchor), value.previousAnchor with
  | some anchor, none => !(accounting.any (·.environment = value.environment) &&
      value.head.blockNumber ≥ anchor.blockNumber)
  | some anchor, some previous => wellFormedBlock previous && previous.blockNumber = anchor.blockNumber
  | none, previous => previous.isNone

def freshFunding (value : WalletDeploymentFundingEvidence) (now : Int) : Bool :=
  positiveTime now && positiveTime value.observedAt && positiveTime value.expiresAt &&
  !(value.observedAt > now || value.expiresAt ≤ now || value.expiresAt ≤ value.observedAt ||
    value.expiresAt > value.observedAt + evidenceLifetimeMs ||
    value.expiresAt > value.head.timestamp * 1000 + maximumHeadAgeMs || value.head.timestamp * 1000 > now + 30000)

def assertWalletDeploymentFundingEvidence (value : WalletDeploymentFundingEvidence) (pool : WalletDeploymentPool)
    (now : Int) : Except RestError Unit :=
  refuse (!(value.poolId = pool.configuration.id && value.configurationDigest = pool.configuration &&
    value.poolRevision = pool.revision && isCount value.poolRevision && wellFormedEnvironment value.environment &&
    wellFormedBlock value.head && value.accountingDigest = pool.accounting && anchorMatches value pool.accounting &&
    freshFunding value now && isSafeNonce value.confirmedNonce && isSafeNonce value.pendingNonce &&
    isUint value.balanceWei)) invalidSettlement

/-- Which nonce a funding read must have found: none in particular, one named, or the next. -/
inductive ExpectedNonce where
  | skipped
  | exactly (nonce : Nat)
  | next

def ExpectedNonce.of (expected : ExpectedNonce) (accounting : Option WalletDeploymentAccounting) : Option Nat :=
  match expected with
  | .skipped => none
  | .exactly nonce => some nonce
  | .next => accounting.map (·.nextNonce)

def walletDeploymentFundingConflict (pool : WalletDeploymentPool) (evidence : WalletDeploymentFundingEvidence)
    (expected : ExpectedNonce) (requiredBalance : Option Nat) : Option FenceReason :=
  if pool.accounting.any (·.environment != evidence.environment) then some .environmentChanged
  else if (pool.accounting.bind (·.lastSettlementAnchor)).any (some · != evidence.previousAnchor) then
    some .finalizedAnchorReplaced
  else if (expected.of pool.accounting).any (fun nonce => evidence.confirmedNonce != nonce || evidence.pendingNonce != nonce) then
    some .nonceConflict
  else if evidence.balanceWei < requiredBalance.getD (walletDeploymentRemainingWei pool) then some .balanceDeficit
  else none

/-- Later inclusions may stand on chain already: the confirmed nonce lies past this operation and
at most one past the next nonce while an operation is in flight. -/
def walletDeploymentSettlementNonceConflict (pool : WalletDeploymentPool) (accounting : WalletDeploymentAccounting)
    (nonce : Nat) (evidence : WalletDeploymentFundingEvidence) (finalizedNonce : Nat) : Option FenceReason :=
  let ceiling := accounting.nextNonce + (if pool.activeOperationId.isNone then 0 else 1)
  if finalizedNonce < nonce + 1 || evidence.confirmedNonce < finalizedNonce || evidence.confirmedNonce > ceiling ||
    evidence.pendingNonce < evidence.confirmedNonce || evidence.pendingNonce > ceiling then some .nonceConflict else none

variable {pool : WalletDeploymentPool}

theorem fundingConflict_within {evidence : WalletDeploymentFundingEvidence}
    {expected : ExpectedNonce} {requiredBalance : Option Nat} {reason : FenceReason}
    (found : walletDeploymentFundingConflict pool evidence expected requiredBalance = some reason) :
    reason ≠ .allocationExceeded := by
  rintro rfl
  unfold walletDeploymentFundingConflict at found
  split_ifs at found <;> cases found

theorem settlementNonceConflict_within {accounting : WalletDeploymentAccounting} {nonce : Nat}
    {evidence : WalletDeploymentFundingEvidence} {finalizedNonce : Nat} {reason : FenceReason}
    (found : walletDeploymentSettlementNonceConflict pool accounting nonce evidence finalizedNonce = some reason) :
    reason ≠ .allocationExceeded := by
  rintro rfl
  unfold walletDeploymentSettlementNonceConflict at found
  dsimp only at found
  split_ifs at found <;> cases found

/-- The operation is the lowest released one of an unfenced pool, and the evidence names it. -/
def settles (value : WalletDeploymentSettlementEvidence) (pool : WalletDeploymentPool)
    (operation : WalletDeploymentOperation) : Bool :=
  pool.accounting.any (fun accounting => accounting.fence.isNone &&
    operation.template.any (fun template => template.nonce = accounting.initialNonce + accounting.sequence)) &&
  pool.state = .active && pool.activeOperationId != some operation.id && operation.releasedAt.isSome &&
  operation.settlementId.isNone && operation.state = .signed &&
  operation.signed.any (fun signed => value.transactionHash = signed.hash) &&
  operation.poolId = pool.configuration.id && value.operationId = operation.id &&
  value.operationRevision = operation.revision && operation.templateCommitment = some value.templateCommitment &&
  operation.templateCommitment = operation.template

/-- The evidence's observation is a finalized inclusion of the operation, at the head of the funding read. -/
def settledObservation (value : WalletDeploymentSettlementEvidence) (operation : WalletDeploymentOperation) : Bool :=
  let observation := value.observation
  observation.operationId = operation.id && operation.signed.any (fun signed => observation.transactionHash = signed.hash) &&
  operation.templateCommitment = some observation.templateCommitment && observation.transaction.receipt.isSome &&
  canonicalObservation observation && observation.finality.state = .finalized && observation.finality.evidence.isSome &&
  observation.head = some value.funding.head && !(observation.observedAt > value.funding.observedAt) &&
  !(value.funding.expiresAt > observation.observedAt + evidenceLifetimeMs) &&
  operation.highestObservedHead.all (fun highest => observation.head.all (fun head => !(head.blockNumber < highest))) &&
  operation.template.any (fun template => observation.wallet.address = template.predictedSafe &&
    observation.wallet.initializerHash = template.initializerHash) &&
  operation.historicalCanonicalObservation.all (fun historical => !(historical.finality.state = .finalized) ||
    historical.transaction.receipt = observation.transaction.receipt)

def feesMatch (fees : WalletDeploymentSettlementFees) (kind : EnvironmentKind) : Bool :=
  match fees with
  | .base executionWei l1Wei operatorWei totalWei => kind = .baseMainnet && isUint executionWei && isUint l1Wei &&
      isUint operatorWei && isUint totalWei && totalWei = executionWei + l1Wei + operatorWei
  | .unforkedAnvil executionWei totalWei => kind = .unforkedAnvil && executionWei = totalWei && isUint executionWei

/-- The fees are what the receipt says was executed, within what was signed. -/
def settledFees (value : WalletDeploymentSettlementEvidence) (pool : WalletDeploymentPool)
    (operation : WalletDeploymentOperation) : Bool :=
  value.observation.transaction.receipt.any (fun receipt =>
    let execution := receipt.gasUsed * receipt.effectiveGasPrice
    pool.accounting.any (fun accounting => feesMatch value.fees accounting.environment.kind) && execution != 0 &&
    value.fees.executionWei = execution && value.observation.executionWei = some value.fees.executionWei &&
    operation.signed.any (fun signed => execution ≤ signed.maximumExecutionCost) &&
    operation.template.any (fun template => receipt.gasUsed ≤ template.gas && receipt.effectiveGasPrice ≤ template.maxFeePerGas &&
      isSafeNonce value.finalizedNonce && value.finalizedNonce > template.nonce))

def assertWalletDeploymentSettlementEvidence (value : WalletDeploymentSettlementEvidence)
    (context : WalletDeploymentSettlementContext) (now : Int) : Except RestError Unit := do
  assertWalletDeploymentFundingEvidence value.funding context.pool now
  refuse (!settles value context.pool context.operation) invalidSettlement
  assertWalletDeploymentObservation value.observation
  refuse (!settledObservation value context.operation) invalidSettlement
  refuse (!settledFees value context.pool context.operation) invalidSettlement

theorem settlementEvidence_ok {value : WalletDeploymentSettlementEvidence} {context : WalletDeploymentSettlementContext}
    {now : Int} (asserted : assertWalletDeploymentSettlementEvidence value context now = .ok ()) :
    settles value context.pool context.operation = true ∧ settledObservation value context.operation = true ∧
      settledFees value context.pool context.operation = true := by
  obtain ⟨_, _, asserted⟩ := ok_bind asserted
  obtain ⟨settling, asserted⟩ := ok_refuse asserted
  obtain ⟨_, _, asserted⟩ := ok_bind asserted
  obtain ⟨observed, asserted⟩ := ok_refuse asserted
  have fees := refuse_ok.mp asserted
  exact ⟨by simpa using settling, by simpa using observed, by simpa using fees⟩

/-- What a settlement asks of the pool and of the operation. -/
theorem settles_ok {value : WalletDeploymentSettlementEvidence}
    {operation : WalletDeploymentOperation} {accounting : WalletDeploymentAccounting} {template : WalletDeploymentTemplate}
    (settling : settles value pool operation = true) (held : pool.accounting = some accounting)
    (templated : operation.template = some template) :
    accounting.fence = none ∧ template.nonce = accounting.initialNonce + accounting.sequence ∧
      operation.releasedAt.isSome = true ∧ operation.settlementId = none ∧ operation.state = .signed := by
  simp only [settles, held, templated, Option.any_some, Bool.and_eq_true, decide_eq_true_eq,
    Option.isNone_iff_eq_none] at settling
  obtain ⟨⟨⟨⟨⟨⟨⟨⟨⟨⟨⟨⟨unfenced, lowest⟩, _⟩, _⟩, released⟩, unsettled⟩, state⟩, _⟩, _⟩, _⟩, _⟩, _⟩, _⟩ := settling
  exact ⟨unfenced, lowest, released, unsettled, state⟩

end JBCenter.Deployments
