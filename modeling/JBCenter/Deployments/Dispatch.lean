import JBCenter.Deployments.Settlement

/-! What a dispatch is admitted on: a fresh read of the chain that is bound to the pool, the
operation and its last observation, and an amount the pool has left. -/
namespace JBCenter.Deployments
open Rest

def dispatchDisabled : RestError := ⟨403, "WALLET_DEPLOYMENT_DISPATCH_DISABLED",
  "Fresh verified local deployment admission is required.", none⟩

/-- The version, the accounting and the reservation of an admission go with the pool's accounting. -/
def admissionBinds (value : WalletDeploymentDispatchAdmission) (pool : WalletDeploymentPool)
    (operation : WalletDeploymentOperation) : Bool :=
  match pool.accounting with
  | none => value.version = .localV1 && value.accounting.isNone && value.reservation.isNone
  | some accounting =>
    value.version = (if accounting.environment.kind = .baseMainnet then .baseV1 else .localV2) &&
    value.reservation.isSome = decide (accounting.environment.kind = .baseMainnet) && accounting.fence.isNone &&
    value.accounting = some ⟨accounting, walletDeploymentRemainingWei pool, accounting.nextNonce⟩ &&
    operation.template.any (fun template => accounting.nextNonce = template.nonce) &&
    value.genesisHash = accounting.environment.genesisHash

/-- The scope of the fees, and for Base the reservation with its margin, within what remains. -/
def admissionScope (value : WalletDeploymentDispatchAdmission) (pool : WalletDeploymentPool) : Bool :=
  if value.version = .baseV1 then
    value.reservation.any (fun reservation =>
      value.environmentKind = .baseMainnet && value.feeScope = .baseExecutionL1OperatorReserved &&
      value.baseTotalAffordability = .reserved && reservation.attributesTransaction != 0 &&
      isUint reservation.totalWei && isUint reservation.l1WeiAtParameters && isUint reservation.operatorMaximumWei &&
      reservation.totalWei = value.maximumExecutionCost +
        walletDeploymentBaseReservationMargin * (reservation.l1WeiAtParameters + reservation.operatorMaximumWei) &&
      !(reservation.totalWei > walletDeploymentRemainingWei pool) && !(value.balanceWei < reservation.totalWei))
  else value.environmentKind = .unforkedAnvil && value.feeScope = .localExecutionOnly &&
    value.baseTotalAffordability = .unknown

/-- The admission is for this operation as it is stored, and for its one signed transaction. -/
def admissionNames (value : WalletDeploymentDispatchAdmission) (pool : WalletDeploymentPool)
    (operation : WalletDeploymentOperation) : Bool :=
  value.genesisHash != 0 && operation.state = .signed && pool.state = .active &&
  pool.activeOperationId = some operation.id && operation.poolId = pool.configuration.id &&
  operation.poolConfigurationDigest = pool.configuration && value.operationId = operation.id &&
  operation.signed.any (fun signed => value.transactionHash = signed.hash) && operation.template.isSome &&
  operation.templateCommitment = some value.templateCommitment && operation.template = some value.templateCommitment &&
  value.poolConfigurationDigest = pool.configuration && value.operationRevision = operation.revision

/-- The last observation found nothing of the transaction: no inclusion, no wallet, and the nonce unused. -/
def undispatched (observation : WalletDeploymentObservation) (template : WalletDeploymentTemplate) : Bool :=
  observation.transaction.state = .notObserved && observation.wallet.state = .undeployed &&
  observation.transaction.nonce = some ⟨template.nonce, template.nonce⟩ && observation.finality.state = .unknown

def admissionObserved (value : WalletDeploymentDispatchAdmission) (operation : WalletDeploymentOperation)
    (observation : WalletDeploymentObservation) (template : WalletDeploymentTemplate) : Bool :=
  value.observationDigest = observation && observation.head = some value.head && observation.operationId = operation.id &&
  operation.signed.any (fun signed => observation.transactionHash = signed.hash) &&
  operation.templateCommitment = some observation.templateCommitment &&
  observation.wallet.address = template.predictedSafe && observation.wallet.initializerHash = template.initializerHash &&
  operation.highestObservedHead.all (fun highest => !(value.head.blockNumber < highest)) &&
  undispatched observation template &&
  !operation.historicalCanonicalObservation.any (fun historical => historical.finality.state = .finalized)

def admissionFresh (value : WalletDeploymentDispatchAdmission) (pool : WalletDeploymentPool)
    (observation : WalletDeploymentObservation) (now : Int) : Bool :=
  positiveTime now && positiveTime value.observedAt && positiveTime value.expiresAt &&
  !(value.observedAt > now || value.expiresAt ≤ now || value.observedAt < observation.observedAt ||
    value.expiresAt - value.observedAt > (if value.version = .baseV1 then admissionLifetimeMs else 5000) ||
    value.expiresAt > observation.observedAt + pool.configuration.policy.maximumObservationAgeMs ||
    value.expiresAt > (value.head.timestamp + 300) * 1000)

def admissionAffords (value : WalletDeploymentDispatchAdmission) (pool : WalletDeploymentPool)
    (operation : WalletDeploymentOperation) (template : WalletDeploymentTemplate) : Bool :=
  isUint value.balanceWei && isUint value.maximumExecutionCost &&
  operation.signed.any (fun signed => value.maximumExecutionCost = signed.maximumExecutionCost) &&
  value.maximumExecutionCost = template.gas * template.maxFeePerGas &&
  !(value.balanceWei < walletDeploymentRemainingWei pool) &&
  !(value.maximumExecutionCost > walletDeploymentRemainingWei pool)

def admissible (value : WalletDeploymentDispatchAdmission) (pool : WalletDeploymentPool)
    (operation : WalletDeploymentOperation) (now : Int) : Bool :=
  match operation.observation, operation.template with
  | some observation, some template =>
    (assertWalletDeploymentObservation observation).isOk && admissionBinds value pool operation && admissionScope value pool &&
    admissionNames value pool operation && admissionObserved value operation observation template &&
    admissionFresh value pool observation now && admissionAffords value pool operation template
  | _, _ => false

def assertWalletDeploymentDispatchAdmission (value : WalletDeploymentDispatchAdmission) (pool : WalletDeploymentPool)
    (operation : WalletDeploymentOperation) (now : Int) : Except RestError Unit :=
  refuse (!admissible value pool operation now) dispatchDisabled

section Admitted
variable {value : WalletDeploymentDispatchAdmission} {pool : WalletDeploymentPool} {operation : WalletDeploymentOperation}
  {now : Int} (admitted : admissible value pool operation now = true)
include admitted

theorem admissible_names : admissionNames value pool operation = true := by
  unfold admissible at admitted
  split at admitted
  · simp only [Bool.and_eq_true] at admitted
    exact admitted.1.1.1.2
  · cases admitted

theorem admissible_active : operation.state = .signed ∧ pool.activeOperationId = some operation.id ∧
    operation.template.isSome = true := by
  have names := admissible_names admitted
  simp only [Bool.and_eq_true, admissionNames, decide_eq_true_eq] at names
  obtain ⟨⟨⟨⟨⟨⟨⟨⟨⟨⟨⟨⟨_, signed⟩, _⟩, active⟩, _⟩, _⟩, _⟩, _⟩, templated⟩, _⟩, _⟩, _⟩, _⟩ := names
  exact ⟨signed, active, templated⟩

theorem admissible_binds : admissionBinds value pool operation = true := by
  unfold admissible at admitted
  split at admitted
  · simp only [Bool.and_eq_true] at admitted
    exact admitted.1.1.1.1.1.2
  · cases admitted

theorem admissible_unfenced {accounting : WalletDeploymentAccounting} (held : pool.accounting = some accounting) :
    accounting.fence = none := by
  have binds := admissible_binds admitted
  simp only [admissionBinds, held, Bool.and_eq_true, Option.isNone_iff_eq_none] at binds
  exact binds.1.1.1.2

theorem admissible_undispatched : ∃ observation template, operation.observation = some observation ∧
    operation.template = some template ∧ undispatched observation template = true := by
  unfold admissible at admitted
  split at admitted
  · rename_i observation template observed templated
    simp only [Bool.and_eq_true, admissionObserved] at admitted
    obtain ⟨⟨⟨_, ⟨⟨_, unobserved⟩, _⟩⟩, _⟩, _⟩ := admitted
    exact ⟨observation, template, observed, templated, unobserved⟩
  · cases admitted

theorem admissible_unexpired : now < value.expiresAt := by
  unfold admissible at admitted
  split at admitted
  · rename_i observation template _ _
    simp only [Bool.and_eq_true] at admitted
    have fresh : admissionFresh value pool observation now = true := admitted.1.2
    simp only [admissionFresh, Bool.and_eq_true, Bool.not_eq_true', Bool.or_eq_false_iff,
      decide_eq_false_iff_not, not_le] at fresh
    exact fresh.2.1.1.1.1.2
  · cases admitted

/-- What an admission costs at most is within what the pool has left. -/
theorem admissible_affords {template : WalletDeploymentTemplate} (templated : operation.template = some template) :
    value.maximumExecutionCost = template.gas * template.maxFeePerGas ∧
      value.maximumExecutionCost ≤ walletDeploymentRemainingWei pool ∧ (pool.accounting.isSome = true →
        value.reservation.elim 0 (·.totalWei) ≤ walletDeploymentRemainingWei pool) := by
  have binds := admissible_binds admitted
  unfold admissible at admitted
  split at admitted
  · rename_i observation held _ same
    cases Option.some.inj (templated.symm.trans same)
    simp only [Bool.and_eq_true] at admitted
    obtain ⟨⟨⟨_, scope⟩, _⟩, affords⟩ : ((_ ∧ admissionScope value pool = true) ∧ _) ∧
      admissionAffords value pool operation template = true := ⟨⟨⟨trivial, admitted.1.1.1.1.2⟩, trivial⟩, admitted.2⟩
    simp only [admissionAffords, Bool.and_eq_true, decide_eq_true_eq, Bool.not_eq_true',
      decide_eq_false_iff_not, not_lt, gt_iff_lt]
      at affords
    refine ⟨affords.1.1.2, affords.2, ?_⟩
    intro accounted
    obtain ⟨accounting, held⟩ := Option.isSome_iff_exists.mp accounted
    simp only [admissionBinds, held, Bool.and_eq_true, decide_eq_true_eq] at binds
    obtain ⟨⟨⟨⟨⟨version, reserved⟩, _⟩, _⟩, _⟩, _⟩ := binds
    cases found : value.reservation with
    | none => exact Nat.zero_le _
    | some reservation =>
      have base : accounting.environment.kind = .baseMainnet := by simpa [found] using reserved
      rw [if_pos base] at version
      simp only [admissionScope, version, if_true, found, Option.any_some, Bool.and_eq_true, Bool.not_eq_true',
        decide_eq_false_iff_not, not_lt, gt_iff_lt] at scope
      exact scope.1.2
  · cases admitted

end Admitted
end JBCenter.Deployments
