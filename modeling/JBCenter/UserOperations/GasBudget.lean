import JBCenter.Base.Quotients
import JBCenter.UserOperations.Estimation
import JBCenter.UserOperations.Packing

/-! The budget of a session bounds every operation its context accepts, and what the context fits is accepted by it. -/
namespace JBCenter.UserOperations
open Rest

variable {codec : EstimationCodec} {record : GasSession} {policy : UserOperationGasPolicy} {value operation : Json}
variable {context : SessionGasEstimation} {admission : Admission} {op current fitted : UserOperationV07}
variable {config : PolicyConfiguration} {counters : List InstalledCounter} {init : GuardInit} {fee : Nat}
variable {α β : Type}

theorem normalized_ok (accepted : normalized codec value = .ok op) :
    normalizeUserOperation codec.checksumAddress value = .ok op ∧ op.Canonical := by
  have accepted : normalizeUserOperation codec.checksumAddress value = .ok op := by
    unfold normalized refusal at accepted
    cases ran : normalizeUserOperation codec.checksumAddress value with
    | ok result => rw [ran] at accepted; cases accepted; rfl
    | error error => rw [ran] at accepted; cases accepted
  obtain ⟨_, _, canonical, _⟩ := normalize_ok accepted
  exact ⟨accepted, canonical⟩

theorem normalized_run (accepted : normalizeUserOperation codec.checksumAddress value = .ok op) :
    normalized codec value = .ok op := by
  rw [normalized, accepted]
  rfl

theorem maximumCost_run (canonical : op.Canonical) : (refusal (userOperationMaximumCost codec.checksumAddress op.toJson)).mapError
    EstimationError.codec = .ok (op.totalGas * hexNumber op.maxFeePerGas) := by
  rw [userOperationMaximumCost, normalize_canonical canonical]
  rfl

/-- The conditions of an assertion. -/
structure SessionGasEstimation.Admits (context : SessionGasEstimation) (op : UserOperationV07) : Prop where
  positive : context.fee ≠ 0
  fee : hexNumber op.maxFeePerGas = context.fee
  priority : hexNumber op.maxPriorityFeePerGas ≤ context.maxPriority
  gas : (op.totalGas : Int) ≤ context.maximumGas
  paymaster : ∀ paymaster, op.paymaster = some paymaster → toLowerCase paymaster = toLowerCase context.paymaster

/-- The gas of an operation is its cost over its fee, without remainder. -/
theorem assert_ok (accepted : normalized codec value = .ok op) : context.assert codec value = .ok () ↔ context.Admits op := by
  have canonical := (normalized_ok accepted).2
  have exact : ∀ {n : Nat}, hexNumber op.maxFeePerGas ≠ 0 → n = op.totalGas * hexNumber op.maxFeePerGas →
      bigintDiv n (hexNumber op.maxFeePerGas) = .ok (op.totalGas : Int) := by
    rintro _ positive rfl
    rw [bigintDiv, if_neg (Int.natCast_ne_zero.mpr positive), Nat.cast_mul,
      Int.mul_tdiv_cancel _ (Int.natCast_ne_zero.mpr positive)]
  constructor
  · intro asserted
    obtain ⟨current, same, asserted⟩ := ok_bind asserted
    cases accepted.symm.trans same
    split at asserted
    · cases asserted
    · rename_i positive
      obtain ⟨cost, costRead, asserted⟩ := ok_bind asserted
      cases (maximumCost_run canonical).symm.trans costRead
      obtain ⟨gas, gasRead, asserted⟩ := ok_bind asserted
      cases (exact positive rfl).symm.trans gasRead
      split at asserted
      · cases asserted
      · rename_i within
        simp only [Bool.or_eq_true, decide_eq_true_eq, not_or, not_not, not_lt, Bool.not_eq_true, Option.any_eq_false,
          decide_eq_false_iff_not] at within
        obtain ⟨⟨⟨fee, priority⟩, gas⟩, paymaster⟩ := within
        exact ⟨fee ▸ positive, fee, priority, gas, paymaster⟩
  · intro admits
    have positive : hexNumber op.maxFeePerGas ≠ 0 := admits.fee ▸ admits.positive
    refine bind_run accepted ?_
    rw [if_neg positive]
    refine bind_run (maximumCost_run canonical) (bind_run (exact positive rfl) ?_)
    refine if_neg ?_
    simp only [Bool.or_eq_true, decide_eq_true_eq, not_or, not_not, not_lt, Bool.not_eq_true, Option.any_eq_false,
      decide_eq_false_iff_not]
    exact ⟨⟨⟨admits.fee, admits.priority⟩, admits.gas⟩, admits.paymaster⟩

theorem bigintDiv_ok {a b quotient : Int} (divided : bigintDiv a b = .ok quotient) : quotient = a.tdiv b := by
  unfold bigintDiv at divided
  split at divided
  · cases divided
  · cases divided
    rfl

theorem approvedGas_ok {gas : Int} (positive : fee ≠ 0) (enough : 3 ≤ gas)
    (approved : approvedGas policy config counters init fee = .ok gas) :
    ∃ requested sponsored, remaining config counters "requestedGas" init.totalGasLimit = .ok requested ∧
      remaining config counters "sponsoredCost" init.totalSponsoredCostLimit = .ok sponsored ∧
      gas ≤ min (init.maxGasPerOperation : Int) requested ∧ gas * fee ≤ min (sponsored : Int) policy.maximumCost := by
  obtain ⟨requested, requestedRead, approved⟩ := ok_bind approved
  obtain ⟨sponsored, sponsoredRead, approved⟩ := ok_bind approved
  obtain ⟨sponsoredGas, first, approved⟩ := ok_bind approved
  obtain ⟨policyGas, second, approved⟩ := ok_bind approved
  cases approved
  cases bigintDiv_ok first
  cases bigintDiv_ok second
  have natural : 0 < (fee : Int) := Int.natCast_pos.mpr (Nat.pos_of_ne_zero positive)
  have bounds := le_refl (min (min (min (init.maxGasPerOperation : Int) requested) ((sponsored : Int).tdiv fee))
    (policy.maximumCost.tdiv fee))
  rw [le_min_iff, le_min_iff] at bounds
  obtain ⟨⟨guard, cost⟩, ceiling⟩ := bounds
  exact ⟨requested, sponsored, requestedRead, sponsoredRead, guard,
    le_min (mul_le_of_le_tdiv natural (by omega) cost) (mul_le_of_le_tdiv natural (by omega) ceiling)⟩

structure Created (codec : EstimationCodec) (record : GasSession) (policy : UserOperationGasPolicy) (op : UserOperationV07)
    (context : SessionGasEstimation) (init : GuardInit) (requested sponsored : Nat) : Prop where
  configured : context.policy = policy
  fee : context.fee = hexNumber op.maxFeePerGas
  priority : hexNumber op.maxPriorityFeePerGas ≤ context.maxPriority
  paymaster : context.paymaster = init.paymaster
  positive : context.fee ≠ 0
  enough : 3 ≤ context.maximumGas
  gas : context.maximumGas ≤ min (init.maxGasPerOperation : Int) requested
  cost : context.maximumGas * context.fee ≤ min (sponsored : Int) policy.maximumCost
  counted : ∃ config version counters, installedGuard record = .ok (config, version, counters) ∧
    codec.decodeInit config.initData = some init ∧
    remaining config counters "requestedGas" init.totalGasLimit = .ok requested ∧
    remaining config counters "sponsoredCost" init.totalSponsoredCostLimit = .ok sponsored

theorem create_ok (created : createSessionGasEstimation codec record policy operation = .ok (context, admission)) :
    ∃ op init requested sponsored, normalized codec operation = .ok op ∧
      Created codec record policy op context init requested sponsored := by
  obtain ⟨⟨config, version, counters⟩, guard, created⟩ := ok_bind created
  obtain ⟨op, accepted, created⟩ := ok_bind created
  obtain ⟨init, decoded, created⟩ := ok_bind created
  have decoded : codec.decodeInit config.initData = some init := by
    cases held : codec.decodeInit config.initData with
    | none => rw [held] at decoded; cases decoded
    | some other => rw [held] at decoded; cases decoded; rfl
  split at created
  · cases created
  · dsimp only at created
    split at created
    · cases created
    · rename_i fees
      simp only [Bool.or_eq_true, decide_eq_true_eq, not_or, not_lt] at fees
      obtain ⟨gas, approved, created⟩ := ok_bind created
      obtain ⟨calls, _, created⟩ := ok_bind created
      split at created
      · cases created
      · rename_i left
        simp only [Bool.or_eq_true, decide_eq_true_eq, not_or, not_lt] at left
        obtain ⟨slots, _, created⟩ := ok_bind created
        cases created
        obtain ⟨requested, sponsored, requestedRead, sponsoredRead, gas, cost⟩ := approvedGas_ok fees.1.1 left.2 approved
        exact ⟨op, init, requested, sponsored, accepted, rfl, rfl, fees.2, rfl, fees.1.1, left.2, gas, cost, config, version,
          counters, guard, decoded, requestedRead, sponsoredRead⟩

/-- A session with a thousand of gas left, and an operation whose paymaster asks for a hundred where the policy allows ten. -/
def thousandInit : GuardInit where
  paymaster := "0x6017d1fba9dc279bfa0b03fd931c22e242ab3691"
  paymasterCodeHash := "0x"
  maxGasPerOperation := 1000
  maxFeePerGas := 1
  maxPriorityFeePerGas := 1
  totalGasLimit := 1500
  totalSponsoredCostLimit := 1200
  maximumCalls := 2
  maxPaymasterDataLength := 0

def thousandCodec : EstimationCodec where
  checksumAddress := id
  decodeInit := fun _ => some thousandInit
  encodeInit := fun _ => "0x"
  offsets := fun _ => .ok [0, 1, 2, 3, 4]
  base := fun _ _ => 0

def thousandCounter (name limit used : String) : InstalledCounter := ⟨name, "guard", "config", limit, used⟩

def thousandSession : GasSession where
  chainId := 10
  wallet := "wallet"
  smartSessions := "sessions"
  configurations := [⟨"gas-budget", "user-operation", "guard", SessionGuardVersion.currentV2.runtimeCodeHash, "config", "0x"⟩]
  counters := some [thousandCounter "requestedGas" "1500" "400", thousandCounter "sponsoredCost" "1200" "0",
    thousandCounter "calls" "2" "1"]

def thousandPolicy : UserOperationGasPolicy where
  maximumCallGas := 500
  maximumVerificationGas := 500
  maximumPreVerificationGas := 500
  maximumPaymasterVerificationGas := 10
  maximumPaymasterPostOpGas := 10
  maximumFeePerGas := 1
  maximumPriorityFeePerGas := 1
  maximumCost := 5000
  requirePaymaster := true

def thousandOperation : UserOperationV07 where
  sender := "0x3ba60b60933916a7c87d0860dcee62a0ce34e3e2"
  nonce := "0x1"
  callData := "0x"
  callGasLimit := "0x1"
  verificationGasLimit := "0x1"
  preVerificationGas := "0x1"
  maxFeePerGas := "0x1"
  maxPriorityFeePerGas := "0x1"
  paymaster := some "0x6017d1fba9dc279bfa0b03fd931c22e242ab3691"
  paymasterVerificationGasLimit := some "0x64"
  paymasterPostOpGasLimit := some "0x0"
  paymasterData := some "0x"
  signature := "0x"

theorem thousand_ran : ∃ context admission current fitted,
    createSessionGasEstimation thousandCodec thousandSession thousandPolicy thousandOperation.toJson =
      .ok (context, admission) ∧ normalized thousandCodec thousandOperation.toJson = .ok current ∧
    current = thousandOperation ∧ context.fit thousandCodec thousandOperation.toJson = .ok fitted ∧
    optionalNumber fitted.paymasterVerificationGasLimit = 100 := by
  have ran : (createSessionGasEstimation thousandCodec thousandSession thousandPolicy
      thousandOperation.toJson).toOption.bind (fun made => (normalized thousandCodec
        thousandOperation.toJson).toOption.bind (fun current => (made.1.fit thousandCodec
          thousandOperation.toJson).toOption.map (fun fitted =>
            decide (current = thousandOperation ∧ optionalNumber fitted.paymasterVerificationGasLimit = 100)))) =
              some true := by decide +kernel
  obtain ⟨⟨context, admission⟩, created, ran⟩ := some_bind ran
  obtain ⟨current, read, ran⟩ := some_bind ran
  obtain ⟨fitted, fits, shown⟩ := Option.map_eq_some_iff.mp ran
  have shown := of_decide_eq_true shown
  exact ⟨context, admission, current, fitted, toOption_ok created, toOption_ok read, shown.1, toOption_ok fits, shown.2⟩

end JBCenter.UserOperations
