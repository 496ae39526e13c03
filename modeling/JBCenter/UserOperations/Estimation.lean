import JBCenter.UserOperations.Codec

/-! Gas estimation under a session's budget. The context is made from the installed guard's limits and counters; it fits an
operation into what is left, and checks an estimated one against it. -/
namespace JBCenter.UserOperations
open Rest

structure UserOperationGasPolicy where
  maximumCallGas : Int
  maximumVerificationGas : Int
  maximumPreVerificationGas : Int
  maximumPaymasterVerificationGas : Int
  maximumPaymasterPostOpGas : Int
  maximumFeePerGas : Int
  maximumPriorityFeePerGas : Int
  maximumCost : Int
  requirePaymaster : Bool

/-- `BigInt(field ?? "0x0")` -/
def optionalNumber (field : Option String) : Nat := hexNumber (field.getD "0x0")

/-- The gas of the v0.7 required prefund, which has separate paymaster limits. -/
def UserOperationV07.totalGas (op : UserOperationV07) : Nat :=
  hexNumber op.callGasLimit + hexNumber op.verificationGasLimit + hexNumber op.preVerificationGas +
    optionalNumber op.paymasterVerificationGasLimit + optionalNumber op.paymasterPostOpGasLimit

def userOperationMaximumCost (checksumAddress : String → String) (operation : Json) : Except RestError Nat := do
  let op ← normalizeUserOperation checksumAddress operation
  return op.totalGas * hexNumber op.maxFeePerGas

/-- One field of an operation against its ceiling. -/
def assertCeiling (amount : Nat) (ceiling : Int) : Except RestError Unit :=
  if ceiling < 0 then .error (uoError "INVALID_USER_OPERATION_POLICY" "The operator gas policy is invalid." 500)
  else if ceiling < amount then
    .error (uoError "USER_OPERATION_GAS_LIMIT" "The operation exceeds its reviewed gas or fee policy.")
  else .ok ()

def assertUserOperationGasPolicy (checksumAddress : String → String) (operation : Json)
    (policy : UserOperationGasPolicy) : Except RestError Unit := do
  let op ← normalizeUserOperation checksumAddress operation
  assertCeiling (hexNumber op.callGasLimit) policy.maximumCallGas
  assertCeiling (hexNumber op.verificationGasLimit) policy.maximumVerificationGas
  assertCeiling (hexNumber op.preVerificationGas) policy.maximumPreVerificationGas
  assertCeiling (hexNumber op.maxFeePerGas) policy.maximumFeePerGas
  assertCeiling (hexNumber op.maxPriorityFeePerGas) policy.maximumPriorityFeePerGas
  assertCeiling (optionalNumber op.paymasterVerificationGasLimit) policy.maximumPaymasterVerificationGas
  assertCeiling (optionalNumber op.paymasterPostOpGasLimit) policy.maximumPaymasterPostOpGas
  if policy.maximumCost ≤ 0 then
    .error (uoError "INVALID_USER_OPERATION_POLICY" "The operator maximum cost is invalid." 500)
  else do
    let cost ← userOperationMaximumCost checksumAddress op.toJson
    if policy.maximumCost < cost || policy.requirePaymaster && op.paymaster.isNone then
      .error (uoError "USER_OPERATION_GAS_LIMIT"
        "The operation exceeds its cost limit or requires the reviewed paymaster.")
    else .ok ()

inductive SessionGuardVersion where
  | legacyV1
  | currentV2

def SessionGuardVersion.runtimeCodeHash : SessionGuardVersion → String
  | legacyV1 => "0x996eea0614de4cd5549d17464e0352745411666d42650b20b7a9252dfd1c328c"
  | currentV2 => "0xb8787af1b7dad3b5fac11ec656824adbe575610ee467661be4acde928e3d7c04"

def sessionGuardVersionForRuntime (runtimeCodeHash : String) : Option SessionGuardVersion :=
  [.legacyV1, .currentV2].find? (fun version => SessionGuardVersion.runtimeCodeHash version = toLowerCase runtimeCodeHash)

structure GuardInit where
  paymaster : String
  paymasterCodeHash : String
  maxGasPerOperation : Nat
  maxFeePerGas : Nat
  maxPriorityFeePerGas : Nat
  totalGasLimit : Nat
  totalSponsoredCostLimit : Nat
  maximumCalls : Nat
  maxPaymasterDataLength : Nat

structure PolicyConfiguration where
  kind : String
  scope : String
  address : String
  runtimeCodeHash : String
  configId : String
  initData : String

structure InstalledCounter where
  name : String
  policy : String
  configId : String
  limit : String
  used : String

/-- What the estimation reads of a stored session. -/
structure GasSession where
  chainId : Int
  wallet : String
  smartSessions : String
  configurations : List PolicyConfiguration
  counters : Option (List InstalledCounter)

/-- What is not in the repository: the checksum of addresses, the ABI codec of the guard's parameters, the verified storage
layout, and the hashed slot where the state of a configuration begins. -/
structure EstimationCodec where
  checksumAddress : String → String
  decodeInit : String → Option GuardInit
  encodeInit : GuardInit → String
  offsets : SessionGuardVersion → Except RestError (List Nat)
  base : GasSession → String → Nat

inductive EstimationError where
  | codec (error : CodecError)
  | undecodable
  | divisionByZero

def refused (code message : String) : EstimationError := .codec (.rest (uoError code message))

/-- The division of `bigint`s: towards zero, and by zero an error. -/
def bigintDiv (a b : Int) : Except EstimationError Int := if b = 0 then .error .divisionByZero else .ok (a.tdiv b)

/-- A refusal inside the estimation. -/
def normalized (codec : EstimationCodec) (value : Json) : Except EstimationError UserOperationV07 :=
  (refusal (normalizeUserOperation codec.checksumAddress value)).mapError .codec

def remaining (config : PolicyConfiguration) (counters : List InstalledCounter) (name : String) (limit : Nat) :
    Except EstimationError Nat :=
  match counters.filter (fun counter => counter.name = name &&
      toLowerCase counter.policy = toLowerCase config.address && counter.configId = config.configId) with
  | [counter] =>
    if counter.limit ≠ toString limit || !isDecimal counter.used || limit < decimalValue counter.used then
      .error (refused "SESSION_GAS_COUNTERS_UNVERIFIED"
        "The installed gas, cost and call counters must be independently verified.")
    else .ok (limit - decimalValue counter.used)
  | _ => .error (refused "SESSION_GAS_COUNTERS_UNVERIFIED"
      "The installed gas, cost and call counters must be independently verified.")
where
  /-- Matches `/^(0|[1-9][0-9]{0,77})$/`. -/
  isDecimal (text : String) : Bool :=
    match text.toList with
    | ['0'] => true
    | first :: rest => isDigit first && first != '0' && rest.length ≤ 77 && rest.all isDigit
    | [] => false

/-- The context: the gas an operation may ask for, and what its methods check against. -/
structure SessionGasEstimation where
  maximumGas : Int
  policy : UserOperationGasPolicy
  fee : Nat
  maxPriority : Nat
  paymaster : String

/-- What is kept of the operation the context was made for, with the ceilings a simulation raises. -/
structure Admission where
  chainId : Int
  sender : String
  nonce : String
  callData : String
  maxFeePerGas : String
  maxPriorityFeePerGas : String
  guard : String
  stateDiff : List (String × String)

namespace SessionGasEstimation

def tooSmall (message : String) : EstimationError := refused "SESSION_GAS_BUDGET_TOO_SMALL" message

/-- The part of a budget a ceiling stands for among all, and no more than the ceiling. -/
def share (budget sum cap : Int) : Except EstimationError Int := do
  let part ← bigintDiv (budget * cap) sum
  return min cap part

/-- What is left for the account: the gas of the paymaster is paid first, and before its stub only half is given out. -/
def budget (context : SessionGasEstimation) (current : UserOperationV07) (beforeStub : Bool) : Int :=
  let paymasterGas : Int :=
    optionalNumber current.paymasterVerificationGasLimit + optionalNumber current.paymasterPostOpGasLimit
  (if beforeStub then context.maximumGas.tdiv 2 else context.maximumGas) - paymasterGas

def fit (codec : EstimationCodec) (context : SessionGasEstimation) (value : Json) (beforeStub : Bool := false) :
    Except EstimationError UserOperationV07 := do
  let current ← normalized codec value
  let budget := context.budget current beforeStub
  let sum := context.policy.maximumCallGas + context.policy.maximumVerificationGas +
    context.policy.maximumPreVerificationGas
  if budget < 3 || sum ≤ 0 then
    .error (tooSmall "The sponsor's validation gas leaves insufficient owner-approved gas for account execution. Review a larger explicit gas budget.")
  else do
    let call ← share budget sum context.policy.maximumCallGas
    let verification ← share budget sum context.policy.maximumVerificationGas
    let preVerification ← share budget sum context.policy.maximumPreVerificationGas
    if call = 0 || verification = 0 || preVerification = 0 then
      .error (tooSmall "The approved gas budget cannot fit bounded preparation fields.")
    else do
      let callGasLimit ← (bigintHex call).mapError .codec
      let verificationGasLimit ← (bigintHex verification).mapError .codec
      let preVerificationGas ← (bigintHex preVerification).mapError .codec
      normalized codec { current with callGasLimit, verificationGasLimit, preVerificationGas }.toJson

def assert (codec : EstimationCodec) (context : SessionGasEstimation) (value : Json) : Except EstimationError Unit := do
  let current ← normalized codec value
  if hexNumber current.maxFeePerGas = 0 then
    .error (refused "SESSION_GAS_ESTIMATE_EXCEEDS_BUDGET" "Session operations require a positive approved gas fee.")
  else do
    let cost ← (refusal (userOperationMaximumCost codec.checksumAddress current.toJson)).mapError .codec
    let gas ← bigintDiv cost (hexNumber current.maxFeePerGas)
    if hexNumber current.maxFeePerGas ≠ context.fee || context.maxPriority < hexNumber current.maxPriorityFeePerGas ||
        context.maximumGas < gas ||
        current.paymaster.any (fun paymaster => toLowerCase paymaster ≠ toLowerCase context.paymaster) then
      .error (refused "SESSION_GAS_ESTIMATE_EXCEEDS_BUDGET"
        "The estimated operation exceeds the original owner-approved gas, cost or paymaster policy. No operation was signed or published.")
    else .ok ()

end SessionGasEstimation

def raisedCeilings (base : Nat) (slots : List Nat) : List (String × String) :=
  slots.zipIdx.map (fun (slot, i) => (padHex (toHex ((base + slot) % 2 ^ 256)) 32,
    padHex (toHex (2 ^ (if i < 3 then 128 else 256) - 1)) 32))

def unverified (message : String) : EstimationError := refused "SESSION_GAS_POLICY_UNVERIFIED" message

def installedGuard (record : GasSession) :
    Except EstimationError (PolicyConfiguration × SessionGuardVersion × List InstalledCounter) :=
  match record.configurations.filter (fun config => config.kind = "gas-budget" && config.scope = "user-operation"),
    record.counters with
  | [config], some counters =>
    match sessionGuardVersionForRuntime config.runtimeCodeHash with
    | some version => .ok (config, version, counters)
    | none => .error (unverified "A current, source-verified installed gas guard is required.")
  | _, _ => .error (unverified "A current, source-verified installed gas guard is required.")

def approvedGas (policy : UserOperationGasPolicy) (config : PolicyConfiguration) (counters : List InstalledCounter)
    (init : GuardInit) (fee : Nat) : Except EstimationError Int := do
  let requested ← remaining config counters "requestedGas" init.totalGasLimit
  let sponsored ← remaining config counters "sponsoredCost" init.totalSponsoredCostLimit
  let sponsoredGas ← bigintDiv sponsored fee
  let policyGas ← bigintDiv policy.maximumCost fee
  return min (min (min init.maxGasPerOperation requested) sponsoredGas) policyGas

def createSessionGasEstimation (codec : EstimationCodec) (record : GasSession) (policy : UserOperationGasPolicy)
    (operation : Json) : Except EstimationError (SessionGasEstimation × Admission) := do
  let (config, version, counters) ← installedGuard record
  let op ← normalized codec operation
  let init ← (codec.decodeInit config.initData).elim (.error .undecodable) .ok
  if codec.encodeInit init ≠ config.initData then
    .error (unverified "Gas policy initialization is not canonical.")
  else do
    let fee := hexNumber op.maxFeePerGas
    if fee = 0 || init.maxFeePerGas < fee || init.maxPriorityFeePerGas < hexNumber op.maxPriorityFeePerGas then
      .error (refused "SESSION_GAS_FEE_LIMIT"
        "Current network fees exceed this session's owner-approved limits. Wait for lower fees or obtain a new explicitly approved policy.")
    else do
      let maximumGas ← approvedGas policy config counters init fee
      let calls ← remaining config counters "calls" init.maximumCalls
      if calls = 0 || maximumGas < 3 then
        .error (refused "SESSION_GAS_BUDGET_EXHAUSTED"
          "The session's remaining gas, sponsored cost or call budget cannot cover another operation.")
      else do
        let slots ← (refusal (codec.offsets version)).mapError .codec
        return ({ maximumGas, policy, fee, maxPriority := init.maxPriorityFeePerGas, paymaster := init.paymaster },
          { chainId := record.chainId, sender := op.sender, nonce := op.nonce, callData := op.callData,
            maxFeePerGas := op.maxFeePerGas, maxPriorityFeePerGas := op.maxPriorityFeePerGas, guard := config.address,
            stateDiff := raisedCeilings (codec.base record config.configId) slots })

end JBCenter.UserOperations
