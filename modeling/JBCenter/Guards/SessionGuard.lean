import Mathlib.Logic.Function.Basic
import JBCenter.Base.Answers
import JBCenter.Base.Words

/-! The two session guard contracts. Their storage maps a namespace to its policy and what was
charged to it; a call that reverts leaves the storage as it was. -/
namespace JBCenter.Guards

abbrev Bytes := List UInt8
abbrev Address := BitVec 160
abbrev Bytes32 := BitVec 256

structure Config where
  paymaster : Address
  paymasterCodeHash : Bytes32
  maxGasPerOperation : BitVec 256
  maxFeePerGas : BitVec 256
  maxPriorityFeePerGas : BitVec 256
  totalGasLimit : BitVec 256
  totalSponsoredCostLimit : BitVec 256
  maximumCalls : BitVec 128
  maxPaymasterDataLength : BitVec 32

structure State where
  config : Config
  gasUsed : BitVec 256
  costUsed : BitVec 256
  callsUsed : BitVec 128

def State.unset : State := ⟨⟨0, 0, 0, 0, 0, 0, 0, 0, 0⟩, 0, 0, 0⟩

structure Namespace where
  id : Bytes32
  multiplexer : Address
  account : Address
  deriving DecidableEq

abbrev States := Namespace → State

/-- What the guards read of an operation. -/
structure PackedUserOperation where
  sender : Address
  callData : Bytes
  accountGasLimits : Bytes32
  preVerificationGas : BitVec 256
  gasFees : Bytes32
  paymasterAndData : Bytes

/-- What a call finds of other contracts. -/
structure Env where
  codeLength : Address → Nat
  codehash : Address → Bytes32

inductive Revert where
  | invalidConfiguration
  | malformed
  | panic (reason : Panic)

def checked (x : Except Panic α) : Except Revert α := x.mapError .panic

def executeSelector : Bytes := [0xe9, 0xae, 0x5c, 0x53]
def maxCalldataLength : Nat := 8192
def maxPaymasterDataLength : Nat := 130

/-- Where the two contracts differ: the paymasters and the paymaster data they take. -/
structure GuardRules where
  refusesPaymaster : Config → Bool
  wrongLength : Nat → Bool
  wrongMode : UInt8 → Bool
  long : ∀ length, wrongLength length = false → 130 ≤ length

def centerSessionGuard : GuardRules where
  refusesPaymaster config := config.paymaster == 0
  wrongLength length := length < 130
  wrongMode mode := mode != 0
  long _ right := Nat.not_lt.mp (of_decide_eq_false right)

def currentPaymaster : Address := 0x777777777777AeC03fd955926DbF81597e66834C
def currentPaymasterCodeHash : Bytes32 := 0x337b6e1b6c2167c0528c5240c028ead407c673595b2820029b69741b76d98fbc

def centerSessionGuardV2 : GuardRules where
  refusesPaymaster config := config.paymaster != currentPaymaster || config.paymasterCodeHash != currentPaymasterCodeHash
  wrongLength length := length != maxPaymasterDataLength
  wrongMode mode := mode > 1
  long length right := by
    have same : length = 130 := by simpa [maxPaymasterDataLength] using right
    omega

def decodeWord (width : Nat) (data : Bytes) (place : Nat) : Except Revert (BitVec width) :=
  let word := bigEndian ((data.drop (32 * place)).take 32)
  if word < 2 ^ width then .ok (BitVec.ofNat width word) else .error .malformed

def decodeConfig (data : Bytes) : Except Revert Config := do
  let paymaster ← decodeWord 160 data 0
  let paymasterCodeHash ← decodeWord 256 data 1
  let maxGasPerOperation ← decodeWord 256 data 2
  let maxFeePerGas ← decodeWord 256 data 3
  let maxPriorityFeePerGas ← decodeWord 256 data 4
  let totalGasLimit ← decodeWord 256 data 5
  let totalSponsoredCostLimit ← decodeWord 256 data 6
  let maximumCalls ← decodeWord 128 data 7
  let maxPaymasterDataLength ← decodeWord 32 data 8
  return { paymaster, paymasterCodeHash, maxGasPerOperation, maxFeePerGas, maxPriorityFeePerGas, totalGasLimit,
           totalSponsoredCostLimit, maximumCalls, maxPaymasterDataLength }

def invalidConfig (rules : GuardRules) (env : Env) (config : Config) : Bool :=
  rules.refusesPaymaster config || env.codeLength config.paymaster == 0 ||
  env.codehash config.paymaster != config.paymasterCodeHash || config.maxGasPerOperation == 0 ||
  config.maxGasPerOperation > BitVec.ofNat 256 (2 ^ 128 - 1) || config.maxGasPerOperation > config.totalGasLimit ||
  config.maxFeePerGas == 0 || config.maxFeePerGas > BitVec.ofNat 256 (2 ^ 128 - 1) ||
  config.maxPriorityFeePerGas > config.maxFeePerGas || config.totalSponsoredCostLimit == 0 ||
  config.maximumCalls == 0 || config.maxPaymasterDataLength < 130 ||
  config.maxPaymasterDataLength > BitVec.ofNat 32 maxPaymasterDataLength

def initializeWithMultiplexer (rules : GuardRules) (env : Env) (sender account : Address) (id : Bytes32)
    (data : Bytes) (s : States) : Except Revert States := do
  refuse (data.length != 288 || account == 0) .invalidConfiguration
  let config ← decodeConfig data
  refuse (invalidConfig rules env config) .invalidConfiguration
  return Function.update s ⟨id, sender, account⟩ ⟨config, 0, 0, 0⟩

def zeroPadded (data : Bytes) (place : Nat) : Nat → Except Panic Bool
  | 0 => return true
  | left + 1 => do
    let byte ← byteAt data place
    if byte != 0 then return false else zeroPadded data (place + 1) left

/-- The canonical encoding of `execute(bytes32(0), packed single call)`. -/
def canonicalSingle (data : Bytes) : Except Panic Bool := do
  if data.length < 164 || data.length > maxCalldataLength then return false else
  let selector ← slice data 0 4
  if selector != executeSelector then return false else
  let mode ← slice data 4 36
  if bigEndian mode != 0 then return false else
  let offset ← slice data 36 68
  if bigEndian offset != 64 then return false else
  let sizeWord ← slice data 68 100
  let size := BitVec.ofNat 256 (bigEndian sizeWord)
  if size < 56#256 || size > BitVec.ofNat 256 (maxCalldataLength - 100) then return false else
  let padded ← checkedAdd size 31#256
  let expected ← checkedAdd 100#256 (padded &&& ~~~(31#256))
  if BitVec.ofNat 256 data.length != expected then return false else
  let start ← checkedAdd 100#256 size
  zeroPadded data start.toNat (data.length - start.toNat)

def high (word : Bytes32) : BitVec 128 := (word >>> 128).setWidth 128

def low (word : Bytes32) : BitVec 128 := word.setWidth 128

def wide (x : BitVec 128) : BitVec 256 := x.setWidth 256

/-- The sum of the five gas fields, in the order the contract adds them. -/
def operationGas (op : PackedUserOperation) (verification postOp : BitVec 128) : Except Panic (BitVec 256) := do
  let limits ← checkedAdd (wide (high op.accountGasLimits)) (wide (low op.accountGasLimits))
  let withPre ← checkedAdd limits op.preVerificationGas
  let withVerification ← checkedAdd withPre (wide verification)
  checkedAdd withVerification (wide postOp)

/-- What an accepted operation is charged. -/
def charge (state : State) (gas maxFee : BitVec 256) : Except Panic State := do
  let gasUsed ← checkedAdd state.gasUsed gas
  let cost ← checkedMul gas maxFee
  let costUsed ← checkedAdd state.costUsed cost
  let callsUsed ← checkedAdd state.callsUsed 1
  return { state with gasUsed, costUsed, callsUsed }

/-- The gas is within what the policy has left, and so is its cost at the fee. -/
def affordable (state : State) (gas maxFee : BitVec 256) : Except Panic Bool := do
  if gas > state.config.maxGasPerOperation then return false else
  let gasLeft ← checkedSub state.config.totalGasLimit state.gasUsed
  if gas > gasLeft then return false else
  let costLeft ← checkedSub state.config.totalSponsoredCostLimit state.costUsed
  let most ← checkedDiv costLeft maxFee
  return !(gas > most)

def feesRefused (config : Config) (maxFee priorityFee : BitVec 256) : Bool :=
  maxFee == 0 || maxFee > config.maxFeePerGas || priorityFee > config.maxPriorityFeePerGas || priorityFee > maxFee

/-- The answer of the guard, and the state it leaves the caller's namespace in if it accepts. -/
def checkState (rules : GuardRules) (env : Env) (op : PackedUserOperation) (state : State) :
    Except Panic (Option State) := do
  let config := state.config
  if config.maximumCalls == 0 || state.callsUsed ≥ config.maximumCalls then return none else
  let canonical ← canonicalSingle op.callData
  if !canonical then return none else
  let length := op.paymasterAndData.length
  if rules.wrongLength length || length > config.maxPaymasterDataLength.toNat then return none else
  let mode ← byteAt op.paymasterAndData 52
  if rules.wrongMode mode then return none else
  let named ← slice op.paymasterAndData 0 20
  let paymaster := BitVec.ofNat 160 (bigEndian named)
  if paymaster != config.paymaster || env.codehash paymaster != config.paymasterCodeHash then return none else
  let maxFee := wide (low op.gasFees)
  let priorityFee := wide (high op.gasFees)
  if feesRefused config maxFee priorityFee then return none else
  if op.preVerificationGas > config.maxGasPerOperation then return none else
  let verification ← slice op.paymasterAndData 20 36
  let postOp ← slice op.paymasterAndData 36 52
  let gas ← operationGas op (BitVec.ofNat 128 (bigEndian verification)) (BitVec.ofNat 128 (bigEndian postOp))
  let enough ← affordable state gas maxFee
  if !enough then return none else
  some <$> charge state gas maxFee

def checkUserOpPolicy (rules : GuardRules) (env : Env) (sender : Address) (id : Bytes32) (op : PackedUserOperation)
    (s : States) : Except Revert (Nat × States) := do
  let place : Namespace := ⟨id, sender, op.sender⟩
  match ← checked (checkState rules env op (s place)) with
  | none => return (1, s)
  | some state => return (0, Function.update s place state)

end JBCenter.Guards
