import JBCenter.UserOperations.Semantics
import JBCenter.Wallet.FastLz

/-! The most that signed bytes can be charged at explicit fee parameters. -/
namespace JBCenter.Wallet.Fees
open Rest
open UserOperations.Semantics (Text lower isHexText isBytes)

inductive Profile where
  | isthmus
  | jovian
  deriving DecidableEq

structure BaseFeeParameters where
  profile : Profile
  l1BaseFee : Int
  l1BlobBaseFee : Int
  l1BaseFeeScalar : Int
  l1BlobBaseFeeScalar : Int
  operatorFeeScalar : Int
  operatorFeeConstant : Int
  deriving DecidableEq

structure BaseSignedFees where
  transactionHash : Text
  rawByteLength : Nat
  fastLzLength : Nat
  estimatedSizeScaled : Nat
  l1FeeAtParameters : Nat
  operatorMaximumAtParameters : Nat
  executionMaximum : Nat
  value : Nat
  totalMaximumAtParameters : Nat

structure Envelope where
  type : String
  chainId : Option Int
  nonce : Option Int
  yParity : Option Int
  r : Option Text
  s : Option Text
  target : Option Text
  data : Option Text
  gas : Option Int
  maxFeePerGas : Option Int
  maxPriorityFeePerGas : Option Int
  value : Option Int
  accessList : Option (List (Text × List Text))
  deriving DecidableEq

/-- The coder of transactions, which throws where it is `none`, and the hash of bytes. -/
structure TransactionCodec where
  parseTransaction : Text → Option Envelope
  serializeTransaction : Envelope → Option Text
  keccak256 : Text → Text

def uint256 : Nat := 2 ^ 256 - 1

def uint64 : Nat := 2 ^ 64 - 1

def uint32 : Nat := 2 ^ 32 - 1

def secp256k1Order : Nat := 0xfffffffffffffffffffffffffffffffebaaedce6af48a03bbfd25e8cd0364141

def invalidFees : RestError :=
  ⟨400, "WALLET_BASE_FEE_INVALID", "Provide bounded canonical signed bytes and all explicit fee parameters.", none⟩

def amount (value : Int) (maximum : Nat := uint256) : Option Nat :=
  if value < 0 ∨ value > maximum then none else some value.toNat

def add (a b : Nat) : Option Nat := amount (a + b)

def multiply (a b : Nat) : Option Nat := amount (a * b)

def bytesOf : Text → List UInt8
  | high :: low :: rest => UInt8.ofNat (16 * digitValue high + digitValue low) :: bytesOf rest
  | _ => []

/-- Matches `/^0x[0-9a-fA-F]{1,64}$/`. -/
def isScalarText : Text → Bool
  | '0' :: 'x' :: rest => 1 ≤ rest.length && rest.length ≤ 64 && rest.all isHexDigit
  | _ => false

/-- Matches `/^0x02(?:[0-9a-fA-F]{2})+$/`. -/
def isTypeTwo : Text → Bool
  | '0' :: 'x' :: '0' :: '2' :: rest => !rest.isEmpty && rest.length % 2 == 0 && rest.all isHexDigit
  | _ => false

def signatureScalar (text : Option Text) (most : Nat) : Bool :=
  match text with
  | none => false
  | some text => isScalarText text && 0 < numeralValue 16 (text.drop 2) && numeralValue 16 (text.drop 2) ≤ most

def accessListAllowed (accessList : List (Text × List Text)) : Bool :=
  accessList.length ≤ 256 && accessList.all (fun item => isHexText 40 item.1 && item.2.all (isHexText 64)) &&
    (accessList.map (fun item => item.2.length)).sum ≤ 1024

def envelopeAllowed (tx : Envelope) : Bool :=
  tx.type == "eip1559" && tx.chainId.any (fun id => isSafeInteger id && 1 ≤ id) &&
    tx.nonce.any (fun nonce => isSafeInteger nonce && 0 ≤ nonce) && (tx.yParity == some 0 || tx.yParity == some 1) &&
    signatureScalar tx.r (secp256k1Order - 1) && signatureScalar tx.s (secp256k1Order / 2) &&
    tx.target.all (isHexText 40) && tx.data.all isBytes && tx.accessList.all accessListAllowed

variable (codec : TransactionCodec)

def envelope (raw : Text) : Option Envelope := do
  guard (raw.length ≤ maximumBytes * 2 + 2 && isTypeTwo raw)
  let tx ← codec.parseTransaction raw
  guard (envelopeAllowed tx)
  let canonical ← codec.serializeTransaction tx
  guard (lower canonical = lower raw)
  return tx

def estimatedSize (fastLzLength : Nat) : Nat :=
  let estimated : Int := fastLzLength * 836500 - 42585600
  if estimated > 100000000 then estimated.toNat else 100000000

def priceScaled (l1BaseFee l1BaseFeeScalar l1BlobBaseFee l1BlobBaseFeeScalar : Nat) : Option Nat := do
  let sixteen ← multiply l1BaseFee 16
  let base ← multiply sixteen l1BaseFeeScalar
  let blob ← multiply l1BlobBaseFee l1BlobBaseFeeScalar
  add base blob

def scaled (profile : Profile) (operatorProduct : Nat) : Option Nat :=
  match profile with
  | .jovian => multiply operatorProduct 100
  | .isthmus => some (operatorProduct / 1000000)

def operatorMaximum (profile : Profile) (gas operatorFeeScalar operatorFeeConstant : Nat) : Option Nat := do
  let operatorProduct ← multiply gas operatorFeeScalar
  let scaledProduct ← scaled profile operatorProduct
  add scaledProduct operatorFeeConstant

def totalMaximum (value executionMaximum l1Fee operatorMaximum : Nat) : Option Nat := do
  let executed ← add value executionMaximum
  let published ← add executed l1Fee
  add published operatorMaximum

/-- More turns than any accepted input takes. -/
def turns : Nat := maximumBytes + 9

def signedFees (raw : Text) (p : BaseFeeParameters) : Option BaseSignedFees := do
  let l1BaseFee ← amount p.l1BaseFee
  let l1BlobBaseFee ← amount p.l1BlobBaseFee
  let l1BaseFeeScalar ← amount p.l1BaseFeeScalar uint32
  let l1BlobBaseFeeScalar ← amount p.l1BlobBaseFeeScalar uint32
  let operatorFeeScalar ← amount p.operatorFeeScalar uint32
  let operatorFeeConstant ← amount p.operatorFeeConstant uint64
  let tx ← envelope codec raw
  let limit ← tx.gas
  let gas ← amount limit uint64
  let maxFee ← amount (tx.maxFeePerGas.getD 0)
  let priority ← amount (tx.maxPriorityFeePerGas.getD 0)
  let value ← amount (tx.value.getD 0)
  guard (gas ≠ 0 ∧ priority ≤ maxFee)
  let fastLzLength ← baseFastLzLength turns (bytesOf (raw.drop 2))
  let estimatedSizeScaled := estimatedSize fastLzLength
  let price ← priceScaled l1BaseFee l1BaseFeeScalar l1BlobBaseFee l1BlobBaseFeeScalar
  let l1Scaled ← multiply estimatedSizeScaled price
  let l1FeeAtParameters := l1Scaled / 1000000000000
  let operatorMaximumAtParameters ← operatorMaximum p.profile gas operatorFeeScalar operatorFeeConstant
  let executionMaximum ← multiply gas maxFee
  let totalMaximumAtParameters ← totalMaximum value executionMaximum l1FeeAtParameters operatorMaximumAtParameters
  return ⟨codec.keccak256 raw, (raw.length - 2) / 2, fastLzLength, estimatedSizeScaled, l1FeeAtParameters,
    operatorMaximumAtParameters, executionMaximum, value, totalMaximumAtParameters⟩

/-- Whatever fails, fails alike. -/
def calculateBaseSignedFees (raw : Text) (p : BaseFeeParameters) : Except RestError BaseSignedFees :=
  match signedFees codec raw p with
  | none => .error invalidFees
  | some fees => .ok fees

section
variable {a b n : Nat}

theorem amount_some {value : Int} {maximum : Nat} (accepted : amount value maximum = some n) : value = n ∧ n ≤ maximum := by
  unfold amount at accepted
  split at accepted
  · cases accepted
  · cases accepted
    omega

theorem add_some (accepted : add a b = some n) : n = a + b ∧ n ≤ uint256 := by
  obtain ⟨value, bound⟩ := amount_some accepted
  exact ⟨by exact_mod_cast value.symm, bound⟩

theorem multiply_some (accepted : multiply a b = some n) : n = a * b := by
  obtain ⟨value, _⟩ := amount_some accepted
  exact_mod_cast value.symm

theorem priceScaled_some {l1BaseFee l1BaseFeeScalar l1BlobBaseFee l1BlobBaseFeeScalar : Nat}
    (accepted : priceScaled l1BaseFee l1BaseFeeScalar l1BlobBaseFee l1BlobBaseFeeScalar = some n) :
    n = l1BaseFee * 16 * l1BaseFeeScalar + l1BlobBaseFee * l1BlobBaseFeeScalar := by
  obtain ⟨sixteen, first, accepted⟩ := some_bind accepted
  obtain ⟨base, second, accepted⟩ := some_bind accepted
  obtain ⟨blob, third, accepted⟩ := some_bind accepted
  rw [(add_some accepted).1, multiply_some third, multiply_some second, multiply_some first]

def operatorCharge (profile : Profile) (gas operatorFeeScalar operatorFeeConstant : Nat) : Nat :=
  match profile with
  | .jovian => gas * operatorFeeScalar * 100 + operatorFeeConstant
  | .isthmus => gas * operatorFeeScalar / 1000000 + operatorFeeConstant

theorem operatorMaximum_some {profile : Profile} {gas operatorFeeScalar operatorFeeConstant : Nat}
    (accepted : operatorMaximum profile gas operatorFeeScalar operatorFeeConstant = some n) :
    n = operatorCharge profile gas operatorFeeScalar operatorFeeConstant := by
  obtain ⟨product, first, accepted⟩ := some_bind accepted
  obtain ⟨_, second, accepted⟩ := some_bind accepted
  rw [(add_some accepted).1]
  cases profile with
  | isthmus =>
    cases second
    rw [multiply_some first]
    rfl
  | jovian =>
    rw [multiply_some second, multiply_some first]
    rfl

theorem operatorCharge_mono {profile : Profile} {gas more scalar higher constant larger : Nat} (gases : gas ≤ more)
    (scalars : scalar ≤ higher) (constants : constant ≤ larger) :
    operatorCharge profile gas scalar constant ≤ operatorCharge profile more higher larger := by
  have product := Nat.mul_le_mul gases scalars
  cases profile with
  | isthmus => exact Nat.add_le_add (Nat.div_le_div_right product) constants
  | jovian => exact Nat.add_le_add (Nat.mul_le_mul_right _ product) constants

theorem totalMaximum_some {value executionMaximum l1Fee operatorMaximum : Nat}
    (accepted : totalMaximum value executionMaximum l1Fee operatorMaximum = some n) :
    n = value + executionMaximum + l1Fee + operatorMaximum ∧ n ≤ uint256 := by
  obtain ⟨executed, first, accepted⟩ := some_bind accepted
  obtain ⟨published, second, accepted⟩ := some_bind accepted
  obtain ⟨sum, bound⟩ := add_some accepted
  rw [(add_some second).1, (add_some first).1] at sum
  exact ⟨sum, bound⟩

end

variable {codec : TransactionCodec} {raw : Text} {p q : BaseFeeParameters} {fees : BaseSignedFees}

theorem envelope_some {tx : Envelope} (accepted : envelope codec raw = some tx) :
    codec.parseTransaction raw = some tx ∧ envelopeAllowed tx = true := by
  obtain ⟨_, accepted⟩ := guard_bind_some accepted
  obtain ⟨parsed, found, accepted⟩ := some_bind accepted
  obtain ⟨allowed, accepted⟩ := guard_bind_some accepted
  obtain ⟨_, _, accepted⟩ := some_bind accepted
  obtain ⟨_, accepted⟩ := guard_bind_some accepted
  cases accepted
  exact ⟨found, allowed⟩

structure BaseFeeParameters.Natural (p : BaseFeeParameters) : Prop where
  l1BaseFee : 0 ≤ p.l1BaseFee
  l1BlobBaseFee : 0 ≤ p.l1BlobBaseFee
  l1BaseFeeScalar : 0 ≤ p.l1BaseFeeScalar
  l1BlobBaseFeeScalar : 0 ≤ p.l1BlobBaseFeeScalar
  operatorFeeScalar : 0 ≤ p.operatorFeeScalar
  operatorFeeConstant : 0 ≤ p.operatorFeeConstant

/-- What `fees` says of the envelope `tx` at the parameters. -/
structure Calculated (codec : TransactionCodec) (raw : Text) (p : BaseFeeParameters) (fees : BaseSignedFees) (tx : Envelope)
    (gas maxFee : Nat) : Prop where
  parsed : codec.parseTransaction raw = some tx
  allowed : envelopeAllowed tx = true
  natural : p.Natural
  hash : fees.transactionHash = codec.keccak256 raw
  limited : tx.gas = some (gas : Int)
  capped : tx.maxFeePerGas.getD 0 = maxFee
  value : tx.value.getD 0 = fees.value
  size : ∃ length, baseFastLzLength turns (bytesOf (raw.drop 2)) = some length ∧ fees.estimatedSizeScaled = estimatedSize length
  l1Fee : fees.l1FeeAtParameters = fees.estimatedSizeScaled * (p.l1BaseFee.toNat * 16 * p.l1BaseFeeScalar.toNat +
    p.l1BlobBaseFee.toNat * p.l1BlobBaseFeeScalar.toNat) / 1000000000000
  operator : fees.operatorMaximumAtParameters =
    operatorCharge p.profile gas p.operatorFeeScalar.toNat p.operatorFeeConstant.toNat
  execution : fees.executionMaximum = gas * maxFee
  total : fees.totalMaximumAtParameters =
    fees.value + fees.executionMaximum + fees.l1FeeAtParameters + fees.operatorMaximumAtParameters
  bounded : fees.totalMaximumAtParameters < 2 ^ 256

theorem signedFees_some (accepted : signedFees codec raw p = some fees) :
    ∃ tx gas maxFee, Calculated codec raw p fees tx gas maxFee := by
  obtain ⟨l1BaseFee, readBase, accepted⟩ := some_bind accepted
  obtain ⟨l1BlobBaseFee, readBlob, accepted⟩ := some_bind accepted
  obtain ⟨l1BaseFeeScalar, readBaseScalar, accepted⟩ := some_bind accepted
  obtain ⟨l1BlobBaseFeeScalar, readBlobScalar, accepted⟩ := some_bind accepted
  obtain ⟨operatorFeeScalar, readScalar, accepted⟩ := some_bind accepted
  obtain ⟨operatorFeeConstant, readConstant, accepted⟩ := some_bind accepted
  obtain ⟨tx, enveloped, accepted⟩ := some_bind accepted
  obtain ⟨limit, limited, accepted⟩ := some_bind accepted
  obtain ⟨gas, readGas, accepted⟩ := some_bind accepted
  obtain ⟨maxFee, readMaxFee, accepted⟩ := some_bind accepted
  obtain ⟨priority, readPriority, accepted⟩ := some_bind accepted
  obtain ⟨value, readValue, accepted⟩ := some_bind accepted
  obtain ⟨_, accepted⟩ := guard_bind_some accepted
  obtain ⟨length, compressed, accepted⟩ := some_bind accepted
  obtain ⟨price, priced, accepted⟩ := some_bind accepted
  obtain ⟨l1Scaled, published, accepted⟩ := some_bind accepted
  obtain ⟨operator, operated, accepted⟩ := some_bind accepted
  obtain ⟨execution, executed, accepted⟩ := some_bind accepted
  obtain ⟨total, summed, accepted⟩ := some_bind accepted
  cases accepted
  obtain ⟨parsed, allowed⟩ := envelope_some enveloped
  have base := (amount_some readBase).1
  have blob := (amount_some readBlob).1
  have baseScalar := (amount_some readBaseScalar).1
  have blobScalar := (amount_some readBlobScalar).1
  have scalar := (amount_some readScalar).1
  have constant := (amount_some readConstant).1
  obtain ⟨sum, bounded⟩ := totalMaximum_some summed
  refine ⟨tx, gas, maxFee, parsed, allowed, ⟨?_, ?_, ?_, ?_, ?_, ?_⟩, rfl, ?_, (amount_some readMaxFee).1,
    (amount_some readValue).1, ⟨length, compressed, rfl⟩, ?_, ?_, multiply_some executed, sum, ?_⟩
  · omega
  · omega
  · omega
  · omega
  · omega
  · omega
  · rw [limited, (amount_some readGas).1]
  · rw [multiply_some published, priceScaled_some priced, base, blob, baseScalar, blobScalar]
    rfl
  · rw [operatorMaximum_some operated, scalar, constant]
    rfl
  · unfold uint256 at bounded
    dsimp only
    omega

/-- At the same profile, parameters that are each no larger. -/
structure BaseFeeParameters.Dominated (p q : BaseFeeParameters) : Prop where
  profile : p.profile = q.profile
  l1BaseFee : p.l1BaseFee ≤ q.l1BaseFee
  l1BlobBaseFee : p.l1BlobBaseFee ≤ q.l1BlobBaseFee
  l1BaseFeeScalar : p.l1BaseFeeScalar ≤ q.l1BaseFeeScalar
  l1BlobBaseFeeScalar : p.l1BlobBaseFeeScalar ≤ q.l1BlobBaseFeeScalar
  operatorFeeScalar : p.operatorFeeScalar ≤ q.operatorFeeScalar
  operatorFeeConstant : p.operatorFeeConstant ≤ q.operatorFeeConstant

/-- The maxima of the same bytes at larger parameters. -/
structure BaseSignedFees.Bounded (fees bound : BaseSignedFees) : Prop where
  value : fees.value = bound.value
  execution : fees.executionMaximum = bound.executionMaximum
  l1Fee : fees.l1FeeAtParameters ≤ bound.l1FeeAtParameters
  operator : fees.operatorMaximumAtParameters ≤ bound.operatorMaximumAtParameters
  total : fees.totalMaximumAtParameters ≤ bound.totalMaximumAtParameters

theorem Calculated.monotone {bound : BaseSignedFees} {tx other : Envelope} {gas maxFee limit cap : Nat}
    (first : Calculated codec raw p fees tx gas maxFee) (second : Calculated codec raw q bound other limit cap)
    (dominated : p.Dominated q) : fees.Bounded bound := by
  have same : tx = other := Option.some.inj (first.parsed.symm.trans second.parsed)
  subst same
  have gases : gas = limit := by exact_mod_cast Option.some.inj (first.limited.symm.trans second.limited)
  have caps : maxFee = cap := by exact_mod_cast first.capped.symm.trans second.capped
  have values : fees.value = bound.value := by exact_mod_cast first.value.symm.trans second.value
  subst gases caps
  have sizes : fees.estimatedSizeScaled = bound.estimatedSizeScaled := by
    obtain ⟨length, compressed, size⟩ := first.size
    obtain ⟨again, recompressed, resize⟩ := second.size
    rw [compressed] at recompressed
    cases recompressed
    rw [size, resize]
  have execution : fees.executionMaximum = bound.executionMaximum := by rw [first.execution, second.execution]
  have l1Fee : fees.l1FeeAtParameters ≤ bound.l1FeeAtParameters := by
    rw [first.l1Fee, second.l1Fee, sizes]
    have base := Nat.mul_le_mul (Nat.mul_le_mul_right 16 (Int.toNat_le_toNat dominated.l1BaseFee))
      (Int.toNat_le_toNat dominated.l1BaseFeeScalar)
    have blob := Nat.mul_le_mul (Int.toNat_le_toNat dominated.l1BlobBaseFee)
      (Int.toNat_le_toNat dominated.l1BlobBaseFeeScalar)
    exact Nat.div_le_div_right (Nat.mul_le_mul_left _ (Nat.add_le_add base blob))
  have operator : fees.operatorMaximumAtParameters ≤ bound.operatorMaximumAtParameters := by
    rw [first.operator, second.operator, dominated.profile]
    exact operatorCharge_mono (Nat.le_refl _) (Int.toNat_le_toNat dominated.operatorFeeScalar)
      (Int.toNat_le_toNat dominated.operatorFeeConstant)
  refine ⟨values, execution, l1Fee, operator, ?_⟩
  rw [first.total, second.total]
  omega

theorem calculateBaseSignedFees_ok (accepted : calculateBaseSignedFees codec raw p = .ok fees) :
    ∃ tx gas maxFee, Calculated codec raw p fees tx gas maxFee := by
  unfold calculateBaseSignedFees at accepted
  split at accepted
  · cases accepted
  · rename_i found
    cases accepted
    exact signedFees_some found

/-- The maxima grow with each of the six parameters. -/
theorem calculateBaseSignedFees_monotone {bound : BaseSignedFees} (dominated : p.Dominated q)
    (first : calculateBaseSignedFees codec raw p = .ok fees) (second : calculateBaseSignedFees codec raw q = .ok bound) :
    fees.Bounded bound := by
  obtain ⟨_, _, _, calculated⟩ := calculateBaseSignedFees_ok first
  obtain ⟨_, _, _, recalculated⟩ := calculateBaseSignedFees_ok second
  exact calculated.monotone recalculated dominated

end JBCenter.Wallet.Fees
