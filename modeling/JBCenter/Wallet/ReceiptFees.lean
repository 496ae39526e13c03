import JBCenter.Wallet.SignedFees

/-! The fees a receipt says were charged, against the signed bytes and the fee parameters of its block. -/
namespace JBCenter.Wallet.Fees
open Rest
open UserOperations.Semantics (Text Value lower asText isHexText isHexInteger utf16Units)

structure BaseReceiptFees where
  transactionHash : Text
  blockHash : Text
  blockNumber : Nat
  blockTimestamp : Nat
  transactionIndex : Nat
  success : Bool
  gasUsed : Nat
  effectiveGasPrice : Nat
  parameters : BaseFeeParameters
  daFootprintGasScalar : Nat
  executionWei : Nat
  l1Wei : Nat
  operatorWei : Nat
  totalWei : Nat
  deriving DecidableEq

def invalidReceipt : RestError :=
  ⟨502, "WALLET_BASE_RECEIPT_FEES_INVALID",
    "Base receipt fees require matching signed bytes, block positions and explicit Jovian attributes.", none⟩

abbrev Fields := List (String × Value)

def object : Value → Option Fields
  | .object fields => some fields
  | _ => none

def field (fields : Fields) (key : String) : Option Value := fields.lookup key

def objectField (fields : Fields) (key : String) : Option Fields := (field fields key).bind object

def textField (fields : Fields) (key : String) : Option Text := asText (field fields key)

def quantity (text : Text) (maximum : Nat := uint256) : Option Nat := do
  guard (utf16Units text ≤ 66 && isHexInteger text)
  let result := numeralValue 16 (text.drop 2)
  guard (result ≤ maximum)
  return result

def quantityField (fields : Fields) (key : String) (maximum : Nat := uint256) : Option Nat :=
  (textField fields key).bind (quantity · maximum)

/-- A hash that is not zero, in lower case. -/
def hash32 (text : Text) : Option Text := do
  guard (isHexText 64 text && numeralValue 16 (text.drop 2) ≠ 0)
  return lower text

def hashField (fields : Fields) (key : String) : Option Text := (textField fields key).bind hash32

def addressField (fields : Fields) (key : String) (expected : Text) : Option Unit := do
  let text ← textField fields key
  guard (utf16Units text = 42 ∧ lower text = expected)

def transactionHashes (value : Value) : Option (List Text) :=
  match value with
  | .array items => do
    guard (2 ≤ items.length ∧ items.length ≤ 4096)
    let hashes ← items.mapM (fun item => (asText (some item)).bind hash32)
    guard hashes.Nodup
    return hashes
  | _ => none

/-- The address `0xdeaddeaddeaddeaddeaddeaddeaddeaddead0001`. -/
def depositor : Text := '0' :: 'x' :: ((List.replicate 9 ['d', 'e', 'a', 'd']).flatten ++ ['0', '0', '0', '1'])

/-- The address `0x4200000000000000000000000000000000000015`. -/
def attributesTarget : Text := '0' :: 'x' :: '4' :: '2' :: (List.replicate 36 '0' ++ ['1', '5'])

/-- Matches `/^0x3db6be2b[0-9a-fA-F]+$/i`. -/
def isJovianInput (data : Text) : Bool :=
  match data with
  | '0' :: x :: rest => (x == 'x' || x == 'X') && lower (rest.take 8) == ['3', 'd', 'b', '6', 'b', 'e', '2', 'b'] &&
      8 < rest.length && (rest.drop 8).all isHexDigit
  | _ => false

def uintAt (data : Text) (start finish : Nat) : Nat :=
  numeralValue 16 ((data.drop (2 + start * 2)).take (finish * 2 - start * 2))

def attributesParameters (attributes : Fields) : Option (BaseFeeParameters × Nat) := do
  let type ← quantityField attributes "type"
  guard (type = 126)
  addressField attributes "from" depositor
  addressField attributes "to" attributesTarget
  let data ← textField attributes "input"
  guard (utf16Units data = 358 ∧ isJovianInput data)
  return ({ profile := .jovian, l1BaseFeeScalar := uintAt data 4 8, l1BlobBaseFeeScalar := uintAt data 8 12,
            l1BaseFee := uintAt data 36 68, l1BlobBaseFee := uintAt data 68 100,
            operatorFeeScalar := uintAt data 164 168, operatorFeeConstant := uintAt data 168 176 },
          uintAt data 176 178)

def baseL1AttributesParameters (input : Value) : Except RestError (BaseFeeParameters × Nat) :=
  match (object input).bind attributesParameters with
  | none => .error invalidReceipt
  | some result => .ok result

structure Block where
  hash : Text
  number : Nat
  timestamp : Nat
  baseFee : Nat
  hashes : List Text

def readBlock (block : Fields) : Option Block := do
  let hash ← hashField block "hash"
  let number ← quantityField block "number"
  let timestamp ← quantityField block "timestamp"
  let baseFee ← quantityField block "baseFeePerGas"
  let transactions ← field block "transactions"
  let hashes ← transactionHashes transactions
  return ⟨hash, number, timestamp, baseFee, hashes⟩

def position (block : Block) (value : Fields) : Option Nat := do
  let hash ← hashField value "blockHash"
  let number ← quantityField value "blockNumber"
  guard (hash = block.hash ∧ number = block.number)
  quantityField value "transactionIndex" (block.hashes.length - 1)

def parametersOf (block : Block) (attributes : Fields) : Option (BaseFeeParameters × Nat) := do
  let index ← position block attributes
  let hash ← hashField attributes "hash"
  guard (index = 0 ∧ some hash = block.hashes[0]?)
  attributesParameters attributes

def placeOf (block : Block) (receipt : Fields) (signedHash : Text) : Option (Text × Nat × Bool) := do
  let transactionHash ← hashField receipt "transactionHash"
  let transactionIndex ← position block receipt
  let type ← quantityField receipt "type"
  guard (transactionIndex ≠ 0 ∧ some transactionHash = block.hashes[transactionIndex]? ∧ transactionHash = signedHash ∧ type = 2)
  let status ← quantityField receipt "status"
  guard (status = 0 ∨ status = 1)
  return (transactionHash, transactionIndex, status = 1)

/-- A field that a provider may leave out says the same where it is there. -/
def optionalField (receipt : Fields) (key : String) (expected : Int) : Option Unit :=
  match field receipt key with
  | none => some ()
  | some value => do
    let text ← asText (some value)
    let held ← quantity text
    guard ((held : Int) = expected)

def optionalFields (receipt : Fields) (parameters : BaseFeeParameters) (daFootprintGasScalar : Nat)
    (calculated : BaseSignedFees) : Option Unit := do
  optionalField receipt "l1GasPrice" parameters.l1BaseFee
  optionalField receipt "l1BlobBaseFee" parameters.l1BlobBaseFee
  optionalField receipt "l1BaseFeeScalar" parameters.l1BaseFeeScalar
  optionalField receipt "l1BlobBaseFeeScalar" parameters.l1BlobBaseFeeScalar
  optionalField receipt "operatorFeeScalar" parameters.operatorFeeScalar
  optionalField receipt "operatorFeeConstant" parameters.operatorFeeConstant
  optionalField receipt "daFootprintGasScalar" daFootprintGasScalar
  optionalField receipt "l1GasUsed" (calculated.estimatedSizeScaled * 16 / 1000000 : Nat)

def chargedGas (receipt : Fields) (tx : Envelope) (baseFee : Nat) : Option (Nat × Nat) := do
  let gasUsed ← quantityField receipt "gasUsed" uint64
  let effectiveGasPrice ← quantityField receipt "effectiveGasPrice"
  let feeCap := tx.maxFeePerGas.getD 0
  let price ← amount (baseFee + tx.maxPriorityFeePerGas.getD 0)
  let gas ← tx.gas
  -- intrinsic gas is at least 21000, and no more than a fifth is refunded
  guard (21000 ≤ gas ∧ 16800 ≤ gasUsed ∧ gasUsed ≤ gas ∧ baseFee ≤ feeCap ∧
    (effectiveGasPrice : Int) = if (price : Int) < feeCap then (price : Int) else feeCap)
  return (gasUsed, effectiveGasPrice)

def operatorWeiOf (gasUsed : Nat) (parameters : BaseFeeParameters) : Option Nat := do
  let product ← amount (gasUsed * parameters.operatorFeeScalar * 100)
  amount (product + parameters.operatorFeeConstant)

def totalWeiOf (executionWei l1Wei operatorWei : Nat) : Option Nat := do
  let published ← add executionWei l1Wei
  add published operatorWei

variable (codec : TransactionCodec)

def receiptFees (input : Value) : Option BaseReceiptFees := do
  let v ← object input
  let blockFields ← objectField v "block"
  let receipt ← objectField v "receipt"
  let attributes ← objectField v "attributes"
  let block ← readBlock blockFields
  let (parameters, daFootprintGasScalar) ← parametersOf block attributes
  let raw ← textField v "rawTransaction"
  let calculated ← (calculateBaseSignedFees codec raw parameters).toOption
  let tx ← codec.parseTransaction raw
  guard (tx.type = "eip1559" ∧ tx.chainId = some 8453)
  let (transactionHash, transactionIndex, success) ← placeOf block receipt calculated.transactionHash
  let (gasUsed, effectiveGasPrice) ← chargedGas receipt tx block.baseFee
  let executionWei ← multiply gasUsed effectiveGasPrice
  let l1Wei ← quantityField receipt "l1Fee"
  guard (l1Wei = calculated.l1FeeAtParameters)
  let operatorWei ← operatorWeiOf gasUsed parameters
  optionalFields receipt parameters daFootprintGasScalar calculated
  let totalWei ← totalWeiOf executionWei l1Wei operatorWei
  return ⟨transactionHash, block.hash, block.number, block.timestamp, transactionIndex, success, gasUsed, effectiveGasPrice,
    parameters, daFootprintGasScalar, executionWei, l1Wei, operatorWei, totalWei⟩

/-- Whatever fails, fails alike. -/
def verifyBaseReceiptFees (input : Value) : Except RestError BaseReceiptFees :=
  match receiptFees codec input with
  | none => .error invalidReceipt
  | some fees => .ok fees

variable {codec : TransactionCodec} {input : Value} {fees : BaseReceiptFees}

theorem attributesParameters_some {attributes : Fields} {parameters : BaseFeeParameters} {footprint : Nat}
    (accepted : attributesParameters attributes = some (parameters, footprint)) : parameters.profile = .jovian := by
  obtain ⟨_, _, accepted⟩ := some_bind accepted
  obtain ⟨_, accepted⟩ := guard_bind_some accepted
  iterate 3 obtain ⟨_, _, accepted⟩ := some_bind accepted
  obtain ⟨_, accepted⟩ := guard_bind_some accepted
  cases accepted
  rfl

theorem parametersOf_some {block : Block} {attributes : Fields} {result : BaseFeeParameters × Nat}
    (accepted : parametersOf block attributes = some result) : attributesParameters attributes = some result := by
  iterate 2 obtain ⟨_, _, accepted⟩ := some_bind accepted
  obtain ⟨_, accepted⟩ := guard_bind_some accepted
  exact accepted

theorem baseL1AttributesParameters_ok {v attributes : Fields} {key : String} {result : BaseFeeParameters × Nat}
    (opened : objectField v key = some attributes) (accepted : attributesParameters attributes = some result) :
    ∃ value, field v key = some value ∧ baseL1AttributesParameters value = .ok result := by
  obtain ⟨value, found, opened⟩ := some_bind opened
  refine ⟨value, found, ?_⟩
  rw [baseL1AttributesParameters, opened, Option.bind_some, accepted]

theorem chargedGas_some {receipt : Fields} {tx : Envelope} {baseFee gasUsed effectiveGasPrice : Nat}
    (accepted : chargedGas receipt tx baseFee = some (gasUsed, effectiveGasPrice)) :
    ∃ gas, tx.gas = some gas ∧ (gasUsed : Int) ≤ gas ∧ (effectiveGasPrice : Int) ≤ tx.maxFeePerGas.getD 0 := by
  iterate 2 obtain ⟨_, _, accepted⟩ := some_bind accepted
  obtain ⟨price, _, accepted⟩ := some_bind accepted
  obtain ⟨gas, limited, accepted⟩ := some_bind accepted
  obtain ⟨⟨_, _, within, _, effective⟩, accepted⟩ := guard_bind_some accepted
  cases accepted
  refine ⟨gas, limited, within, ?_⟩
  rw [effective]
  split <;> omega

theorem operatorWeiOf_some {gasUsed n : Nat} {parameters : BaseFeeParameters} (natural : parameters.Natural)
    (accepted : operatorWeiOf gasUsed parameters = some n) :
    n = operatorCharge .jovian gasUsed parameters.operatorFeeScalar.toNat parameters.operatorFeeConstant.toNat := by
  obtain ⟨product, first, accepted⟩ := some_bind accepted
  have multiplied := (amount_some first).1
  have added := (amount_some accepted).1
  have scalar := Int.toNat_of_nonneg natural.operatorFeeScalar
  have constant := Int.toNat_of_nonneg natural.operatorFeeConstant
  rw [← scalar] at multiplied
  rw [← constant] at added
  unfold operatorCharge
  have product : product = gasUsed * parameters.operatorFeeScalar.toNat * 100 := by exact_mod_cast multiplied.symm
  rw [← product]
  exact_mod_cast added.symm

/-- What was charged, against the maxima of the same bytes at the parameters of the block. -/
structure BaseReceiptFees.Within (fees : BaseReceiptFees) (maxima : BaseSignedFees) : Prop where
  execution : fees.executionWei ≤ maxima.executionMaximum
  l1 : fees.l1Wei = maxima.l1FeeAtParameters
  operator : fees.operatorWei ≤ maxima.operatorMaximumAtParameters
  total : maxima.value + fees.totalWei ≤ maxima.totalMaximumAtParameters

theorem receiptFees_some (accepted : receiptFees codec input = some fees) :
    ∃ v raw attributes maxima, object input = some v ∧ textField v "rawTransaction" = some raw ∧
      field v "attributes" = some attributes ∧
      baseL1AttributesParameters attributes = .ok (fees.parameters, fees.daFootprintGasScalar) ∧
      calculateBaseSignedFees codec raw fees.parameters = .ok maxima ∧ fees.Within maxima := by
  obtain ⟨v, opened, accepted⟩ := some_bind accepted
  obtain ⟨_, _, accepted⟩ := some_bind accepted
  obtain ⟨receipt, _, accepted⟩ := some_bind accepted
  obtain ⟨fields, held, accepted⟩ := some_bind accepted
  obtain ⟨block, _, accepted⟩ := some_bind accepted
  obtain ⟨⟨parameters, footprint⟩, attributed, accepted⟩ := some_bind accepted
  obtain ⟨raw, signed, accepted⟩ := some_bind accepted
  obtain ⟨maxima, computed, accepted⟩ := some_bind accepted
  obtain ⟨tx, parsed, accepted⟩ := some_bind accepted
  obtain ⟨_, accepted⟩ := guard_bind_some accepted
  obtain ⟨⟨_, _, _⟩, _, accepted⟩ := some_bind accepted
  obtain ⟨⟨gasUsed, price⟩, charged, accepted⟩ := some_bind accepted
  obtain ⟨execution, executed, accepted⟩ := some_bind accepted
  obtain ⟨l1Wei, _, accepted⟩ := some_bind accepted
  obtain ⟨published, accepted⟩ := guard_bind_some accepted
  obtain ⟨operatorWei, operated, accepted⟩ := some_bind accepted
  obtain ⟨_, _, accepted⟩ := some_bind accepted
  obtain ⟨total, summed, accepted⟩ := some_bind accepted
  cases accepted
  have accepted := toOption_ok computed
  have jovian := attributesParameters_some (parametersOf_some attributed)
  obtain ⟨attributes, found, read⟩ := baseL1AttributesParameters_ok held (parametersOf_some attributed)
  refine ⟨v, raw, attributes, maxima, opened, signed, found, read, accepted, ?_⟩
  obtain ⟨other, gas, maxFee, calculated⟩ := calculateBaseSignedFees_ok accepted
  have same : other = tx := Option.some.inj (calculated.parsed.symm.trans parsed)
  subst same
  obtain ⟨limit, limited, used, capped⟩ := chargedGas_some charged
  have gases : gasUsed ≤ gas := by
    rw [Option.some.inj (limited.symm.trans calculated.limited)] at used
    exact_mod_cast used
  have prices : price ≤ maxFee := by
    rw [calculated.capped] at capped
    exact_mod_cast capped
  have executionBound : execution ≤ maxima.executionMaximum := by
    rw [multiply_some executed, calculated.execution]
    exact Nat.mul_le_mul gases prices
  have operatorBound : operatorWei ≤ maxima.operatorMaximumAtParameters := by
    rw [operatorWeiOf_some calculated.natural operated, calculated.operator, jovian]
    exact operatorCharge_mono gases (Nat.le_refl _) (Nat.le_refl _)
  refine ⟨executionBound, published, operatorBound, ?_⟩
  obtain ⟨_, first, second⟩ := some_bind summed
  have sum := (add_some second).1
  rw [(add_some first).1] at sum
  have most := calculated.total
  dsimp only
  omega

/-- What was charged is within the maxima of the same bytes at the parameters of the block, these are within 256 bits and
grow with the parameters, and so what was charged is also within the maxima at any larger parameters. -/
theorem verified_fees_within (verified : verifyBaseReceiptFees codec input = .ok fees) :
    (∃ v raw attributes maxima, object input = some v ∧ textField v "rawTransaction" = some raw ∧
      field v "attributes" = some attributes ∧
      baseL1AttributesParameters attributes = .ok (fees.parameters, fees.daFootprintGasScalar) ∧
      calculateBaseSignedFees codec raw fees.parameters = .ok maxima ∧
      fees.executionWei ≤ maxima.executionMaximum ∧ fees.l1Wei = maxima.l1FeeAtParameters ∧
      fees.operatorWei ≤ maxima.operatorMaximumAtParameters ∧
      maxima.value + fees.totalWei ≤ maxima.totalMaximumAtParameters ∧ maxima.totalMaximumAtParameters < 2 ^ 256 ∧
      ∀ larger bound, fees.parameters.Dominated larger → calculateBaseSignedFees codec raw larger = .ok bound →
        fees.executionWei ≤ bound.executionMaximum ∧ fees.l1Wei ≤ bound.l1FeeAtParameters ∧
        fees.operatorWei ≤ bound.operatorMaximumAtParameters ∧
        bound.value + fees.totalWei ≤ bound.totalMaximumAtParameters) ∧
    ∀ raw p q lower upper, p.Dominated q → calculateBaseSignedFees codec raw p = .ok lower →
      calculateBaseSignedFees codec raw q = .ok upper → lower.Bounded upper := by
  refine ⟨?_, fun raw p q lower upper dominated first second => calculateBaseSignedFees_monotone dominated first second⟩
  unfold verifyBaseReceiptFees at verified
  split at verified
  · cases verified
  · rename_i found
    cases verified
    obtain ⟨v, raw, attributes, maxima, opened, signed, held, read, calculated, within⟩ := receiptFees_some found
    obtain ⟨_, _, _, spec⟩ := calculateBaseSignedFees_ok calculated
    refine ⟨v, raw, attributes, maxima, opened, signed, held, read, calculated, within.execution, within.l1, within.operator,
      within.total, spec.bounded, fun larger bound dominated recalculated => ?_⟩
    have bounded := calculateBaseSignedFees_monotone dominated calculated recalculated
    refine ⟨bounded.execution ▸ within.execution, within.l1 ▸ bounded.l1Fee,
      Nat.le_trans within.operator bounded.operator, ?_⟩
    rw [← bounded.value]
    exact Nat.le_trans within.total bounded.total

def padded (digits n : Nat) : Text := List.leftpad digits '0' (Nat.toDigits 16 n)

namespace Charged

def raw : Text := '0' :: 'x' :: '0' :: Nat.toDigits 16
  0x2f86b82210501830f42408401312d008252089411111111111111111111111111111111111111110580c080a01111111111111111111111111111111111111111111111111111111111111111a01111111111111111111111111111111111111111111111111111111111111111

def scalar : Text := '0' :: 'x' :: List.replicate 64 '1'

def tx : Envelope where
  type := "eip1559"
  chainId := some 8453
  nonce := some 1
  yParity := some 0
  r := some scalar
  s := some scalar
  target := some ('0' :: 'x' :: List.replicate 40 '1')
  data := none
  gas := some 21000
  maxFeePerGas := some 20000000
  maxPriorityFeePerGas := some 1000000
  value := some 5
  accessList := none

def hash : Text := '0' :: 'x' :: Nat.toDigits 16 0xe263e9aee7e9ce507b0b16eaaf38fe1752bd90b07ac24fff1fb7f78fed14371f

/-- The coder on the bytes of the sample. -/
def coder : TransactionCodec where
  parseTransaction text := if text = raw then some tx else none
  serializeTransaction envelope := if envelope = tx then some raw else none
  keccak256 _ := hash

def number (n : Nat) : Value := .text ('0' :: 'x' :: Nat.toDigits 16 n)

def word (digit : Char) : Value := .text ('0' :: 'x' :: List.replicate 64 digit)

/-- 178 bytes: the selector, the two scalars, the position, the two base fees, two words that are not read, the operator's
scalar and constant, and the footprint's scalar. -/
def attributesInput : Text :=
  '0' :: 'x' :: (padded 8 0x3db6be2b ++ padded 8 2269 ++ padded 8 1055762 ++ padded 48 0 ++ padded 64 1000000000 ++
    padded 64 1 ++ padded 128 0 ++ padded 8 1 ++ padded 16 5 ++ padded 4 400)

def evidence : Value := .object [
  ("rawTransaction", .text raw),
  ("block", .object [("hash", word 'b'), ("number", number 7), ("timestamp", number 9), ("baseFeePerGas", number 5000000),
    ("transactions", .array [word 'a', .text hash])]),
  ("attributes", .object [("type", number 126), ("from", .text depositor), ("to", .text attributesTarget),
    ("hash", word 'a'), ("blockHash", word 'b'), ("blockNumber", number 7), ("transactionIndex", number 0),
    ("input", .text attributesInput)]),
  ("receipt", .object [("transactionHash", .text hash), ("blockHash", word 'b'), ("blockNumber", number 7),
    ("transactionIndex", number 1), ("type", number 2), ("status", number 1), ("gasUsed", number 21000),
    ("effectiveGasPrice", number 6000000), ("l1Fee", number 3630400105), ("l1GasUsed", number 1600)])]

def parameters : BaseFeeParameters := ⟨.jovian, 1000000000, 1, 2269, 1055762, 1, 5⟩

def charged : BaseReceiptFees where
  transactionHash := hash
  blockHash := '0' :: 'x' :: List.replicate 64 'b'
  blockNumber := 7
  blockTimestamp := 9
  transactionIndex := 1
  success := true
  gasUsed := 21000
  effectiveGasPrice := 6000000
  parameters := parameters
  daFootprintGasScalar := 400
  executionWei := 126000000000
  l1Wei := 3630400105
  operatorWei := 2100005
  totalWei := 129632500110

end Charged

/-- A receipt that paid 21000 gas below the cap: its fees with the value of 5 wei stay within the maxima. -/
theorem verified_fees_within_charged :
    ∃ maxima, calculateBaseSignedFees Charged.coder Charged.raw Charged.parameters = .ok maxima ∧
      maxima.value + 129632500110 ≤ maxima.totalMaximumAtParameters := by
  have verified : verifyBaseReceiptFees Charged.coder Charged.evidence = .ok Charged.charged := by decide +kernel
  obtain ⟨⟨v, raw, attributes, maxima, opened, signed, _, _, calculated, _, _, _, total, _⟩, _⟩ := verified_fees_within verified
  cases opened
  cases signed
  exact ⟨maxima, calculated, total⟩

end JBCenter.Wallet.Fees
