import Mathlib.Data.List.Sort
import JBCenter.Rest.Hex
import JBCenter.Rest.Json
import JBCenter.UserOperations.Types

/-! The codec of user operations: the complete unpacked fields of EntryPoint v0.7 in one canonical form, and the packed
words the EntryPoint hashes. -/
namespace JBCenter.UserOperations
open Rest

namespace OperationLimits

def operationBytes : Nat := 262144

def calldataBytes : Nat := 65536

def signatureBytes : Nat := 16384

def paymasterBytes : Nat := 8192

def factoryBytes : Nat := 32768

end OperationLimits

def uoError (code message : String) (status : Nat := 422) : RestError := ⟨status, code, message, none⟩

/-- A canonical quantity of at most so many bits. -/
def uoQuantity (value : Option Json) (label : String) (bits : Nat := 256) : Except RestError Nat :=
  match value with
  | some (.text text) =>
    if isQuantityText text && hexNumber text < 2 ^ bits then .ok (hexNumber text)
    else .error (uoError "INVALID_USER_OPERATION" ("Invalid canonical " ++ label ++ ".") 400)
  | _ => .error (uoError "INVALID_USER_OPERATION" ("Invalid canonical " ++ label ++ ".") 400)

/-- At most so many bytes, in lower case. -/
def uoBytes (value : Option Json) (label : String) (maximum : Nat) : Except RestError String :=
  match value with
  | some (.text text) =>
    if isByteText text && (text.toList.length - 2) / 2 ≤ maximum then .ok (toLowerCase text)
    else .error (uoError "INVALID_USER_OPERATION" ("Invalid bounded " ++ label ++ ".") 400)
  | _ => .error (uoError "INVALID_USER_OPERATION" ("Invalid bounded " ++ label ++ ".") 400)

/-- What `isAddress` accepts: 20 bytes in lower case, or as the checksum writes them. -/
def isStrictAddress (checksumAddress : String → String) (text : String) : Bool :=
  isHex 40 text && (toLowerCase text == text || checksumAddress text == text)

def zeroAddress : String := hexText (List.replicate 40 '0')

/-- An address other than zero, in lower case. -/
def uoAddress (checksumAddress : String → String) (value : Option Json) (label : String) : Except RestError String :=
  match value with
  | some (.text text) =>
    if isStrictAddress checksumAddress text && toLowerCase text != zeroAddress then .ok (toLowerCase text)
    else .error (uoError "INVALID_USER_OPERATION" ("Invalid " ++ label ++ ".") 400)
  | _ => .error (uoError "INVALID_USER_OPERATION" ("Invalid " ++ label ++ ".") 400)

namespace UserOperationV07

/-- The fields, under their names. -/
def table (op : UserOperationV07) : List (String × Option String) :=
  [("sender", some op.sender), ("nonce", some op.nonce), ("factory", op.factory), ("factoryData", op.factoryData),
    ("callData", some op.callData), ("callGasLimit", some op.callGasLimit),
    ("verificationGasLimit", some op.verificationGasLimit), ("preVerificationGas", some op.preVerificationGas),
    ("maxFeePerGas", some op.maxFeePerGas), ("maxPriorityFeePerGas", some op.maxPriorityFeePerGas),
    ("paymaster", op.paymaster), ("paymasterVerificationGasLimit", op.paymasterVerificationGasLimit),
    ("paymasterPostOpGasLimit", op.paymasterPostOpGasLimit), ("paymasterData", op.paymasterData),
    ("signature", some op.signature)]

/-- The fields that are there. -/
def entries (op : UserOperationV07) : List (String × String) :=
  op.table.filterMap (fun (key, value) => value.map (fun value => (key, value)))

/-- The fields of the value that is normalized. -/
def members (op : UserOperationV07) : JsonFields := op.entries.map (fun (key, value) => (key, .text value))

def toJson (op : UserOperationV07) : Json := .object op.members

end UserOperationV07

/-- `uoCanonical` of an operation: its fields under their sorted keys. The texts are hexadecimal, so nothing is escaped. -/
def uoCanonical (op : UserOperationV07) : String :=
  let fields := op.entries.insertionSort (fun a b => a.1 ≤ b.1)
  "\x7b" ++ String.intercalate "," (fields.map (fun (key, value) => "\"" ++ key ++ "\":\"" ++ value ++ "\"")) ++ "\x7d"

def required : List String :=
  ["sender", "nonce", "callData", "callGasLimit", "verificationGasLimit", "preVerificationGas", "maxFeePerGas",
    "maxPriorityFeePerGas", "signature"]

def optional : List String :=
  ["factory", "factoryData", "paymaster", "paymasterVerificationGasLimit", "paymasterPostOpGasLimit", "paymasterData"]

/-- `key in value` -/
def contains (fields : JsonFields) (key : String) : Bool := (fields.field key).isSome

/-- The factories that announce an EIP-7702 authorization. -/
def authorizationMarkers : List String :=
  ["0x0000000000000000000000000000000000007702", "0x7702000000000000000000000000000000000000"]

section
variable (checksumAddress : String → String) (fields : JsonFields)

def readQuantity (key label : String) (bits : Nat := 256) : Except RestError String :=
  (uoQuantity (fields.field key) label bits).map toHex

def readRequired : Except RestError UserOperationV07 := do
  let sender ← uoAddress checksumAddress (fields.field "sender") "sender"
  let nonce ← readQuantity fields "nonce" "nonce"
  let callData ← uoBytes (fields.field "callData") "account calldata" OperationLimits.calldataBytes
  let callGasLimit ← readQuantity fields "callGasLimit" "call gas" 128
  let verificationGasLimit ← readQuantity fields "verificationGasLimit" "verification gas" 128
  let preVerificationGas ← readQuantity fields "preVerificationGas" "pre-verification gas"
  let maxFeePerGas ← readQuantity fields "maxFeePerGas" "maximum fee" 128
  let maxPriorityFeePerGas ← readQuantity fields "maxPriorityFeePerGas" "priority fee" 128
  let signature ← uoBytes (fields.field "signature") "account signature" OperationLimits.signatureBytes
  return { sender, nonce, callData, callGasLimit, verificationGasLimit, preVerificationGas, maxFeePerGas,
           maxPriorityFeePerGas, signature }

def readFactory (result : UserOperationV07) : Except RestError UserOperationV07 :=
  if contains fields "factory" || contains fields "factoryData" then do
    let factory ← uoAddress checksumAddress (fields.field "factory") "factory"
    if authorizationMarkers.contains factory then
      .error (uoError "USER_OPERATION_VERSION_UNSUPPORTED"
        "EIP-7702 authorization is not an EntryPoint v0.7 factory." 400)
    else do
      let factoryData ← uoBytes (fields.field "factoryData") "factory calldata" OperationLimits.factoryBytes
      return { result with factory := some factory, factoryData := some factoryData }
  else .ok result

def readPaymaster (result : UserOperationV07) : Except RestError UserOperationV07 :=
  if (optional.drop 2).any (contains fields) then do
    let paymaster ← uoAddress checksumAddress (fields.field "paymaster") "paymaster"
    let paymasterData ← uoBytes (fields.field "paymasterData") "paymaster data" OperationLimits.paymasterBytes
    let paymasterVerificationGasLimit ←
      readQuantity fields "paymasterVerificationGasLimit" "paymaster verification gas" 128
    let paymasterPostOpGasLimit ← readQuantity fields "paymasterPostOpGasLimit" "paymaster post-op gas" 128
    return { result with
      paymaster := some paymaster
      paymasterData := some paymasterData
      paymasterVerificationGasLimit := some paymasterVerificationGasLimit
      paymasterPostOpGasLimit := some paymasterPostOpGasLimit }
  else .ok result

end

def incomplete : RestError :=
  uoError "INVALID_USER_OPERATION" "Provide only the complete unpacked EntryPoint v0.7 fields." 400

def normalizeUserOperation (checksumAddress : String → String) (value : Json) : Except RestError UserOperationV07 :=
  match value with
  | .object fields =>
    if required.any (fun key => !contains fields key) || JsonFields.unknownKey fields (required ++ optional) then
      .error incomplete
    else do
      let result ← readRequired checksumAddress fields
      if hexNumber result.maxFeePerGas < hexNumber result.maxPriorityFeePerGas then
        .error (uoError "INVALID_USER_OPERATION" "Priority fee exceeds maximum fee." 400)
      else do
        let result ← readFactory checksumAddress fields result
        let result ← readPaymaster checksumAddress fields result
        if OperationLimits.operationBytes < (uoCanonical result).utf8ByteSize then
          .error (uoError "USER_OPERATION_TOO_LARGE" "The user operation exceeds its byte limit." 413)
        else .ok result
  | _ => .error incomplete

structure PackedUserOperationV07 where
  sender : String
  nonce : Int
  initCode : String
  callData : String
  accountGasLimits : String
  preVerificationGas : Int
  gasFees : String
  paymasterAndData : String
  signature : String

/-- The packed operation with the letters of its texts lowered. -/
def PackedUserOperationV07.lower (packed : PackedUserOperationV07) : PackedUserOperationV07 := { packed with
  sender := toLowerCase packed.sender
  initCode := toLowerCase packed.initCode
  callData := toLowerCase packed.callData
  accountGasLimits := toLowerCase packed.accountGasLimits
  gasFees := toLowerCase packed.gasFees
  paymasterAndData := toLowerCase packed.paymasterAndData
  signature := toLowerCase packed.signature }

/-- The bytes of texts, one after the other. -/
def concat (values : List String) : String := hexText (values.flatMap (fun value => value.toList.drop 2))

/-- Left padding to so many bytes. The values here are never longer. -/
def padHex (value : String) (size : Nat) : String := hexText ((value.toList.drop 2).leftpad (2 * size) '0')

/-- What `packUserOperation` makes of a normalized operation. -/
def packNormalized (op : UserOperationV07) : PackedUserOperationV07 where
  sender := op.sender
  nonce := hexNumber op.nonce
  initCode := match op.factory with
    | some factory => concat [factory, op.factoryData.getD ""]
    | none => "0x"
  callData := op.callData
  accountGasLimits := concat [padHex op.verificationGasLimit 16, padHex op.callGasLimit 16]
  preVerificationGas := hexNumber op.preVerificationGas
  gasFees := concat [padHex op.maxPriorityFeePerGas 16, padHex op.maxFeePerGas 16]
  paymasterAndData := match op.paymaster with
    | some paymaster => concat [paymaster, padHex (op.paymasterVerificationGasLimit.getD "") 16,
        padHex (op.paymasterPostOpGasLimit.getD "") 16, op.paymasterData.getD ""]
    | none => "0x"
  signature := op.signature

def packUserOperation (checksumAddress : String → String) (value : Json) : Except RestError PackedUserOperationV07 :=
  (normalizeUserOperation checksumAddress value).map packNormalized

/-- What unpacking throws: a refusal, or `toHex` of a negative number. -/
inductive CodecError where
  | rest (error : RestError)
  | integerOutOfRange (value : Int)

def refusal (result : Except RestError α) : Except CodecError α := result.mapError .rest

/-- `toHex` of a `bigint`. -/
def bigintHex (value : Int) : Except CodecError String :=
  if 0 ≤ value then .ok (toHex value.toNat) else .error (.integerOutOfRange value)

/-- The digits of a text in a range, as a text. -/
def slice (text : String) (first last : Nat) : String := hexText ((text.toList.take last).drop first)

/-- The quantity of the digits in a range, as a text. -/
def sliceHex (text : String) (first last : Nat) : String := toHex (hexNumber (slice text first last))

/-- A packed field that is read into parts, or left out when it is empty. -/
def parts (text : String) : Option String := if text = "0x" then none else some text

def unpackUserOperation (checksumAddress : String → String) (packed : PackedUserOperationV07) :
    Except CodecError UserOperationV07 := do
  let gas ← refusal (uoBytes (some (.text packed.accountGasLimits)) "packed account gas" 32)
  let fees ← refusal (uoBytes (some (.text packed.gasFees)) "packed fees" 32)
  if gas.toList.length ≠ 66 || fees.toList.length ≠ 66 then
    .error (.rest (uoError "INVALID_USER_OPERATION" "Packed gas words must be 32 bytes." 400))
  else do
    let init ← refusal (uoBytes (some (.text packed.initCode)) "init code" (OperationLimits.factoryBytes + 20))
    let paymaster ← refusal (uoBytes (some (.text packed.paymasterAndData)) "packed paymaster"
      (OperationLimits.paymasterBytes + 52))
    if init ≠ "0x" && init.toList.length < 42 || paymaster ≠ "0x" && paymaster.toList.length < 106 then
      .error (.rest (uoError "INVALID_USER_OPERATION" "Packed factory or paymaster fields are truncated." 400))
    else do
      let nonce ← bigintHex packed.nonce
      let preVerificationGas ← bigintHex packed.preVerificationGas
      refusal (normalizeUserOperation checksumAddress (UserOperationV07.toJson {
        sender := packed.sender
        nonce
        callData := packed.callData
        signature := packed.signature
        callGasLimit := sliceHex gas 34 66
        verificationGasLimit := sliceHex gas 2 34
        preVerificationGas
        maxFeePerGas := sliceHex fees 34 66
        maxPriorityFeePerGas := sliceHex fees 2 34
        factory := (parts init).map (fun init => slice init 2 42)
        factoryData := (parts init).map (fun init => slice init 42 init.toList.length)
        paymaster := (parts paymaster).map (fun paymaster => slice paymaster 2 42)
        paymasterVerificationGasLimit := (parts paymaster).map (fun paymaster => sliceHex paymaster 42 74)
        paymasterPostOpGasLimit := (parts paymaster).map (fun paymaster => sliceHex paymaster 74 106)
        paymasterData := (parts paymaster).map (fun paymaster => slice paymaster 106 paymaster.toList.length) }))

end JBCenter.UserOperations
