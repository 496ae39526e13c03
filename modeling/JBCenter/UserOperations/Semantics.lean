import JBCenter.Rest.Decimals
import JBCenter.Rest.Hex
import JBCenter.Rest.Json

/-! The effects of a reviewed wallet payment: a plan of exact direct-terminal calls, and the logs of its execution.
A text is the list of its characters here. -/
namespace JBCenter.UserOperations.Semantics
open Rest

abbrev Text := List Char

/-- Plain data of a caller: a parsed document that may also hold integers of any size. -/
inductive Value where
  | null
  | boolean (value : Bool)
  | number (value : Number)
  | bigint (value : Int)
  | text (value : Text)
  | array (items : List Value)
  | object (fields : List (String × Value))

/-- The decimal text of an integer. -/
def decimalText (value : Int) : Text :=
  if value < 0 then '-' :: Nat.toDigits 10 value.natAbs else Nat.toDigits 10 value.natAbs

mutual

/-- The data as a document: an integer beyond the numbers is its text. -/
def Value.plain : Value → Value
  | .null => .null
  | .boolean value => .boolean value
  | .number value => .number value
  | .bigint value => .text (decimalText value)
  | .text value => .text value
  | .array items => .array (plainItems items)
  | .object fields => .object (plainFields fields)

def plainItems : List Value → List Value
  | [] => []
  | item :: items => item.plain :: plainItems items

def plainFields : List (String × Value) → List (String × Value)
  | [] => []
  | (key, item) :: fields => (key, item.plain) :: plainFields fields

end

/-- The bytes of a text, as `TextEncoder` counts them. -/
def utf8Length (text : Text) : Nat := (text.map Char.utf8Size).sum

/-- The `length` of a text, in UTF-16 units. -/
def utf16Units (text : Text) : Nat := (text.map (fun c => if 0x10000 ≤ c.toNat then 2 else 1)).sum

def jsonCharacter (c : Char) : Nat :=
  if c == '"' || c == '\\' then 2
  else if c.toNat < 0x20 then (if [8, 9, 10, 12, 13].contains c.toNat then 2 else 6)
  else c.utf8Size

/-- The bytes of `JSON.stringify` of a text. -/
def jsonText (text : Text) : Nat := 2 + (text.map jsonCharacter).sum

def jsonNumber : Number → Nat
  | .integer value => utf8Length (decimalText value)
  | .negativeZero => 1
  | .other => 4

mutual

/-- The bytes of `JSON.stringify`. -/
def jsonLength : Value → Nat
  | .null => 4
  | .boolean value => if value then 4 else 5
  | .number value => jsonNumber value
  | .bigint value => jsonText (decimalText value)
  | .text value => jsonText value
  | .array items => 2 + jsonItems items + (items.length - 1)
  | .object fields => 2 + jsonFields fields + (fields.length - 1)

def jsonItems : List Value → Nat
  | [] => 0
  | item :: items => jsonLength item + jsonItems items

def jsonFields : List (String × Value) → Nat
  | [] => 0
  | (key, item) :: fields => jsonText key.toList + 1 + jsonLength item + jsonFields fields

end

/-- What `Number.isSafeInteger` accepts, and its value: the negative zero is zero to every comparison. -/
def safeInteger : Number → Option Int
  | .integer value => if isSafeInteger value then some value else none
  | .negativeZero => some 0
  | .other => none

/-- What a copy has counted. -/
structure Counted where
  nodes : Nat := 0
  serializedBytes : Nat := 0

def maximumNodes : Nat := 30000

def Counted.enter (counted : Counted) (depth : Nat) : Option Counted :=
  if maximumNodes < counted.nodes + 1 || 20 < depth then none else some { counted with nodes := counted.nodes + 1 }

def Counted.count (counted : Counted) (maxBytes bytes : Nat) : Option Counted :=
  if maxBytes < counted.serializedBytes + bytes then none
  else some { counted with serializedBytes := counted.serializedBytes + bytes }

mutual

def copy (maxBytes : Nat) (counted : Counted) (depth : Nat) : Value → Option (Value × Counted)
  | .null => do
    let counted ← counted.enter depth
    let counted ← counted.count maxBytes 4
    return (.null, counted)
  | .boolean value => do
    let counted ← counted.enter depth
    let counted ← counted.count maxBytes (if value then 4 else 5)
    return (.boolean value, counted)
  | .text value => do
    let counted ← counted.enter depth
    guard (utf16Units value ≤ maxBytes)
    let counted ← counted.count maxBytes (jsonText value)
    return (.text value, counted)
  | .number value => do
    let counted ← counted.enter depth
    guard (safeInteger value).isSome
    let counted ← counted.count maxBytes (jsonNumber value)
    return (.number value, counted)
  | .bigint value => do
    let counted ← counted.enter depth
    guard (0 ≤ value ∧ value < 2 ^ 256)
    let counted ← counted.count maxBytes (jsonText (decimalText value))
    return (.text (decimalText value), counted)
  | .array items => do
    let counted ← counted.enter depth
    -- the property `length` is one of the entries
    guard (items.length + 1 ≤ maximumNodes)
    let counted ← counted.count maxBytes 2
    let (items, counted) ← copyItems maxBytes counted (depth + 1) items
    return (.array items, counted)
  | .object fields => do
    let counted ← counted.enter depth
    guard (fields.length ≤ maximumNodes)
    let counted ← counted.count maxBytes 2
    let (fields, counted) ← copyFields maxBytes counted (depth + 1) fields
    return (.object fields, counted)

def copyItems (maxBytes : Nat) (counted : Counted) (depth : Nat) : List Value → Option (List Value × Counted)
  | [] => some ([], counted)
  | item :: items => do
    let counted ← counted.count maxBytes 1
    let (item, counted) ← copy maxBytes counted depth item
    let (items, counted) ← copyItems maxBytes counted depth items
    return (item :: items, counted)

def copyFields (maxBytes : Nat) (counted : Counted) (depth : Nat) :
    List (String × Value) → Option (List (String × Value) × Counted)
  | [] => some ([], counted)
  | (key, item) :: fields => do
    let counted ← counted.count maxBytes (jsonText key.toList + 2)
    let (item, counted) ← copy maxBytes counted depth item
    let (fields, counted) ← copyFields maxBytes counted depth fields
    return ((key, item) :: fields, counted)

end

/-- A bounded copy of plain data. -/
def snapshot (input : Value) (maxBytes : Nat) : Option Value := do
  let (result, _) ← copy maxBytes {} 0 input
  guard (jsonLength result ≤ maxBytes)
  return result

/-- A property of a value; anything but an object has none of those that are read. -/
def property (value : Option Value) (key : String) : Option Value :=
  match value with
  | some (.object fields) => fields.lookup key
  | _ => none

def asText : Option Value → Option Text
  | some (.text text) => some text
  | _ => none

def asInteger : Option Value → Option Int
  | some (.number value) => safeInteger value
  | _ => none

def asItems : Option Value → Option (List Value)
  | some (.array items) => some items
  | _ => none

/-- Throws on anything but an object. -/
def asObject : Option Value → Option Value
  | some (.object fields) => some (.object fields)
  | _ => none

def isText (value : Option Value) (expected : String) : Bool := asText value == some expected.toList

def isNumber (value : Option Value) (expected : Int) : Bool := asInteger value == some expected

def isTrue : Option Value → Bool
  | some (.boolean value) => value
  | _ => false

def isFalse : Option Value → Bool
  | some (.boolean value) => !value
  | _ => false

def isNull : Option Value → Bool
  | some .null => true
  | _ => false

/-- Matches `/^[1-9][0-9]*$/`. -/
def isPositiveDecimal : Text → Bool
  | first :: rest => isDigit first && first != '0' && rest.all isDigit
  | [] => false

/-- Matches `/^0x(?:0|[1-9a-fA-F][0-9a-fA-F]*)$/`. -/
def isHexInteger : Text → Bool
  | ['0', 'x', '0'] => true
  | '0' :: 'x' :: first :: rest => isHexDigit first && first != '0' && rest.all isHexDigit
  | _ => false

/-- The `BigInt` of an integer of 256 bits, in decimal or hexadecimal. -/
def uintText (text : Text) : Option Nat := do
  guard (text.length ≤ 78)
  let n ← if text == ['0'] || isPositiveDecimal text then some (digitsValue text)
    else if isHexInteger text then some (numeralValue 16 (text.drop 2)) else none
  guard (n < 2 ^ 256)
  return n

/-- An unsigned integer of 256 bits, as a number or as text. -/
def uint : Option Value → Option Nat
  | some (.text text) => uintText text
  | value => do
    let n ← asInteger value
    guard (0 ≤ n)
    return n.toNat

def lower (text : Text) : Text := text.map Char.toLower

def same (a b : Text) : Bool := lower a = lower b

/-- Matches `/^0x[0-9a-fA-F]{n}$/`. -/
def isHexText (digits : Nat) : Text → Bool
  | '0' :: 'x' :: rest => rest.length == digits && rest.all isHexDigit
  | _ => false

/-- Matches `/^0x(?:[0-9a-fA-F]{2})*$/`. -/
def isBytes : Text → Bool
  | '0' :: 'x' :: rest => rest.length % 2 == 0 && rest.all isHexDigit
  | _ => false

/-- Matches `/^0x[0-9a-fA-F]{64}$/`. -/
def hash (value : Option Value) : Option Text := do
  let text ← asText value
  guard (isHexText 64 text)
  return text

def bytes (value : Option Value) (maximum : Nat := 32768) : Option Text := do
  let text ← asText value
  guard (utf16Units text ≤ 2 + maximum * 2 && isBytes text)
  return text

/-- The 32 bytes of an unsigned integer. -/
def hexWord (n : Nat) : Text := '0' :: 'x' :: List.leftpad 64 '0' (Nat.toDigits 16 n)

/-- The hash of `Approval(address,address,uint256)`. -/
def approvalTopic : Text :=
  hexWord 0x8c5be1e5ebec7d5bd14f71427d1e84f3dd0314c0f7b2291e5b200ac8c7c3b925

/-- The hash of `Transfer(address,address,uint256)`. -/
def transferTopic : Text :=
  hexWord 0xddf252ad1be2c89b69c2b068fc378daa952ba7f163c4a11628f55a4df523b3ef

/-- The hash of `Pay(uint256,uint256,uint256,address,address,uint256,uint256,string,bytes,address)`. -/
def payTopic : Text :=
  hexWord 0x133161f1c9161488f777ab9a26aae91d47c0d9a3fafb398960f138db02c73797

/-- The word of an address. -/
def addressWord (address : Text) : Text := '0' :: 'x' :: (List.replicate 24 '0' ++ (lower address).drop 2)

/-- The arguments of the terminal's `pay`. -/
structure PayArguments where
  projectId : Nat
  token : Text
  amount : Nat
  beneficiary : Text
  minReturnedTokens : Nat
  memo : Text
  metadata : Text
  deriving DecidableEq

/-- A call of a token. Of any other than `approve` nothing is read. -/
inductive Erc20Call where
  | approve (spender : Text) (amount : Nat)
  | other

/-- The arguments of a token's `Approval` or `Transfer`. -/
structure TokenEvent where
  first : Text
  second : Text
  value : Nat

/-- The arguments of the terminal's `Pay`. -/
structure PayEvent where
  rulesetId : Nat
  rulesetCycleNumber : Nat
  projectId : Nat
  payer : Text
  beneficiary : Text
  amount : Nat
  newlyIssuedTokenCount : Nat
  memo : Text
  metadata : Text
  caller : Text
  deriving DecidableEq

/-- The coder of calls and events. What it cannot decode or encode it throws on; the checksum of an address is in the case
of its letters. -/
structure PaymentCodec where
  checksumAddress : Text → Text
  checksum_letters : ∀ text, isHexText 40 text = true → lower (checksumAddress text) = lower text
  decodePay : Text → Option PayArguments
  encodePay : PayArguments → Option Text
  decodeErc20 : Text → Option Erc20Call
  encodeApprove : Text → Nat → Option Text
  decodeTokenEvent : Text → List Text → Option TokenEvent
  decodePayEvent : Text → List Text → Option PayEvent
  encodePayData : PayEvent → Option Text

def zeroAddress : Text := '0' :: 'x' :: List.replicate 40 '0'

section
variable (codec : PaymentCodec)

/-- What `isAddress` accepts: 20 bytes in lower case, or as the checksum writes them. -/
def isAddress (text : Text) : Bool :=
  isHexText 40 text && (lower text == text || codec.checksumAddress text == text)

/-- An address other than zero, under its checksum. -/
def address (value : Option Value) : Option Text := do
  let text ← asText value
  guard (isAddress codec text && !same text zeroAddress)
  return codec.checksumAddress text

/-- `encodeEventTopics` of two indexed addresses. -/
def addressTopics (selector first second : Text) : Option (List Text) := do
  guard (isAddress codec first && isAddress codec second)
  return [selector, addressWord first, addressWord second]

end

/-- `encodeEventTopics` of three indexed integers. -/
def uintTopics (selector : Text) (first second third : Nat) : Option (List Text) := do
  guard (first < 2 ^ 256 ∧ second < 2 ^ 256 ∧ third < 2 ^ 256)
  return [selector, hexWord first, hexWord second, hexWord third]

/-- `encodeAbiParameters` of one integer. -/
def encodeUint (n : Nat) : Option Text := do
  guard (n < 2 ^ 256)
  return hexWord n

def sameTopics (a b : List Text) : Bool := a.length == b.length && (List.zip a b).all (fun (a, b) => same a b)

def baseChain : Int := 8453

/-- What the calls of a plan pay. The source keeps its integers as their decimal texts. -/
structure PaymentFacts where
  kind : String := "v6-usdc-pay"
  chainId : Int := baseChain
  account : Text
  token : Text
  terminal : Text
  projectId : Nat
  amount : Nat
  beneficiary : Text
  minimumReturnedTokens : Nat

structure WalletV6UsdcPayment extends PaymentFacts where
  memo : Text
  metadata : Text
  stepIndexes : List Nat
  approvalStepIndexes : List Nat
  paymentStepIndex : Nat
  resetAllowance : Bool

/-- The parties that the host's configuration and the draft name. -/
structure Parties where
  token : Text
  terminal : Text
  account : Text

section
variable (codec : PaymentCodec)

def readParties (draft trusted : Option Value) : Option Parties := do
  guard (isNumber (property trusted "chainId") baseChain && isText (property draft "operation") "pay")
  let token ← address codec (property trusted "token")
  let terminal ← address codec (property trusted "directV6Terminal")
  let account ← address codec (property draft "account")
  guard (!same token terminal && !same account terminal && !same account token)
  return { token, terminal, account }

/-- One to three calls, under their own indexes. -/
def readCalls (draft indexes : Option Value) : Option (List Value) := do
  let calls ← asItems (property draft "calls")
  let indexes ← asItems indexes
  guard (1 ≤ calls.length ∧ calls.length ≤ 3 ∧ indexes.length = calls.length)
  guard (indexes.zipIdx.all (fun (index, i) => isNumber (some index) i))
  return calls

def version6 (value : Option Value) : Bool := value.isNone || isNumber value 6

/-- The project of the draft: its identifier, and the text of it. -/
def readProject (draft : Option Value) : Option (Text × Nat) := do
  let project ← asObject (property draft "project")
  guard (isNumber (property (some project) "chainId") baseChain && version6 (property (some project) "version"))
  let text ← asText (property (some project) "projectId")
  guard (isPositiveDecimal text)
  let projectId ← uintText text
  return (text, projectId)

/-- Each call is worth nothing and follows the one before it. -/
def plainCall (call : Value) (i : Nat) : Bool :=
  isNumber (property (some call) "chainId") baseChain && isText (property (some call) "value") "0" &&
    (bytes (property (some call) "data")).isSome &&
    match asItems (property (some call) "dependsOn") with
    | some [] => i == 0
    | some [index] => i != 0 && isNumber (some index) (i - 1)
    | _ => false

def callData (call : Value) : Option Text := asText (property (some call) "data")

/-- The last call pays the terminal in the token. -/
def readPay (parties : Parties) (projectId : Nat) (last : Value) : Option (PayArguments × Text) := do
  let target ← address codec (property (some last) "to")
  guard (same target parties.terminal)
  let data ← callData last
  let args ← codec.decodePay data
  let encoded ← codec.encodePay args
  guard (same encoded data)
  guard (args.projectId = projectId ∧ same args.token parties.token ∧ 0 < args.amount ∧ args.amount ≠ 2 ^ 256 - 1 ∧
    (bytes (some (.text args.metadata)) 16384).isSome ∧ utf8Length args.memo ≤ 256)
  let beneficiary ← address codec (some (.text args.beneficiary))
  return (args, beneficiary)

/-- A call before the last lets the terminal spend the token. -/
def approves (parties : Parties) (call : Value) (expected : Nat) : Bool :=
  (do
    let target ← address codec (property (some call) "to")
    guard (same target parties.token)
    let data ← callData call
    match ← codec.decodeErc20 data with
    | .other => none
    | .approve spender amount => do
      guard (same spender parties.terminal ∧ amount = expected)
      let encoded ← codec.encodeApprove spender amount
      guard (same encoded data) : Option Unit).isSome

/-- What the approvals of so many calls allow, in order: of two, the first takes back what was allowed before. -/
def allowances (calls amount : Nat) : List Nat :=
  (List.range (calls - 1)).map (fun i => if calls = 3 ∧ i = 0 then 0 else amount)

def sameAddress (value : Option Value) (expected : Text) : Bool := (address codec value).any (same · expected)

/-- The summary that was reviewed says the same. -/
def summarizes (parties : Parties) (projectText : Text) (args : PayArguments) (beneficiary : Text)
    (draft : Option Value) : Bool :=
  (do
    let summary ← asObject (property draft "summary")
    let payment ← asObject (property (some summary) "payment")
    let quotedProject ← asObject (property (some summary) "project")
    let path ← asItems (property (some summary) "terminalPath")
    guard (isText (property (some summary) "operation") "pay" &&
      sameAddress codec (property (some summary) "account") parties.account &&
      isText (property (some summary) "route") "multi-terminal" &&
      sameAddress codec (property (some summary) "terminal") parties.terminal &&
      isNull (property (some summary) "routerGateway") && path.length == 1 &&
      sameAddress codec path.head? parties.terminal &&
      isNumber (property (some quotedProject) "chainId") baseChain &&
      asText (property (some quotedProject) "projectId") == some projectText &&
        version6 (property (some quotedProject) "version") &&
      sameAddress codec (property (some payment) "token") parties.token &&
      asText (property (some payment) "amount") == some (decimalText args.amount) &&
      isText (property (some payment) "unit") "token-base-units" &&
      sameAddress codec (property (some summary) "beneficiary") beneficiary &&
      asText (property (some summary) "minimumBeneficiaryTokenCount") == some (decimalText args.minReturnedTokens) &&
      (asText (property (some summary) "metadata")).any (same · args.metadata)) : Option Unit).isSome

/-- The payment a plan of exact calls makes; `none` for any other plan. -/
def recognizeWalletV6UsdcPayment (plan stepIndexes config : Value) : Option WalletV6UsdcPayment := do
  let plan ← snapshot plan 262144
  let draft := property (some plan) "draft"
  let indexes ← snapshot stepIndexes 128
  let trusted ← snapshot config 1024
  let parties ← readParties codec draft (some trusted)
  let calls ← readCalls draft (some indexes)
  let (projectText, projectId) ← readProject draft
  guard (calls.zipIdx.all (fun (call, i) => plainCall call i))
  let last ← calls.getLast?
  let (args, beneficiary) ← readPay codec parties projectId last
  guard ((List.zip calls.dropLast (allowances calls.length args.amount)).all (fun (call, expected) =>
    approves codec parties call expected))
  guard (summarizes codec parties projectText args beneficiary draft)
  return {
    account := parties.account, token := parties.token, terminal := parties.terminal, projectId := args.projectId,
    amount := args.amount, beneficiary, minimumReturnedTokens := args.minReturnedTokens, memo := args.memo,
    metadata := args.metadata, stepIndexes := List.range calls.length,
    approvalStepIndexes := List.range (calls.length - 1), paymentStepIndex := calls.length - 1,
    resetAllowance := calls.length == 3 }

end

/-- A log of the receipt, as far as it is read. -/
structure EventLog where
  emitter : Text
  index : Nat
  transactionIndex : Nat
  topics : List Text
  data : Text

/-- Where the receipt's logs have to be from. -/
structure LogScope where
  transactionHash : Text
  blockHash : Text
  blockNumber : Nat

/-- What the loop over the logs has collected. -/
structure Scan where
  previous : Option Nat := none
  transactionIndex : Option Nat := none
  approvals : List (Nat × Nat) := []
  transfers : List Nat := []
  pays : List Nat := []

/-- The log indexes that show a step. -/
structure EffectAssignment where
  stepIndex : Nat
  logIndexes : List Nat

structure PaymentEvidence where
  verifier : String := "exact-v6-usdc-payment-v1"
  payment : PaymentFacts
  assignments : List EffectAssignment
  minimumEvidence : String := "exact-successful-terminal-call"

inductive PaymentVerdict where
  | verified (details : PaymentEvidence)
  | failed (reason : String)
  | unknown (reason : String)

def PaymentVerdict.evidence? : PaymentVerdict → Option PaymentEvidence
  | verified details => some details
  | _ => none

section
variable (codec : PaymentCodec) (payment : WalletV6UsdcPayment) (scope : LogScope)

def readLog (input : Value) : Option EventLog := do
  let log ← asObject (some input)
  let transactionHash ← hash (property (some log) "transactionHash")
  let blockHash ← hash (property (some log) "blockHash")
  let blockNumber ← uint (property (some log) "blockNumber")
  guard (same transactionHash scope.transactionHash ∧ same blockHash scope.blockHash ∧ blockNumber = scope.blockNumber ∧
    isFalse (property (some log) "removed"))
  let data ← bytes (property (some log) "data") 262144
  let topics ← asItems (property (some log) "topics")
  guard (topics.length ≤ 4)
  let topics ← topics.mapM (fun topic => hash (some topic))
  let emitter ← address codec (property (some log) "address")
  let index ← uint (property (some log) "logIndex")
  let transactionIndex ← uint (property (some log) "transactionIndex")
  guard (index ≤ maxSafeInteger ∧ transactionIndex ≤ maxSafeInteger)
  return { emitter, index, transactionIndex, topics, data }

def EventLog.topic (log : EventLog) (i : Nat) : Text := (log.topics[i]?).getD []

def scanApproval (log : EventLog) (scan : Scan) : Option Scan := do
  let event ← codec.decodeTokenEvent log.data log.topics
  let topics ← addressTopics codec approvalTopic event.first event.second
  let data ← encodeUint event.value
  guard (sameTopics log.topics topics && same log.data data)
  if same event.first payment.account then do
    guard (same event.second payment.terminal)
    return { scan with approvals := scan.approvals ++ [(log.index, event.value)] }
  else return scan

def scanTransfer (log : EventLog) (scan : Scan) : Option Scan := do
  let event ← codec.decodeTokenEvent log.data log.topics
  let topics ← addressTopics codec transferTopic event.first event.second
  let data ← encodeUint event.value
  guard (sameTopics log.topics topics && same log.data data)
  if same event.first payment.account then do
    guard (same event.second payment.terminal ∧ event.value = payment.amount)
    return { scan with transfers := scan.transfers ++ [log.index] }
  else return scan

def scanPay (log : EventLog) (scan : Scan) : Option Scan := do
  let event ← codec.decodePayEvent log.data log.topics
  let topics ← uintTopics payTopic event.rulesetId event.rulesetCycleNumber event.projectId
  guard (sameTopics log.topics topics ∧ event.projectId = payment.projectId ∧ same event.payer payment.account ∧
    same event.caller payment.account ∧ same event.beneficiary payment.beneficiary ∧ event.amount = payment.amount ∧
    event.memo = payment.memo ∧ same event.metadata payment.metadata)
  let data ← codec.encodePayData event
  guard (same data log.data)
  return { scan with pays := scan.pays ++ [log.index] }

/-- Logs come in the order of their indexes, all from one transaction. -/
def Scan.advance (scan : Scan) (log : EventLog) : Option Scan := do
  guard (scan.previous.all (· < log.index) ∧ scan.transactionIndex.all (· == log.transactionIndex))
  return { scan with previous := some log.index, transactionIndex := some log.transactionIndex }

def scanLog (scan : Scan) (input : Value) : Option Scan := do
  let log ← readLog codec scope input
  let scan ← scan.advance log
  if same log.emitter payment.token then
    if same (log.topic 0) approvalTopic then scanApproval codec payment log scan
    else if same (log.topic 0) transferTopic then scanTransfer codec payment log scan
    else return scan
  else if same log.emitter payment.terminal && same (log.topic 0) payTopic then scanPay codec payment log scan
  else return scan

/-- One transfer before one payment, after the approvals of the plan. -/
def concludes (scan : Scan) : Option PaymentEvidence :=
  match scan.transfers, scan.pays with
  | [transfer], [pay] => do
    guard (scan.approvals.length = payment.approvalStepIndexes.length ∧ transfer < pay)
    guard (scan.approvals.zipIdx.all (fun ((index, value), i) =>
      value == (if payment.resetAllowance && i == 0 then 0 else payment.amount) && index < transfer))
    let approved := (List.zip payment.approvalStepIndexes scan.approvals).map (fun (stepIndex, (index, _)) =>
      ({ stepIndex, logIndexes := [index] } : EffectAssignment))
    return {
      payment := payment.toPaymentFacts
      assignments := approved ++ [{ stepIndex := payment.paymentStepIndex, logIndexes := [transfer, pay] }] }
  | _, _ => none

end

def unknownEffects : String :=
  "Exact modeled payment and distinct canonical operation-scoped effects are required."

def maximumLogs : Nat := 2048

/-- The scope and the logs of a canonical receipt. -/
def readReceipt (receipt : Option Value) : Option (Text × Text × List Value) := do
  guard (isTrue (property receipt "canonical") &&
    ((property receipt "logsStored").isNone || isTrue (property receipt "logsStored")))
  let transactionHash ← hash (property receipt "transactionHash")
  let blockHash ← hash (property receipt "blockHash")
  let logs ← asItems (property receipt "logs")
  guard (logs.length ≤ maximumLogs)
  return (transactionHash, blockHash, logs)

def paymentEffects (codec : PaymentCodec) (plan stepIndexes config scopedReceipt : Value) : Option PaymentVerdict := do
  let payment ← recognizeWalletV6UsdcPayment codec plan stepIndexes config
  let receipt ← snapshot scopedReceipt 524288
  let (transactionHash, blockHash, logs) ← readReceipt (some receipt)
  if isText (property (some receipt) "status") "reverted" then
    return .failed "The exact payment invocation reverted."
  else do
    guard (isText (property (some receipt) "status") "success")
    let blockNumber ← uint (property (some receipt) "blockNumber")
    let scan ← logs.foldlM (scanLog codec payment { transactionHash, blockHash, blockNumber }) {}
    let evidence ← concludes payment scan
    return .verified evidence

def verifyWalletV6UsdcPaymentEffects (codec : PaymentCodec) (plan stepIndexes config scopedReceipt : Value) :
    PaymentVerdict :=
  (paymentEffects codec plan stepIndexes config scopedReceipt).getD (.unknown unknownEffects)

end JBCenter.UserOperations.Semantics
