import JBCenter.Rest.Core

/-! What a trusted observer saw of a signed wallet deployment. Hashes and addresses are words,
quantities are numbers below a bound, and a digest stands for the value it was taken of. -/
namespace JBCenter.Deployments
open Rest

abbrev Word := BitVec 256
abbrev Address := BitVec 160

/-- A block of the one chain these deployments are for. -/
structure RestBlockEvidence where
  blockNumber : Nat
  blockHash : Word
  timestamp : Nat
  deriving DecidableEq

/-- The transaction a claim froze: what the store reads of it, and the rest. -/
structure WalletDeploymentTemplate where
  sender : Address
  predictedSafe : Address
  initializerHash : Word
  nonce : Nat
  gas : Nat
  maxFeePerGas : Nat
  maxPriorityFeePerGas : Nat
  /-- The destination and its calldata. -/
  call : Payload
  commitments : Payload
  deriving DecidableEq

inductive TransactionState where
  | notObserved
  | pending
  | canonicalSuccess
  | canonicalRevert
  | reorged
  | nonceConflict
  | unknown
  deriving DecidableEq

inductive ReceiptStatus where
  | success
  | reverted
  deriving DecidableEq

structure Receipt where
  block : RestBlockEvidence
  transactionIndex : Nat
  status : ReceiptStatus
  gasUsed : Nat
  effectiveGasPrice : Nat
  logCount : Int
  logsHash : Word
  deriving DecidableEq

structure NonceConflict where
  transactionHash : Word
  block : RestBlockEvidence
  transactionIndex : Nat
  deriving DecidableEq

structure Nonces where
  confirmed : Nat
  pending : Nat
  deriving DecidableEq

structure ObservedTransaction where
  state : TransactionState
  reason : Option String
  receipt : Option Receipt
  conflict : Option NonceConflict
  nonce : Option Nonces
  deriving DecidableEq

inductive FinalityState where
  | finalized
  | unfinalized
  | unknown
  deriving DecidableEq

structure Finality where
  state : FinalityState
  evidence : Option RestBlockEvidence
  deriving DecidableEq

inductive WalletState where
  | undeployed
  | verified
  | unknown
  deriving DecidableEq

structure ObservedWallet where
  state : WalletState
  address : Address
  initializerHash : Word
  stateHash : Option Word
  evidence : Option RestBlockEvidence
  creationTransaction : Option Word
  reason : Option String
  deriving DecidableEq

structure WalletDeploymentObservation where
  operationId : String
  templateCommitment : WalletDeploymentTemplate
  transactionHash : Word
  observedAt : Int
  head : Option RestBlockEvidence
  transaction : ObservedTransaction
  finality : Finality
  wallet : ObservedWallet
  executionWei : Option Nat
  deriving DecidableEq

def invalidObservation : RestError :=
  ⟨400, "WALLET_DEPLOYMENT_OBSERVATION_INVALID", "Deployment observation fields or evidence are inconsistent.", none⟩

def maximumQuantity : Nat := 2 ^ 256 - 1

def positiveTime (value : Int) : Bool := isSafeInteger value && value > 0

def isLowerOrDigit (c : Char) : Bool := inRange 'a' 'z' c || isDigit c

/-- The rest of `/^[a-z][a-z0-9]*(?:-[a-z0-9]+)*$/` after its first letter. -/
def kebab (afterDash : Bool) : List Char → Bool
  | [] => !afterDash
  | c :: rest => if c = '-' then !afterDash && kebab true rest else isLowerOrDigit c && kebab false rest

def isReason (text : String) : Bool :=
  text.length ≤ 128 && match text.toList with
  | [] => false
  | c :: rest => inRange 'a' 'z' c && kebab false rest

def wellFormedBlock (block : RestBlockEvidence) : Bool :=
  block.blockNumber ≤ maximumQuantity && block.timestamp ≤ maximumQuantity && block.blockHash != 0

def wellFormedReceipt (receipt : Receipt) : Bool :=
  wellFormedBlock receipt.block && receipt.transactionIndex ≤ maximumQuantity && receipt.gasUsed ≤ maximumQuantity &&
  receipt.effectiveGasPrice ≤ maximumQuantity && 0 ≤ receipt.logCount && receipt.logCount ≤ 10000 && receipt.logsHash != 0

def wellFormedConflict (conflict : NonceConflict) : Bool :=
  conflict.transactionHash != 0 && wellFormedBlock conflict.block && conflict.transactionIndex ≤ maximumQuantity

def wellFormedNonces (nonce : Nonces) : Bool :=
  nonce.confirmed ≤ maximumQuantity && nonce.pending ≤ maximumQuantity && !(nonce.pending < nonce.confirmed)

/-- Every part of the observation has the shape its schema gives it. -/
def wellFormed (value : WalletDeploymentObservation) : Bool :=
  positiveTime value.observedAt && value.transactionHash != 0 && value.head.all wellFormedBlock &&
  value.transaction.reason.all isReason && value.transaction.receipt.all wellFormedReceipt &&
  value.transaction.conflict.all wellFormedConflict && value.transaction.nonce.all wellFormedNonces &&
  value.finality.evidence.all wellFormedBlock && value.wallet.address > 1 && value.wallet.initializerHash != 0 &&
  value.wallet.stateHash.all (· != 0) && value.wallet.evidence.all wellFormedBlock &&
  value.wallet.creationTransaction.all (· != 0) && value.wallet.reason.all isReason &&
  value.executionWei.all (· ≤ maximumQuantity)

def canonicalObservation (value : WalletDeploymentObservation) : Bool :=
  value.transaction.state = .canonicalSuccess || value.transaction.state = .canonicalRevert

def statusOf (state : TransactionState) : ReceiptStatus :=
  if state = .canonicalSuccess then .success else .reverted

/-- A block no higher than the head. -/
def belowHead (head : Option RestBlockEvidence) (block : RestBlockEvidence) : Bool :=
  match head with
  | none => false
  | some head => block.blockNumber ≤ head.blockNumber

/-- The transaction's state, its receipt and its conflict go together. -/
def coherentTransaction (value : WalletDeploymentObservation) : Bool :=
  let transaction := value.transaction
  (value.head.isSome || transaction.state = .unknown || transaction.state = .reorged) &&
  (if canonicalObservation value then
    value.head.isSome && transaction.receipt.any (·.status = statusOf transaction.state)
  else transaction.receipt.isNone && value.executionWei.isNone) &&
  (!(transaction.state = .unknown || transaction.state = .reorged || transaction.state = .nonceConflict) ||
    transaction.reason.isSome) &&
  decide (transaction.state = .nonceConflict) = transaction.conflict.isSome &&
  transaction.conflict.all (·.transactionHash != value.transactionHash) &&
  transaction.receipt.all (fun receipt => belowHead value.head receipt.block) &&
  transaction.conflict.all (fun conflict => belowHead value.head conflict.block)

/-- Finality is evidence of a block that has, or has not, reached the receipt's. -/
def coherentFinality (value : WalletDeploymentObservation) : Bool :=
  match value.finality.state with
  | .unknown => value.finality.evidence.isNone
  | state =>
    match canonicalObservation value, value.transaction.receipt, value.finality.evidence with
    | true, some receipt, some evidence => belowHead value.head evidence &&
        decide (state = .finalized) = decide (evidence.blockNumber ≥ receipt.block.blockNumber)
    | _, _, _ => false

def coherentWallet (value : WalletDeploymentObservation) : Bool :=
  let wallet := value.wallet
  match wallet.state with
  | .unknown => wallet.reason.isSome && wallet.stateHash.isNone && wallet.evidence.isNone && wallet.creationTransaction.isNone
  | state =>
    match value.head, wallet.evidence with
    | some head, some evidence => wallet.reason.isNone && evidence.blockNumber = head.blockNumber &&
        (if state = .verified then wallet.stateHash.isSome && wallet.creationTransaction.isSome
        else wallet.stateHash.isNone && wallet.creationTransaction.isNone)
    | _, _ => false

/-- The blocks an observation names, in the order they are compared. -/
def blocksOf (value : WalletDeploymentObservation) : List RestBlockEvidence :=
  [value.head, value.transaction.receipt.map (·.block), value.transaction.conflict.map (·.block), value.finality.evidence,
    value.wallet.evidence].filterMap (fun block => block)

/-- Every repeated height and hash describes the same block. -/
def sameBlocks : List RestBlockEvidence → Bool
  | [] => true
  | block :: rest => rest.all (fun other =>
      (other.blockNumber != block.blockNumber && other.blockHash != block.blockHash) || other == block) && sameBlocks rest

def coherentReceipt (value : WalletDeploymentObservation) : Bool :=
  value.transaction.receipt.all (fun receipt =>
    !(receipt.status = .reverted && receipt.logCount != 0) &&
    receipt.gasUsed * receipt.effectiveGasPrice ≤ maximumQuantity &&
    value.executionWei = some (receipt.gasUsed * receipt.effectiveGasPrice))

def assertWalletDeploymentObservation (value : WalletDeploymentObservation) : Except RestError Unit :=
  refuse (!(wellFormed value && coherentTransaction value && coherentFinality value && coherentWallet value &&
    sameBlocks (blocksOf value) && coherentReceipt value)) invalidObservation

end JBCenter.Deployments
