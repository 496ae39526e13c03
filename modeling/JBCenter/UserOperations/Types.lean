import JBCenter.Sessions.Types
import JBCenter.Sponsorship.Types
import JBCenter.Transactions.Types

/-! The records of the userOperation store: a prepared operation, the one submission of its
signed bytes, and what was last observed of it on its chain. -/
namespace JBCenter.UserOperations
open Rest
open Sessions (UserOperationSessionBinding)
open Sponsorship (Authorization)
open Transactions (StoredReceipt SemanticResult)

structure UserOperationV07 where
  sender : String
  nonce : String
  factory : Option String := none
  factoryData : Option String := none
  callData : String
  callGasLimit : String
  verificationGasLimit : String
  preVerificationGas : String
  maxFeePerGas : String
  maxPriorityFeePerGas : String
  paymaster : Option String := none
  paymasterVerificationGasLimit : Option String := none
  paymasterPostOpGasLimit : Option String := none
  paymasterData : Option String := none
  signature : String
  deriving DecidableEq

/-- An operation that expired was never included and can no longer execute. -/
inductive ObservationState where
  | pending | unknown | confirming | confirmed | reverted | expired
  deriving DecidableEq

/-- What was seen of an operation. `details` holds its logs, its reason and when and where it
was made, which the store keeps and never reads. -/
structure UserOperationObservation where
  state : ObservationState
  operationHash : String
  transactionHash : Option String := none
  receipt : Option StoredReceipt := none
  semantic : Option SemanticResult := none
  details : Payload

inductive UserOperationState where
  | prepared
  | submitting
  | submissionUnknown
  | observed (state : ObservationState)
  deriving DecidableEq

structure Submission where
  key : String
  commitment : String
  operation : UserOperationV07
  startedAt : Int
  sessionObservationHash : Option String

structure UserOperationRecord where
  id : String
  actor : RestActor
  planId : String
  planCommitment : String
  stepIndexes : List Int
  chainId : Int
  entryPoint : String
  sender : String
  operation : UserOperationV07
  operationHash : String
  preparationKey : String
  inputHash : String
  commitment : String
  accountBindingId : String
  accountStateHash : String
  session : Option UserOperationSessionBinding
  gasPolicyId : String
  providerId : String
  createdAt : Int
  expiresAt : Int
  revision : Int
  state : UserOperationState
  submission : Option Submission
  observation : Option UserOperationObservation

structure UserOperationClaim where
  actor : RestActor
  id : String
  key : String
  operation : UserOperationV07
  signedCommitment : String
  authorization : Authorization
  sessionObservationHash : Option String
  now : Int

/-- The trusted local codec: the normal form of an operation, its hash, and the commitment to
its signed bytes. -/
structure UserOperationCodec where
  parse : UserOperationV07 → Except RestError UserOperationV07
  hash : UserOperationV07 → Int → String → Except RestError String
  signedCommitment : UserOperationV07 → Int → String → Except RestError String

/-- The bytes of each document in canonical JSON. -/
structure Encoding where
  record : UserOperationRecord → Nat
  claim : UserOperationClaim → Nat
  observation : UserOperationObservation → Nat

def maximumBytes : Nat := 1048576
def recordsPerAccount : Nat := 1000

end JBCenter.UserOperations
