import JBCenter.Sponsorship.Store
import JBCenter.UserOperations.Types

/-! The transitions of a userOperation record: its creation, the claim that publishes its
signed bytes, the settlement of the bundler's answer, and what is observed of it on its chain. -/
namespace JBCenter.UserOperations
open Rest
open Sessions (UserOperationSessionBinding)
open Sponsorship (assertDispatchAuthorization)
open Transactions (assertActor assertText SemanticResult)

def fail (code message : String) (status : Nat) : RestError := ⟨status, code, message, none⟩

def conflict : RestError :=
  fail "USER_OPERATION_CONFLICT" "The UserOperation is already bound to different reviewed bytes." 409

def missing : RestError :=
  fail "USER_OPERATION_NOT_FOUND" "UserOperation preparation was not found for this principal." 404

def invalidOperation (message : String) : RestError := fail "INVALID_USER_OPERATION" message 400

def same (a b : String) : Bool := toLowerCase a = toLowerCase b

def owns (record : UserOperationRecord) (actor : RestActor) : Bool :=
  record.actor.accountId = actor.accountId && record.actor.principalId = actor.principalId

def clone (bytes : α → Nat) (value : α) : Except RestError α := do
  refuse (maximumBytes < bytes value)
    (fail "USER_OPERATION_STORAGE_LIMIT" "UserOperation data exceeds its storage bound." 413)
  return value

def assertKey (value : String) : Except RestError Unit :=
  refuse (!isIdempotencyKey value) (invalidOperation "Use a bounded idempotency key.")

def isHash (value : String) : Bool := isHex 64 value

def isAddress (value : String) : Bool := isHex 40 value

def isTime (value : Int) : Bool := isSafeInteger value && 0 ≤ value

def assertSessionBinding (session : UserOperationSessionBinding) : Except RestError Unit := do
  assertText session.id 192
  assertText session.grantId 192
  refuse (!(([session.policyHash, session.compiledHash, session.permissionId, session.observationHash]).all isHash) ||
      !isAddress session.sessionKey || !isUint256 session.generation || session.generation = "0")
    (invalidOperation "Invalid exact session identity.")

def differsFromPreparation : RestError :=
  invalidOperation "UserOperation encoding or hash differs from the preparation."

variable (encoding : Encoding) (codec : UserOperationCodec)

def assertNew (record : UserOperationRecord) (now : Int) : Except RestError Unit := do
  assertActor record.actor
  assertText record.id 192
  assertText record.planId 192
  assertText record.gasPolicyId 192
  assertText record.providerId 192
  assertKey record.preparationKey
  refuse (!(([record.planCommitment, record.operationHash, record.inputHash, record.commitment,
        record.accountBindingId, record.accountStateHash]).all isHash) ||
      !isAddress record.entryPoint || !isAddress record.sender || !isSafeInteger record.chainId ||
      record.chainId < 1 || !isTime now || !isTime record.createdAt || !isTime record.expiresAt ||
      now < record.createdAt || record.expiresAt ≤ now || record.revision ≠ 0 || record.state ≠ .prepared ||
      record.submission.isSome || record.observation.isSome || record.stepIndexes.length < 1 ||
      32 < record.stepIndexes.length || !record.stepIndexes.Nodup ||
      record.stepIndexes.any (fun index => !isSafeInteger index || index < 0 || 31 < index))
    (invalidOperation "Invalid UserOperation preparation.")
  let operation ← codec.parse record.operation
  refuse (operation ≠ record.operation || !same operation.sender record.sender) differsFromPreparation
  let digest ← codec.hash operation record.chainId record.entryPoint
  refuse (!same digest record.operationHash) differsFromPreparation
  optionally assertSessionBinding record.session
  discard (clone encoding.record record)

def assertClaim (input : UserOperationClaim) : Except RestError Unit := do
  assertActor input.actor
  assertText input.id 192
  assertKey input.key
  refuse (!isHash input.signedCommitment || !isTime input.now)
    (invalidOperation "Invalid signed UserOperation claim.")
  discard (clone encoding.claim input)

/-- The operation without its signature. -/
def UserOperationV07.unsigned (operation : UserOperationV07) : UserOperationV07 := { operation with signature := "" }

/-- The record with the fresh observation its session is dispatched under. -/
def dispatchRecord (record : UserOperationRecord) (input : UserOperationClaim) :
    Except RestError UserOperationRecord :=
  match record.session with
  | none => .ok record
  | some session =>
    match input.sessionObservationHash with
    | none => .error (invalidOperation "A fresh verified session observation hash is required.")
    | some observationHash => do
      refuse (!isHash observationHash) (invalidOperation "A fresh verified session observation hash is required.")
      return { record with session := some { session with observationHash } }

/-- A record is published once. The same signed bytes again, under any key, are answered with
it and dispatch nothing. -/
def claimed (record : UserOperationRecord) (input : UserOperationClaim) :
    Except RestError (UserOperationRecord × Bool) := do
  refuse (!owns record input.actor) missing
  let operation ← codec.parse input.operation
  let fullCommitment ← codec.signedCommitment operation record.chainId record.entryPoint
  refuse (operation ≠ input.operation || operation.signature = "0x" ||
    record.operation.unsigned ≠ operation.unsigned || !same fullCommitment input.signedCommitment) conflict
  let digest ← codec.hash operation record.chainId record.entryPoint
  refuse (!same digest record.operationHash) conflict
  match record.submission with
  | some submission =>
    refuse (!same submission.commitment fullCommitment || submission.operation ≠ operation) conflict
    let record ← clone encoding.record record
    return (record, false)
  | none =>
    refuse (record.state ≠ .prepared || record.expiresAt ≤ input.now)
      (fail "USER_OPERATION_EXPIRED" "Prepare a fresh UserOperation before submission." 409)
    assertDispatchAuthorization input.authorization input.now
    discard (dispatchRecord record input)
    let record ← clone encoding.record { record with
      revision := record.revision + 1
      state := .submitting
      submission := some {
        key := input.key
        commitment := fullCommitment
        operation
        startedAt := input.now
        sessionObservationHash := if record.session.isSome then input.sessionObservationHash else none } }
    return (record, true)

def settled (record : UserOperationRecord) (commitment : String) (state : UserOperationState) :
    Except RestError UserOperationRecord := do
  refuse (!record.submission.any (fun submission => same submission.commitment commitment)) conflict
  refuse (state ≠ .observed .pending && state ≠ .submissionUnknown)
    (invalidOperation "Invalid UserOperation settlement.")
  if record.observation.isSome || record.state = state then clone encoding.record record
  else clone encoding.record { record with state, revision := record.revision + 1 }

/-- An observation carries the evidence of the state it reports. -/
def assertEvidence (observation : UserOperationObservation) : Except RestError Unit := do
  refuse (observation.state = .expired && (observation.transactionHash.isSome || observation.receipt.isSome))
    (invalidOperation "An expired operation has no execution evidence.")
  refuse (observation.transactionHash.any (fun hash => !isHash hash)) (invalidOperation "Invalid transaction hash.")
  refuse (observation.receipt.any (fun receipt =>
      !observation.transactionHash.any (fun hash => same receipt.transactionHash hash)))
    (invalidOperation "Receipt does not match the execution transaction.")
  refuse (observation.state = .confirmed &&
      !observation.receipt.any (fun receipt => receipt.canonical && receipt.status = .success))
    (invalidOperation "Confirmed execution requires a canonical successful outer receipt.")
  refuse (observation.state = .reverted && !observation.receipt.any (fun receipt =>
      receipt.canonical && (receipt.status = .reverted || observation.semantic.any (·.status = .failed))))
    (invalidOperation "Reverted execution requires canonical failure evidence.")

/-- An expired operation released its nonce; nothing moves it back. -/
def observed (record : UserOperationRecord) (revision : Int) (observation : UserOperationObservation) :
    Except RestError UserOperationRecord := do
  refuse (!isSafeInteger revision || revision < 0) (invalidOperation "Invalid observation revision.")
  refuse (record.revision ≠ revision) conflict
  refuse (record.state = .observed .expired) conflict
  refuse (record.submission.isNone || !same observation.operationHash record.operationHash) conflict
  assertEvidence observation
  clone encoding.record { record with
    state := .observed observation.state
    revision := record.revision + 1
    observation := some observation }

/-- The `BigInt` of a hexadecimal quantity. -/
def hexValue (text : String) : Nat :=
  let digit (c : Char) : Nat :=
    if isDigit c then c.toNat - '0'.toNat
    else if inRange 'a' 'f' c then c.toNat - 'a'.toNat + 10
    else c.toNat - 'A'.toNat + 10
  (text.toList.drop 2).foldl (fun value c => 16 * value + digit c) 0

/-- The full sender nonce an operation uses on its chain. -/
def nonceKey (record : UserOperationRecord) : Int × String × Nat :=
  (record.chainId, toLowerCase record.sender, hexValue record.operation.nonce)

end JBCenter.UserOperations
