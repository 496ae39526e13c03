import JBCenter.Rest.Json
import JBCenter.Transactions.Memory
import JBCenter.UserOperations.Store

/-! The refresh of a plan: what the service makes of each step from what the chain and the observers of forwarded
executions answer, and the writes it asks the store for. A reply that fails is an error without a text, since every
failure of a step's refresh leaves the same unknown outcome. -/
namespace JBCenter.Transactions
open Rest

inductive ObservedState where
  | pending | unknown | confirming | confirmed | reverted | reorged | expired
  deriving DecidableEq

structure ExternalExecutionObservation where
  stepIndex : Int
  chainId : Int
  state : ObservedState
  hash : Option String := none
  receipt : Option StoredReceipt := none
  semantic : Option SemanticResult := none

inductive RpcRequest where
  | transactionReceipt (hash : String)
  | chainId
  | blockByNumber (number : Nat)
  | blockNumber

/-- What the refresh of one step hears, request by request, and the clock at each look. -/
structure Replies where
  observation : Except Unit ExternalExecutionObservation
  rpc : Nat → Int → RpcRequest → Except Unit Json
  semantics : Except Unit SemanticResult
  now : Nat → Int

/-- The service's configuration, with the functions it imports: the canonical text of a value, lengths in bytes, and
the hash of a list of logs. -/
structure RefreshService where
  observers : List ReservedTransport
  verifier : Bool
  confirmationPolicy : Int → Option Int
  canonical : Json → Payload
  payloadBytes : List Payload → Nat
  semanticBytes : SemanticResult → Nat
  logsHash : List Payload → String

def same (a b : String) : Bool := toLowerCase a = toLowerCase b

/-- An optional text that is set: the empty one counts as none. -/
def present (text : Option String) : Option String := text.filter (· ≠ "")

/-- A message as the JSON text it is stored as. -/
def detail (message : String) : Option Payload := some ("\"" ++ message ++ "\"")

/-- Matches `/^0x(?:0|[1-9a-fA-F][0-9a-fA-F]*)$/`. -/
def isQuantity (text : String) : Bool :=
  match text.toList with
  | ['0', 'x', '0'] => true
  | '0' :: 'x' :: first :: rest => isHexDigit first && first != '0' && rest.all isHexDigit
  | _ => false

def quantity : Option Json → Except Unit Nat
  | some (.text value) =>
    if 66 < utf16Length value || !isQuantity value then .error () else .ok (UserOperations.hexValue value)
  | _ => .error ()

namespace RefreshService

def confirmations (service : RefreshService) (chainId : Int) : Except Unit Int :=
  match service.confirmationPolicy chainId with
  | some count => if count < 1 || 1024 < count then .error () else .ok count
  | none => .error ()

end RefreshService

/-- What a receipt on the chain says, as far as it is kept. -/
structure ChainReceipt where
  blockHash : String
  blockNumber : Nat
  status : ReceiptStatus
  logs : List Payload

def receiptStatus : Option String → Option ReceiptStatus
  | some "0x1" => some .success
  | some "0x0" => some .reverted
  | _ => none

def readReceipt (service : RefreshService) (transactionHash : String) : Json → Except Unit ChainReceipt
  | .object receipt =>
    match (JsonFields.text receipt "transactionHash").filter (isHex 64), (JsonFields.text receipt "blockHash").filter (isHex 64),
      receiptStatus (JsonFields.text receipt "status"), JsonFields.field receipt "logs" with
    | some hash, some blockHash, some status, some (.array logs) => do
      refuse (!same hash transactionHash || 2048 < logs.length ||
        524288 < service.payloadBytes (logs.map service.canonical)) ()
      let blockNumber ← quantity (JsonFields.field receipt "blockNumber")
      return ⟨blockHash, blockNumber, status, logs.map service.canonical⟩
    | _, _, _, _ => .error ()
  | _ => .error ()

def blockHash : Json → Option String
  | .object block => (JsonFields.text block "hash").filter (isHex 64)
  | _ => none

def readBlock (number : Nat) (block : Json) : Except Unit String :=
  match block, blockHash block with
  | .object fields, some hash => do
    let held ← quantity (JsonFields.field fields "number")
    refuse (held ≠ number) ()
    return hash
  | _, _ => .error ()

/-- How many blocks the chain has from the receipt's block on, in a number that stays exact. -/
def countConfirmations (canonical : Bool) (head blockNumber : Nat) : Int :=
  if canonical && blockNumber ≤ head then min ((head : Int) - blockNumber + 1) maxSafeInteger else 0

def placedReceipt (replies : Replies) (first : Nat) (chainId : Int) (transactionHash : String) (receipt : ChainReceipt) :
    Except Unit StoredReceipt := do
  let block ← replies.rpc (first + 2) chainId (.blockByNumber receipt.blockNumber)
  let head ← replies.rpc (first + 3) chainId .blockNumber
  let hash ← readBlock receipt.blockNumber block
  let head ← quantity (some head)
  return { transactionHash, blockHash := receipt.blockHash, blockNumber := toString receipt.blockNumber
           status := receipt.status, canonical := same hash receipt.blockHash
           confirmations := countConfirmations (same hash receipt.blockHash) head receipt.blockNumber
           observedAt := replies.now first, logs := receipt.logs }

/-- The receipt of a transaction as the chain shows it, or none; the requests are numbered from `first`. -/
def observeReceipt (service : RefreshService) (replies : Replies) (first : Nat) (chainId : Int) (transactionHash : String) :
    Except Unit (Option StoredReceipt) := do
  let receipt ← replies.rpc first chainId (.transactionReceipt transactionHash)
  let chain ← replies.rpc (first + 1) chainId .chainId
  let chain ← quantity (some chain)
  refuse ((chain : Int) ≠ chainId) ()
  match receipt with
  | .null => return none
  | receipt => some <$> (readReceipt service transactionHash receipt >>= placedReceipt replies first chainId transactionHash)

/-- What is stored of a receipt: its logs are only counted and hashed. -/
def compactReceipt (service : RefreshService) (receipt : StoredReceipt) : StoredReceipt :=
  { receipt with
    logs := []
    logsStored := some false
    logCount := some receipt.logs.length
    logsHash := some (service.logsHash receipt.logs) }

def boundedSemantic (service : RefreshService) (semantic : SemanticResult) : Except Unit SemanticResult :=
  if 8192 < service.semanticBytes semantic then .error () else .ok semantic

def unknownSemantic : SemanticResult := ⟨.unknown, none⟩

def verifySemantics (service : RefreshService) (replies : Replies) : Except Unit SemanticResult :=
  if service.verifier then replies.semantics else .ok ⟨.unmodeled, none⟩

def replacedBlock (replies : Replies) (chainId : Int) (receipt : StoredReceipt) : Except Unit Bool := do
  let block ← replies.rpc 8 chainId (.blockByNumber (decimalValue receipt.blockNumber))
  return (blockHash block).any (fun hash => !same hash receipt.blockHash)

/-- A receipt whose block is no longer the chain's. -/
def reorgedReceipt (replies : Replies) (receipt : StoredReceipt) : StoredReceipt :=
  { receipt with canonical := false, confirmations := 0, observedAt := replies.now 8 }

def absentReceipt (replies : Replies) (step : StoredStep) (chainId : Int) : Except Unit StoredStep :=
  match step.receipt with
  | none => .ok step
  | some receipt => do
    let replaced ← replacedBlock replies chainId receipt
    return if replaced then
      { step with state := .reorged, receipt := some (reorgedReceipt replies receipt), semantic := some unknownSemantic }
    else { step with state := .unknown, semantic := some ⟨.unknown, detail "The previously observed receipt is unavailable."⟩ }

def observedAttempt (service : RefreshService) (replies : Replies) (step : StoredStep) (chainId : Int)
    (observed : StoredReceipt) : Except Unit StoredStep :=
  let compact := some (compactReceipt service observed)
  if !observed.canonical then .ok { step with state := .reorged, receipt := compact, semantic := some unknownSemantic }
  else do
    let required ← service.confirmations chainId
    if observed.confirmations < required then
      return { step with state := .confirming, receipt := compact, semantic := some unknownSemantic }
    else if observed.status = .reverted then
      return { step with state := .reverted, receipt := compact, semantic := some ⟨.failed,
        detail "The transaction reverted on the canonical chain."⟩ }
    else do
      let semantic ← verifySemantics service replies >>= boundedSemantic service
      return { step with state := .confirmed, receipt := compact, semantic := some semantic }

def verifyStep (service : RefreshService) (replies : Replies) (step : StoredStep) (attempt : SignedAttempt) :
    Except Unit StoredStep := do
  let observed ← observeReceipt service replies 0 attempt.chainId attempt.hash
  match observed with
  | none => absentReceipt replies step attempt.chainId
  | some observed => observedAttempt service replies step attempt.chainId observed

def refreshStep (service : RefreshService) (replies : Replies) (step : StoredStep) : StoredStep :=
  match step.attempt with
  | none => step
  | some attempt =>
    match verifyStep service replies step attempt with
    | .ok refreshed => refreshed
    | .error _ => { step with state := .unknown, semantic := some ⟨.unknown,
        detail "Canonical receipt or semantic evidence could not be verified."⟩ }

def unknownStep (step : StoredStep) (details : String) : StoredStep :=
  { step with state := .unknown, semantic := some ⟨.unknown, detail details⟩ }

def assertObservation (plan : StoredPlan) (step : StoredStep) (external : ExternalExecution)
    (observation : ExternalExecutionObservation) : Except Unit Unit :=
  refuse (observation.stepIndex ≠ step.index || observation.chainId ≠ external.chainId ||
    (at? plan.draft.calls step.index).map PlanCall.chainId ≠ some external.chainId ||
    observation.hash.any (fun hash => !isHex 64 hash)) ()

/-- An expired verdict comes from the chain: a hash that was stored earlier no longer means anything. -/
def observedHash (external : ExternalExecution) (observation : ExternalExecutionObservation) : Option String :=
  if observation.state = .expired then none else present (observation.hash.or external.transactionHash)

/-- The execution that was confirmed before, where another hash is reported now. -/
def earlierExecution (step : StoredStep) (external : ExternalExecution) (transactionHash : Option String) :
    Option (String × StoredReceipt) :=
  match transactionHash, present external.transactionHash, step.receipt with
  | some hash, some earlier, some receipt =>
    if !same hash earlier && step.state = .confirmed && receipt.canonical then some (earlier, receipt) else none
  | _, _, _ => none

def earlierSemantic (service : RefreshService) (replies : Replies) (step : StoredStep) (external : ExternalExecution) :
    Except Unit SemanticResult :=
  if external.transport ≠ .erc4337 && service.verifier then replies.semantics
  else .ok (step.semantic.getD unknownSemantic)

/-- A later retry of the provider does not replace an execution that still holds its canonical block. -/
def retained (service : RefreshService) (replies : Replies) (step : StoredStep) (external : ExternalExecution)
    (earlier : String × StoredReceipt) : Except Unit (Option StoredStep) := do
  let prior ← observeReceipt service replies 0 external.chainId earlier.1
  match prior.filter (fun prior => prior.canonical && prior.status = .success && same prior.blockHash earlier.2.blockHash) with
  | none => return none
  | some prior => do
    let semantic ← earlierSemantic service replies step external >>= boundedSemantic service
    let required ← service.confirmations external.chainId
    return some { step with
      state := if prior.confirmations < required then .confirming else .confirmed
      receipt := some (compactReceipt service prior)
      semantic := some semantic }

/-- The step with the hash that was reported, and its receipt where it is of that hash. -/
def baseStep (step : StoredStep) (external : ExternalExecution) (transactionHash : Option String) : StoredStep :=
  { step with
    externalExecution := some { external with transactionHash := transactionHash.or external.transactionHash }
    receipt := step.receipt.filter (fun receipt => transactionHash.any (same receipt.transactionHash)) }

/-- Without a hash there is nothing to prove; an expired operation is settled as failed. -/
def unpublished (base : StoredStep) (external : ExternalExecution) (observation : ExternalExecutionObservation) : StoredStep :=
  if observation.state = .expired then
    { base with
      externalExecution := some { external with transactionHash := none }
      state := .reverted
      semantic := some ⟨.failed, detail "The operation expired before inclusion; nothing executed."⟩ }
  else { base with state := if observation.state = .pending then .reserved else .unknown, semantic := some unknownSemantic }

def missingReceipt (replies : Replies) (base : StoredStep) (external : ExternalExecution)
    (observation : ExternalExecutionObservation) : Except Unit StoredStep :=
  match base.receipt with
  | none => .ok { base with
      state := if observation.state = .pending then .submitted else .unknown, semantic := some unknownSemantic }
  | some receipt => do
    let replaced ← replacedBlock replies external.chainId receipt
    return if replaced then
      { base with state := .reorged, receipt := some (reorgedReceipt replies receipt), semantic := some unknownSemantic }
    else { base with state := .unknown, semantic := some unknownSemantic }

/-- The observer's proof is of this transaction in this block. -/
def matchesProof (observation : ExternalExecutionObservation) (transactionHash : String) (receipt : StoredReceipt) : Bool :=
  observation.receipt.any (fun proof => proof.canonical && proof.status = .success &&
    same proof.transactionHash transactionHash && same proof.blockHash receipt.blockHash &&
    proof.blockNumber = receipt.blockNumber)

def executionSemantic (service : RefreshService) (replies : Replies) (external : ExternalExecution)
    (observation : ExternalExecutionObservation) : Except Unit SemanticResult :=
  if external.transport = .erc4337 then
    .ok (observation.semantic.getD ⟨.unknown, detail "Operation-scoped semantic evidence is required."⟩)
  else match observation.semantic.filter (fun semantic => semantic.status = .failed || semantic.status = .unknown) with
    | some semantic => .ok semantic
    | none => if service.verifier then replies.semantics else .ok (observation.semantic.getD ⟨.unmodeled, none⟩)

def observedExecution (service : RefreshService) (replies : Replies) (base : StoredStep) (external : ExternalExecution)
    (observation : ExternalExecutionObservation) (transactionHash : String) (receipt : StoredReceipt) :
    Except Unit StoredStep :=
  let compact := some (compactReceipt service receipt)
  if !receipt.canonical then .ok { base with state := .reorged, receipt := compact, semantic := some unknownSemantic }
  else do
    let required ← service.confirmations external.chainId
    if receipt.confirmations < required then
      return { base with state := .confirming, receipt := compact, semantic := some unknownSemantic }
    else if receipt.status = .reverted then
      return { base with state := .reverted, receipt := compact, semantic := some ⟨.failed,
        detail "The external transaction reverted on the canonical chain."⟩ }
    else if !matchesProof observation transactionHash receipt ||
        (observation.state ≠ .confirmed && observation.state ≠ .reverted) then
      return { base with state := .unknown, receipt := compact, semantic := some ⟨.unknown, detail
        "The outer transaction succeeded, but the exact bound inner execution has not been verified."⟩ }
    else if observation.state = .reverted then
      return { base with state := .reverted, receipt := compact, semantic := some ⟨.failed,
        detail "The bound forwarded inner execution failed."⟩ }
    else do
      let semantic ← executionSemantic service replies external observation >>= boundedSemantic service
      return { base with state := .confirmed, receipt := compact, semantic := some semantic }

def observedStep (service : RefreshService) (replies : Replies) (step : StoredStep) (external : ExternalExecution)
    (observation : ExternalExecutionObservation) (transactionHash : Option String) : Except Unit StoredStep :=
  let base := baseStep step external transactionHash
  match transactionHash with
  | none => .ok (unpublished base external observation)
  | some hash => do
    let receipt ← observeReceipt service replies 4 external.chainId hash
    match receipt with
    | none => missingReceipt replies base external observation
    | some receipt => observedExecution service replies base external observation hash receipt

/-- The execution that was confirmed before, where it still stands. -/
def retainedStep (service : RefreshService) (replies : Replies) (step : StoredStep) (external : ExternalExecution)
    (transactionHash : Option String) : Except Unit (Option StoredStep) :=
  match earlierExecution step external transactionHash with
  | some earlier => retained service replies step external earlier
  | none => .ok none

def verifyExternalStep (service : RefreshService) (replies : Replies) (plan : StoredPlan) (step : StoredStep)
    (external : ExternalExecution) : Except Unit StoredStep := do
  let observation ← replies.observation
  assertObservation plan step external observation
  let transactionHash := observedHash external observation
  let kept ← retainedStep service replies step external transactionHash
  match kept with
  | some kept => return kept
  | none => observedStep service replies step external observation transactionHash

def refreshExternalStep (service : RefreshService) (replies : Replies) (plan : StoredPlan) (step : StoredStep)
    (external : ExternalExecution) : StoredStep :=
  if external.transport ∉ service.observers then
    unknownStep step "The bound external execution verifier is unavailable."
  else match verifyExternalStep service replies plan step external with
    | .ok refreshed => refreshed
    | .error _ => unknownStep step "Canonical receipt or bound inner execution could not be verified."

def refreshedStep (service : RefreshService) (replies : Replies) (plan : StoredPlan) (step : StoredStep) : StoredStep :=
  match step.externalExecution with
  | some external => refreshExternalStep service replies plan step external
  | none => refreshStep service replies step

/-- The refreshed steps, each from its own replies. -/
def refreshedSteps (service : RefreshService) (replies : Int → Replies) (plan : StoredPlan) : List StoredStep :=
  plan.steps.map (fun step => refreshedStep service (replies step.index) plan step)

/-- The steps a save may write: a forwarded step stays as it is stored. -/
def directSteps (plan : StoredPlan) (steps : List StoredStep) : List StoredStep :=
  (plan.steps.zip steps).map (fun pair => if pair.2.externalExecution.isSome then pair.1 else pair.2)

def observationOf (step : StoredStep) (external : ExternalExecution) : ExternalStepObservation where
  index := step.index
  state := if step.state = .waiting then .reserved else step.state
  transactionHash := present external.transactionHash
  receipt := step.receipt
  semantic := step.semantic

abbrev Bindings := OrderedMap String (List ExternalStepObservation)

/-- One step of the loop that collects, binding by binding, the observations that changed. -/
def collect (plan : StoredPlan) (bindings : Bindings) (step : StoredStep) : Bindings :=
  match step.externalExecution with
  | none => bindings
  | some external =>
    if at? plan.steps step.index = some step then bindings
    else bindings.set external.bindingId
      ((bindings.get external.bindingId).getD [] ++ [observationOf step external])

def externalUpdates (plan : StoredPlan) (steps : List StoredStep) : Bindings :=
  steps.foldl (collect plan) .empty

variable (bytes : JsonBytes)

def saveDirect (plan : StoredPlan) (direct : List StoredStep) : Except RestError StoredPlan :=
  if direct = plan.steps then .ok plan
  else do
    assertSavedSteps bytes plan direct
    boundedClone bytes.plan { plan with revision := plan.revision + 1, steps := direct }

/-- What the refresh writes of a plan that no one else writes meanwhile; a write of another's is a revision conflict,
after which the code reads the plan again. -/
def refreshStored (service : RefreshService) (replies : Int → Replies) (plan : StoredPlan) : Except RestError StoredPlan :=
  let steps := refreshedSteps service replies plan
  if steps = plan.steps then .ok plan
  else do
    let saved ← saveDirect bytes plan (directSteps plan steps)
    (externalUpdates plan steps).entries.foldlM
      (fun saved group => applyExternalObservations bytes saved group.1 group.2) saved

end JBCenter.Transactions
