import JBCenter.Transactions.Types

/-! The pure half of the transaction store: the checks on a request and the document a
successful request leaves. Checks are made in the order of the source, so that the first
error is the one it throws. -/
namespace JBCenter.Transactions
open Rest

def conflict (message : String) : RestError := ⟨409, "TRANSACTION_CONFLICT", message, none⟩
def invalid (message : String) : RestError := ⟨400, "INVALID_INPUT", message, none⟩
def missingPlan : RestError := ⟨404, "PLAN_NOT_FOUND", "Transaction plan was not found.", none⟩
def storageLimit : RestError := ⟨429, "STORAGE_LIMIT", "Transaction storage limit exceeded.", none⟩

def assertText (value : String) (maximum : Nat) : Except RestError Unit :=
  refuse (value.length < 1 || maximum < value.utf8ByteSize || value.toList.any isControl)
    (invalid "Invalid storage identifier.")

def assertActor (actor : RestActor) : Except RestError Unit := do
  assertText actor.accountId 192
  assertText actor.principalId 256

def assertTime (value : Int) : Except RestError Unit :=
  refuse (!isSafeInteger value || value < 0) (invalid "Invalid transaction timestamp.")

def assertRevision (value : Int) : Except RestError Unit :=
  refuse (!isSafeInteger value || value < 0 || maxSafeInteger ≤ value) (invalid "Invalid plan revision.")

def owns (plan : StoredPlan) (actor : RestActor) : Bool := plan.actor = actor

def canRead (plan : StoredPlan) (actor : RestActor) : Bool :=
  owns plan actor ||
    (actor.accountId = plan.actor.accountId && actor.principalId = "owner:" ++ actor.accountId)

def idemKey (actor : RestActor) (key : String) : String × String × String :=
  (actor.accountId, actor.principalId, key)

def nonceKey (attempt : SignedAttempt) : Int × String × String :=
  (attempt.chainId, toLowerCase attempt.sender, attempt.nonce)

def assertIdempotency (value : IdempotencyClaim) : Except RestError Unit := do
  refuse (!isIdempotencyKey value.key) (invalid "Invalid idempotency key.")
  assertText value.requestHash 192
  assertText value.operation 128

def checkIdempotency (existing : Option StoredIdempotency) (claim : IdempotencyClaim)
    (target : Option (String × Int)) : Except RestError Unit := do
  assertIdempotency claim
  match existing with
  | none => pure ()
  | some found =>
    refuse (found.claim.requestHash ≠ claim.requestHash || found.claim.operation ≠ claim.operation ||
        (match target with
        | none => false
        | some (planId, stepIndex) => found.planId ≠ planId || found.stepIndex ≠ some stepIndex))
      (conflict "Idempotency key was already used for another request.")

/-- A copy is the document itself here; only the size of its encoding can refuse it. -/
def boundedClone (bytes : α → Nat) (value : α) : Except RestError α := do
  refuse (maximumPlanBytes < bytes value) storageLimit
  pure value

def assertNewStep (index : Nat) (step : StoredStep) : Bool :=
  step.index = index && step.state = .waiting && step.attempt.isNone &&
    step.externalExecution.isNone && step.receipt.isNone && step.semantic.isNone

def assertNewPlan (bytes : JsonBytes) (plan : StoredPlan) (now : Int) : Except RestError Unit := do
  assertActor plan.actor
  assertText plan.id 192
  assertTime now
  assertTime plan.createdAt
  assertTime plan.expiresAt
  refuse (now < plan.createdAt || plan.expiresAt ≤ now || plan.expiresAt ≤ plan.createdAt ||
      plan.revision ≠ 0 || !isHex 64 plan.commitment || !isHex 40 plan.draft.account ||
      plan.steps.length < 1 || maximumSteps < plan.steps.length ||
      plan.steps.length ≠ plan.draft.calls.length ||
      plan.steps.zipIdx.any (fun (step, index) => !assertNewStep index step))
    (invalid "Invalid initial transaction plan.")
  discard (boundedClone bytes.plan plan)

def assertAttempt (value : SignedAttempt) : Except RestError Unit := do
  refuse (!isHex 64 value.hash || !isHexBytes value.rawTransaction || !isHex 40 value.sender ||
      !isSafeInteger value.chainId || value.chainId < 1)
    (invalid "Invalid signed transaction reservation.")
  [value.nonce, value.gas, value.maximumFeePerGas, value.maximumCost].forM fun amount =>
    refuse (!isUint256 amount) (invalid "Invalid transaction integer.")
  assertTime value.reservedAt
  assertTime value.leaseUntil
  assertText value.leaseToken 192
  refuse (!isSafeInteger value.dispatchCount || value.dispatchCount < 0) (invalid "Invalid dispatch count.")

/-- What makes two submissions the same signed transaction, hexadecimal case aside. -/
structure AttemptIdentity where
  hash : String
  rawTransaction : String
  sender : String
  chainId : Int
  nonce : String
  type : TransactionType
  gas : String
  maximumFeePerGas : String
  maximumCost : String
  deriving DecidableEq

def attemptIdentity (attempt : SignedAttempt) : AttemptIdentity where
  hash := toLowerCase attempt.hash
  rawTransaction := toLowerCase attempt.rawTransaction
  sender := toLowerCase attempt.sender
  chainId := attempt.chainId
  nonce := attempt.nonce
  type := attempt.type
  gas := attempt.gas
  maximumFeePerGas := attempt.maximumFeePerGas
  maximumCost := attempt.maximumCost

def sameAttempt (a b : SignedAttempt) : Bool := attemptIdentity a = attemptIdentity b

def assertSavedStep (index : Nat) (previous step : StoredStep) : Except RestError Unit := do
  refuse (step.index ≠ index) (invalid "Invalid transaction step.")
  refuse ((step.externalExecution.isSome || previous.externalExecution.isSome) && step ≠ previous)
    (conflict "External execution observations require their bound transport update.")
  refuse (step.attempt ≠ previous.attempt)
    (conflict "Signed transaction reservations can only be changed through submission claims.")

def assertSavedSteps (bytes : JsonBytes) (plan : StoredPlan) (steps : List StoredStep) :
    Except RestError Unit := do
  refuse (steps.length ≠ plan.steps.length) (invalid "Plan steps cannot be added or removed.")
  (plan.steps.zip steps).zipIdx.forM fun (pair, index) => assertSavedStep index pair.1 pair.2
  discard (boundedClone bytes.plan { plan with steps })

structure PreparedClaim where
  plan : StoredPlan
  dispatch : Bool
  changed : Bool

/-- The outcome a dependent call waits for. -/
def dependencyConfirmed (plan : StoredPlan) (dependency : Int) : Bool :=
  match at? plan.steps dependency with
  | none => false
  | some required =>
    required.state = .confirmed &&
      (match required.receipt with
      | none => false
      | some receipt => receipt.canonical && receipt.status = .success) &&
      (match required.semantic with
      | none => false
      | some semantic => semantic.status = .verified || semantic.status = .unmodeled)

def assertAuthorization (authorization : Option Authorization) (now : Int) : Except RestError Unit :=
  match authorization with
  | none => pure ()
  | some window =>
    let currentSeconds := now / 1000
    refuse (!isSafeInteger window.issuedAt || !isSafeInteger window.expiresAt || window.issuedAt < 0 ||
        window.expiresAt ≤ currentSeconds || currentSeconds + 30 < window.issuedAt ||
        window.expiresAt ≤ window.issuedAt || 300 < window.expiresAt - window.issuedAt)
      ⟨401, "AUTH_EXPIRED",
        "Dispatch authorization expired or has an invalid validity window. Sign a fresh request.", none⟩

/-- The plan with one step replaced and its revision advanced. -/
def withStep (plan : StoredPlan) (index : Int) (step : StoredStep) : StoredPlan :=
  { plan with steps := plan.steps.set index.toNat step, revision := plan.revision + 1 }

/-- A submission observed elsewhere is recorded without a lease or a dispatch. -/
def recordedAttempt (attempt : SignedAttempt) : SignedAttempt :=
  { attempt with leaseUntil := 0, dispatchCount := 0 }

/-- A dispatch renews the lease of the attempt the step holds, or starts the first one. -/
def dispatchedAttempt (held : Option SignedAttempt) (attempt : SignedAttempt) : SignedAttempt :=
  match held with
  | some held => { held with
      leaseToken := attempt.leaseToken
      leaseUntil := attempt.leaseUntil
      dispatchCount := held.dispatchCount + 1 }
  | none => { attempt with dispatchCount := 1 }

def prepareClaim (bytes : JsonBytes) (plan : StoredPlan) (claim : SubmissionClaim) :
    Except RestError PreparedClaim := do
  assertRevision claim.expectedRevision
  assertTime claim.now
  assertAttempt claim.attempt
  refuse (!isSafeInteger claim.stepIndex) (invalid "Invalid transaction step index.")
  let some step := at? plan.steps claim.stepIndex
    | .error (invalid "Invalid transaction step index.")
  refuse step.externalExecution.isSome (conflict "This step is bound to an external execution transport.")
  refuse (step.attempt.any (fun attempt => !sameAttempt attempt claim.attempt))
    (conflict "A different signed transaction is already reserved for this step.")
  refuse (step.attempt.isNone && plan.revision ≠ claim.expectedRevision)
    (conflict "Transaction plan changed; inspect it before retrying.")
  if step.attempt.isNone && !claim.dispatch then
    discard (boundedClone bytes.plan plan)
    let next ← boundedClone bytes.plan (withStep plan claim.stepIndex
      { index := claim.stepIndex, state := .submitted,
        attempt := some (recordedAttempt claim.attempt) })
    return { plan := next, dispatch := false, changed := true }
  if !claim.dispatch || step.state = .confirmed || step.state = .reverted ||
      step.attempt.any (fun attempt => claim.now < attempt.leaseUntil) then
    return { plan, dispatch := false, changed := false }
  refuse (plan.revision ≠ claim.expectedRevision)
    (conflict "Transaction plan changed; inspect it before retrying.")
  refuse (plan.expiresAt ≤ claim.now) (conflict "Transaction plan expired before the dispatch claim.")
  assertAuthorization claim.authorization claim.now
  ((at? plan.draft.calls claim.stepIndex).elim [] PlanCall.dependsOn).forM fun dependency =>
    refuse (!dependencyConfirmed plan dependency)
      (conflict "Transaction dependencies are not confirmed with verified outcomes.")
  refuse (claim.attempt.leaseUntil ≤ claim.now || 120000 < claim.attempt.leaseUntil - claim.now ||
      claim.now < claim.attempt.reservedAt) (invalid "Dispatch lease must be current.")
  refuse (step.attempt.any (fun attempt => attempt.leaseToken = claim.attempt.leaseToken))
    (conflict "A renewed dispatch lease must use a new token.")
  discard (boundedClone bytes.plan plan)
  let next ← boundedClone bytes.plan (withStep plan claim.stepIndex
    { step with attempt := some (dispatchedAttempt step.attempt claim.attempt), state := .reserved })
  return { plan := next, dispatch := true, changed := true }

/-- The step a settlement leaves. A late network response cannot roll back receipt
reconciliation. -/
def settledStep (current : StoredStep) (attempt : SignedAttempt) (patch : SubmissionPatch) : StoredStep :=
  { current with
    state :=
      if current.receipt.isNone && current.state ∉
        [StepState.confirmed, StepState.reverted, StepState.confirming, StepState.reorged]
      then patch.state else current.state
    attempt := some { attempt with
      broadcastAt := patch.broadcastAt.or attempt.broadcastAt
      lastError := patch.lastError.or attempt.lastError } }

def assertLastError (error : LastError) : Except RestError Unit := do
  assertText error.code 128
  assertText error.message 2000

def settle (bytes : JsonBytes) (plan : StoredPlan) (index : Int) (leaseToken : String)
    (patch : SubmissionPatch) : Except RestError StoredPlan := do
  refuse (!isSafeInteger index) (invalid "Invalid transaction step index.")
  let some current := at? plan.steps index | .error (invalid "Invalid transaction step index.")
  assertText leaseToken 192
  optionally assertTime patch.broadcastAt
  optionally assertLastError patch.lastError
  let some attempt := current.attempt | return plan
  if attempt.leaseToken ≠ leaseToken then
    return plan
  discard (boundedClone bytes.plan plan)
  optionally (fun error => discard (boundedClone bytes.lastError error)) patch.lastError
  let step := settledStep current attempt patch
  if step = current then
    return plan
  boundedClone bytes.plan (withStep plan index step)

def assertExternalIndexes (plan : StoredPlan) (indexes : List Int) : Except RestError Unit :=
  refuse (indexes.length < 1 || maximumSteps < indexes.length || !indexes.Nodup ||
      indexes.any (fun index => !isSafeInteger index || index < 0 || (plan.steps.length : Int) ≤ index))
    (invalid "Invalid external execution step indexes.")

/-- One binding of `attachExternalExecutions`: the steps so far, and whether one changed. -/
def attachBinding (plan : StoredPlan) (progress : List StoredStep × Bool) (binding : TransportReservation) :
    Except RestError (List StoredStep × Bool) := do
  if binding.transport = .direct then
    return progress
  assertExternalIndexes plan [binding.stepIndex]
  assertText binding.bindingId 192
  let some step := at? progress.1 binding.stepIndex
    | .error (invalid "Invalid external execution step indexes.")
  let some call := at? plan.draft.calls binding.stepIndex
    | .error (invalid "Invalid external execution step indexes.")
  refuse step.attempt.isSome
    (conflict "An owner-signed attempt cannot be replaced by a forwarded execution.")
  match step.externalExecution with
  | some external =>
    refuse (external.transport ≠ binding.transport || external.bindingId ≠ binding.bindingId ||
        external.chainId ≠ call.chainId)
      (conflict "The external execution binding differs from its permanent reservation.")
    return progress
  | none =>
    refuse (step.state ≠ .waiting || step.receipt.isSome || step.semantic.isSome)
      (conflict "The unbound step already has execution observations.")
    return (progress.1.set binding.stepIndex.toNat
      { step with
        externalExecution := some ⟨binding.transport, binding.bindingId, call.chainId, none⟩
        state := .reserved }, true)

def attachExternalExecutions (bytes : JsonBytes) (plan : StoredPlan) (bindings : List TransportReservation) :
    Except RestError StoredPlan := do
  discard (boundedClone bytes.plan plan)
  let (steps, changed) ← bindings.foldlM (attachBinding plan) (plan.steps, false)
  if !changed then
    return plan
  boundedClone bytes.plan { plan with steps, revision := plan.revision + 1 }

def assertExternalReceipt (bytes : JsonBytes) (transactionHash : Option String) (receipt : StoredReceipt) :
    Except RestError Unit := do
  refuse ((match transactionHash with
      | none => true
      | some hash => hash.length < 1 || toLowerCase receipt.transactionHash ≠ toLowerCase hash) ||
      !isHex 64 receipt.blockHash || !isUint256 receipt.blockNumber ||
      !isSafeInteger receipt.confirmations || receipt.confirmations < 0)
    (invalid "External receipt does not match its transaction.")
  assertTime receipt.observedAt
  discard (boundedClone bytes.receipt receipt)

def semanticFailed (update : ExternalStepObservation) : Bool :=
  update.semantic.any (fun semantic => semantic.status = .failed)

/-- One observation of `applyExternalObservations`, read against the plan as it was. -/
def observeStep (bytes : JsonBytes) (plan : StoredPlan) (bindingId : String) (steps : List StoredStep)
    (update : ExternalStepObservation) : Except RestError (List StoredStep) := do
  refuse (update.state = .waiting) (invalid "Invalid external execution observation.")
  let some previous := at? plan.steps update.index
    | .error (invalid "Invalid external execution step indexes.")
  let mismatch := conflict "The observation does not match its admitted external execution."
  refuse previous.attempt.isSome mismatch
  let some external := previous.externalExecution | .error mismatch
  refuse (external.transport = .direct || external.bindingId ≠ bindingId ||
      (at? plan.draft.calls update.index).map PlanCall.chainId ≠ some external.chainId) mismatch
  refuse (update.transactionHash.any (fun hash => !isHex 64 hash)) (invalid "Invalid external transaction hash.")
  optionally (assertExternalReceipt bytes update.transactionHash) update.receipt
  refuse (update.state = .confirmed && !update.receipt.any (fun receipt =>
      receipt.canonical && receipt.status = .success))
    (invalid "Confirmed external execution requires a canonical successful receipt.")
  -- An operation proven never to have reached the chain fails without a receipt.
  let neverPublished := update.state = .reverted && update.receipt.isNone && semanticFailed update &&
    update.transactionHash.isNone
  refuse (update.state = .reverted && !neverPublished && !update.receipt.any (fun receipt =>
      receipt.canonical && (receipt.status = .reverted || semanticFailed update)))
    (invalid "Reverted external execution requires proof of transaction or inner-call failure.")
  optionally (fun semantic => discard (boundedClone bytes.semantic semantic)) update.semantic
  return steps.set update.index.toNat
    { index := update.index, state := update.state,
      externalExecution := some ⟨external.transport, bindingId, external.chainId, update.transactionHash⟩
      receipt := update.receipt, semantic := update.semantic }

def applyExternalObservations (bytes : JsonBytes) (plan : StoredPlan) (bindingId : String)
    (updates : List ExternalStepObservation) : Except RestError StoredPlan := do
  assertText bindingId 192
  assertExternalIndexes plan (updates.map ExternalStepObservation.index)
  discard (boundedClone bytes.plan plan)
  let steps ← updates.foldlM (observeStep bytes plan bindingId) plan.steps
  if steps = plan.steps then
    return plan
  boundedClone bytes.plan { plan with steps, revision := plan.revision + 1 }

end JBCenter.Transactions
