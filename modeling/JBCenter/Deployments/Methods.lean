import JBCenter.Deployments.Store

/-! The methods of the wallet deployment store, each as it checks and writes. -/
namespace JBCenter.Deployments
open Rest

/-- What a method answers. -/
inductive Outcome where
  | pool (pool : WalletDeploymentPool)
  | operation (operation : WalletDeploymentOperation) (replayed : Bool)
  | released (operation : WalletDeploymentOperation) (pool : WalletDeploymentPool) (replayed : Bool)
  | settlement (settlement : Option WalletDeploymentSettlementReceipt) (pool : WalletDeploymentPool) (replayed : Bool)
  | signing (operation : WalletDeploymentOperation) (lease : Option SigningLease)
  | dispatch (journal : WalletDeploymentDispatchJournal) (replayed : Bool)
  | cleaned

abbrev Method := Store → Except RestError (Outcome × Store)

structure InitializeRequest where
  context : WalletDeploymentFundingContext
  evidence : WalletDeploymentFundingEvidence
  expectedNonce : Nat
  now : Int
  after : Int

def initialAccounting (request : InitializeRequest) : WalletDeploymentAccounting where
  environment := request.evidence.environment
  initialHead := request.evidence.head
  initialNonce := request.expectedNonce
  nextNonce := request.expectedNonce
  spentWei := 0
  sequence := 0
  lastSettlementId := none
  lastSettlementAnchor := none
  fence := none

def initializeAccounting (request : InitializeRequest) : Method := fun s => do
  refuse (!isSafeNonce request.expectedNonce) invalid
  let pool ← s.poolRecord request.context.pool.configuration.id
  refuse (pool != request.context.pool || pool.accounting.isSome || pool.activeOperationId.isSome || pool.state != .active ||
    request.context.lastSettlement.isSome) conflict
  assertWalletDeploymentFundingEvidence request.evidence pool request.now
  refuse (walletDeploymentFundingConflict pool request.evidence (.exactly request.expectedNonce) none).isSome conflict
  let (result, t) ← writeAccounting s pool (initialAccounting request) false
  assertWalletDeploymentFundingEvidence request.evidence pool request.after
  return (.pool result, t)

/-- Why a pool is asked to be fenced. -/
inductive FenceEvidence where
  | funding (evidence : WalletDeploymentFundingEvidence)
  | restoreRequired
  | inclusionReorged (operationId : String)

structure FenceRequest where
  context : WalletDeploymentFundingContext
  evidence : FenceEvidence
  now : Int
  after : Int

/-- A released inclusion whose latest observation is positively not canonical any more. -/
def reorganized (operation : WalletDeploymentOperation) (poolId : String) : Bool :=
  operation.poolId = poolId && operation.releasedAt.isSome && operation.settlementId.isNone &&
  operation.observation.any (fun observation => [.reorged, .nonceConflict, .notObserved, .pending].contains
    observation.transaction.state)

def fenceReason (s : Store) (pool : WalletDeploymentPool) (accounting : WalletDeploymentAccounting)
    (request : FenceRequest) : Except RestError FenceReason :=
  match request.evidence with
  | .inclusionReorged operationId => do
    let released ← s.required operationId
    refuse (!reorganized released pool.configuration.id) conflict
    return .inclusionReorged
  | .restoreRequired => return .restoreRequired
  | .funding evidence => do
    assertWalletDeploymentFundingEvidence evidence pool request.now
    let reason := walletDeploymentFundingConflict pool evidence (.exactly accounting.nextNonce) (some 0)
    refuse (pool.activeOperationId.isSome && reason = some .nonceConflict) conflict
    let reason := if reason.isNone && pool.activeOperationId.isNone then
      walletDeploymentFundingConflict pool evidence .next none else reason
    match reason with
    | none => .error conflict
    | some reason => return reason

/-- What a fence rests on still holds after the write. -/
def FenceEvidence.asserted (evidence : FenceEvidence) (pool : WalletDeploymentPool) (now : Int) : Except RestError Unit :=
  match evidence with
  | .funding evidence => assertWalletDeploymentFundingEvidence evidence pool now
  | _ => .ok ()

def fenceAccounting (request : FenceRequest) : Method := fun s => do
  let pool ← s.poolRecord request.context.pool.configuration.id
  refuse (pool != request.context.pool) conflict
  match pool.accounting with
  | none => .error conflict
  | some accounting =>
    if accounting.fence.isSome then return (.pool pool, s) else
    let reason ← fenceReason s pool accounting request
    let (result, t) ← writeAccounting s pool { accounting with fence := some ⟨reason, request.now⟩ } false
    request.evidence.asserted pool request.after
    return (.pool result, t)

def admittedCost (s : Store) (operation : WalletDeploymentOperation) (signed : SignedDeployment) : Nat :=
  max signed.maximumExecutionCost
    (((s.dispatches.get operation.id).bind (·.admission.reservation)).elim 0 (·.totalWei))

def activeReservation (s : Store) (pool : WalletDeploymentPool) : Nat :=
  match pool.activeOperationId.bind s.operations.get with
  | none => 0
  | some operation =>
    match operation.state, operation.signed with
    | .signed, some signed => admittedCost s operation signed
    | _, _ => 0

structure SettleRequest where
  context : WalletDeploymentSettlementContext
  evidence : WalletDeploymentSettlementEvidence
  enrollment : WalletEnrollment
  now : Int
  after : Int

/-- What a settlement must leave of the balance: the allocation less its debit and what others reserve. -/
def settlementFloor (s : Store) (pool : WalletDeploymentPool) (operation : WalletDeploymentOperation)
    (spentWei : Nat) : Nat :=
  let others : Int := pool.reservedWei - operation.reservedWei.getD 0 + activeReservation s pool
  ((pool.configuration.allocationWei : Int) - spentWei - others).toNat

def settlementReceipt (pool : WalletDeploymentPool) (accounting : WalletDeploymentAccounting)
    (operation : WalletDeploymentOperation) (evidence : WalletDeploymentSettlementEvidence) (nonce : Nat) (now : Int) :
    WalletDeploymentSettlementReceipt :=
  ⟨operation.id, pool.configuration.id, operation.id, evidence, nonce, accounting.sequence, accounting.sequence + 1,
    accounting.spentWei + evidence.fees.totalWei, nonce + 1, now⟩

def debited (pool : WalletDeploymentPool) (accounting : WalletDeploymentAccounting) (operation : WalletDeploymentOperation)
    (evidence : WalletDeploymentSettlementEvidence) (now : Int) : WalletDeploymentAccounting :=
  let spentWei := accounting.spentWei + evidence.fees.totalWei
  { accounting with
    sequence := accounting.sequence + 1
    spentWei
    lastSettlementId := some operation.id
    lastSettlementAnchor := evidence.observation.finality.evidence
    fence := if spentWei > pool.configuration.allocationWei then some ⟨.allocationExceeded, now⟩ else none }

def settle (request : SettleRequest) : Method := fun s => do
  let evidence := request.evidence
  assertWalletDeploymentSettlementEvidence evidence request.context evidence.funding.observedAt
  let pool ← s.poolRecord request.context.pool.configuration.id
  let operation ← s.required request.context.operation.id
  match s.settlements.get operation.id with
  | some existing =>
    refuse (existing.evidence != evidence || operation.signed.all (·.hash != existing.evidence.transactionHash)) conflict
    return (.settlement (some existing) pool true, s)
  | none =>
    let lastSettlement ← s.lastSettlement pool
    let actual : WalletDeploymentSettlementContext :=
      ⟨⟨pool, request.enrollment, operation⟩, s.dispatches.get operation.id, lastSettlement⟩
    refuse (actual != request.context) conflict
    assertWalletDeploymentSettlementEvidence evidence actual request.now
    refuse (actual.dispatch.any (·.leaseUntil > request.now)) busy
    match pool.accounting, operation.template with
    | some accounting, some template =>
      let floor := settlementFloor s pool operation (accounting.spentWei + evidence.fees.totalWei)
      match (walletDeploymentFundingConflict pool evidence.funding .skipped (some floor)).or
        (walletDeploymentSettlementNonceConflict pool accounting template.nonce evidence.funding evidence.finalizedNonce) with
      | some reason =>
        let (fenced, t) ← writeAccounting s pool { accounting with fence := some ⟨reason, request.now⟩ } false
        assertWalletDeploymentSettlementEvidence evidence actual request.after
        return (.settlement none fenced false, t)
      | none =>
        let receipt := settlementReceipt pool accounting operation evidence template.nonce request.now
        let (result, t) ← writeAccounting (s.putSettlement operation receipt) pool
          (debited pool accounting operation evidence request.now) false
        assertWalletDeploymentSettlementEvidence evidence actual request.after
        return (.settlement (some receipt) result false, t)
    | _, _ => .error invalidSettlement

structure ReleaseRequest where
  operationId : String
  expectedRevision : Int
  enrollment : WalletEnrollment
  now : Int

/-- The active operation of an unfenced pool, at the next nonce, with a canonical inclusion observed. -/
def releasable (pool : WalletDeploymentPool) (accounting : WalletDeploymentAccounting)
    (operation : WalletDeploymentOperation) (template : WalletDeploymentTemplate) (expectedRevision : Int) : Bool :=
  operation.revision = expectedRevision && operation.state = .signed && operation.settlementId.isNone &&
  accounting.fence.isNone && pool.state = .active && pool.activeOperationId = some operation.id &&
  template.nonce = accounting.nextNonce

def included (observation : WalletDeploymentObservation) : Bool :=
  canonicalObservation observation && observation.head.isSome && observation.transaction.nonce.isSome

def releasedAs (request : ReleaseRequest) (current : WalletDeploymentOperation) (reservedWei : Nat) :
    WalletDeploymentOperation :=
  { current with releasedAt := some request.now, reservedWei := some reservedWei }

def release (rules : Rules) (request : ReleaseRequest) : Method := fun s => do
  refuse (!(isSafeInteger request.expectedRevision && request.expectedRevision ≥ 1)) invalid
  let (pool, current) ← loadContext rules s request.operationId request.enrollment
  if current.releasedAt.isSome then return (.released current pool true, s) else
  match pool.accounting, current.template, current.signed, current.observation with
  | some accounting, some template, some signed, some observation =>
    refuse (!releasable pool accounting current template request.expectedRevision) conflict
    refuse (!(included observation && current.historicalCanonicalObservation.isSome)) conflict
    refuse ((s.dispatches.get current.id).any (fun dispatch => dispatch.status = .inFlight && dispatch.leaseUntil > request.now))
      busy
    if observation.transaction.nonce != some ⟨template.nonce + 1, template.nonce + 1⟩ then
      let (fenced, t) ← writeAccounting s pool { accounting with fence := some ⟨.nonceConflict, request.now⟩ } false
      return (.released current fenced false, t)
    else
    refuse (walletDeploymentReleasedCount accounting ≥ maximumUnsettled) busy
    let marked := releasedAs request current (admittedCost s current signed)
    let (released, t) ← writeAccounting (s.putOperation marked) pool { accounting with nextNonce := template.nonce + 1 } true
    return (.released marked released false, t)
  | _, _, _, _ => .error conflict

structure PrepareRequest where
  poolId : String
  approval : WalletDeploymentApproval
  enrollment : WalletEnrollment
  /-- The rows the cleanup takes, and the ceremony's answer: the time it was created. -/
  swept : List String
  ceremony : Except RestError Int
  sweptAt : Int
  now : Int

def walletCeremonyRetentionMs : Int := 86400000

def preparedOperation (pool : WalletDeploymentPool) (approval : WalletDeploymentApproval) (createdAt : Int) :
    WalletDeploymentOperation where
  id := approval.id
  poolId := pool.configuration.id
  enrollmentId := approval.enrollmentId
  poolConfigurationDigest := pool.configuration
  approval
  state := .prepared
  createdAt
  retainUntil := approval.expiresAt + walletCeremonyRetentionMs
  claimedAt := none
  proofDigest := none
  admission := none
  template := none
  templateCommitment := none
  signingLease := none
  signed := none
  observation := none
  observationSavedAt := none
  historicalCanonicalObservation := none
  highestObservedHead := none
  settlementId := none
  releasedAt := none
  reservedWei := none
  revision := 0

/-- The approval is in force, and what was admitted is recent. -/
def live (operation : WalletDeploymentOperation) (now : Int) : Except RestError Unit :=
  refuse (now < operation.approval.issuedAt || now ≥ operation.approval.expiresAt) expired

def liveAdmission (operation : WalletDeploymentOperation) (now : Int) (admission : WalletDeploymentAdmission)
    (pool : WalletDeploymentPool) : Except RestError Unit := do
  live operation now
  refuse (admission.observedAt > now || now - admission.observedAt > pool.configuration.policy.maximumObservationAgeMs)
    observationExpired

def prepare (rules : Rules) (request : PrepareRequest) : Method := fun s => do
  refuse (!rules.document request.enrollment request.approval) invalidContext
  let pool ← s.poolRecord request.poolId
  match s.operations.get request.approval.id with
  | some operation =>
    refuse (operation.poolId != request.poolId || operation.poolConfigurationDigest != pool.configuration ||
      operation.approval != request.approval) conflict
    refuse (operation.state = .prepared && operation.retainUntil ≤ request.now) expired
    return (.operation operation true, s)
  | none =>
    refuse (pool.state != .active) busy
    let createdAt ← request.ceremony
    let operation := preparedOperation pool request.approval createdAt
    live operation request.now
    return (.operation operation false, (s.sweep request.swept request.sweptAt).putOperation operation)

structure CleanupRequest where
  limit : Int
  swept : List String
  now : Int

def cleanup (request : CleanupRequest) : Method := fun s => do
  refuse (!(isSafeInteger request.limit && 1 ≤ request.limit && request.limit ≤ 10000)) invalid
  return (.cleaned, s.sweep request.swept request.now)

structure ClaimRequest where
  operationId : String
  assertion : Payload
  funding : Option WalletDeploymentFundingEvidence
  admission : WalletDeploymentAdmission
  enrollment : WalletEnrollment
  /-- The wallet's current credential is the enrolled one. -/
  credentialCurrent : Bool
  /-- The ceremony's answer to being consumed: whether it was before. -/
  ceremony : Except RestError Bool
  sampledAt : Int
  fundedAt : Int
  checkedAt : Int
  claimedAt : Int
  writtenAt : Int
  committedAt : Int

def checkedAdmission (admission : WalletDeploymentAdmission) : Except RestError Unit := do
  refuse (!(positiveTime admission.observedAt && admission.blockHash != 0 && isUint admission.blockNumber &&
    isSafeNonce admission.confirmedNonce && isSafeNonce admission.pendingNonce && isUint admission.gas && 0 < admission.gas &&
    isUint admission.maxFeePerGas && 0 < admission.maxFeePerGas && isUint admission.maxPriorityFeePerGas &&
    0 < admission.maxPriorityFeePerGas)) invalid
  refuse (admission.pendingNonce != admission.confirmedNonce) conflict

def provedBy (rules : Rules) (request : ClaimRequest) (operation : WalletDeploymentOperation) (time : Int) :
    Except RestError String :=
  match rules.verifyProof request.enrollment operation.approval request.assertion time with
  | none => .error invalidProof
  | some digest => .ok digest

def checkFunding (pool : WalletDeploymentPool) (request : ClaimRequest) (template : WalletDeploymentTemplate) (now : Int) :
    Except RestError Unit :=
  match pool.accounting, request.funding with
  | none, none => .ok ()
  | none, some _ => .error conflict
  | some _, none => .error conflict
  | some accounting, some funding => do
    assertWalletDeploymentFundingEvidence funding pool now
    refuse ((walletDeploymentFundingConflict pool funding .next none).isSome ||
      request.admission.confirmedNonce != accounting.nextNonce || request.admission.blockNumber != funding.head.blockNumber ||
      request.admission.blockHash != funding.head.blockHash ||
      template.gas * template.maxFeePerGas > walletDeploymentRemainingWei pool) conflict

/-- Some released operation is not known to be canonical any more. -/
def stalled (s : Store) : Bool :=
  s.operations.values.any (fun operation => operation.queued && operation.observation.any (!canonicalObservation ·))

def replayClaim (rules : Rules) (request : ClaimRequest) (s : Store) (pool : WalletDeploymentPool)
    (current : WalletDeploymentOperation) (proof : String) : Except RestError (Outcome × Store) := do
  refuse (current.proofDigest != some proof || current.claimedAt.isNone || current.template.isNone ||
    current.admission.isNone || current.template != current.templateCommitment ||
    pool.activeOperationId != some current.id) conflict
  let _ ← provedBy rules request current (current.claimedAt.getD request.sampledAt)
  return (.operation current true, s)

def claimedAs (request : ClaimRequest) (current : WalletDeploymentOperation) (proof : String)
    (template : WalletDeploymentTemplate) : WalletDeploymentOperation :=
  { current with
    state := .claimed
    claimedAt := some request.claimedAt
    proofDigest := some proof
    admission := some request.admission
    template := some template
    templateCommitment := some template
    revision := current.revision + 1 }

/-- A claim that is new: it takes the free lane and the next nonce, with the template made from the admission. -/
def takeLane (request : ClaimRequest) (s : Store) (pool : WalletDeploymentPool) (current : WalletDeploymentOperation)
    (proof : String) (template : WalletDeploymentTemplate) : Except RestError (Outcome × Store) := do
  refuse (!request.enrollment.verified) conflict
  refuse (!request.credentialCurrent) conflict
  refuse (pool.state != .active || pool.activeOperationId.isSome || (pool.accounting.bind (·.fence)).isSome) busy
  refuse (pool.accounting.isSome && (s.releasedCount ≥ maximumUnsettled || stalled s)) busy
  let _ ← s.lastSettlement pool
  checkFunding pool request template request.fundedAt
  liveAdmission current request.checkedAt request.admission pool
  let replayed ← request.ceremony
  refuse replayed conflict
  liveAdmission current request.claimedAt request.admission pool
  liveAdmission current request.writtenAt request.admission pool
  checkFunding pool request template request.committedAt
  return (.operation (claimedAs request current proof template) false,
    (s.putOperation (claimedAs request current proof template)).putLane current.id)

def claim (rules : Rules) (request : ClaimRequest) : Method := fun s => do
  checkedAdmission request.admission
  let before ← s.required request.operationId
  let beforePool ← s.poolRecord before.poolId
  let proof ← provedBy rules request before (before.claimedAt.getD request.sampledAt)
  if before.state != .prepared then
    let (pool, current) ← loadContext rules s request.operationId request.enrollment
    replayClaim rules request s pool current proof
  else
  let template ← admissionTemplate rules request.enrollment before beforePool request.admission
  let (pool, current) ← loadContext rules s request.operationId request.enrollment
  takeLane request s pool current proof template

structure LeaseSigningRequest where
  operationId : String
  durationMs : Int
  enrollment : WalletEnrollment
  token : String
  now : Int

def LeaseSigningRequest.lease (request : LeaseSigningRequest) : SigningLease :=
  ⟨request.token, request.now + request.durationMs⟩

def signingAs (request : LeaseSigningRequest) (current : WalletDeploymentOperation) : WalletDeploymentOperation :=
  { current with signingLease := some request.lease, revision := current.revision + 1 }

def leaseSigning (rules : Rules) (request : LeaseSigningRequest) : Method := fun s => do
  refuse (!(isSafeInteger request.durationMs && 1 ≤ request.durationMs && request.durationMs ≤ 120000)) invalid
  let (pool, current) ← loadContext rules s request.operationId request.enrollment
  refuse (current.state = .prepared || pool.activeOperationId != some current.id) conflict
  if current.state = .signed then return (.signing current none, s) else
  refuse (pool.state != .active || (pool.accounting.bind (·.fence)).isSome) busy
  refuse (current.signingLease.any (·.expires > request.now)) leaseBusy
  return (.signing (signingAs request current) (some request.lease), s.putOperation (signingAs request current))

structure PersistSignedRequest where
  operationId : String
  leaseToken : String
  revision : Int
  rawTransaction : String
  enrollment : WalletEnrollment
  now : Int
  writtenAt : Int
  committedAt : Int

def signedAs (current : WalletDeploymentOperation) (validated : SignedDeployment) : WalletDeploymentOperation :=
  { current with state := .signed, signed := some validated, signingLease := none, revision := current.revision + 1 }

def persistSigned (rules : Rules) (request : PersistSignedRequest) : Method := fun s => do
  refuse (request.rawTransaction.length > 262146) invalid
  refuse (!(isSafeInteger request.revision && request.revision ≥ 1)) invalid
  let before ← s.required request.operationId
  let beforePool ← s.poolRecord before.poolId
  match before.template with
  | none => .error conflict
  | some template =>
    refuse (before.state = .prepared) conflict
    let validated ← validateSignedWalletDeployment rules request.enrollment before.approval template request.rawTransaction
      beforePool.configuration.policy
    let (pool, current) ← loadContext rules s request.operationId request.enrollment
    refuse ((pool.accounting.bind (·.fence)).isSome || pool.activeOperationId != some current.id ||
      current.templateCommitment != some template) conflict
    match current.signed with
    | some signed =>
      refuse (signed.hash != validated.hash || signed.rawTransaction != request.rawTransaction) conflict
      return (.operation current true, s)
    | none =>
      refuse (pool.state != .active) busy
      refuse (!(current.state = .claimed && current.revision = request.revision && current.signingLease.any (fun lease =>
        lease.token = request.leaseToken && lease.expires > request.now))) conflict
      refuse (!current.signingLease.any (fun lease => lease.expires > request.writtenAt && lease.expires > request.committedAt))
        conflict
      return (.operation (signedAs current validated) false, s.putOperation (signedAs current validated))

structure SaveObservationRequest where
  operationId : String
  expectedRevision : Int
  signedHash : Word
  observation : WalletDeploymentObservation
  enrollment : WalletEnrollment
  savedAt : Int

/-- The history an observation leaves: a finalized receipt is kept, with the latest finality of it. -/
def advanceHistory (historical : Option WalletDeploymentObservation) (observation : WalletDeploymentObservation) :
    Except RestError (Option WalletDeploymentObservation) :=
  if !canonicalObservation observation then .ok historical else
  match historical with
  | none => .ok (some observation)
  | some historical =>
    if historical.finality.state != .finalized then .ok (some observation) else do
      refuse (observation.transaction.receipt != historical.transaction.receipt ||
        observation.finality.state = .unfinalized) conflict
      if observation.finality.state != .finalized then return some historical else
      match observation.finality.evidence, historical.finality.evidence with
      | some next, some prior =>
        refuse (next.blockNumber < prior.blockNumber || (next.blockNumber = prior.blockNumber && next != prior)) conflict
        return some observation
      | _, _ => .error conflict

/-- The high watermark of the heads that were seen. -/
def advanceHead (highest : Option Nat) (head : Option RestBlockEvidence) : Option Nat :=
  match head, highest with
  | none, highest => highest
  | some head, none => some head.blockNumber
  | some head, some highest => some (if head.blockNumber > highest then head.blockNumber else highest)

/-- A positive observation must not be of an older head than was seen. -/
def behind (observation : WalletDeploymentObservation) (highest : Option Nat) : Bool :=
  (canonicalObservation observation || observation.wallet.state = .verified || observation.finality.state = .finalized) &&
  highest.any (fun highest => observation.head.all (fun head => head.blockNumber < highest))

def advanceObservation (current : WalletDeploymentOperation) (observation : WalletDeploymentObservation) :
    Except RestError (Option WalletDeploymentObservation × Option Nat) := do
  refuse (current.observation.any (fun last => observation.observedAt < last.observedAt)) conflict
  refuse (behind observation current.highestObservedHead) conflict
  refuse (current.historicalCanonicalObservation.any (·.finality.state = .finalized) &&
    observation.transaction.state = .nonceConflict) conflict
  let historical ← advanceHistory current.historicalCanonicalObservation observation
  return (historical, advanceHead current.highestObservedHead observation.head)

def observable (pool : WalletDeploymentPool) (current : WalletDeploymentOperation) (request : SaveObservationRequest) : Bool :=
  current.state = .signed && current.signed.any (·.hash = request.signedHash) && current.settlementId.isNone &&
  (pool.activeOperationId = some current.id || current.releasedAt.isSome) && current.template.isSome &&
  current.template = current.templateCommitment && current.templateCommitment = some request.observation.templateCommitment &&
  current.template.any (fun template => request.observation.wallet.address = template.predictedSafe &&
    request.observation.wallet.initializerHash = template.initializerHash)

def observedAs (request : SaveObservationRequest) (current : WalletDeploymentOperation)
    (historical : Option WalletDeploymentObservation) (highestHead : Option Nat) : WalletDeploymentOperation :=
  { current with
    observation := some request.observation
    observationSavedAt := some request.savedAt
    historicalCanonicalObservation := historical
    highestObservedHead := highestHead
    revision := current.revision + 1 }

def saveObservation (rules : Rules) (request : SaveObservationRequest) : Method := fun s => do
  refuse (!(isSafeInteger request.expectedRevision && request.expectedRevision ≥ 1)) invalid
  assertWalletDeploymentObservation request.observation
  refuse (request.observation.operationId != request.operationId || request.observation.transactionHash != request.signedHash)
    conflict
  let before ← s.required request.operationId
  refuse (before.state != .signed || !before.signed.any (·.hash = request.signedHash)) conflict
  let (pool, current) ← loadContext rules s request.operationId request.enrollment
  refuse (!observable pool current request) conflict
  if current.observation = some request.observation then return (.operation current true, s) else
  refuse (current.revision != request.expectedRevision) conflict
  refuse (request.observation.observedAt > request.savedAt) conflict
  let (historical, highestHead) ← advanceObservation current request.observation
  return (.operation (observedAs request current historical highestHead) false,
    s.putOperation (observedAs request current historical highestHead))

structure LeaseDispatchRequest where
  operationId : String
  expectedRevision : Int
  signedHash : Word
  admission : WalletDeploymentDispatchAdmission
  leaseMs : Option Int
  enrollment : WalletEnrollment
  token : String
  now : Int
  after : Int

def leasedJournal (prior : Option WalletDeploymentDispatchJournal) (operation : WalletDeploymentOperation)
    (template : WalletDeploymentTemplate) (request : LeaseDispatchRequest) (leaseUntil : Int) :
    WalletDeploymentDispatchJournal :=
  { operationId := operation.id
    transactionHash := prior.elim request.signedHash (·.transactionHash)
    templateCommitment := prior.elim template (·.templateCommitment)
    revision := prior.elim 1 (·.revision + 1)
    attempts := prior.elim 1 (·.attempts + 1)
    status := .inFlight
    leaseToken := request.token
    leaseUntil
    admission := request.admission
    claimedAt := request.now
    settledAt := none
    nextAttemptAt := leaseUntil + cooldownMs }

def leaseDispatch (rules : Rules) (request : LeaseDispatchRequest) : Method := fun s => do
  let leaseMs := request.leaseMs.getD dispatchLeaseMs
  refuse (!(isSafeInteger request.expectedRevision && request.expectedRevision ≥ 1 && isSafeInteger leaseMs && 1 ≤ leaseMs &&
    leaseMs ≤ dispatchLeaseMs)) invalid
  let (pool, operation) ← loadContext rules s request.operationId request.enrollment
  refuse (operation.revision != request.expectedRevision || !operation.signed.any (·.hash = request.signedHash)) conflict
  assertWalletDeploymentDispatchAdmission request.admission pool operation request.now
  let prior := s.dispatches.get operation.id
  refuse (prior.any (fun prior => prior.nextAttemptAt > request.now || prior.attempts ≥ maximumAttempts)) busy
  let leaseUntil := min (request.now + leaseMs) request.admission.expiresAt
  assertWalletDeploymentDispatchAdmission request.admission pool operation request.after
  refuse (leaseUntil ≤ request.after) conflict
  match operation.templateCommitment with
  | none => .error conflict
  | some template =>
    let journal := leasedJournal prior operation template request leaseUntil
    return (.dispatch journal false, s.putDispatch journal)

structure SettleDispatchRequest where
  operationId : String
  expectedRevision : Int
  leaseToken : String
  signedHash : Word
  accepted : Bool
  enrollment : WalletEnrollment
  now : Int
  writtenAt : Int
  committedAt : Int

def SettleDispatchRequest.status (request : SettleDispatchRequest) : DispatchStatus :=
  if request.accepted then .accepted else .unknown

def settledJournal (request : SettleDispatchRequest) (prior : WalletDeploymentDispatchJournal) :
    WalletDeploymentDispatchJournal :=
  { prior with revision := prior.revision + 1, status := request.status, settledAt := some request.now }

def settleDispatch (rules : Rules) (request : SettleDispatchRequest) : Method := fun s => do
  refuse (!(isSafeInteger request.expectedRevision && request.expectedRevision ≥ 1)) invalid
  let (pool, operation) ← loadContext rules s request.operationId request.enrollment
  refuse (!operation.signed.any (·.hash = request.signedHash) || pool.activeOperationId != some operation.id) conflict
  match s.dispatches.get operation.id with
  | none => .error conflict
  | some prior =>
    refuse (prior.transactionHash != request.signedHash || prior.leaseToken != request.leaseToken) conflict
    if prior.status != .inFlight then
      refuse (prior.revision != request.expectedRevision + 1 || prior.status != request.status) conflict
      return (.dispatch prior true, s)
    else
    refuse (prior.revision != request.expectedRevision || prior.leaseUntil ≤ request.now) conflict
    refuse (prior.leaseUntil ≤ request.writtenAt || prior.leaseUntil ≤ request.committedAt) conflict
    return (.dispatch (settledJournal request prior) false, s.putDispatch (settledJournal request prior))

inductive Op where
  | initializeAccounting (request : InitializeRequest)
  | fenceAccounting (request : FenceRequest)
  | settle (request : SettleRequest)
  | release (request : ReleaseRequest)
  | prepare (request : PrepareRequest)
  | cleanup (request : CleanupRequest)
  | claim (request : ClaimRequest)
  | leaseSigning (request : LeaseSigningRequest)
  | persistSigned (request : PersistSignedRequest)
  | saveObservation (request : SaveObservationRequest)
  | leaseDispatch (request : LeaseDispatchRequest)
  | settleDispatch (request : SettleDispatchRequest)

def run (rules : Rules) : Op → Method
  | .initializeAccounting request => initializeAccounting request
  | .fenceAccounting request => fenceAccounting request
  | .settle request => settle request
  | .release request => release rules request
  | .prepare request => prepare rules request
  | .cleanup request => cleanup request
  | .claim request => claim rules request
  | .leaseSigning request => leaseSigning rules request
  | .persistSigned request => persistSigned rules request
  | .saveObservation request => saveObservation rules request
  | .leaseDispatch request => leaseDispatch rules request
  | .settleDispatch request => settleDispatch rules request

def perform (rules : Rules) (op : Op) : Fallible RestError Store Outcome := transaction (run rules op)

abbrev StoreRuns (rules : Rules) (config : WalletDeploymentPoolConfiguration) (configuredAt : Int) :=
  Run (Performs (perform rules)) (Store.configured config configuredAt)

end JBCenter.Deployments
