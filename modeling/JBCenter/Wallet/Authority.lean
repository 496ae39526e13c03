import JBCenter.Deployments.Observation

/-! The authority of a wallet: what the chain last showed of an account's identity, and the
reducer that carries it from one observation to the next. Values that are equal when their
digests are, are compared as they stand. -/
namespace JBCenter.Wallet
open Rest
open Deployments (Word Address RestBlockEvidence wellFormedBlock isReason maximumQuantity positiveTime)

def walletAuthorityMaximumAgeMs : Int := 900000
def walletAuthorityMaximumHeadAgeMs : Int := 900000
def walletAuthorityMaximumFutureHeadMs : Int := 30000
def walletAuthorityMaximumEpoch : Nat := 9223372036854775807

/-- The verified enrollment: what the identity commits to, and the rest. -/
structure WalletEnrollment where
  id : String
  manifest : Payload
  manifestRevision : Word
  creation : Payload
  initializerHash : Word
  rpId : String
  origin : String
  rest : Payload
  deriving DecidableEq

/-- The lineage of a credential that a recovery put in another's place. -/
structure WalletCredentialRecovery where
  id : String
  enrollmentDigest : Word
  priorCredentialDigest : Word
  priorBindingDigest : Word
  bindingDigest : Word
  proofDigest : Word
  credentialId : String
  anchor : RestBlockEvidence
  verifiedAtMs : Int
  acceptedAtMs : Int
  rest : Payload
  deriving DecidableEq

structure WalletAuthorityCredential where
  enrollmentId : String
  rpId : String
  credentialId : String
  userHandle : String
  publicKey : Payload
  backupEligible : Bool
  verifiedAtMs : Int
  recovery : Option WalletCredentialRecovery
  deriving DecidableEq

/-- A further passkey, and the addition it was approved by. -/
structure WalletAuthorityDevice where
  credential : WalletAuthorityCredential
  device : Payload

structure SmartAccountBinding where
  id : Word
  authorizationDigest : Word
  rest : Payload
  deriving DecidableEq

structure SessionAdministration where
  epoch : Nat
  hash : Word
  deriving DecidableEq

structure WalletAuthorityIdentity where
  accountId : Address
  manifestCommitment : Word
  manifestRevision : Word
  enrollmentCommitment : Word
  credentialCommitment : Word
  bindingId : Word
  bindingAuthorizationDigest : Word
  creationCommitment : Word
  initializerHash : Word
  creationTransaction : Word
  stateHash : Word
  sessionAdministration : SessionAdministration
  deriving DecidableEq

inductive AnchorStatus where
  | none
  | same
  | replaced
  | unavailable
  deriving DecidableEq

structure WalletAuthorityPriorAnchor where
  status : AnchorStatus
  expected : Option RestBlockEvidence
  observed : Option RestBlockEvidence
  deriving DecidableEq

inductive Eligibility where
  | matched
  | changed
  deriving DecidableEq

structure WalletAuthorityObservation where
  accountId : Address
  contextDigest : Word
  observedAtMs : Int
  validUntilMs : Option Int
  head : Option RestBlockEvidence
  priorAnchor : WalletAuthorityPriorAnchor
  identity : Option WalletAuthorityIdentity
  eligibility : Option Eligibility
  reason : Option String
  deriving DecidableEq

structure WalletAuthorityFence where
  triggerDigest : Word
  authorityEpoch : Nat
  sessionEpoch : Nat
  observedAtMs : Int
  abandonedAnchor : RestBlockEvidence
  replacementAnchor : RestBlockEvidence
  /-- Absent until a complete identity of the new branch has been observed. -/
  recoveryAnchor : Option RestBlockEvidence
  deriving DecidableEq

inductive Readiness where
  | verified
  | changed
  | unknown
  | fenced
  deriving DecidableEq

structure WalletAuthoritySnapshot where
  accountId : Address
  revision : Nat
  authorityEpoch : Nat
  sessionEpoch : Nat
  bootstrapRequired : Bool
  readiness : Readiness
  identity : Option WalletAuthorityIdentity
  historicalVerifiedIdentity : Option WalletAuthorityIdentity
  acceptedAnchor : Option RestBlockEvidence
  highestObservedBlock : Option Nat
  activeFence : Option WalletAuthorityFence
  lastClosedFence : Option WalletAuthorityFence
  latestObservation : Option WalletAuthorityObservation
  validUntilMs : Option Int
  updatedAtMs : Int
  deriving DecidableEq

structure WalletAuthorityContext where
  accountId : Address
  enrollment : WalletEnrollment
  credential : WalletAuthorityCredential
  devices : List WalletAuthorityDevice
  binding : SmartAccountBinding
  prior : Option WalletAuthoritySnapshot

def invalid : RestError :=
  ⟨400, "WALLET_AUTHORITY_INVALID", "Wallet authority fields or commitments are inconsistent.", none⟩

def conflict : RestError :=
  ⟨409, "WALLET_AUTHORITY_CONFLICT", "Wallet authority context or generations require fresh reconciliation.", none⟩

def expired : RestError :=
  ⟨410, "WALLET_AUTHORITY_EXPIRED", "Wallet authority observation expired before admission.", none⟩

/-- The digests the reducer takes, and the checks of a context that read none of the authority. -/
structure Rules where
  lineage : WalletAuthorityContext → Bool
  payloadDigest : Payload → Word
  enrollmentDigest : WalletEnrollment → Word
  credentialDigest : WalletAuthorityCredential → List WalletAuthorityDevice → Word
  contextDigest : WalletAuthorityContext → Word
  observationDigest : WalletAuthorityObservation → Word

def account (value : Address) : Bool := value > 1

def epochShape (value : Nat) : Bool := 1 ≤ value && value ≤ walletAuthorityMaximumEpoch

def identityShape (v : WalletAuthorityIdentity) : Bool :=
  account v.accountId && v.manifestCommitment != 0 && v.manifestRevision != 0 && v.enrollmentCommitment != 0 &&
  v.credentialCommitment != 0 && v.bindingId != 0 && v.bindingAuthorizationDigest != 0 && v.creationCommitment != 0 &&
  v.initializerHash != 0 && v.creationTransaction != 0 && v.stateHash != 0 &&
  v.sessionAdministration.epoch ≤ maximumQuantity && v.sessionAdministration.hash != 0

def fenceShape (v : WalletAuthorityFence) : Bool :=
  v.triggerDigest != 0 && epochShape v.authorityEpoch && epochShape v.sessionEpoch && positiveTime v.observedAtMs &&
  wellFormedBlock v.abandonedAnchor && wellFormedBlock v.replacementAnchor &&
  v.abandonedAnchor.blockNumber = v.replacementAnchor.blockNumber &&
  v.abandonedAnchor.blockHash != v.replacementAnchor.blockHash &&
  v.recoveryAnchor.all (fun anchor => wellFormedBlock anchor && v.replacementAnchor.blockNumber ≤ anchor.blockNumber)

/-- The blocks an anchor's status goes with. -/
def priorAnchorShape (p : WalletAuthorityPriorAnchor) : Bool :=
  p.expected.all wellFormedBlock && p.observed.all wellFormedBlock &&
  match p.status with
  | .none => p.expected.isNone && p.observed.isNone
  | .unavailable => p.expected.isSome && p.observed.isNone
  | .same => p.expected.isSome && p.observed = p.expected
  | .replaced =>
    match p.expected, p.observed with
    | some expected, some observed =>
      expected.blockNumber = observed.blockNumber && expected.blockHash != observed.blockHash
    | _, _ => false

def headMs (head : RestBlockEvidence) : Int := head.timestamp * 1000

/-- What a head is seen with: an anchor no higher than it, at a time it is recent at. -/
def headShape (v : WalletAuthorityObservation) (head : RestBlockEvidence) : Bool :=
  wellFormedBlock head && v.priorAnchor.status != .unavailable &&
  v.priorAnchor.observed.all (fun observed => observed.blockNumber ≤ head.blockNumber &&
    (observed.blockNumber != head.blockNumber || observed = head)) &&
  headMs head ≤ v.observedAtMs + walletAuthorityMaximumFutureHeadMs &&
  v.observedAtMs < headMs head + walletAuthorityMaximumHeadAgeMs

/-- How long a matched identity is valid, and why a changed one is not. -/
def eligibilityShape (v : WalletAuthorityObservation) (head : RestBlockEvidence) : Bool :=
  match v.eligibility with
  | none => false
  | some .changed => v.reason.isSome && v.validUntilMs.isNone
  | some .matched => v.reason.isNone &&
    match v.validUntilMs with
    | none => false
    | some validUntilMs => positiveTime validUntilMs && v.observedAtMs < validUntilMs &&
      validUntilMs ≤ v.observedAtMs + walletAuthorityMaximumAgeMs &&
      validUntilMs ≤ headMs head + walletAuthorityMaximumHeadAgeMs

def observationShape (v : WalletAuthorityObservation) : Bool :=
  account v.accountId && v.contextDigest != 0 && positiveTime v.observedAtMs &&
  v.observedAtMs ≤ maxSafeInteger - walletAuthorityMaximumAgeMs && v.reason.all isReason &&
  priorAnchorShape v.priorAnchor &&
  match v.head with
  | none => v.identity.isNone && v.eligibility.isNone && v.validUntilMs.isNone && v.reason.isSome &&
    (v.priorAnchor.status = .none || v.priorAnchor.status = .unavailable)
  | some head => headShape v head &&
    match v.identity with
    | none => v.eligibility.isNone && v.validUntilMs.isNone && v.priorAnchor.status = .replaced &&
      v.reason = some "canonical-anchor-replaced"
    | some identity => identityShape identity && identity.accountId = v.accountId && eligibilityShape v head

def fenceWithin (v : WalletAuthoritySnapshot) (fence : WalletAuthorityFence) : Bool :=
  fenceShape fence && fence.authorityEpoch ≤ v.authorityEpoch && fence.sessionEpoch ≤ v.sessionEpoch &&
  fence.observedAtMs ≤ v.updatedAtMs

/-- A block no higher than the highest that was observed. -/
def observedBlock (v : WalletAuthoritySnapshot) (block : RestBlockEvidence) : Bool :=
  v.highestObservedBlock.any (block.blockNumber ≤ ·)

/-- What a verified snapshot shows is what its latest observation matched. -/
def verifiedShape (v : WalletAuthoritySnapshot) : Bool :=
  !v.bootstrapRequired && v.identity.isSome && v.historicalVerifiedIdentity = v.identity && v.acceptedAnchor.isSome &&
  v.activeFence.isNone && v.validUntilMs.isSome &&
  v.latestObservation.any (fun observation => observation.eligibility = some .matched &&
    observation.identity = v.identity && observation.head = v.acceptedAnchor && observation.validUntilMs = v.validUntilMs)

def readinessShape (v : WalletAuthoritySnapshot) : Bool :=
  match v.readiness with
  | .verified => verifiedShape v
  | .changed => v.validUntilMs.isNone && v.identity.isSome && v.activeFence.isNone
  | .fenced => v.validUntilMs.isNone && v.activeFence.isSome
  | .unknown => v.validUntilMs.isNone

def snapshotShape (v : WalletAuthoritySnapshot) : Bool :=
  account v.accountId && v.revision ≤ walletAuthorityMaximumEpoch && epochShape v.authorityEpoch &&
  epochShape v.sessionEpoch && positiveTime v.updatedAtMs &&
  v.identity.all (fun identity => identityShape identity && identity.accountId = v.accountId) &&
  v.historicalVerifiedIdentity.all (fun identity => identityShape identity && identity.accountId = v.accountId) &&
  v.highestObservedBlock.all (· ≤ maximumQuantity) && v.acceptedAnchor.all wellFormedBlock &&
  v.activeFence.all (fenceWithin v) && v.lastClosedFence.all (fenceWithin v) && v.acceptedAnchor.all (observedBlock v) &&
  (v.activeFence.bind (·.recoveryAnchor)).all (observedBlock v) &&
  (v.lastClosedFence.bind (·.recoveryAnchor)).all (observedBlock v) &&
  v.latestObservation.all (fun observation => observationShape observation && observation.accountId = v.accountId &&
    observation.observedAtMs ≤ v.updatedAtMs && observation.head.all (observedBlock v)) &&
  v.validUntilMs.all positiveTime && readinessShape v &&
  (!v.bootstrapRequired || (v.readiness = .unknown && v.identity.isNone && v.historicalVerifiedIdentity.isNone &&
    v.acceptedAnchor.isNone && v.highestObservedBlock.isNone && v.activeFence.isNone && v.lastClosedFence.isNone))

def contextShape (rules : Rules) (v : WalletAuthorityContext) : Bool :=
  account v.accountId && v.binding.id != 0 && v.binding.authorizationDigest != 0 && rules.lineage v &&
  v.prior.all (fun prior => snapshotShape prior && prior.accountId = v.accountId)

def validateWalletAuthoritySnapshot (value : WalletAuthoritySnapshot) : Except RestError WalletAuthoritySnapshot := do
  refuse (!snapshotShape value) invalid
  return value

/-- The parts of an identity that the chain shows. -/
structure ObservedState where
  stateHash : Word
  sessionAdministration : SessionAdministration
  creationTransaction : Word

def WalletAuthorityIdentity.state (identity : WalletAuthorityIdentity) : ObservedState :=
  ⟨identity.stateHash, identity.sessionAdministration, identity.creationTransaction⟩

def createWalletAuthorityIdentity (rules : Rules) (context : WalletAuthorityContext) (state : ObservedState) :
    Except RestError WalletAuthorityIdentity := do
  refuse (!contextShape rules context) invalid
  let result : WalletAuthorityIdentity := {
    accountId := context.accountId
    manifestCommitment := rules.payloadDigest context.enrollment.manifest
    manifestRevision := context.enrollment.manifestRevision
    enrollmentCommitment := rules.enrollmentDigest context.enrollment
    credentialCommitment := rules.credentialDigest context.credential context.devices
    bindingId := context.binding.id
    bindingAuthorizationDigest := context.binding.authorizationDigest
    creationCommitment := rules.payloadDigest context.enrollment.creation
    initializerHash := context.enrollment.initializerHash
    creationTransaction := state.creationTransaction
    stateHash := state.stateHash
    sessionAdministration := state.sessionAdministration }
  refuse (!identityShape result) invalid
  return result

/-- The block an observation has to look for: where the fence recovers, else the accepted one. -/
def walletAuthorityExpectedAnchor (context : WalletAuthorityContext) : Option RestBlockEvidence :=
  context.prior.bind (fun prior => (prior.activeFence.bind (·.recoveryAnchor)).or prior.acceptedAnchor)

def validateWalletAuthorityObservation (rules : Rules) (value : WalletAuthorityObservation)
    (context : WalletAuthorityContext) : Except RestError WalletAuthorityObservation := do
  refuse (!contextShape rules context) invalid
  refuse (!observationShape value) invalid
  refuse (value.accountId ≠ context.accountId || value.contextDigest ≠ rules.contextDigest context ||
    value.priorAnchor.expected ≠ walletAuthorityExpectedAnchor context) conflict
  optionally (fun identity => do
    let created ← createWalletAuthorityIdentity rules context identity.state
    refuse (identity ≠ created) conflict) value.identity
  return value

/-- The time until which an observation with a head may be admitted. -/
def deadline (o : WalletAuthorityObservation) : Int := o.validUntilMs.getD (o.observedAtMs + walletAuthorityMaximumAgeMs)

def outlived (o : WalletAuthorityObservation) (nowMs : Int) : Bool :=
  o.head.any (fun head => deadline o ≤ nowMs || headMs head + walletAuthorityMaximumHeadAgeMs ≤ nowMs)

def advance (value : Nat) : Except RestError Nat := do
  refuse (walletAuthorityMaximumEpoch < value + 1) conflict
  return value + 1

def advanceWhen (advances : Bool) (value : Nat) : Except RestError Nat :=
  if advances then advance value else .ok value

/-- The first snapshot: from a matched identity, seen with no anchor before it. -/
def bootstrapped (accountId : Address) (prior : Option WalletAuthoritySnapshot) (o : WalletAuthorityObservation)
    (nowMs : Int) : Except RestError WalletAuthoritySnapshot := do
  refuse (o.identity.isNone || o.eligibility ≠ some .matched || o.priorAnchor.status ≠ .none) conflict
  let revision ← advance (prior.elim 0 (·.revision))
  let authorityEpoch ← prior.elim (.ok 1) (fun prior => advance prior.authorityEpoch)
  let sessionEpoch ← prior.elim (.ok 1) (fun prior => advance prior.sessionEpoch)
  return {
    accountId
    revision
    authorityEpoch
    sessionEpoch
    bootstrapRequired := false
    readiness := .verified
    identity := o.identity
    historicalVerifiedIdentity := o.identity
    acceptedAnchor := o.head
    highestObservedBlock := o.head.map (·.blockNumber)
    activeFence := none
    lastClosedFence := none
    latestObservation := some o
    validUntilMs := o.validUntilMs
    updatedAtMs := nowMs }

/-- The chain no longer has the accepted anchor, and no fence stands yet. -/
def newFence (prior : WalletAuthoritySnapshot) (o : WalletAuthorityObservation) : Bool :=
  o.priorAnchor.status = .replaced && prior.activeFence.isNone

def changedIdentity (prior : WalletAuthoritySnapshot) (o : WalletAuthorityObservation) : Bool :=
  o.identity.isSome && prior.identity ≠ o.identity

/-- The fence that stands while the observation is taken in. -/
def standingFence (rules : Rules) (prior : WalletAuthoritySnapshot) (o : WalletAuthorityObservation)
    (authorityEpoch sessionEpoch : Nat) (head : RestBlockEvidence) : Except RestError (Option WalletAuthorityFence) :=
  if newFence prior o then
    match o.priorAnchor.expected, o.priorAnchor.observed with
    | some abandonedAnchor, some replacementAnchor => .ok (some {
        triggerDigest := rules.observationDigest o
        authorityEpoch
        sessionEpoch
        observedAtMs := o.observedAtMs
        abandonedAnchor
        replacementAnchor
        recoveryAnchor := o.identity.map (fun _ => head) })
    | _, _ => .error invalid
  else .ok prior.activeFence

/-- The fence's recovery anchor still stands, with the identity that was seen there. -/
def recovering (prior : WalletAuthoritySnapshot) (o : WalletAuthorityObservation) : Bool :=
  !newFence prior o && (prior.activeFence.bind (·.recoveryAnchor)).isSome && o.priorAnchor.status = .same &&
  o.identity.isSome && o.eligibility = some .matched && !changedIdentity prior o

/-- Where the fence may recover after the observation. -/
def movedAnchor (prior : WalletAuthoritySnapshot) (o : WalletAuthorityObservation) (head : RestBlockEvidence)
    (fence : WalletAuthorityFence) : Option RestBlockEvidence :=
  if !newFence prior o && o.priorAnchor.status = .replaced then o.identity.map (fun _ => head)
  else if o.identity.isSome then some head
  else fence.recoveryAnchor

/-- What an observation that no fence stands against decides. -/
def decided (next : WalletAuthoritySnapshot) (o : WalletAuthorityObservation) (head : RestBlockEvidence) :
    WalletAuthoritySnapshot :=
  if o.eligibility = some .matched then
    { next with
      acceptedAnchor := some head
      readiness := .verified
      validUntilMs := o.validUntilMs
      historicalVerifiedIdentity := o.identity }
  else { next with
    acceptedAnchor := some head
    readiness := .changed }

def settled (next : WalletAuthoritySnapshot) (o : WalletAuthorityObservation) (head : RestBlockEvidence) :
    Except RestError WalletAuthoritySnapshot := do
  refuse o.identity.isNone conflict
  return decided next o head

/-- An observation of a head, after the first. -/
def observedHead (rules : Rules) (prior next : WalletAuthoritySnapshot) (o : WalletAuthorityObservation)
    (head : RestBlockEvidence) : Except RestError WalletAuthoritySnapshot := do
  refuse (prior.highestObservedBlock.any (head.blockNumber < ·)) conflict
  let advances := newFence prior o || changedIdentity prior o
  let authorityEpoch ← advanceWhen advances prior.authorityEpoch
  let sessionEpoch ← advanceWhen advances prior.sessionEpoch
  let next := { next with
    highestObservedBlock := some head.blockNumber
    authorityEpoch
    sessionEpoch
    identity := o.identity.or prior.identity }
  match ← standingFence rules prior o authorityEpoch sessionEpoch head with
  | none => settled next o head
  | some fence =>
    if recovering prior o then settled { next with lastClosedFence := some fence, activeFence := none } o head
    else return { next with
      activeFence := some { fence with recoveryAnchor := movedAnchor prior o head fence }
      readiness := .fenced }

/-- An observation after the first. -/
def observed (rules : Rules) (prior : WalletAuthoritySnapshot) (o : WalletAuthorityObservation) (nowMs : Int) :
    Except RestError WalletAuthoritySnapshot := do
  let revision ← advance prior.revision
  let next := { prior with
    revision
    latestObservation := some o
    updatedAtMs := nowMs
    validUntilMs := none }
  match o.head with
  | none => return { next with readiness := if prior.activeFence.isSome then .fenced else .unknown }
  | some head => observedHead rules prior next o head

def candidate (rules : Rules) (context : WalletAuthorityContext) (o : WalletAuthorityObservation) (nowMs : Int) :
    Except RestError WalletAuthoritySnapshot :=
  match context.prior.filter (fun prior => !prior.bootstrapRequired) with
  | none => bootstrapped context.accountId context.prior o nowMs
  | some prior => observed rules prior o nowMs

/-- A candidate only: the store compares what it was computed from under its locks. Every branch
has its result validated. -/
def reconcileWalletAuthority (rules : Rules) (context : WalletAuthorityContext) (observation : WalletAuthorityObservation)
    (nowMs : Int) : Except RestError WalletAuthoritySnapshot := do
  refuse (!contextShape rules context) invalid
  let o ← validateWalletAuthorityObservation rules observation context
  refuse (!positiveTime nowMs) invalid
  refuse (nowMs < o.observedAtMs || context.prior.any (fun prior => nowMs < prior.updatedAtMs ||
    o.observedAtMs < prior.latestObservation.elim 0 (·.observedAtMs))) conflict
  refuse (outlived o nowMs) expired
  let next ← candidate rules context o nowMs
  validateWalletAuthoritySnapshot next

end JBCenter.Wallet
