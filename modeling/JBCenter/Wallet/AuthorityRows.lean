import Mathlib.Data.Nat.Log
import JBCenter.Wallet.Transitions

/-! The stored row of a wallet's authority: its columns, the constraint on the snapshot it holds,
and the trigger every update of it passes. -/
namespace JBCenter.Wallet
open Rest
open Deployments (Word Address RestBlockEvidence wellFormedBlock isReason maximumQuantity positiveTime)

structure AuthorityRow where
  accountId : Address
  authorityEpoch : Nat
  sessionEpoch : Nat
  /-- In seconds. -/
  updatedAt : Int
  revision : Nat
  snapshot : Option WalletAuthoritySnapshot
  observationDigest : Option Word
  readyUntilMs : Option Int
  bindingId : Option Word
  bindingAuthorizationDigest : Option Word
  deriving DecidableEq

/-- The snapshot of a row that only has epochs: its first observation is still to come. -/
def AuthorityRow.unobserved (row : AuthorityRow) : WalletAuthoritySnapshot where
  accountId := row.accountId
  revision := row.revision
  authorityEpoch := row.authorityEpoch
  sessionEpoch := row.sessionEpoch
  bootstrapRequired := true
  readiness := .unknown
  identity := none
  historicalVerifiedIdentity := none
  acceptedAnchor := none
  highestObservedBlock := none
  activeFence := none
  lastClosedFence := none
  latestObservation := none
  validUntilMs := none
  updatedAtMs := row.updatedAt * 1000

def snapshotOf (row : AuthorityRow) : WalletAuthoritySnapshot := row.snapshot.getD row.unobserved

/-- The digits of a number. -/
def decimalOctets (value : Nat) : Nat := Nat.log 10 value + 1

def textOctets (octets : Nat) : Nat := octets + 2

def wordOctets : Nat := textOctets 66

def accountOctets : Nat := textOctets 54

/-- An object prints its keys in quotes, a colon and a space after each, and a comma and a space
between the fields. -/
def objectOctets (fields : List (String × Nat)) : Nat :=
  (fields.map (fun field => field.1.length + 4 + field.2)).sum + 2 * fields.length

def nullable (octets : α → Nat) : Option α → Nat
  | none => 4
  | some value => octets value

def quantityOctets (value : Nat) : Nat := textOctets (decimalOctets value)

def clockOctets (value : Int) : Nat := decimalOctets value.natAbs

def blockOctets (block : RestBlockEvidence) : Nat := objectOctets [
  ("source", textOctets 7), ("chainId", 4), ("blockHash", wordOctets), ("timestamp", quantityOctets block.timestamp),
  ("blockNumber", quantityOctets block.blockNumber)]

def identityOctets (v : WalletAuthorityIdentity) : Nat := objectOctets [
  ("version", textOctets 35), ("accountId", accountOctets), ("bindingId", wordOctets), ("stateHash", wordOctets),
  ("initializerHash", wordOctets), ("manifestRevision", wordOctets), ("creationCommitment", wordOctets),
  ("manifestCommitment", wordOctets), ("creationTransaction", wordOctets), ("credentialCommitment", wordOctets),
  ("enrollmentCommitment", wordOctets), ("bindingAuthorizationDigest", wordOctets),
  ("sessionAdministration", objectOctets [
    ("hash", wordOctets), ("epoch", quantityOctets v.sessionAdministration.epoch)])]

def anchorStatusOctets : AnchorStatus → Nat
  | .none | .same => textOctets 4
  | .replaced => textOctets 8
  | .unavailable => textOctets 11

def priorAnchorOctets (p : WalletAuthorityPriorAnchor) : Nat := objectOctets [
  ("status", anchorStatusOctets p.status), ("expected", nullable blockOctets p.expected),
  ("observed", nullable blockOctets p.observed)]

def observationOctets (v : WalletAuthorityObservation) : Nat := objectOctets [
  ("head", nullable blockOctets v.head), ("reason", nullable (fun reason => textOctets reason.length) v.reason),
  ("version", textOctets 38), ("identity", nullable identityOctets v.identity), ("accountId", accountOctets),
  ("eligibility", nullable (fun _ => textOctets 7) v.eligibility), ("priorAnchor", priorAnchorOctets v.priorAnchor),
  ("observedAtMs", clockOctets v.observedAtMs), ("validUntilMs", nullable clockOctets v.validUntilMs),
  ("contextDigest", wordOctets)]

def fenceOctets (v : WalletAuthorityFence) : Nat := objectOctets [
  ("observedAtMs", clockOctets v.observedAtMs), ("sessionEpoch", quantityOctets v.sessionEpoch),
  ("triggerDigest", wordOctets), ("authorityEpoch", quantityOctets v.authorityEpoch),
  ("recoveryAnchor", nullable blockOctets v.recoveryAnchor), ("abandonedAnchor", blockOctets v.abandonedAnchor),
  ("replacementAnchor", blockOctets v.replacementAnchor)]

def readinessOctets : Readiness → Nat
  | .verified => textOctets 8
  | .changed | .unknown => textOctets 7
  | .fenced => textOctets 6

def snapshotOctets (v : WalletAuthoritySnapshot) : Nat := objectOctets [
  ("version", textOctets 35), ("identity", nullable identityOctets v.identity), ("revision", quantityOctets v.revision),
  ("accountId", accountOctets), ("readiness", readinessOctets v.readiness),
  ("activeFence", nullable fenceOctets v.activeFence), ("updatedAtMs", clockOctets v.updatedAtMs),
  ("sessionEpoch", quantityOctets v.sessionEpoch), ("validUntilMs", nullable clockOctets v.validUntilMs),
  ("acceptedAnchor", nullable blockOctets v.acceptedAnchor), ("authorityEpoch", quantityOctets v.authorityEpoch),
  ("lastClosedFence", nullable fenceOctets v.lastClosedFence), ("bootstrapRequired", if v.bootstrapRequired then 4 else 5),
  ("latestObservation", nullable observationOctets v.latestObservation),
  ("highestObservedBlock", nullable quantityOctets v.highestObservedBlock),
  ("historicalVerifiedIdentity", nullable identityOctets v.historicalVerifiedIdentity)]

/-- A verified row is ready until its observation runs out. -/
def readyCheck (row : AuthorityRow) (v : WalletAuthoritySnapshot) : Bool :=
  match v.latestObservation, v.acceptedAnchor, row.readyUntilMs with
  | some observation, some anchor, some ready =>
    observation.identity = v.identity && observation.head = some anchor && observation.eligibility = some .matched &&
    v.validUntilMs = some ready && observation.validUntilMs = some ready && observation.observedAtMs < ready &&
    ready ≤ observation.observedAtMs + 900000 && ready ≤ anchor.timestamp * 1000 + 1200000
  | _, _, _ => false

/-- The constraint `rest_wallet_authority_snapshot_shape`. -/
def snapshotCheck (row : AuthorityRow) : Bool :=
  match row.snapshot with
  | none => row.observationDigest.isNone && row.readyUntilMs.isNone && row.bindingId.isNone &&
    row.bindingAuthorizationDigest.isNone
  | some v =>
    snapshotOctets v ≤ 32768 && v.accountId = row.accountId && v.revision = row.revision &&
    v.authorityEpoch = row.authorityEpoch && v.sessionEpoch = row.sessionEpoch && 1 ≤ v.updatedAtMs &&
    v.updatedAtMs ≤ maxSafeInteger && v.highestObservedBlock.all (· ≤ maximumQuantity) &&
    (match v.latestObservation with
    | none => row.observationDigest.isNone
    | some observation => row.observationDigest.isSome && observation.accountId = row.accountId &&
      1 ≤ observation.observedAtMs && observation.observedAtMs ≤ v.updatedAtMs) &&
    (match v.identity with
    | none => row.bindingId.isNone && row.bindingAuthorizationDigest.isNone
    | some identity => identity.accountId = row.accountId && row.bindingId = some identity.bindingId &&
      row.bindingAuthorizationDigest = some identity.bindingAuthorizationDigest) &&
    v.historicalVerifiedIdentity.all (·.accountId = row.accountId) &&
    (v.activeFence.isNone || v.readiness = .fenced) &&
    (if v.readiness = .verified then
      !v.bootstrapRequired && v.activeFence.isNone && v.identity.isSome && v.identity = v.historicalVerifiedIdentity &&
      readyCheck row v
    else row.readyUntilMs.isNone && v.validUntilMs.isNone)

/-- The constraints on the single columns, with the range of their type. -/
def columnCheck (row : AuthorityRow) : Bool :=
  epochShape row.authorityEpoch && epochShape row.sessionEpoch && row.revision ≤ walletAuthorityMaximumEpoch &&
  1 ≤ row.updatedAt && row.updatedAt ≤ 9007199168340 && row.readyUntilMs.all positiveTime

def sameEvidence (old new : AuthorityRow) : Bool :=
  new.revision = old.revision && new.observationDigest = old.observationDigest && new.readyUntilMs = old.readyUntilMs &&
  new.bindingId = old.bindingId && new.bindingAuthorizationDigest = old.bindingAuthorizationDigest

def rewrittenSnapshot (old new : AuthorityRow) (nowMs : Int) (v : WalletAuthoritySnapshot) : WalletAuthoritySnapshot :=
  let next := { v with
    revision := old.revision + 1
    authorityEpoch := new.authorityEpoch
    sessionEpoch := new.sessionEpoch
    updatedAtMs := max v.updatedAtMs nowMs }
  if new.authorityEpoch ≠ old.authorityEpoch then { next with
    readiness := if v.activeFence.isNone then .unknown else .fenced
    validUntilMs := none }
  else next

/-- An update that changed the epochs only is rewritten as a revision of its own. -/
def rewrittenRow (old new : AuthorityRow) (nowMs : Int) : AuthorityRow :=
  { new with
    revision := old.revision + 1
    snapshot := old.snapshot.map (rewrittenSnapshot old new nowMs)
    readyUntilMs := if new.authorityEpoch ≠ old.authorityEpoch && old.snapshot.isSome then none else new.readyUntilMs }

def unbootstrapped (old : AuthorityRow) : Bool := old.snapshot.all (·.bootstrapRequired)

/-- What a new snapshot may not take back of the one before it. -/
def retains (prior next : WalletAuthoritySnapshot) : Bool :=
  prior.updatedAtMs ≤ next.updatedAtMs && (prior.bootstrapRequired || !next.bootstrapRequired) &&
  (prior.historicalVerifiedIdentity.isNone || next.historicalVerifiedIdentity.isSome) &&
  (prior.lastClosedFence.isNone || next.lastClosedFence.isSome) &&
  prior.highestObservedBlock.all (fun highest => next.highestObservedBlock.any (highest ≤ ·)) &&
  (prior.acceptedAnchor.isNone || next.acceptedAnchor.isSome)

/-- A fence stays as it was opened, but for its recovery anchor, until a verified snapshot closes it. -/
def latched (prior next : WalletAuthoritySnapshot) : Bool :=
  match prior.activeFence with
  | none => true
  | some fence =>
    match next.activeFence with
    | none => next.readiness = .verified && next.lastClosedFence = some fence
    | some kept => ({ kept with recoveryAnchor := none } : WalletAuthorityFence) = { fence with recoveryAnchor := none }

def closesOnce (prior next : WalletAuthoritySnapshot) : Bool :=
  next.lastClosedFence = prior.lastClosedFence || (prior.activeFence.isSome && next.activeFence.isNone &&
    next.lastClosedFence = prior.activeFence && next.readiness = .verified)

/-- The trigger `rest_wallet_authority_transition` before an update: the row that is stored, or
none where it raises. -/
def authorityTransition (old new : AuthorityRow) (nowMs : Int) : Option AuthorityRow := do
  guard (new.accountId = old.accountId ∧ old.authorityEpoch ≤ new.authorityEpoch ∧ old.sessionEpoch ≤ new.sessionEpoch ∧
    old.updatedAt ≤ new.updatedAt)
  let epochsChanged := new.authorityEpoch ≠ old.authorityEpoch ∨ new.sessionEpoch ≠ old.sessionEpoch
  if new.snapshot = old.snapshot then
    guard (sameEvidence old new)
    if epochsChanged then
      guard (old.revision + 1 ≤ walletAuthorityMaximumEpoch)
      return rewrittenRow old new nowMs
    else return new
  else
    let next ← new.snapshot
    guard (new.revision = old.revision + 1 ∧ new.observationDigest ≠ old.observationDigest)
    guard (old.snapshot.all (retains · next) = true)
    guard (unbootstrapped old && !next.bootstrapRequired →
      new.authorityEpoch = old.authorityEpoch + 1 ∧ new.sessionEpoch = old.sessionEpoch + 1)
    guard (old.snapshot.all (fun prior => latched prior next && closesOnce prior next) = true)
    return new

/-- An update, through the trigger and the constraints. -/
def updateRow (old new : AuthorityRow) (nowMs : Int) : Option AuthorityRow := do
  let row ← authorityTransition old new nowMs
  guard (columnCheck row && snapshotCheck row)
  return row

/-- The columns a reconciliation computes. -/
def writtenRow (current : Option AuthorityRow) (candidate : WalletAuthoritySnapshot) (digest : Word) : AuthorityRow where
  accountId := candidate.accountId
  authorityEpoch := candidate.authorityEpoch
  sessionEpoch := candidate.sessionEpoch
  updatedAt := current.elim (candidate.updatedAtMs / 1000) (fun row => max row.updatedAt (candidate.updatedAtMs / 1000))
  revision := candidate.revision
  snapshot := some candidate
  observationDigest := some digest
  readyUntilMs := candidate.validUntilMs
  bindingId := candidate.identity.map (·.bindingId)
  bindingAuthorizationDigest := candidate.identity.map (·.bindingAuthorizationDigest)

/-- The columns an epoch-only update sets. -/
def advancedRow (row : AuthorityRow) (authorityEpoch sessionEpoch : Nat) (seconds : Int) : AuthorityRow :=
  { row with
    authorityEpoch
    sessionEpoch
    updatedAt := max row.updatedAt seconds }

end JBCenter.Wallet
