import JBCenter.Sessions.Types

/-! The pure half of the session store: what a claim, an observation and an invalidation
make of one session record. -/
namespace JBCenter.Sessions
open Rest

def sessionError (code message : String) (status : Nat) : RestError := ⟨status, code, message, none⟩
def invalid (message : String) : RestError := sessionError "SESSION_INPUT_INVALID" message 400

def same (a b : String) : Bool := toLowerCase a = toLowerCase b

/-- A 20-byte address other than zero. -/
def isAddress (value : String) : Bool := isHex 40 value && (value.toList.drop 2).any (· ≠ '0')

def isTime (value : Int) : Bool := isSafeInteger value && 0 ≤ value

def cloneSession (bytes : α → Nat) (value : α) : Except RestError α := do
  refuse (maximumBytes < bytes value)
    (sessionError "SESSION_STORAGE_LIMIT" "The session exceeds its bounded storage limit." 429)
  return value

/-- Matches `/^[A-Za-z0-9._:-]{1,128}$/` and `/^[A-Za-z0-9:_-]{1,192}$/`. -/
def assertSessionIdempotency (claim : SessionIdempotency) : Except RestError Unit :=
  refuse (claim.key.length < 1 || 128 < claim.key.length ||
      !claim.key.toList.all (fun c => isAlphanumeric c || c ∈ ['.', '_', ':', '-']) ||
      claim.requestHash.length < 1 || 192 < claim.requestHash.length ||
      !claim.requestHash.toList.all (fun c => isAlphanumeric c || c ∈ [':', '_', '-']))
    (invalid "Use a bounded exact idempotency key and request hash.")

def canReadSession (record : StoredSession) (actor : RestActor) : Bool :=
  actor.accountId = record.compiled.ownerAccountId &&
    (actor.principalId = "owner:" ++ actor.accountId || actor.principalId = "bot:" ++ record.compiled.grantId)

def assertSessionActor (record : StoredSession) (actor : RestActor) : Except RestError Unit :=
  refuse (!canReadSession record actor) (sessionError "SESSION_PRINCIPAL_MISMATCH"
    "Only the owner or this session's exact authorized grant can access it." 403)

def revision (value : Int) : Except RestError Unit :=
  refuse (!isSafeInteger value || value < 0 || maxSafeInteger ≤ value) (invalid "Invalid session revision.")

def StoredSession.approvalOf (record : StoredSession) : LifecycleKind → Option SessionOwnerApproval
  | .activation => record.activation
  | .revocation => record.revocation

/-- The plan an approval names, once it was admitted. -/
def SessionOwnerApproval.samePlan (prior approval : SessionOwnerApproval) : Bool :=
  prior.planId = approval.planId && same prior.planCommitment approval.planCommitment

def StoredSession.enabled (record : StoredSession) : Bool :=
  record.observation.any (fun observation => observation.installed.enabled)

def assertSupersedable (record : StoredSession) (kind : LifecycleKind) (allowSupersession : Bool) :
    Except RestError Unit := do
  refuse (!allowSupersession)
    (sessionError "SESSION_PLAN_CONFLICT" "This lifecycle action already binds another owner-approved plan." 409)
  refuse (32 ≤ record.supersededApprovals.length)
    (sessionError "SESSION_STORAGE_LIMIT" "Session plan replacement history capacity reached." 429)
  refuse (kind = .activation && ((record.state ≠ .installing && record.state ≠ .stale) || record.enabled))
    (sessionError "SESSION_ACTIVATION_UNAVAILABLE"
      "A previously active policy cannot be reinitialized through plan replacement." 409)
  refuse (kind = .revocation && record.state ≠ .revoking && record.state ≠ .stale)
    (sessionError "SESSION_REVOCATION_UNAVAILABLE"
      "Only an unfinished revocation can replace its expired unsubmitted plan." 409)

def applySessionClaim (encoding : Encoding) (record : StoredSession) (claim : SessionClaim) (kind : LifecycleKind)
    (now : Int) (allowSupersession : Bool) : Except RestError (StoredSession × Bool) := do
  assertSessionActor record claim.actor
  assertSessionIdempotency claim.idempotency
  revision claim.expectedRevision
  let approval := claim.approval
  refuse (approval.kind ≠ kind || approval.accountId ≠ record.compiled.ownerAccountId ||
      approval.sessionId ≠ record.id || !isHex 64 approval.policyHash ||
      !same approval.policyHash record.compiled.policyHash || !isHex 64 approval.compiledHash ||
      !same approval.compiledHash record.compiled.compiledHash || !isUuid approval.planId ||
      !isHex 64 approval.planCommitment || !isHex 64 approval.digest)
    (invalid "Owner approval must bind this exact session, policy and setup/revocation plan.")
  let prior := record.approvalOf kind
  if prior.any (fun prior => prior.samePlan approval) then
    discard (cloneSession encoding.record record)
    return (record, false)
  optionally (fun _ => assertSupersedable record kind allowSupersession) prior
  refuse (record.revision ≠ claim.expectedRevision)
    (sessionError "SESSION_REVISION_CONFLICT" "Session changed; review its current state before retrying." 409)
  let seconds := now / 1000
  refuse (!isTime now || !isTime approval.issuedAt || !isTime approval.expiresAt || approval.issuedAt < 1 ||
      approval.expiresAt ≤ seconds || seconds + 30 < approval.issuedAt ||
      approval.expiresAt ≤ approval.issuedAt || 300 < approval.expiresAt - approval.issuedAt)
    (sessionError "SESSION_OWNER_APPROVAL_EXPIRED"
      "Fresh owner consent expired while the lifecycle action waited for admission." 403)
  refuse (kind = .activation && (record.reservationsReleased || record.revocation.isSome ||
      record.state ∈ [SessionState.revoking, SessionState.revoked, SessionState.expired] ||
      record.compiled.validUntil ≤ seconds))
    (sessionError "SESSION_ACTIVATION_UNAVAILABLE" "A retired or expired policy cannot be installed or reset." 409)
  discard (cloneSession encoding.record record)
  optionally (fun prior => discard (cloneSession encoding.approval prior)) prior
  discard (cloneSession encoding.approval approval)
  let superseded := record.supersededApprovals ++ prior.toList.map (fun approval => ⟨approval, now⟩)
  return ({ record with
    supersededApprovals := superseded
    activation := if kind = .activation then some approval else record.activation
    revocation := if kind = .revocation then some approval else record.revocation
    state := if kind = .activation then .installing else .revoking
    revision := record.revision + 1
    updatedAt := now }, true)

def counterKey (counter : Counter) : String :=
  toLowerCase counter.policy ++ ":" ++ toLowerCase counter.configId ++ ":" ++ counter.name

def assertCounter (counter : Counter) : Except RestError Unit :=
  refuse (!isAddress counter.policy || !isHex 64 counter.configId || utf16Length counter.name < 1 ||
      128 < utf16Length counter.name || !isUint256 counter.used || !isUint256 counter.limit ||
      decimalValue counter.limit < decimalValue counter.used)
    (invalid "Invalid exact onchain policy counter observation.")

def assertCounters (keys : List String) : List Counter → Except RestError Unit
  | [] => .ok ()
  | counter :: rest => do
    assertCounter counter
    refuse (counterKey counter ∈ keys) (invalid "Duplicate onchain policy counter.")
    assertCounters (counterKey counter :: keys) rest

def assertAdministration (admin : Option Administration) : Bool :=
  match admin with
  | none => false
  | some admin =>
    isUint256 admin.epoch && isHex 64 admin.hash &&
      (match admin.lastInitialization with
      | none => false
      | some last => isUint256 last.epoch && last.permissionIds.length ≤ 16 && last.permissionIds.all (isHex 64))

/-- An older block, or another block at the same height. -/
def blockConflicts (evidence previous : RestBlockEvidence) : Bool :=
  decimalValue evidence.blockNumber < decimalValue previous.blockNumber ||
    (evidence.blockNumber = previous.blockNumber && !same evidence.blockHash previous.blockHash)

def assertObservation (encoding : Encoding) (record : StoredSession) (observation : SessionCanonicalObservation)
    (now : Int) : Except RestError Unit := do
  let o := observation.installed
  let c := record.compiled
  refuse (!isHex 64 observation.proofHash ||
      !same observation.proofHash (encoding.fingerprint o observation.observedAt observation.finalized) ||
      !isTime observation.observedAt || now < observation.observedAt || o.chainId ≠ c.chainId ||
      !isAddress o.account || !same o.account c.wallet || !isHex 64 o.compiledHash ||
      !same o.compiledHash c.compiledHash || !isHex 64 o.permissionId || !same o.permissionId c.permissionId ||
      !isHex 64 o.configurationHash || !isUint256 o.enableNonce || o.evidence.source ≠ "onchain" ||
      o.evidence.chainId ≠ c.chainId || !isHex 64 o.evidence.blockHash || !isUint256 o.evidence.blockNumber ||
      !isUint256 o.evidence.timestamp || 256 < o.counters.length)
    (invalid "Canonical observation does not bind this exact compiled session and chain.")
  refuse (o.enabled && !assertAdministration o.administration)
    (invalid "Enabled session observations require complete canonical administration history.")
  assertCounters [] o.counters
  refuse (record.invalidation.isNone && record.observation.any (fun previous =>
      blockConflicts o.evidence previous.installed.evidence))
    (sessionError "SESSION_OBSERVATION_STALE"
      "An older or reorganized block cannot overwrite the current proof without explicit invalidation." 409)

/-- Disabled, with the enable nonce moved past the one the owner approved. -/
def retired (c : CompiledSession) (o : InstalledSessionObservation) : Bool :=
  !o.enabled && decimalValue c.activationEnableNonce < decimalValue o.enableNonce

def expired (c : CompiledSession) (o : InstalledSessionObservation) : Bool :=
  c.validUntil ≤ (decimalValue o.evidence.timestamp : Int)

def observedState (record : StoredSession) (o : InstalledSessionObservation) (grantActive : Bool) : SessionState :=
  let c := record.compiled
  if retired c o then .revoked
  else if expired c o then .expired
  else if record.revocation.isSome then .revoking
  else if o.enabled && o.enableNonce = c.activationEnableNonce && record.activation.isSome && grantActive then .active
  else if !o.enabled && o.enableNonce = c.activationEnableNonce && record.activation.isSome && grantActive then
    .installing
  else .stale

def initialAdministrationInvalid (record : StoredSession) (o : InstalledSessionObservation) : Bool :=
  o.enabled && (match o.administration with
    | none => true
    | some admin =>
      decimalValue admin.epoch ≠ decimalValue record.preparedEpoch + 1 ||
        (match admin.lastInitialization with
        | none => true
        | some last => last.epoch ≠ admin.epoch || last.permissionIds.length ≠ 1 ||
            !last.permissionIds.all (fun id => same id record.compiled.permissionId)))

/-- The administration fields that must stay as they were while the policy is enabled. -/
def administrationIdentity (o : InstalledSessionObservation) : Option (String × String) :=
  o.administration.map (fun admin => (admin.epoch, admin.hash))

/-- The entry of a counter's key, as a map built from the list holds it: the last one. -/
def priorCounter (previous : InstalledSessionObservation) (counter : Counter) : Option Counter :=
  previous.counters.reverse.find? (fun prior => counterKey prior = counterKey counter)

def counterChanged (previous : InstalledSessionObservation) (counter : Counter) : Bool :=
  match priorCounter previous counter with
  | none => true
  | some prior => prior.limit ≠ counter.limit || decimalValue counter.used < decimalValue prior.used

def countersChanged (previous o : InstalledSessionObservation) : Bool :=
  previous.counters.length ≠ o.counters.length || o.counters.any (counterChanged previous)

/-- The reasons after which no observation of a live policy restores a record. -/
def InvalidationReason.permanent : InvalidationReason → Bool
  | .reorg | .configurationChanged | .counterReset => true
  | _ => false

def poisoned (record : StoredSession) : Bool :=
  record.invalidation.any (fun invalidation => invalidation.reason.permanent)

/-- The reason, if any, for which an observation of a live policy makes the record stale. -/
def observedReset (record : StoredSession) (o : InstalledSessionObservation) : Option InvalidationReason :=
  let previous := (record.observation.map SessionCanonicalObservation.installed).filter (fun p => p.enabled)
  let counters := previous.any (fun p => countersChanged p o)
  let firstUseAlreadySpent := previous.isNone && o.enabled && o.counters.any (fun counter => counter.used ≠ "0")
  let administrationChanged := previous.any (fun p =>
    o.enabled && administrationIdentity p ≠ administrationIdentity o)
  let configurationChanged := previous.any (fun p => !o.enabled || !same p.configurationHash o.configurationHash)
  if poisoned record then record.invalidation.map SessionInvalidation.reason
  else if counters || firstUseAlreadySpent then some .counterReset
  else if initialAdministrationInvalid record o || administrationChanged || configurationChanged then
    some .configurationChanged
  else none

def awaitingNonceRevocation (record : StoredSession) (o : InstalledSessionObservation) : Bool :=
  !o.enabled && record.revocation.isSome

/-- The record an accepted observation leaves, before a missing grant is accounted for. -/
def observedRecord (record : StoredSession) (observation : SessionCanonicalObservation) (grantActive : Bool)
    (now : Int) : StoredSession :=
  let o := observation.installed
  let c := record.compiled
  let next := { record with
    observation := some observation
    invalidation := none
    reservationsReleased := record.reservationsReleased || (observation.finalized && retired c o)
    state := observedState record o grantActive }
  if !retired c o && !expired c o && !awaitingNonceRevocation record o then
    match observedReset record o with
    | none => next
    | some reason => { next with
        state := .stale
        invalidation := some ⟨reason, record.observation.map SessionCanonicalObservation.proofHash, now⟩ }
  else next

/-- A record whose grant is no longer active cannot stay usable. -/
def withoutGrant (observation : SessionCanonicalObservation) (now : Int) (next : StoredSession) : StoredSession :=
  if next.state ∈ [SessionState.revoked, SessionState.expired, SessionState.revoking] then next
  else { next with
    state := .stale
    invalidation := next.invalidation.or (some ⟨.grantInactive, some observation.proofHash, now⟩) }

def applySessionObservation (encoding : Encoding) (record : StoredSession) (update : SessionObservationUpdate)
    (grantActive : Bool) (now : Int) : Except RestError (StoredSession × Bool) := do
  assertSessionActor record update.actor
  revision update.expectedRevision
  if record.revision ≠ update.expectedRevision ||
      record.observation.map SessionCanonicalObservation.proofHash ≠ update.expectedObservationHash then
    discard (cloneSession encoding.record record)
    return (record, false)
  assertObservation encoding record update.observation now
  discard (cloneSession encoding.record record)
  let o := update.observation.installed
  -- A finalized retirement is permanent: a policy that appears enabled after one stops here.
  refuse (record.reservationsReleased && o.enabled && !expired record.compiled o)
    (sessionError "SESSION_FINALITY_CONTRADICTION"
      "A finalized retired policy appears enabled; stop execution and inspect chain finality." 409)
  discard (cloneSession encoding.observation update.observation)
  let next := observedRecord record update.observation grantActive now
  let granted := if grantActive then next else withoutGrant update.observation now next
  let stored := { granted with revision := granted.revision + 1, updatedAt := now }
  discard (cloneSession encoding.record stored)
  return (stored, true)

def applySessionInvalidation (encoding : Encoding) (record : StoredSession) (update : SessionInvalidationUpdate)
    (now : Int) : Except RestError (StoredSession × Bool) := do
  assertSessionActor record update.actor
  revision update.expectedRevision
  if record.revision ≠ update.expectedRevision then
    discard (cloneSession encoding.record record)
    return (record, false)
  refuse (!isTime now) (invalid "Invalid session invalidation.")
  discard (cloneSession encoding.record record)
  optionally (fun invalidation => discard (cloneSession encoding.invalidation invalidation))
    (record.invalidation.filter (fun invalidation => invalidation.reason.permanent))
  let fresh : SessionInvalidation :=
    ⟨update.reason, record.observation.map SessionCanonicalObservation.proofHash, now⟩
  return ({ record with
    invalidation := if poisoned record then record.invalidation else some fresh
    state := .stale
    revision := record.revision + 1
    updatedAt := now }, true)

end JBCenter.Sessions
