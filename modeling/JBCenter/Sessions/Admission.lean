import JBCenter.Auth.Grants
import JBCenter.Sessions.Store

/-! What a new session record must be, which records of one wallet exclude each other, and
when a session may sign an operation. -/
namespace JBCenter.Sessions
open Rest

def missingSession : RestError :=
  sessionError "SESSION_NOT_FOUND" "The session is absent or belongs to another principal." 404

def assertSessionId (id : String) : Except RestError Unit :=
  refuse (!isUuid id) (invalid "Use a canonical session UUID.")

def isNonzeroHash (value : String) : Bool := isHex 64 value && (value.toList.drop 2).any (· ≠ '0')

/-- An exact positive amount. -/
def isPositive (value : String) : Bool := isUint256 value && 0 < decimalValue value

/-- Matches `/^[A-Za-z0-9_-]{1,100}$/`. -/
def isAllocationId (value : String) : Bool :=
  1 ≤ value.length && value.length ≤ 100 && value.toList.all (fun c => isAlphanumeric c || c = '_' || c = '-')

/-- Matches `/^eip155:([1-9][0-9]{0,15}):(0x[0-9a-f]{40})$/`, the chain a safe integer. -/
def isAccountId (value : String) : Bool :=
  match Rest.split value ':' with
  | ["eip155", chain, owner] =>
    (match chain.toList with
    | first :: rest => isDigit first && first != '0' && rest.length ≤ 15 && rest.all isDigit
    | [] => false) && isSafeInteger (decimalValue chain) && isLowerHex 40 owner
  | _ => false

/-- The identifiers and chain assets the groups before this one already use. -/
structure Allocated where
  groupIds : List String := []
  allocationIds : List String := []
  coordinates : List (Int × String) := []

def allocate (progress : Allocated × Nat) (entry : SessionAllocation) : Except RestError (Allocated × Nat) := do
  let (seen, sum) := progress
  refuse (!isAllocationId entry.id || entry.id ∈ seen.allocationIds || !isSafeInteger entry.chainId ||
      entry.chainId < 1 || !isAddress entry.asset || !isPositive entry.limit || utf16Length entry.assetReviewId < 1 ||
      256 < utf16Length entry.assetReviewId)
    (invalid "Use distinct reviewed chain/asset allocations and positive exact limits.")
  let coordinate := (entry.chainId, toLowerCase entry.asset)
  refuse (coordinate ∈ seen.coordinates) (invalid "A chain/asset allocation cannot occur in two approved groups.")
  return ({ seen with
    coordinates := coordinate :: seen.coordinates
    allocationIds := entry.id :: seen.allocationIds }, sum + decimalValue entry.limit)

def allocateGroup (seen : Allocated) (item : SessionAllocationGroup) : Except RestError Allocated := do
  refuse (!isAllocationId item.id || item.id ∈ seen.groupIds || utf16Length item.assetIdentity < 1 ||
      256 < utf16Length item.assetIdentity || item.decimals < 0 || 255 < item.decimals || !isPositive item.total ||
      item.allocations.length < 1 || 8 < item.allocations.length)
    (invalid "Use exact reviewed asset identities, units and bounded allocation groups.")
  let (seen, sum) ← item.allocations.foldlM allocate ({ seen with groupIds := item.id :: seen.groupIds }, 0)
  refuse (decimalValue item.total < sum)
    (invalid "Per-chain allocations exceed their explicit approved group total.")
  return seen

def allocationGroups (compiled : CompiledSession) : Except RestError (List SessionAllocationGroup) := do
  let groups := compiled.reviewedPolicy.allocations
  refuse (16 < groups.length) (invalid "Compiled policy allocation groups are missing or oversized.")
  discard (groups.foldlM allocateGroup {})
  return groups

def assertCompiledSessionIntegrity (encoding : Encoding) (compiled : CompiledSession) : Except RestError Unit :=
  refuse (!isHex 64 compiled.compiledHash || !isHex 64 compiled.policyHash ||
      !same (encoding.compiledHash compiled) compiled.compiledHash ||
      !same (encoding.policyHash compiled.reviewedPolicy) compiled.policyHash)
    (invalid "Compiled or reviewed policy hash does not match its full immutable document.")

/-- Each field of the compiled policy that the reviewed one repeats, and whether they agree. -/
def reviewedFields (c : CompiledSession) : List (String × Bool) :=
  let policy := c.reviewedPolicy
  [("ownerAccountId", same policy.ownerAccountId c.ownerAccountId), ("bindingId", same policy.bindingId c.bindingId),
    ("grantId", same policy.grantId c.grantId), ("sessionKey", same policy.sessionKey c.sessionKey),
    ("chainId", policy.chainId = c.chainId), ("wallet", same policy.wallet c.wallet),
    ("generation", same policy.generation c.generation), ("nonce", same policy.nonce c.nonce),
    ("validAfter", policy.validAfter = c.validAfter), ("validUntil", policy.validUntil = c.validUntil),
    ("salt", same policy.salt c.salt)]

def assertNewSession (encoding : Encoding) (record : StoredSession) (now : Int) : Except RestError Unit := do
  assertSessionId record.id
  let c := record.compiled
  refuse (!isUint256 record.preparedEpoch || !isHex 64 record.preparedHash)
    (invalid "A session requires its exact verified administration baseline.")
  refuse (!isAccountId c.ownerAccountId) (invalid "Invalid session owner account identity.")
  refuse (record.actor.accountId ≠ c.ownerAccountId || !canReadSession record record.actor)
    (invalid "Session creator must be the owner or exact bound grant.")
  refuse (c.schemaVersion ≠ 1 || c.stack ≠ "legacy-f24dddf-safe7579-f22a194" || !isHex 64 c.bindingId ||
      !isUuid c.grantId || !isAddress c.sessionKey || !isAddress c.wallet || !isSafeInteger c.chainId ||
      c.chainId < 1 || !isPositive c.generation || !isNonzeroHash c.salt || !isNonzeroHash c.nonce ||
      !isHex 64 c.permissionId || !isHex 64 c.manifestRevision || !isHex 64 c.policyHash ||
      !isHex 64 c.compiledHash || !isUint256 c.activationEnableNonce || !isTime c.validAfter ||
      !isTime c.validUntil || (c.validUntil - c.validAfter ≠ 7 * 86400 && c.validUntil - c.validAfter ≠ 30 * 86400))
    (invalid "Compiled session identity requires an exact seven- or thirty-day immutable policy.")
  assertCompiledSessionIntegrity encoding c
  (reviewedFields c).forM fun (key, agrees) =>
    refuse (!agrees) (invalid ("Compiled " ++ key ++ " differs from its reviewed policy."))
  refuse (!isTime now || !isTime record.createdAt || now < record.createdAt ||
      record.updatedAt ≠ record.createdAt || c.validUntil ≤ now / 1000 || now / 1000 + 86400 < c.validAfter ||
      record.state ≠ .prepared || record.revision ≠ 0 || record.reservationsReleased || record.activation.isSome ||
      record.revocation.isSome || record.observation.isSome || record.invalidation.isSome ||
      !record.supersededApprovals.isEmpty)
    (invalid "Invalid initial session lifecycle or expired policy window.")
  let groups ← allocationGroups c
  refuse (record.allocationGroups ≠ groups || !same record.allocationManifestHash (encoding.groupsHash groups))
    (invalid "Allocation grouping differs from the owner-reviewed policy.")
  discard (cloneSession encoding.record record)

def assertSessionGrant (record : StoredSession) (grant : Option Auth.BotGrant) (nowSeconds : Int) :
    Except RestError Unit :=
  let c := record.compiled
  refuse (!grant.any (fun grant => grant.id = c.grantId && grant.accountId = c.ownerAccountId &&
      same grant.botAddress c.sessionKey && grant.revokedAt.isNone && nowSeconds < grant.expiresAt &&
      c.validUntil ≤ grant.expiresAt && Auth.allBotScopes.all (fun scope => scope ∈ grant.scopes)))
    (sessionError "SESSION_GRANT_INACTIVE"
      "The immutable session key requires its exact active grant through the complete policy expiry." 403)

def sameWallet (a b : StoredSession) : Bool :=
  a.compiled.chainId = b.compiled.chainId && same a.compiled.wallet b.compiled.wallet

def identityConflicts (a b : StoredSession) : Bool :=
  a.id ≠ b.id && sameWallet a b &&
    (same a.compiled.permissionId b.compiled.permissionId || same a.compiled.salt b.compiled.salt ||
      same a.compiled.nonce b.compiled.nonce ||
      (same a.compiled.sessionKey b.compiled.sessionKey && a.compiled.generation = b.compiled.generation))

/-- The record reserves its whole wallet, until its removal is final and its nonce has advanced. -/
def StoredSession.reserves (record : StoredSession) : Bool :=
  !record.reservationsReleased && (record.activation.isSome || record.enabled)

def reservationConflicts (candidate existing : StoredSession) : Bool :=
  candidate.id ≠ existing.id && sameWallet candidate existing && existing.reserves

def assertSessionUserOperation (record : StoredSession) (actor : RestActor) (binding : UserOperationSessionBinding)
    (accountBindingId : String) (chainId : Int) (sender : String) (nowSeconds : Int) : Except RestError Unit := do
  assertSessionActor record actor
  let c := record.compiled
  refuse (record.id ≠ binding.id || !isHex 64 binding.policyHash || !same binding.policyHash c.policyHash ||
      !isHex 64 binding.compiledHash || !same binding.compiledHash c.compiledHash ||
      binding.generation ≠ c.generation || binding.grantId ≠ c.grantId || !isHex 64 binding.permissionId ||
      !same binding.permissionId c.permissionId || !isAddress binding.sessionKey ||
      !same binding.sessionKey c.sessionKey || !isHex 64 binding.observationHash ||
      !same accountBindingId c.bindingId || chainId ≠ c.chainId || !same sender c.wallet)
    (sessionError "SESSION_OPERATION_BINDING_MISMATCH"
      "The UserOperation differs from its exact wallet, grant, generation and compiled policy." 409)
  refuse (!isTime nowSeconds || record.state ≠ .active || record.reservationsReleased || record.invalidation.isSome ||
      record.activation.isNone || record.revocation.isSome || nowSeconds < c.validAfter ||
      c.validUntil ≤ nowSeconds || !record.observation.any (fun observation =>
        same observation.proofHash binding.observationHash && observation.observedAt ≤ nowSeconds * 1000 + 999 &&
          nowSeconds * 1000 - observation.observedAt ≤ maximumObservationAgeSeconds * 1000 &&
          observation.installed.enabled && observation.installed.enableNonce = c.activationEnableNonce))
    (sessionError "SESSION_EXECUTION_UNAVAILABLE"
      "The exact session is not active with a current canonical installed-policy observation." 403)

end JBCenter.Sessions
