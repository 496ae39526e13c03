import JBCenter.Auth.Grants
import JBCenter.Base.OrderedMap

/-! The records an owner's setup approval commits together, and the registry of account
bindings they share. What a passkey profile proves about an account's state is left to the
caller's rules; a state is read only for the fields compared here. -/
namespace JBCenter.Auth
open Rest

inductive BindingMethod where
  | safeCurrentOwnerThreshold | safeCurrentOwnerThresholdAndApiGrant | safePasskeyOwnerThresholdAndApiGrant
  | centerWalletPasskeyCreation
  deriving DecidableEq

structure BindingSetup where
  manifestRevision : String
  initializerHash : String
  issuedAt : Int
  grantId : String
  botAddress : String
  scopes : List BotScope
  grantExpiresAt : Int
  label : String
  deriving DecidableEq

structure BindingAuthorization where
  digest : String
  nonce : String
  expiresAt : Int
  method : BindingMethod
  setup : Option BindingSetup
  deriving DecidableEq

structure SmartAccountState where
  address : String
  chainId : Int
  manifestId : String
  manifestRevision : String
  owners : List String
  ownerProfile : Option Payload

structure SmartAccountBinding where
  id : String
  ownerAccountId : String
  ownerAddress : String
  walletChainId : Int
  walletAddress : String
  manifestId : String
  authorization : BindingAuthorization
  state : SmartAccountState

structure OnboardingRecord where
  account : Account
  binding : SmartAccountBinding
  grant : Option BotGrant

/-- Hashes, sizes and the rules of passkey profiles: every result below holds whatever they are. -/
structure OnboardingRules where
  fingerprint : String → String → Int → String
  bytes : SmartAccountBinding → Nat
  assertPasskeyOnboardingState : SmartAccountState → Except RestError String
  validatePasskeyOnboardingInput : OnboardingRecord → Except RestError Unit

def onboardingInvalid (message : String) : RestError := ⟨400, "SMART_ONBOARDING_INVALID", message, none⟩

def isOnboardingTime (value : Int) : Bool := isSafeInteger value && 0 ≤ value

/-- The binding names the account it is for, and the state it was proved in. -/
def OnboardingRecord.bound (rules : OnboardingRules) (record : OnboardingRecord) : Bool :=
  let binding := record.binding
  rules.bytes binding ≤ 60000 &&
    binding.id = rules.fingerprint record.account.id binding.walletAddress binding.walletChainId &&
    binding.ownerAccountId = record.account.id && sameAddress binding.ownerAddress record.account.ownerAddress &&
    binding.state.address = binding.walletAddress && binding.state.chainId = binding.walletChainId &&
    binding.manifestId = binding.state.manifestId && isLowerHex 64 binding.authorization.nonce &&
    isLowerHex 64 binding.authorization.digest && isOnboardingTime binding.authorization.expiresAt

/-- The account is the Safe on Base itself. -/
def OnboardingRecord.ownsItself (record : OnboardingRecord) : Bool :=
  record.account.authorityChainId = 8453 && record.binding.walletChainId = 8453 &&
    record.account.id = "eip155:8453:" ++ toLowerCase record.binding.walletAddress &&
    sameAddress record.account.ownerAddress record.binding.walletAddress

def setupMatches (binding : SmartAccountBinding) (grant : BotGrant) (setup : BindingSetup) : Bool :=
  isLowerHex 64 setup.manifestRevision && isLowerHex 64 setup.initializerHash &&
    setup.manifestRevision = binding.state.manifestRevision && isOnboardingTime setup.issuedAt &&
    setup.issuedAt < binding.authorization.expiresAt && binding.authorization.expiresAt - setup.issuedAt ≤ 300 &&
    setup.issuedAt < grant.expiresAt && grant.expiresAt - setup.issuedAt ≤ 3600 && isUuid grant.id &&
    grant.id.toList[14]? = some '4' && setup.grantId = grant.id && sameAddress setup.botAddress grant.botAddress &&
    setup.scopes = grant.scopes && setup.grantExpiresAt = grant.expiresAt && setup.label = grant.label

def assertOnboardingRecord (rules : OnboardingRules) (record : OnboardingRecord) : Except RestError Unit := do
  assertAccount record.account
  let auth := record.binding.authorization
  if auth.method = .centerWalletPasskeyCreation then
    refuse (record.grant.isSome || auth.setup.isSome || !record.bound rules || !record.ownsItself)
      (onboardingInvalid "The passkey creation consent binding is inconsistent.")
    discard (rules.assertPasskeyOnboardingState record.binding.state)
  else
    let some grant := record.grant
      | .error (onboardingInvalid "Owner setup bindings need their browser API grant.")
    assertGrant grant
    let inconsistent := onboardingInvalid "The verified setup binding and browser API grant are inconsistent."
    let some setup := if auth.method = .safeCurrentOwnerThreshold then none else auth.setup
      | .error inconsistent
    refuse (!record.bound rules || grant.accountId ≠ record.account.id || !setupMatches record.binding grant setup)
      inconsistent
    if auth.method = .safePasskeyOwnerThresholdAndApiGrant then
      let initializerHash ← rules.assertPasskeyOnboardingState record.binding.state
      rules.validatePasskeyOnboardingInput record
      refuse (!record.ownsItself || !sameAddress setup.initializerHash initializerHash ||
          record.binding.state.owners.any (fun owner => sameAddress owner grant.botAddress))
        (onboardingInvalid
          "Passkey setup must retain the Base Safe identity and a distinct nonspending browser key.")
    else
      refuse (record.binding.state.ownerProfile.isSome ||
          sameAddress record.account.ownerAddress record.binding.walletAddress)
        (onboardingInvalid "Legacy owner setup cannot enroll the Safe itself or a passkey owner profile.")

def onboardingExpired (message : String) : RestError := ⟨409, "SMART_ONBOARDING_EXPIRED", message, none⟩

def assertOnboardingLive (record : OnboardingRecord) (now : Int) : Except RestError Unit := do
  assertTime now
  let auth := record.binding.authorization
  if auth.method = .centerWalletPasskeyCreation then
    refuse (record.grant.isSome || auth.setup.isSome || auth.expiresAt ≤ now)
      (onboardingExpired "The passkey creation consent binding expired.")
  else
    refuse (auth.method = .safeCurrentOwnerThreshold || auth.setup.all (fun setup => now + 30 < setup.issuedAt) ||
        auth.expiresAt ≤ now || record.grant.all (fun grant => grant.expiresAt ≤ now))
      (onboardingExpired "The owner setup authorization or browser API grant expired.")

/-- A repeated consent binding carries the same consent. -/
def sameConsent (actual expected : BindingAuthorization) : Bool :=
  actual.method = expected.method && actual.digest = expected.digest && actual.nonce = expected.nonce &&
    actual.setup.isNone && expected.setup.isNone

def sameOnboardingGrant (actual expected : BotGrant) (now : Int) : Bool :=
  actual.id = expected.id && actual.accountId = expected.accountId &&
    sameAddress actual.botAddress expected.botAddress && actual.scopes = expected.scopes &&
    actual.label = expected.label && actual.expiresAt = expected.expiresAt && actual.revokedAt.isNone &&
    actual.createdAt ≤ now && now < actual.expiresAt

/-- The bindings of accounts to wallets, and the digest each owner nonce was used for. -/
structure Registry where
  records : OrderedMap (String × String) SmartAccountBinding
  nonces : OrderedMap (String × String) String

namespace Registry

def recordKey (record : SmartAccountBinding) : String × String := (record.ownerAccountId, record.id)

def nonceKey (record : SmartAccountBinding) : String × String :=
  (record.ownerAccountId, toLowerCase record.authorization.nonce)

def currentOnboardingBinding (registry : Registry) (record : SmartAccountBinding) :
    Except RestError (Option SmartAccountBinding) :=
  match registry.nonces.get (nonceKey record) with
  | none => .ok none
  | some used =>
    if used ≠ record.authorization.digest then
      .error ⟨409, "SMART_BINDING_NONCE_REPLAY",
        "The owner binding nonce was already used for another authorization.", none⟩
    else
      let revoked : RestError := ⟨409, "SMART_BINDING_REVOKED",
        "A revoked or superseded authorization cannot restore an account binding.", none⟩
      match registry.records.get (recordKey record) with
      | none => .error revoked
      | some current =>
        if current.authorization.digest ≠ record.authorization.digest then .error revoked else .ok (some current)

def bindOnboarding (maximumBindings maximumNonces : Nat) (record : SmartAccountBinding) :
    Fallible RestError Registry SmartAccountBinding := do
  let registry ← get
  match ← Fallible.check (registry.currentOnboardingBinding record) with
  | some current => return current
  | none =>
    Fallible.check (refuse ((!registry.records.has (recordKey record) &&
        maximumBindings ≤ registry.records.entries.length) || maximumNonces ≤ registry.nonces.entries.length)
      ⟨503, "SMART_REGISTRY_CAPACITY", "The bounded development registry is full.", none⟩)
    set { registry with
      nonces := registry.nonces.set (nonceKey record) record.authorization.digest
      records := registry.records.set (recordKey record) record }
    return record

end Registry
end JBCenter.Auth
