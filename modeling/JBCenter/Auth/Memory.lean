import JBCenter.Auth.Onboarding
import JBCenter.Base.Answers
import JBCenter.Base.IndexedHeap

/-! The in-memory account store. Every operation is one synchronous callback under its
account's lock, so whole operations interleave and nothing else does; the whole seconds an
operation waited for its lock are part of its input. -/
namespace JBCenter.Auth
open Rest

structure AccountStoreLimits where
  maxAccounts : Int
  maxNoncesPerAccount : Int
  maxGrantsPerAccount : Int

structure Memory where
  accounts : OrderedMap String Account
  /-- The account of each chain and owner address. -/
  owners : OrderedMap (Int × String) String
  bots : OrderedMap String BotGrant
  accountBots : OrderedMap String (List String)
  /-- The nonces of every account, each due when it expires. -/
  nonces : IndexedHeap (String × String)
  registry : Registry

def Memory.empty : Memory := ⟨.empty, .empty, .empty, .empty, .empty, ⟨.empty, .empty⟩⟩

/-- What the store was built with. -/
structure Settings where
  limits : AccountStoreLimits
  rules : OnboardingRules
  maximumBindings : Nat
  maximumNonces : Nat

abbrev StoreM := Fallible RestError Memory

open Fallible (check)

namespace Memory

def account (s : Memory) (id : String) : Except RestError Account :=
  match s.accounts.get id with
  | none => .error (authError "ACCOUNT_NOT_FOUND" 404 "Account not found")
  | some account => .ok account

def grant (s : Memory) (id : Option String) : Option BotGrant := id.bind s.bots.get

def enrollmentAccount (limits : AccountStoreLimits) (s : Memory) (account : Account) : Except RestError Account := do
  let existing := s.accounts.get account.id
  refuse ((s.owners.get (account.authorityChainId, toLowerCase account.ownerAddress)).any (fun owner =>
        owner ≠ account.id) || existing.any (fun existing =>
        !sameAddress existing.ownerAddress account.ownerAddress ||
          existing.authorityChainId ≠ account.authorityChainId))
    (authError "FORBIDDEN" 403 "Account identity does not match its owner")
  refuse (existing.isNone && limits.maxAccounts ≤ (s.accounts.entries.length : Int))
    (authError "STORAGE_LIMIT" 429 "Account storage limit exceeded")
  return existing.getD { account with ownerAddress := toLowerCase account.ownerAddress }

def saveEnrollment (s : Memory) (account : Account) : Memory :=
  if s.accounts.has account.id then s
  else { s with
    accounts := s.accounts.set account.id account
    owners := s.owners.set (account.authorityChainId, toLowerCase account.ownerAddress) account.id }

/-- The nonces of one account, in the order they were used. -/
def accountNonces (s : Memory) (accountId : String) : List ((String × String) × Placed) :=
  s.nonces.placed.entries.filter (fun entry => entry.1.1 = accountId)

def removeNonce (s : Memory) (key : String × String) : Memory := { s with nonces := s.nonces.remove key }

def grantIds (s : Memory) (accountId : String) : List String := (s.accountBots.get accountId).getD []

/-- A grant is stored under its identifier and listed with its account. -/
def addGrant (s : Memory) (grant : BotGrant) : Memory :=
  { s with
    bots := s.bots.set grant.id grant
    accountBots := s.accountBots.set grant.accountId (s.grantIds grant.accountId ++ [grant.id]) }

end Memory

def afterWait (request : VerifiedRequest) (waited : Nat) : Except RestError VerifiedRequest := do
  let current := { request with now := request.now + waited }
  assertRequest current
  return current

def consumeNonce (limits : AccountStoreLimits) (request : VerifiedRequest) : StoreM Unit := do
  -- The expired nonces of the account go first, and stay gone when the request is refused.
  modify fun s => ((s.accountNonces request.accountId).filter (fun entry => entry.2.priority ≤ request.now)).foldl
    (fun s entry => s.removeNonce entry.1) s
  let s ← get
  let nonce := toLowerCase request.nonce
  check (refuse (s.nonces.placed.has (request.accountId, nonce))
    (authError "REPLAY" 409 "Authenticated request nonce was already used"))
  check (refuse (nonceCapacity limits.maxNoncesPerAccount request.grantId ≤
      ((s.accountNonces request.accountId).length : Int))
    (authError "STORAGE_LIMIT" 429 "Account request nonce storage limit exceeded"))
  modify fun s => { s with nonces := s.nonces.add (request.accountId, nonce) request.expiresAt }

variable (settings : Settings)

def enroll (account : Account) (request : VerifiedRequest) (waited : Nat) : StoreM RestPrincipal := do
  check (assertAccount account)
  check (assertRequest request)
  let current ← check (afterWait request waited)
  check (refuse (request.accountId ≠ account.id || request.grantId.isSome ||
      !sameAddress request.signer account.ownerAddress)
    (authError "FORBIDDEN" 403 "Only the owner can enroll an account"))
  let s ← get
  let value ← check (s.enrollmentAccount settings.limits account)
  let principal ← check (principalFor value none current)
  consumeNonce settings.limits current
  modify fun s => s.saveEnrollment value
  return principal

def grantExists : RestError := authError "REPLAY" 409 "Bot grant identifier already exists"

def bindInRegistry (binding : SmartAccountBinding) : StoreM Unit :=
  discard (Fallible.zoom Memory.registry (fun registry s => { s with registry })
    (Registry.bindOnboarding settings.maximumBindings settings.maximumNonces binding))

/-- A consent binding commits the account and its binding only. -/
def finalizeConsent (record : OnboardingRecord) (account : Account) (binding : Option SmartAccountBinding) :
    StoreM OnboardingRecord := do
  let s ← get
  match binding with
  | some binding =>
    check (refuse (!s.accounts.has account.id ||
        !sameConsent binding.authorization record.binding.authorization)
      ⟨409, "SMART_ONBOARDING_REPLAY", "A changed binding cannot be restored by a previous consent.", none⟩)
    return ⟨account, binding, none⟩
  | none =>
    bindInRegistry settings record.binding
    modify fun s => s.saveEnrollment account
    return ⟨account, record.binding, none⟩

def finalizeGrant (record : OnboardingRecord) (requested : BotGrant) (account : Account)
    (binding : Option SmartAccountBinding) (now : Int) : StoreM OnboardingRecord := do
  let s ← get
  let existing := s.bots.get requested.id
  match binding with
  | some binding =>
    check (refuse (!s.accounts.has account.id ||
        !existing.any (fun existing => sameOnboardingGrant existing requested now) ||
        binding.authorization ≠ record.binding.authorization)
      ⟨409, "SMART_ONBOARDING_REPLAY",
        "A missing, changed, expired or revoked browser API grant cannot be restored by a previous setup approval.", none⟩)
    return ⟨account, binding, existing⟩
  | none =>
    check (refuse existing.isSome grantExists)
    check (refuse (settings.limits.maxGrantsPerAccount ≤ ((s.grantIds account.id).length : Int))
      ⟨429, "SMART_ONBOARDING_GRANT_LIMIT", "Account browser API grant history limit exceeded.", none⟩)
    let grant := { requested with botAddress := toLowerCase requested.botAddress, createdAt := now }
    bindInRegistry settings record.binding
    modify fun s => s.saveEnrollment account
    modify fun s => { s with
      bots := s.bots.set grant.id grant
      accountBots := s.accountBots.set account.id (s.grantIds account.id ++ [grant.id]) }
    return ⟨account, record.binding, some grant⟩

def finalizeOnboarding (record : OnboardingRecord) (now : Int) : StoreM OnboardingRecord := do
  check (assertOnboardingRecord settings.rules record)
  check (assertOnboardingLive record now)
  let s ← get
  let account ← check (s.enrollmentAccount settings.limits { record.account with createdAt := now, updatedAt := now })
  let binding ← check (s.registry.currentOnboardingBinding record.binding)
  match record.grant with
  | none => finalizeConsent settings record account binding
  | some grant => finalizeGrant settings record grant account binding now

def authorizeAndConsume (request : VerifiedRequest) (waited : Nat) : StoreM RestPrincipal := do
  check (assertRequest request)
  let current ← check (afterWait request waited)
  let s ← get
  let account ← check (s.account request.accountId)
  let principal ← check (principalFor account (s.grant request.grantId) current)
  consumeNonce settings.limits current
  return principal

def assertActive (authority : ActiveAuthority) (waited : Nat) : StoreM Unit := do
  let request ← check (authorityRequest authority)
  let s ← get
  let account ← check (s.account authority.accountId)
  discard (check (principalFor account (s.grant authority.grantId) { request with now := authority.now + waited }))

/-- The callback runs under the lock when this answers; it is an operation of another store. -/
def withActiveActor (actor : RestActor) (scopes : List BotScope) (now : Int) (waited : Nat) : StoreM Unit := do
  let grantId ← check (actorGrantId actor)
  let s ← get
  let account ← check (s.account actor.accountId)
  check (assertActorAuthority account (s.grant grantId) actor scopes (now + waited))

def updateProfile (accountId : String) (profile : Profile) (now : Int) : StoreM Account := do
  check (assertIdentifier accountId)
  check (assertProfile profile)
  check (assertTime now)
  let s ← get
  let account ← check (s.account accountId)
  let updated := { account with profile, updatedAt := max account.updatedAt now }
  modify fun s => { s with accounts := s.accounts.set accountId updated }
  return updated

def registerBot (grant : BotGrant) : StoreM BotGrant := do
  check (assertGrant grant)
  let s ← get
  discard (check (s.account grant.accountId))
  check (refuse (s.bots.has grant.id) grantExists)
  check (refuse (settings.limits.maxGrantsPerAccount ≤ ((s.grantIds grant.accountId).length : Int))
    (authError "STORAGE_LIMIT" 429 "Account bot grant storage limit exceeded"))
  let value := { grant with botAddress := toLowerCase grant.botAddress }
  modify fun s => s.addGrant value
  return value

def revokeBot (accountId grantId : String) (now : Int) : StoreM BotGrant := do
  check (assertIdentifier accountId)
  check (assertIdentifier grantId)
  check (assertTime now)
  let s ← get
  discard (check (s.account accountId))
  let notFound := authError "GRANT_NOT_FOUND" 404 "Bot grant not found"
  match s.bots.get grantId with
  | none => throw notFound
  | some grant =>
    check (refuse (grant.accountId ≠ accountId) notFound)
    let revoked := { grant with revokedAt := some (grant.revokedAt.getD (max now grant.createdAt)) }
    modify fun s => { s with bots := s.bots.set grantId revoked }
    return revoked

/-- Removes the nonce due first while it is expired; `maximum` is what is left of the limit. -/
def removeExpired (now : Int) : Nat → Memory → Memory × Nat
  | 0, s => (s, 0)
  | maximum + 1, s =>
    match s.nonces.first with
    | none => (s, 0)
    | some key =>
      if (s.nonces.placed.get key).any (fun entry => entry.priority ≤ now) then
        let (after, removed) := removeExpired now maximum (s.removeNonce key)
        (after, removed + 1)
      else (s, 0)

def cleanupExpiredNonces (now : Int) (limit : Option Int) : StoreM Nat := do
  check (assertTime now)
  let maximum := limit.getD 1000
  check (refuse (!isSafeInteger maximum || maximum < 1 || 10000 < maximum)
    (authError "TypeError" 500 "Nonce cleanup limit must be between 1 and 10000"))
  let s ← get
  let (after, removed) := removeExpired now maximum.toNat s
  set after
  return removed

/-- An operation of the store, or one of the registry it shares with the smart accounts. -/
inductive Op where
  | enroll (account : Account) (request : VerifiedRequest) (waited : Nat)
  | finalizeOnboarding (record : OnboardingRecord) (now : Int)
  | authorizeAndConsume (request : VerifiedRequest) (waited : Nat)
  | assertActive (authority : ActiveAuthority) (waited : Nat)
  | withActiveActor (actor : RestActor) (scopes : List BotScope) (now : Int) (waited : Nat)
  | updateProfile (accountId : String) (profile : Profile) (now : Int)
  | registerBot (grant : BotGrant)
  | revokeBot (accountId grantId : String) (now : Int)
  | cleanupExpiredNonces (now : Int) (limit : Option Int)
  | bindAccount (binding : SmartAccountBinding)
  | unbindAccount (ownerAccountId id : String)

inductive Outcome where
  | principal (principal : RestPrincipal)
  | onboarded (record : OnboardingRecord)
  | active
  | account (account : Account)
  | grant (grant : BotGrant)
  | removed (count : Nat)
  | bound

def perform : Op → StoreM Outcome
  | .enroll account request waited => Outcome.principal <$> enroll settings account request waited
  | .finalizeOnboarding record now => Outcome.onboarded <$> finalizeOnboarding settings record now
  | .authorizeAndConsume request waited => Outcome.principal <$> authorizeAndConsume settings request waited
  | .assertActive authority waited => (fun _ => Outcome.active) <$> assertActive authority waited
  | .withActiveActor actor scopes now waited => (fun _ => Outcome.active) <$> withActiveActor actor scopes now waited
  | .updateProfile accountId profile now => Outcome.account <$> updateProfile accountId profile now
  | .registerBot grant => Outcome.grant <$> registerBot settings grant
  | .revokeBot accountId grantId now => Outcome.grant <$> revokeBot accountId grantId now
  | .cleanupExpiredNonces now limit => Outcome.removed <$> cleanupExpiredNonces now limit
  | .bindAccount binding => (fun _ => Outcome.bound) <$> bindInRegistry settings binding
  | .unbindAccount ownerAccountId id => do
    modify fun s => { s with registry := { s.registry with records := s.registry.records.delete (ownerAccountId, id) } }
    return .bound

/-- Runs of the store from its empty start, every operation's answer recorded. -/
abbrev MemoryRuns (history : List (Answer Op RestError Outcome)) (s : Memory) : Prop :=
  Run (Performs (perform settings)) Memory.empty history s

end JBCenter.Auth
