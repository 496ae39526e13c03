import JBCenter.Auth.Signatures
import JBCenter.Rest.Decimals
import JBCenter.Wallet.Authority
import JBCenter.Wallet.Policy

/-! The grants of wallet applications, and the guards that admit an effect under one of them: the full guard, which reads
every row it checks, and the guard over the rows that the refresh check has read and locked before it. -/
namespace JBCenter.Wallet.AppGrants
open Rest
open Deployments (Word Address)
open Policy (PolicyRules WalletPolicyApplicationState admitWalletPolicyCallback positive)

def walletAppGrantRetentionSeconds : Int := 86400
def walletAppBigintMaximum : Nat := 9223372036854775807
def walletAppMaximumTime : Int := maxSafeInteger / 1000 - walletAppGrantRetentionSeconds

structure WalletAppGrant where
  id : String
  incarnation : String
  accountId : Address
  signerAddress : Address
  origin : String
  callbackUri : String
  audience : String
  appGeneration : Int
  authorityEpoch : String
  sessionEpoch : String
  /-- In seconds, as all times of a grant. -/
  createdAt : Int
  expiresAt : Int
  revokedAt : Option Int
  retainUntil : Int
  deriving DecidableEq

inductive WalletAppAuthorityContext where
  | request (audience : String) (origin : Option String) (expiresAt : Int)
  | actor (principalId : String) (audience : Option String)

/-- The checks of addresses on the web: of the policy, and of a service's own. -/
structure GrantRules (η : Type) extends PolicyRules η where
  isServiceUrl : String → Bool

def invalidWalletAppGrant : RestError :=
  Auth.authError "WALLET_APP_GRANT_INVALID" 400 "Wallet app grant fields or bounds are invalid."

def inactiveWalletAppGrant : RestError :=
  Auth.authError "FORBIDDEN" 403 "Wallet application authority is missing, changed or expired."

def unavailable : RestError :=
  ⟨403, "WALLET_AUTHORITY_UNAVAILABLE", "Wallet authority is not ready for admission.", none⟩

variable {η : Type} [DecidableEq η] (rules : GrantRules η)

def walletAppBigint (value : String) : Bool := Auth.isPositiveDecimal 18 value && decimalValue value ≤ walletAppBigintMaximum

def walletAppTime (value : Int) : Bool := isSafeInteger value && 0 < value && value ≤ walletAppMaximumTime

def walletAppAudience (value : String) : Except RestError String := do
  refuse (2048 < utf16Length value || 2048 < value.utf8ByteSize) invalidWalletAppGrant
  refuse (!rules.isServiceUrl value || Auth.dropTrailingSlash value ≠ value) invalidWalletAppGrant
  return value

/-- With the checks of `validateWalletAppGrantAdmission` first. -/
def validateWalletAppGrant (v : WalletAppGrant) : Except RestError WalletAppGrant := do
  refuse (v.accountId.toNat ≤ 1 || v.signerAddress.toNat ≤ 1 || v.signerAddress = v.accountId || !positive v.appGeneration ||
    !walletAppBigint v.authorityEpoch || !walletAppBigint v.sessionEpoch || !walletAppTime v.expiresAt) invalidWalletAppGrant
  refuse (!rules.origin v.origin || !rules.callback v.callbackUri v.origin) invalidWalletAppGrant
  let audience ← walletAppAudience rules v.audience
  refuse (!isUuid v.id || !walletAppBigint v.incarnation || !walletAppTime v.createdAt || v.expiresAt ≤ v.createdAt ||
    Policy.walletAppGrantMaximumLifetimeSeconds < v.expiresAt - v.createdAt ||
    v.retainUntil ≠ v.expiresAt + walletAppGrantRetentionSeconds ||
    v.revokedAt.any (fun revokedAt => !walletAppTime revokedAt || revokedAt < v.createdAt)) invalidWalletAppGrant
  return { v with audience }

/-- `walletAppPrincipalId` of a grant that was validated. -/
def walletAppPrincipalId (grant : WalletAppGrant) : String := "app:" ++ grant.id ++ ":" ++ grant.incarnation

def contextOf : WalletAppAuthorityContext → Except RestError WalletAppAuthorityContext
  | .request audience origin expiresAt => do
    refuse (!walletAppTime expiresAt) invalidWalletAppGrant
    let audience ← walletAppAudience rules audience
    return .request audience origin expiresAt
  | .actor principalId audience => do
    refuse (60 < utf16Length principalId) inactiveWalletAppGrant
    let audience ← audience.mapM (walletAppAudience rules)
    return .actor principalId audience

def WalletAppAuthorityContext.names (grant : WalletAppGrant) : WalletAppAuthorityContext → Bool
  | .request audience origin _ => audience == grant.audience && origin == some grant.origin
  | .actor principalId audience =>
    principalId == walletAppPrincipalId grant && audience.all (fun audience => audience == grant.audience)

def WalletAppAuthorityContext.expiry (grant : WalletAppGrant) : WalletAppAuthorityContext → Int
  | .request _ _ expiresAt => min grant.expiresAt expiresAt
  | .actor .. => grant.expiresAt

/-- A number as the program sees it: a `bigint` column comes as its digits, an `integer` column as a number. -/
inductive Numeric where
  | digits (text : String)
  | number (value : Int)
  deriving DecidableEq

def bigint (value : Int) : Numeric := .digits (toString value)

def integer (value : Int) : Numeric := .number value

/-- Within a row that travels as JSON, every number is written as its digits. -/
def textual (value : Int) : Numeric := .digits (toString value)

/-- `Number(value)`, which fails on texts that are no integers. -/
def Numeric.value : Numeric → Option Int
  | .number value => some value
  | .digits text =>
    match text.toList with
    | '-' :: rest => if !rest.isEmpty && rest.all isDigit then some (-(digitsValue rest)) else none
    | rest => if !rest.isEmpty && rest.all isDigit then some (digitsValue rest) else none

def Numeric.text : Numeric → Except RestError String
  | .digits text => .ok text
  | .number _ => .error invalidWalletAppGrant

def Numeric.integer (value : Numeric) : Except RestError Int :=
  match value.value with
  | some value => .ok value
  | none => .error invalidWalletAppGrant

structure GrantRow (ν : Type) where
  id : String
  incarnation : ν
  accountId : Address
  signerAddress : Address
  origin : String
  callbackUri : String
  audience : String
  appGeneration : ν
  authorityEpoch : ν
  sessionEpoch : ν
  createdAt : ν
  expiresAt : ν
  revokedAt : Option ν
  retainUntil : ν
  deriving DecidableEq

def GrantRow.map (f : Int → Numeric) (row : GrantRow Int) : GrantRow Numeric where
  id := row.id
  incarnation := f row.incarnation
  accountId := row.accountId
  signerAddress := row.signerAddress
  origin := row.origin
  callbackUri := row.callbackUri
  audience := row.audience
  appGeneration := f row.appGeneration
  authorityEpoch := f row.authorityEpoch
  sessionEpoch := f row.sessionEpoch
  createdAt := f row.createdAt
  expiresAt := f row.expiresAt
  revokedAt := row.revokedAt.map f
  retainUntil := f row.retainUntil

structure AuthorityRow (ν : Type) where
  accountId : Address
  revision : ν
  authorityEpoch : ν
  sessionEpoch : ν
  updatedAt : ν
  snapshot : Option WalletAuthoritySnapshot
  bindingId : Option Word
  bindingAuthorizationDigest : Option Word
  deriving DecidableEq

def AuthorityRow.map (f : Int → Numeric) (row : AuthorityRow Int) : AuthorityRow Numeric where
  accountId := row.accountId
  revision := f row.revision
  authorityEpoch := f row.authorityEpoch
  sessionEpoch := f row.sessionEpoch
  updatedAt := f row.updatedAt
  snapshot := row.snapshot
  bindingId := row.bindingId
  bindingAuthorizationDigest := row.bindingAuthorizationDigest

structure AppRow (ν : Type) where
  origin : String
  walletCallbacks : List String
  generation : ν
  enabled : Bool
  grantLifetimeSeconds : ν
  deriving DecidableEq

/-- As the driver delivers it: only the lifetime is an `integer` column. -/
def AppRow.delivered (row : AppRow Int) : AppRow Numeric where
  origin := row.origin
  walletCallbacks := row.walletCallbacks
  generation := bigint row.generation
  enabled := row.enabled
  grantLifetimeSeconds := integer row.grantLifetimeSeconds

def AppRow.asJson (row : AppRow Int) : AppRow Numeric where
  origin := row.origin
  walletCallbacks := row.walletCallbacks
  generation := textual row.generation
  enabled := row.enabled
  grantLifetimeSeconds := textual row.grantLifetimeSeconds

/-- What the admission reads of the row, its numbers through `Number`; no text is the number that it asks for. -/
def AppRow.state (row : AppRow Numeric) : WalletPolicyApplicationState where
  origin := row.origin
  walletCallbacks := row.walletCallbacks
  generation := (row.generation.value.getD 0).toNat
  enabled := row.enabled
  grantLifetimeSeconds := row.grantLifetimeSeconds.value.getD 0

structure AccountRow where
  id : Address
  ownerAddress : Address
  authorityChainId : Int

structure BindingRow where
  id : Word
  accountId : Address
  chainId : Int
  walletAddress : Address
  revokedAt : Option Int
  authorizationDigest : Word
  method : String
  document : SmartAccountBinding
  deriving DecidableEq

/-- The tables. Of an account's enrollments the verified ones, of its credentials the current ones. -/
structure Database (ε κ : Type) where
  accounts : List AccountRow
  bindings : List BindingRow
  enrollments : Address → List ε
  authority : List (AuthorityRow Int)
  credentials : Address → List κ
  devices : Address → List κ
  grants : List (GrantRow Int)
  apps : List (AppRow Int)

def grantOf (row : GrantRow Numeric) : Except RestError WalletAppGrant := do
  let incarnation ← row.incarnation.text
  let appGeneration ← row.appGeneration.integer
  let authorityEpoch ← row.authorityEpoch.text
  let sessionEpoch ← row.sessionEpoch.text
  let createdAt ← row.createdAt.integer
  let expiresAt ← row.expiresAt.integer
  let revokedAt ← row.revokedAt.mapM Numeric.integer
  let retainUntil ← row.retainUntil.integer
  validateWalletAppGrant rules ⟨row.id, incarnation, row.accountId, row.signerAddress, row.origin, row.callbackUri, row.audience,
    appGeneration, authorityEpoch, sessionEpoch, createdAt, expiresAt, revokedAt, retainUntil⟩

structure WalletAuthority where
  accountId : Address
  authorityEpoch : String
  sessionEpoch : String
  updatedAt : Int

def authorityOf (row : AuthorityRow Numeric) : Except RestError WalletAuthority :=
  match row.authorityEpoch, row.sessionEpoch, row.updatedAt.value with
  | .digits authorityEpoch, .digits sessionEpoch, some updatedAt => do
    refuse (row.accountId.toNat ≤ 1 || !walletAppBigint authorityEpoch ||
      !walletAppBigint sessionEpoch || !walletAppTime updatedAt)
      inactiveWalletAppGrant
    return ⟨row.accountId, authorityEpoch, sessionEpoch, updatedAt⟩
  | _, _, _ => .error inactiveWalletAppGrant

end JBCenter.Wallet.AppGrants
