import Mathlib.Data.List.Dedup
import Mathlib.Data.String.Basic
import JBCenter.Base.Answers
import JBCenter.Base.Generations
import JBCenter.Base.OrderedMap
import JBCenter.Rest.Core

/-! The policy of wallet applications. An operator activates one configuration after another; each
application it ever listed keeps a row, and the row's generation stands for what the application was
admitted with. -/
namespace JBCenter.Wallet.Policy
open Rest

def walletAppGrantMaximumLifetimeSeconds : Int := 7776000
def walletAppGrantDefaultLifetimeSeconds : Int := 3600

structure FirstPartyApplication where
  origin : String
  walletCallbacks : List String
  grantLifetimeSeconds : Option Int
  deriving DecidableEq

structure WalletPolicyConfiguration where
  applications : List FirstPartyApplication
  deriving DecidableEq

/-- The checks of an address, and the hash and the sizes of a configuration's text. -/
structure PolicyRules (η : Type) where
  origin : String → Bool
  callback : String → String → Bool
  configurationHash : WalletPolicyConfiguration → η
  canonicalOctets : WalletPolicyConfiguration → Nat
  encodedOctets : WalletPolicyConfiguration → Nat

structure WalletPolicyApplicationState where
  origin : String
  walletCallbacks : List String
  generation : Nat
  enabled : Bool
  grantLifetimeSeconds : Int

structure PolicyRow (η : Type) where
  revision : Nat
  configurationHash : η
  configuration : WalletPolicyConfiguration
  activatedAt : Int

structure WalletPolicySnapshot (η : Type) where
  revision : Nat
  configurationHash : η
  configuration : WalletPolicyConfiguration
  activatedAt : Int
  apps : List WalletPolicyApplicationState

/-- The active configuration, and a row for each application that was ever listed. The rows
belong to the policy. -/
structure PolicyState (η : Type) where
  policy : Option (PolicyRow η)
  apps : OrderedMap String WalletPolicyApplicationState
  owned : policy = none → apps.entries = []

structure WalletPolicyActivation where
  expectedRevision : Int
  nextRevision : Int
  configuration : WalletPolicyConfiguration

def invalid : RestError := ⟨400, "WALLET_POLICY_INVALID", "Wallet policy input is invalid.", none⟩

def invalidConfiguration : RestError :=
  ⟨400, "WALLET_POLICY_INVALID", "Wallet policy fields, URLs or bounds are invalid.", none⟩

def inactive : RestError := ⟨403, "WALLET_POLICY_INACTIVE", "Wallet application policy is inactive or changed.", none⟩

def conflict : RestError :=
  ⟨409, "WALLET_POLICY_CONFLICT", "Wallet policy activation revision conflicts with the current policy.", none⟩

def expired : RestError := ⟨410, "WALLET_POLICY_EXPIRED", "Wallet callback admission has expired.", none⟩

def limit : RestError := ⟨429, "WALLET_POLICY_LIMIT", "Wallet policy historical application limit reached.", none⟩

def positive (value : Int) : Bool := isSafeInteger value && value > 0

variable {η : Type} [DecidableEq η]

def applicationOf (rules : PolicyRules η) (entry : FirstPartyApplication) : Except RestError FirstPartyApplication := do
  refuse (!rules.origin entry.origin) invalidConfiguration
  refuse (entry.grantLifetimeSeconds.any (fun lifetime => !isSafeInteger lifetime || lifetime < 60 ||
    walletAppGrantMaximumLifetimeSeconds < lifetime)) invalidConfiguration
  refuse (4 < entry.walletCallbacks.length) invalidConfiguration
  refuse (entry.walletCallbacks.any (fun callback => !rules.callback callback entry.origin)) invalidConfiguration
  refuse (¬ entry.walletCallbacks.Nodup) invalidConfiguration
  return { entry with walletCallbacks := entry.walletCallbacks.mergeSort (fun a b => a ≤ b) }

def validateWalletPolicyConfiguration (rules : PolicyRules η) (value : WalletPolicyConfiguration) :
    Except RestError WalletPolicyConfiguration := do
  refuse (64 < value.applications.length) invalidConfiguration
  refuse (¬ (value.applications.map (·.origin)).Nodup) invalidConfiguration
  let applications ← value.applications.mapM (applicationOf rules)
  let configuration : WalletPolicyConfiguration := ⟨applications.mergeSort (fun a b => a.origin ≤ b.origin)⟩
  refuse (32768 < rules.canonicalOctets configuration) invalidConfiguration
  return configuration

def walletPolicyConfigurationHash (rules : PolicyRules η) (configuration : WalletPolicyConfiguration) : Except RestError η := do
  let validated ← validateWalletPolicyConfiguration rules configuration
  return rules.configurationHash validated

def WalletPolicyConfiguration.application (configuration : WalletPolicyConfiguration) (origin : String) :
    Option FirstPartyApplication := configuration.applications.find? (fun application => application.origin = origin)

def appOf (row : WalletPolicyApplicationState) : Except RestError WalletPolicyApplicationState := do
  refuse (!positive row.grantLifetimeSeconds || walletAppGrantMaximumLifetimeSeconds < row.grantLifetimeSeconds) inactive
  return row

def snapshotOf (rules : PolicyRules η) (row : PolicyRow η) (apps : List WalletPolicyApplicationState) :
    Except RestError (WalletPolicySnapshot η) := do
  let configuration ← validateWalletPolicyConfiguration rules row.configuration
  let hash ← walletPolicyConfigurationHash rules configuration
  refuse (hash ≠ row.configurationHash) inactive
  let apps ← apps.mapM appOf
  return ⟨row.revision, row.configurationHash, configuration, row.activatedAt, apps⟩

def readSnapshot (rules : PolicyRules η) (state : PolicyState η) : Except RestError (Option (WalletPolicySnapshot η)) :=
  match state.policy with
  | none => .ok none
  | some row => some <$> snapshotOf rules row (state.apps.values.mergeSort (fun a b => a.origin ≤ b.origin))

structure CallbackAdmission where
  origin : String
  callback : String
  expiresAt : Int
  generation : Option Int

def admitWalletPolicyCallback (rules : PolicyRules η) (row : Option WalletPolicyApplicationState) (request : CallbackAdmission)
    (nowMs : Int) : Except RestError WalletPolicyApplicationState := do
  refuse (!rules.origin request.origin) invalidConfiguration
  refuse (!rules.callback request.callback request.origin) invalidConfiguration
  refuse (!positive request.expiresAt || request.generation.any (fun generation => !positive generation)) invalid
  match row with
  | none => .error inactive
  | some row =>
    refuse (row.origin ≠ request.origin || !row.enabled || !row.walletCallbacks.contains request.callback ||
      request.generation.any (fun generation => (row.generation : Int) ≠ generation)) inactive
    refuse (request.expiresAt ≤ nowMs) expired
    appOf row

/-- What an activation makes of an application's row. A lifetime is not part of what an application
was admitted with: changing it alone leaves the generation as it is. -/
def activatedApp (origin : String) (old : Option WalletPolicyApplicationState) (desired : Option FirstPartyApplication) :
    Except RestError WalletPolicyApplicationState :=
  let enabled := desired.isSome
  let callbacks := desired.elim [] (·.walletCallbacks)
  let lifetime := (desired.bind (·.grantLifetimeSeconds)).getD walletAppGrantDefaultLifetimeSeconds
  match old with
  | none => .ok ⟨origin, callbacks, 1, true, lifetime⟩
  | some old =>
    if old.enabled = enabled ∧ old.walletCallbacks = callbacks then .ok { old with grantLifetimeSeconds := lifetime }
    else if old.generation = maxSafeInteger then .error conflict
    else .ok { old with
      walletCallbacks := callbacks
      generation := old.generation + 1
      enabled
      grantLifetimeSeconds := lifetime }

def activateApp (configuration : WalletPolicyConfiguration) (apps : OrderedMap String WalletPolicyApplicationState)
    (origin : String) : Except RestError (OrderedMap String WalletPolicyApplicationState) := do
  let app ← activatedApp origin (apps.get origin) (configuration.application origin)
  return apps.set origin app

def origins (apps : OrderedMap String WalletPolicyApplicationState) (configuration : WalletPolicyConfiguration) : List String :=
  (apps.entries.map Prod.fst ++ configuration.applications.map (·.origin)).dedup.mergeSort (fun a b => a ≤ b)

def activate (rules : PolicyRules η) (maxHistoricalApplications : Nat) (request : WalletPolicyActivation) (nowMs : Int)
    (state : PolicyState η) : Except RestError (Option (WalletPolicySnapshot η) × PolicyState η) := do
  refuse (!isSafeInteger request.expectedRevision || request.expectedRevision < 0 || !positive request.nextRevision ||
    request.nextRevision ≠ request.expectedRevision + 1) invalid
  let configuration ← validateWalletPolicyConfiguration rules request.configuration
  let hash ← walletPolicyConfigurationHash rules configuration
  refuse (32768 < rules.encodedOctets configuration) invalid
  let prior ← readSnapshot rules state
  let revision := prior.elim 0 (·.revision)
  if revision = request.nextRevision ∧ prior.any (·.configurationHash = hash) then return (prior, state)
  else
    refuse (revision ≠ request.expectedRevision) conflict
    refuse (maxHistoricalApplications < (origins state.apps configuration).length) limit
    let apps ← (origins state.apps configuration).foldlM (activateApp configuration) state.apps
    let next : PolicyState η := ⟨some ⟨request.nextRevision.toNat, hash, configuration, nowMs⟩, apps, nofun⟩
    let result ← readSnapshot rules next
    return (result, next)

end JBCenter.Wallet.Policy
