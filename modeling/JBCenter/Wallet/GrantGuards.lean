import JBCenter.Wallet.AppGrants

/-! The guards that admit an effect under a wallet application's grant: the full guard, which reads every row it checks,
and the guard over the rows that the refresh check has read and locked before it in the same transaction. -/
namespace JBCenter.Wallet.AppGrants
open Rest
open Deployments (Word Address)
open Policy (PolicyRules WalletPolicyApplicationState CallbackAdmission admitWalletPolicyCallback positive)

variable {η ε κ : Type}

/-- The reading of the stored documents of an enrollment and of its passkeys. -/
structure Documents (ε κ : Type) where
  walletEnrollmentOf : ε → Except RestError WalletEnrollment
  currentWalletCredentialOf : Option κ → WalletEnrollment → Option WalletAuthorityCredential
  currentWalletDevicesOf : List κ → WalletEnrollment → List WalletAuthorityDevice

def passkeyBindingMethods : List String := ["safe-passkey-owner-threshold-and-api-grant", "center-wallet-passkey-creation-v1"]

/-- `if (!row) inactiveWalletAppGrant()`. -/
def present (row : Option α) : Except RestError α :=
  match row with
  | none => .error inactiveWalletAppGrant
  | some row => .ok row

def lockAccount (db : Database ε κ) (accountId : Address) : Except RestError Unit := do
  let row ← present (db.accounts.find? (fun row => row.id == accountId))
  refuse (row.authorityChainId ≠ 8453 || row.ownerAddress ≠ accountId) inactiveWalletAppGrant

def now (nowMs : Int) : Except RestError Int := do
  refuse (!walletAppTime (nowMs / 1000)) inactiveWalletAppGrant
  return nowMs / 1000

def readAuthority (db : Database ε κ) (accountId : Address) : Except RestError WalletAuthority := do
  let row ← present (db.authority.find? (fun row => row.accountId == accountId))
  authorityOf (row.map bigint)

/-- A live binding that the authority row names, and a snapshot that is settled. -/
def settledAuthority (db : Database ε κ) (accountId : Address) : Bool :=
  db.authority.any (fun a => a.accountId == accountId && a.snapshot.any (fun snapshot => snapshot.readiness == .verified &&
    snapshot.identity.isSome && !snapshot.bootstrapRequired && snapshot.activeFence.isNone) &&
    db.bindings.any (fun b => b.accountId == accountId && a.bindingId == some b.id &&
      a.bindingAuthorizationDigest == some b.authorizationDigest && b.revokedAt.isNone && b.chainId == 8453 &&
      b.walletAddress == accountId && passkeyBindingMethods.contains b.method &&
      b.document.authorizationDigest == b.authorizationDigest))

def assertWalletPolicyCallbackInTransaction (rules : GrantRules η) (db : Database ε κ)
    (request : CallbackAdmission) (nowMs : Int) :
    Except RestError WalletPolicyApplicationState := do
  refuse (!rules.origin request.origin || !rules.callback request.callback request.origin) Policy.invalidConfiguration
  refuse (!positive request.expiresAt || request.generation.any (fun generation => !positive generation)) Policy.invalid
  let row := db.apps.find? (fun row => row.origin == request.origin)
  admitWalletPolicyCallback rules.toPolicyRules (row.map (fun row => row.delivered.state)) request nowMs

def callbackAdmission (grant : WalletAppGrant) (expiresAt : Int) : CallbackAdmission :=
  ⟨grant.origin, grant.callbackUri, expiresAt * 1000, some grant.appGeneration⟩

/-- Whatever the policy refuses, the grant is inactive. -/
def inactiveOnError (admitted : Except RestError α) : Except RestError Unit :=
  match admitted with
  | .ok _ => .ok ()
  | .error _ => .error inactiveWalletAppGrant

def policyGuard (rules : GrantRules η) (db : Database ε κ) (grant : WalletAppGrant) (expiresAt nowMs : Int) :
    Except RestError Unit :=
  inactiveOnError (assertWalletPolicyCallbackInTransaction rules db (callbackAdmission grant expiresAt) nowMs)

def assertWalletAppGrantActiveInTransaction (rules : GrantRules η) (db : Database ε κ) (input : WalletAppGrant)
    (inputContext : WalletAppAuthorityContext) (nowMs : Int) : Except RestError Unit := do
  let grant ← validateWalletAppGrant rules input
  let context ← contextOf rules inputContext
  lockAccount db grant.accountId
  let row ← present (db.grants.find? (fun row => row.id == grant.id))
  let current ← grantOf rules (row.map bigint)
  refuse (current.revokedAt.isSome || current ≠ grant) inactiveWalletAppGrant
  let authority ← readAuthority db grant.accountId
  refuse (authority.authorityEpoch ≠ grant.authorityEpoch || authority.sessionEpoch ≠ grant.sessionEpoch) inactiveWalletAppGrant
  refuse (!settledAuthority db grant.accountId) inactiveWalletAppGrant
  refuse (!context.names grant) inactiveWalletAppGrant
  let before ← now nowMs
  refuse (before < grant.createdAt || context.expiry grant ≤ before) inactiveWalletAppGrant
  policyGuard rules db grant (context.expiry grant) nowMs
  let after ← now nowMs
  refuse (context.expiry grant ≤ after) inactiveWalletAppGrant

structure WalletAuthorityContextRows (ε κ : Type) where
  binding : Option BindingRow
  enrollment : Option ε
  authority : Option (AuthorityRow Numeric)
  credential : Option κ
  devices : List κ
  grant : Option (GrantRow Numeric)
  policyApp : Option (AppRow Numeric)
  deriving DecidableEq

/-- One row per account by construction: anything else is not admitted. -/
def one (rows : List α) : Except RestError (Option α) := do
  refuse (1 < rows.length) unavailable
  return rows.head?

def readWalletAuthorityContextRows (db : Database ε κ) (accountId : Address) (grantId origin : String) :
    Except RestError (WalletAuthorityContextRows ε κ) := do
  refuse (accountId.toNat ≤ 1) ⟨400, "WALLET_AUTHORITY_INVALID", "A stable Base Safe account is required.", none⟩
  let binding ← one (db.bindings.filter (fun row => row.accountId == accountId && row.chainId == 8453 &&
    row.walletAddress == accountId && row.revokedAt.isNone))
  let enrollment ← one (db.enrollments accountId)
  let authority ← one (db.authority.filter (fun row => row.accountId == accountId))
  let credential ← one (db.credentials accountId)
  let grant ← one (db.grants.filter (fun row => row.id == grantId))
  let policyApp ← one (db.apps.filter (fun row => row.origin == origin))
  return ⟨binding, enrollment, authority.map (AuthorityRow.map textual), credential, db.devices accountId,
    grant.map (GrantRow.map textual), policyApp.map AppRow.asJson⟩

def snapshotOf (row : AuthorityRow Numeric) : WalletAuthoritySnapshot :=
  let natural := fun (value : Numeric) => (value.value.getD 0).toNat
  row.snapshot.getD
    { accountId := row.accountId, revision := natural row.revision, authorityEpoch := natural row.authorityEpoch,
      sessionEpoch := natural row.sessionEpoch, bootstrapRequired := true, readiness := .unknown, identity := none,
      historicalVerifiedIdentity := none, acceptedAnchor := none, highestObservedBlock := none, activeFence := none,
      lastClosedFence := none, latestObservation := none, validUntilMs := none, updatedAtMs := row.updatedAt.value.getD 0 * 1000 }

def bindingOf (row : Option BindingRow) : Except RestError SmartAccountBinding :=
  match row with
  | none => .error unavailable
  | some row => do
    refuse (!passkeyBindingMethods.contains row.method || row.document.authorizationDigest ≠ row.authorizationDigest) unavailable
    return row.document

def walletAuthorityContextOf (documents : Documents ε κ) (accountId : Address) (rows : WalletAuthorityContextRows ε κ) :
    Except RestError WalletAuthorityContext := do
  let binding ← bindingOf rows.binding
  match rows.enrollment with
  | none => .error unavailable
  | some row => do
    let enrollment ← documents.walletEnrollmentOf row
    match documents.currentWalletCredentialOf rows.credential enrollment with
    | none => .error unavailable
    | some credential =>
      return ⟨accountId, enrollment, credential, documents.currentWalletDevicesOf rows.devices enrollment, binding,
        rows.authority.map snapshotOf⟩

def assertWalletAppGrantTimely (grant : WalletAppGrant) (requestExpiresAt nowSeconds : Int) : Except RestError Unit := do
  refuse (!walletAppTime nowSeconds) inactiveWalletAppGrant
  refuse (nowSeconds < grant.createdAt || min requestExpiresAt grant.expiresAt ≤ nowSeconds) inactiveWalletAppGrant

def policyOverRow (rules : GrantRules η) (rows : WalletAuthorityContextRows ε κ)
    (grant : WalletAppGrant) (expiresAt nowMs : Int) :
    Except RestError Unit :=
  inactiveOnError (admitWalletPolicyCallback rules.toPolicyRules (rows.policyApp.map AppRow.state)
    (callbackAdmission grant expiresAt)
    nowMs)

/-- What the refresh check asks of the authority, given what the caller captured. -/
def identityRefused (grant : WalletAppGrant) (authority prior : WalletAuthoritySnapshot)
    (current expected : WalletAuthorityContext) :
    Bool :=
  authority.identity.isNone || authority.bootstrapRequired || authority.activeFence.isSome ||
    !(authority.readiness == .verified || authority.readiness == .unknown) ||
    toString authority.authorityEpoch ≠ grant.authorityEpoch || toString authority.sessionEpoch ≠ grant.sessionEpoch ||
    authority.authorityEpoch ≠ prior.authorityEpoch || authority.sessionEpoch ≠ prior.sessionEpoch ||
    authority.identity ≠ prior.identity || authority.historicalVerifiedIdentity ≠ authority.identity ||
    current.enrollment ≠ expected.enrollment || current.credential ≠ expected.credential || current.binding ≠ expected.binding

def assertWalletAppRefreshIdentityInTransaction (rules : GrantRules η) (documents : Documents ε κ) (db : Database ε κ)
    (input : WalletAppGrant) (inputContext : WalletAppAuthorityContext) (expected : WalletAuthorityContext) (nowMs : Int) :
    Except RestError (WalletAuthoritySnapshot × WalletAuthorityContextRows ε κ) := do
  let grant ← validateWalletAppGrant rules input
  let context ← contextOf rules inputContext
  match context with
  | .actor .. => .error inactiveWalletAppGrant
  | .request audience origin requestExpiresAt => do
    refuse (expected.accountId ≠ grant.accountId) inactiveWalletAppGrant
    lockAccount db grant.accountId
    let rows ← readWalletAuthorityContextRows db grant.accountId grant.id grant.origin
    let current ← walletAuthorityContextOf documents grant.accountId rows
    let authority ← present current.prior
    let prior ← present expected.prior
    refuse (identityRefused grant authority prior current expected) inactiveWalletAppGrant
    let row ← present rows.grant
    let stored ← grantOf rules row
    refuse (stored ≠ grant || grant.revokedAt.isSome || audience ≠ grant.audience ||
      origin ≠ some grant.origin) inactiveWalletAppGrant
    assertWalletAppGrantTimely grant requestExpiresAt (nowMs / 1000)
    policyOverRow rules rows grant (min requestExpiresAt grant.expiresAt) nowMs
    return (authority, rows)

def assertWalletAppGrantActiveOverRows (rules : GrantRules η) (db : Database ε κ) (rows : WalletAuthorityContextRows ε κ)
    (input : WalletAppGrant) (inputContext : WalletAppAuthorityContext) (nowMs : Int) : Except RestError Unit := do
  let grant ← validateWalletAppGrant rules input
  let context ← contextOf rules inputContext
  let row ← present rows.grant
  let current ← grantOf rules row
  refuse (current.revokedAt.isSome || current ≠ grant) inactiveWalletAppGrant
  let held ← present rows.authority
  let authority ← authorityOf held
  refuse (authority.authorityEpoch ≠ grant.authorityEpoch || authority.sessionEpoch ≠ grant.sessionEpoch) inactiveWalletAppGrant
  refuse (!settledAuthority db grant.accountId) inactiveWalletAppGrant
  refuse (!context.names grant) inactiveWalletAppGrant
  assertWalletAppGrantTimely grant (context.expiry grant) (nowMs / 1000)
  policyOverRow rules rows grant (context.expiry grant) nowMs

section Admission

variable {rules : GrantRules η} {documents : Documents ε κ} {db later : Database ε κ} {input grant : WalletAppGrant}
  {context : WalletAppAuthorityContext} {rows : WalletAuthorityContextRows ε κ} {expiresAt nowMs : Int}

/-- What a guard checks of the rows it has, of the context and of the clock. -/
structure Admits (rules : GrantRules η) (grantRow : Option (GrantRow Numeric)) (authorityRow : Option (AuthorityRow Numeric))
    (app : Option WalletPolicyApplicationState) (settled : Bool) (grant : WalletAppGrant) (context : WalletAppAuthorityContext)
    (nowMs : Int) : Prop where
  stored : ∃ row, grantRow = some row ∧ grantOf rules row = .ok grant
  live : grant.revokedAt = none
  epochs : ∃ row authority, authorityRow = some row ∧ authorityOf row = .ok authority ∧
    authority.authorityEpoch = grant.authorityEpoch ∧ authority.sessionEpoch = grant.sessionEpoch
  settled : settled = true
  named : context.names grant = true
  clock : walletAppTime (nowMs / 1000) = true
  issued : grant.createdAt ≤ nowMs / 1000
  unexpired : nowMs / 1000 < context.expiry grant
  policy : ∃ state,
    admitWalletPolicyCallback rules.toPolicyRules app (callbackAdmission grant (context.expiry grant)) nowMs = .ok state

theorem present_ok {row : Option α} {found : α} : present row = .ok found ↔ row = some found := by
  cases row with
  | none => exact ⟨nofun, nofun⟩
  | some held => exact ⟨fun same => congrArg some (Except.ok.inj same), fun same => congrArg Except.ok (Option.some.inj same)⟩

theorem inactiveOnError_ok {admitted : Except RestError α} : inactiveOnError admitted = .ok () ↔ ∃ a, admitted = .ok a := by
  cases admitted with
  | error error => exact ⟨nofun, nofun⟩
  | ok a => exact ⟨fun _ => ⟨a, rfl⟩, fun _ => rfl⟩

theorem now_ok {seconds : Int} : now nowMs = .ok seconds ↔ walletAppTime (nowMs / 1000) = true ∧ seconds = nowMs / 1000 := by
  constructor
  · intro read
    obtain ⟨timely, read⟩ := ok_refuse read
    exact ⟨Bool.not_eq_eq_eq_not.mp timely, (Except.ok.inj read).symm⟩
  · rintro ⟨timely, rfl⟩
    exact bind_run (refuse_ok.mpr (Bool.not_eq_eq_eq_not.mpr timely)) rfl

theorem expiry_le : context.expiry grant ≤ grant.expiresAt := by
  cases context with
  | request => exact Int.min_le_left _ _
  | actor => exact Int.le_refl _

theorem timely_ok : assertWalletAppGrantTimely grant (context.expiry grant) (nowMs / 1000) = .ok () ↔
    walletAppTime (nowMs / 1000) = true ∧ grant.createdAt ≤ nowMs / 1000 ∧ nowMs / 1000 < context.expiry grant := by
  have least : min (context.expiry grant) grant.expiresAt = context.expiry grant := Int.min_eq_left expiry_le
  rw [assertWalletAppGrantTimely, least]
  constructor
  · intro timely
    obtain ⟨clock, timely⟩ := ok_refuse timely
    have open_ := refuse_ok.mp timely
    rw [Bool.or_eq_false_iff, decide_eq_false_iff_not, decide_eq_false_iff_not, Int.not_lt, Int.not_le] at open_
    exact ⟨Bool.not_eq_eq_eq_not.mp clock, open_⟩
  · rintro ⟨clock, issued, unexpired⟩
    refine bind_run (refuse_ok.mpr (Bool.not_eq_eq_eq_not.mpr clock)) (refuse_ok.mpr ?_)
    rw [Bool.or_eq_false_iff, decide_eq_false_iff_not, decide_eq_false_iff_not, Int.not_lt, Int.not_le]
    exact ⟨issued, unexpired⟩

theorem assertWalletPolicyCallback_ok {request : CallbackAdmission} {state : WalletPolicyApplicationState} :
    assertWalletPolicyCallbackInTransaction rules db request nowMs = .ok state ↔
      admitWalletPolicyCallback rules.toPolicyRules
        ((db.apps.find? (fun row => row.origin == request.origin)).map
          (fun row => row.delivered.state)) request nowMs = .ok state := by
  constructor
  · intro asserted
    iterate 2 obtain ⟨_, asserted⟩ := ok_refuse asserted
    exact asserted
  · intro admitted
    have same := admitted
    obtain ⟨origin, admitted⟩ := ok_refuse admitted
    obtain ⟨callback, admitted⟩ := ok_refuse admitted
    obtain ⟨numbers, _⟩ := ok_refuse admitted
    exact bind_run (refuse_ok.mpr (Bool.or_eq_false_iff.mpr ⟨origin, callback⟩)) (bind_run (refuse_ok.mpr numbers) same)

theorem current_refused {current : WalletAppGrant} :
    (current.revokedAt.isSome || decide (current ≠ grant)) = false ↔ current = grant ∧ grant.revokedAt = none := by
  rw [Bool.or_eq_false_iff, decide_eq_false_iff_not, not_not, Option.isSome_eq_false_iff, Option.isNone_iff_eq_none]
  constructor
  · rintro ⟨live, rfl⟩
    exact ⟨rfl, live⟩
  · rintro ⟨rfl, live⟩
    exact ⟨live, rfl⟩

theorem epochs_refused {authority : WalletAuthority} :
    (decide (authority.authorityEpoch ≠ grant.authorityEpoch) || decide (authority.sessionEpoch ≠ grant.sessionEpoch)) = false ↔
      authority.authorityEpoch = grant.authorityEpoch ∧ authority.sessionEpoch = grant.sessionEpoch := by
  rw [Bool.or_eq_false_iff, decide_eq_false_iff_not, decide_eq_false_iff_not, not_not, not_not]

/-- The full guard admits exactly this, of what the database holds. -/
theorem activeInTransaction_ok : assertWalletAppGrantActiveInTransaction rules db input context nowMs = .ok () ↔
    ∃ grant checked, validateWalletAppGrant rules input = .ok grant ∧ contextOf rules context = .ok checked ∧
      lockAccount db grant.accountId = .ok () ∧
      Admits rules ((db.grants.find? (fun row => row.id == grant.id)).map (GrantRow.map bigint))
        ((db.authority.find? (fun row => row.accountId == grant.accountId)).map (AuthorityRow.map bigint))
        ((db.apps.find? (fun row => row.origin == grant.origin)).map (fun row => row.delivered.state))
        (settledAuthority db grant.accountId) grant checked nowMs := by
  constructor
  · intro admitted
    obtain ⟨grant, valid, admitted⟩ := ok_bind admitted
    obtain ⟨checked, read, admitted⟩ := ok_bind admitted
    obtain ⟨_, locked, admitted⟩ := ok_bind admitted
    obtain ⟨row, found, admitted⟩ := ok_bind admitted
    obtain ⟨current, decoded, admitted⟩ := ok_bind admitted
    obtain ⟨same, admitted⟩ := ok_refuse admitted
    obtain ⟨authority, authorityRead, admitted⟩ := ok_bind admitted
    obtain ⟨epochs, admitted⟩ := ok_refuse admitted
    obtain ⟨settled, admitted⟩ := ok_refuse admitted
    obtain ⟨named, admitted⟩ := ok_refuse admitted
    obtain ⟨before, clock, admitted⟩ := ok_bind admitted
    obtain ⟨timely, admitted⟩ := ok_refuse admitted
    obtain ⟨_, policy, _⟩ := ok_bind admitted
    obtain ⟨rfl, live⟩ := current_refused.mp same
    obtain ⟨authorityRow, authorityFound, authorityDecoded⟩ := ok_bind authorityRead
    obtain ⟨ticks, rfl⟩ := now_ok.mp clock
    rw [Bool.or_eq_false_iff, decide_eq_false_iff_not, decide_eq_false_iff_not, Int.not_lt, Int.not_le] at timely
    obtain ⟨state, policy⟩ := inactiveOnError_ok.mp policy
    refine ⟨current, checked, valid, read, locked, ?_⟩
    exact {
      stored := ⟨row.map bigint, by rw [present_ok.mp found]; rfl, decoded⟩
      live := live
      epochs := ⟨authorityRow.map bigint, authority, by rw [present_ok.mp authorityFound]; rfl, authorityDecoded,
        epochs_refused.mp epochs⟩
      settled := Bool.not_eq_eq_eq_not.mp settled
      named := Bool.not_eq_eq_eq_not.mp named
      clock := ticks
      issued := timely.1
      unexpired := timely.2
      policy := ⟨state, assertWalletPolicyCallback_ok.mp policy⟩ }
  · rintro ⟨grant, checked, valid, read, locked, admits⟩
    obtain ⟨_, mapped, decoded⟩ := admits.stored
    obtain ⟨row, found, rfl⟩ := Option.map_eq_some_iff.mp mapped
    obtain ⟨_, authority, authorityMapped, authorityDecoded, epochs⟩ := admits.epochs
    obtain ⟨held, authorityFound, rfl⟩ := Option.map_eq_some_iff.mp authorityMapped
    obtain ⟨state, policy⟩ := admits.policy
    have clock : now nowMs = .ok (nowMs / 1000) := now_ok.mpr ⟨admits.clock, rfl⟩
    have guarded : policyGuard rules db grant (checked.expiry grant) nowMs = .ok () :=
      inactiveOnError_ok.mpr ⟨state, assertWalletPolicyCallback_ok.mpr policy⟩
    have late : decide (checked.expiry grant ≤ nowMs / 1000) = false := decide_eq_false (Int.not_le.mpr admits.unexpired)
    refine bind_run valid (bind_run read (bind_run locked ?_))
    refine bind_run (present_ok.mpr found) (bind_run decoded ?_)
    refine bind_run (refuse_ok.mpr (current_refused.mpr ⟨rfl, admits.live⟩)) ?_
    refine bind_run (bind_run (present_ok.mpr authorityFound) authorityDecoded) ?_
    refine bind_run (refuse_ok.mpr (epochs_refused.mpr epochs)) ?_
    refine bind_run (refuse_ok.mpr (Bool.not_eq_eq_eq_not.mpr admits.settled)) ?_
    refine bind_run (refuse_ok.mpr (Bool.not_eq_eq_eq_not.mpr admits.named)) (bind_run clock ?_)
    refine bind_run (refuse_ok.mpr ?_) (bind_run guarded (bind_run clock (refuse_ok.mpr late)))
    exact Bool.or_eq_false_iff.mpr ⟨decide_eq_false (Int.not_lt.mpr admits.issued), late⟩

theorem activeOverRows_ok : assertWalletAppGrantActiveOverRows rules db rows input context nowMs = .ok () ↔
    ∃ grant checked, validateWalletAppGrant rules input = .ok grant ∧ contextOf rules context = .ok checked ∧
      Admits rules rows.grant rows.authority (rows.policyApp.map AppRow.state) (settledAuthority db grant.accountId) grant checked
        nowMs := by
  constructor
  · intro admitted
    obtain ⟨grant, valid, admitted⟩ := ok_bind admitted
    obtain ⟨checked, read, admitted⟩ := ok_bind admitted
    obtain ⟨row, found, admitted⟩ := ok_bind admitted
    obtain ⟨current, decoded, admitted⟩ := ok_bind admitted
    obtain ⟨same, admitted⟩ := ok_refuse admitted
    obtain ⟨held, authorityFound, admitted⟩ := ok_bind admitted
    obtain ⟨authority, authorityDecoded, admitted⟩ := ok_bind admitted
    obtain ⟨epochs, admitted⟩ := ok_refuse admitted
    obtain ⟨settled, admitted⟩ := ok_refuse admitted
    obtain ⟨named, admitted⟩ := ok_refuse admitted
    obtain ⟨_, timely, policy⟩ := ok_bind admitted
    obtain ⟨rfl, live⟩ := current_refused.mp same
    obtain ⟨clock, issued, unexpired⟩ := timely_ok.mp timely
    refine ⟨current, checked, valid, read, ?_⟩
    exact {
      stored := ⟨row, present_ok.mp found, decoded⟩
      live := live
      epochs := ⟨held, authority, present_ok.mp authorityFound, authorityDecoded, epochs_refused.mp epochs⟩
      settled := Bool.not_eq_eq_eq_not.mp settled
      named := Bool.not_eq_eq_eq_not.mp named
      clock := clock
      issued := issued
      unexpired := unexpired
      policy := inactiveOnError_ok.mp policy }
  · rintro ⟨grant, checked, valid, read, admits⟩
    obtain ⟨row, found, decoded⟩ := admits.stored
    obtain ⟨held, authority, authorityFound, authorityDecoded, epochs⟩ := admits.epochs
    refine bind_run valid (bind_run read ?_)
    refine bind_run (present_ok.mpr found) (bind_run decoded ?_)
    refine bind_run (refuse_ok.mpr (current_refused.mpr ⟨rfl, admits.live⟩)) ?_
    refine bind_run (present_ok.mpr authorityFound) (bind_run authorityDecoded ?_)
    refine bind_run (refuse_ok.mpr (epochs_refused.mpr epochs)) ?_
    refine bind_run (refuse_ok.mpr (Bool.not_eq_eq_eq_not.mpr admits.settled)) ?_
    refine bind_run (refuse_ok.mpr (Bool.not_eq_eq_eq_not.mpr admits.named)) ?_
    exact bind_run (timely_ok.mpr ⟨admits.clock, admits.issued, admits.unexpired⟩) (inactiveOnError_ok.mpr admits.policy)

/-- `Number` of the digits of a number. -/
theorem value_textual (n : Int) : (textual n).value = some n := by
  have digits : ∀ k : Nat, !(Nat.toDigits 10 k).isEmpty && (Nat.toDigits 10 k).all isDigit := by
    intro k
    rw [Bool.and_eq_true, Bool.not_eq_eq_eq_not, Bool.not_true, List.isEmpty_eq_false_iff]
    exact ⟨Nat.toDigits_ne_nil, List.all_eq_true.mpr (toDigits_all k)⟩
  cases n with
  | ofNat k =>
    have spelled : (toString (Int.ofNat k)).toList = Nat.toDigits 10 k := toString_toList k
    rw [textual, Numeric.value, spelled]
    split
    case h_1 rest minus =>
      have sign := toDigits_all k '-' (minus ▸ List.mem_cons_self)
      cases sign
    case h_2 => rw [if_pos (digits k), digitsValue_toDigits]; rfl
  | negSucc k =>
    have spelled : (toString (Int.negSucc k)).toList = '-' :: Nat.toDigits 10 (k + 1) := by
      change ("-" ++ toString (k + 1)).toList = _
      rw [String.toList_append, toString_toList]
      rfl
    rw [textual, Numeric.value, spelled]
    exact (if_pos (digits (k + 1))).trans (congrArg (fun value : Nat => some (-(value : Int))) (digitsValue_toDigits (k + 1)))

theorem AppRow.state_asJson (row : AppRow Int) : row.asJson.state = row.delivered.state := by
  have lifetime : (textual row.grantLifetimeSeconds).value = (integer row.grantLifetimeSeconds).value := value_textual _
  rw [AppRow.state, AppRow.state, AppRow.asJson, AppRow.delivered]
  dsimp only
  rw [lifetime]
  rfl

theorem one_filter {p : α → Bool} {items : List α} {row : Option α} (single : one (items.filter p) = .ok row) :
    row = items.find? p := by
  obtain ⟨_, same⟩ := ok_refuse single
  rw [← Except.ok.inj same, List.head?_filter]

structure RowsOf (db : Database ε κ) (grant : WalletAppGrant) (rows : WalletAuthorityContextRows ε κ) : Prop where
  locked : lockAccount db grant.accountId = .ok ()
  grantRow : rows.grant = (db.grants.find? (fun row => row.id == grant.id)).map (GrantRow.map textual)
  authorityRow : rows.authority =
    (db.authority.find? (fun row => row.accountId == grant.accountId)).map (AuthorityRow.map textual)
  policyApp : rows.policyApp = (db.apps.find? (fun row => row.origin == grant.origin)).map AppRow.asJson

theorem refreshIdentity_ok {expected : WalletAuthorityContext} {authority : WalletAuthoritySnapshot}
    (refreshed : assertWalletAppRefreshIdentityInTransaction rules documents db input context expected nowMs =
    .ok (authority, rows)) :
    ∃ grant, validateWalletAppGrant rules input = .ok grant ∧ RowsOf db grant rows := by
  obtain ⟨grant, valid, refreshed⟩ := ok_bind refreshed
  obtain ⟨checked, _, refreshed⟩ := ok_bind refreshed
  cases checked with
  | actor => cases refreshed
  | request audience origin requestExpiresAt =>
    obtain ⟨_, refreshed⟩ := ok_refuse refreshed
    obtain ⟨_, locked, refreshed⟩ := ok_bind refreshed
    obtain ⟨read, reading, refreshed⟩ := ok_bind refreshed
    obtain ⟨current, _, refreshed⟩ := ok_bind refreshed
    iterate 8 obtain ⟨_, _, refreshed⟩ := ok_bind refreshed
    cases refreshed
    iterate 3 obtain ⟨_, _, reading⟩ := ok_bind reading
    obtain ⟨_, authorityRow, reading⟩ := ok_bind reading
    obtain ⟨_, _, reading⟩ := ok_bind reading
    obtain ⟨_, grantRow, reading⟩ := ok_bind reading
    obtain ⟨_, appRow, reading⟩ := ok_bind reading
    cases reading
    exact ⟨grant, valid, locked, congrArg (Option.map _) (one_filter grantRow), congrArg (Option.map _) (one_filter authorityRow),
      congrArg (Option.map _) (one_filter appRow)⟩

/-- Nothing behind the locks that the refresh check took has moved. -/
structure Held (db later : Database ε κ) (grant : WalletAppGrant) : Prop where
  account : later.accounts.find? (fun row => row.id == grant.accountId) = db.accounts.find? (fun row => row.id == grant.accountId)
  grantRow : later.grants.find? (fun row => row.id == grant.id) = db.grants.find? (fun row => row.id == grant.id)
  authorityRow : later.authority.find? (fun row => row.accountId == grant.accountId) =
    db.authority.find? (fun row => row.accountId == grant.accountId)
  policyApp : later.apps.find? (fun row => row.origin == grant.origin) = db.apps.find? (fun row => row.origin == grant.origin)

theorem validateWalletAppGrant_ok (valid : validateWalletAppGrant rules input = .ok grant) : grant = input := by
  iterate 2 obtain ⟨_, valid⟩ := ok_refuse valid
  obtain ⟨audience, checked, valid⟩ := ok_bind valid
  obtain ⟨_, valid⟩ := ok_refuse valid
  iterate 2 obtain ⟨_, checked⟩ := ok_refuse checked
  cases checked
  exact (Except.ok.inj valid).symm

/-- Over the rows of a refresh check that passed, and whatever has changed outside of its locks since, the guard admits
what the full guard admits at the same clock. -/
theorem activeOverRows_iff {request : WalletAppAuthorityContext} {expected : WalletAuthorityContext}
    {authority : WalletAuthoritySnapshot} {refreshedAt : Int}
    (refreshed : assertWalletAppRefreshIdentityInTransaction rules documents db input request expected refreshedAt =
      .ok (authority, rows)) (held : Held db later input) (context : WalletAppAuthorityContext) (nowMs : Int) :
    assertWalletAppGrantActiveOverRows rules later rows input context nowMs = .ok () ↔
      assertWalletAppGrantActiveInTransaction rules later input context nowMs = .ok () := by
  obtain ⟨grant, valid, of⟩ := refreshIdentity_ok refreshed
  obtain rfl := validateWalletAppGrant_ok valid
  have locked : lockAccount later grant.accountId = .ok () := by
    rw [lockAccount, held.account]
    exact of.locked
  have app : rows.policyApp.map AppRow.state =
      (later.apps.find? (fun row => row.origin == grant.origin)).map (fun row => row.delivered.state) := by
    rw [of.policyApp, held.policyApp, Option.map_map]
    exact congrArg (fun f => Option.map f _) (funext AppRow.state_asJson)
  rw [activeOverRows_ok, activeInTransaction_ok]
  constructor
  · rintro ⟨same, checked, again, read, admits⟩
    cases validateWalletAppGrant_ok again
    rw [of.grantRow, of.authorityRow, app] at admits
    exact ⟨_, checked, valid, read, locked, by rw [held.grantRow, held.authorityRow]; exact admits⟩
  · rintro ⟨same, checked, again, read, _, admits⟩
    cases validateWalletAppGrant_ok again
    rw [held.grantRow, held.authorityRow] at admits
    exact ⟨_, checked, valid, read, by rw [of.grantRow, of.authorityRow, app]; exact admits⟩

end Admission

namespace GrantSample

def rules : GrantRules Unit where
  origin _ := true
  callback _ _ := true
  configurationHash _ := ()
  canonicalOctets _ := 100
  encodedOctets _ := 100
  isServiceUrl _ := true

def grant : WalletAppGrant where
  id := "00000000-0000-4000-8000-000000000000"
  incarnation := "9007199254740993"
  accountId := 5
  signerAddress := 6
  origin := "https://app"
  callbackUri := "https://app/return"
  audience := "https://center"
  appGeneration := 3
  authorityEpoch := "2"
  sessionEpoch := "1"
  createdAt := 1000
  expiresAt := 4600
  revokedAt := none
  retainUntil := 91000

def identity : WalletAuthorityIdentity := ⟨5, 0, 0, 0, 0, 7, 8, 0, 0, 0, 0, ⟨0, 0⟩⟩

def snapshot : WalletAuthoritySnapshot where
  accountId := 5
  revision := 1
  authorityEpoch := 2
  sessionEpoch := 1
  bootstrapRequired := false
  readiness := .verified
  identity := some identity
  historicalVerifiedIdentity := some identity
  acceptedAnchor := none
  highestObservedBlock := none
  activeFence := none
  lastClosedFence := none
  latestObservation := none
  validUntilMs := none
  updatedAtMs := 1000000

def enrollment : WalletEnrollment := ⟨"e", "", 0, "", 0, "center", "https://center", ""⟩

def credential : WalletAuthorityCredential := ⟨"e", "center", "c", "u", "", false, 1, none⟩

def documents : Documents Unit Unit where
  walletEnrollmentOf _ := .ok enrollment
  currentWalletCredentialOf _ _ := some credential
  currentWalletDevicesOf _ _ := []

def grantRow : GrantRow Int := ⟨grant.id, 9007199254740993, 5, 6, grant.origin,
    grant.callbackUri, grant.audience, 3, 2, 1, 1000, 4600,
  none, 91000⟩

def authorityRow : AuthorityRow Int := ⟨5, 1, 2, 1, 1000, some snapshot, some 7, some 8⟩

def appRow : AppRow Int := ⟨"https://app", ["https://app/return"], 3, true, 3600⟩

def bindingRow : BindingRow := ⟨7, 5, 8453, 5, none, 8, "center-wallet-passkey-creation-v1", ⟨7, 8, ""⟩⟩

def db : Database Unit Unit where
  accounts := [⟨5, 5, 8453⟩]
  bindings := [bindingRow]
  enrollments _ := [()]
  authority := [authorityRow]
  credentials _ := [()]
  devices _ := []
  grants := [grantRow]
  apps := [appRow]

def later : Database Unit Unit := { db with bindings := [{ bindingRow with revokedAt := some 1500 }] }

def expected : WalletAuthorityContext := ⟨5, enrollment, credential, [], bindingRow.document, some snapshot⟩

def asked : WalletAppAuthorityContext := .request "https://center" (some "https://app") 2000

def rows : WalletAuthorityContextRows Unit Unit :=
  ⟨some bindingRow, some (), some (authorityRow.map textual), some (), [], some (grantRow.map textual), some appRow.asJson⟩

end GrantSample

open GrantSample in
/-- The request is admitted until the second in which it expires, and not once the binding is revoked. -/
theorem activeOverRows_iff_sample :
    (assertWalletAppGrantActiveInTransaction rules db grant asked 1999999 = .ok () ∧
      assertWalletAppGrantActiveInTransaction rules db grant asked 2000000 ≠ .ok ()) ∧
      assertWalletAppGrantActiveInTransaction rules later grant asked 1999999 ≠ .ok () := by
  have refreshed : assertWalletAppRefreshIdentityInTransaction rules documents db grant asked expected 1500000 =
    .ok (snapshot, rows) := by
    decide +kernel
  have same : Held db db grant := ⟨rfl, rfl, rfl, rfl⟩
  have moved : Held db later grant := ⟨rfl, rfl, rfl, rfl⟩
  rw [ne_eq, ne_eq, ← activeOverRows_iff refreshed same, ← activeOverRows_iff refreshed same,
    ← activeOverRows_iff refreshed moved]
  decide +kernel

end JBCenter.Wallet.AppGrants
