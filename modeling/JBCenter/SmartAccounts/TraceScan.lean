import JBCenter.Rest.Core

/-! The scan of the call trace of one transaction for what it did to an account's authority. Addresses, words and bytes
stand for the texts that write them, and the ABI decoders, fingerprints and selectors are a parameter. -/
namespace JBCenter.TraceScan
open Rest

abbrev Address := Nat
abbrev Word := Nat
abbrev Bytes := List UInt8

inductive FrameError where
  | absent
  | text (message : String)
  | other
  deriving DecidableEq

/-- What a frame says of itself; a field without the shape it should have is `none`. -/
structure Frame where
  type : Option String
  sender : Option Address
  target : Option Address
  input : Option Bytes
  value : Option Nat
  error : FrameError
  callsListed : Bool

/-- A trace, or something in its place that is not an object. A frame without calls has an empty list of them. -/
inductive Trace where
  | malformed
  | frame (fields : Frame) (calls : List Trace)

inductive Kind where
  | call
  | staticCall
  | delegateCall
  | callCode
  | create
  | create2
  | selfDestruct
  deriving DecidableEq

/-- The module the entry installs or initializes, with its type. -/
structure Module where
  module : Address
  moduleType : Nat

inductive ModuleCall where
  | installModule (module : Module)
  | uninstallModule (module : Module)
  | initializeAccount (modules : List Module)
  | initializeAccountWithValidators (validators : List Module)
  | other

/-- The changes of a Safe's own lifecycle; of the last ones nothing is read. -/
inductive LifecycleCall where
  | enableModule (module : Address)
  | setFallbackHandler (handler : Address)
  | setGuard (guard : Address)
  | other

inductive Mutation where
  | onInstall (data : Bytes)
  | onUninstall (data : Bytes)
  | validateUserOp (signature : Bytes)

/-- A session as the decoders leave it, of which the scan wants the permission only. -/
structure Platform (Session : Type) where
  toUpperCase : String → String
  selectorOf : String → Bytes
  enableSessionsSelector : Bytes
  sessionViewSelectors : List Bytes
  decodeModule : Bytes → Option ModuleCall
  decodeLifecycle : Bytes → Option LifecycleCall
  decodeMutation : Bytes → Option Mutation
  decodeSetup : Bytes → Option (List Session)
  decodeSessions : Bytes → Option (List Session)
  permissionIdOf : Session → Word
  fingerprint : Word → Word → Bytes → Word

structure Bootstrap where
  multiSendData : Bytes
  signerFactoryData : Bytes
  launchpadData : Bytes

/-- The reviewed creation: what its setup hands the launchpad, and the batch that creates the passkey signer first. -/
structure Prepared where
  setupData : Bytes
  bootstrap : Option Bootstrap

/-- The account and the contracts its profile pins. -/
structure Profile where
  account : Address
  factory : Address
  singleton : Address
  utility : Address
  launchpad : Address
  safe7579 : Address
  smartSessions : Address
  multiSend : Option Address
  signerFactory : Address
  prepared : Option Prepared
  creationTransaction : Word

structure SessionAdministration where
  epoch : Nat
  hash : Word
  lastInitialization : Option (Nat × List Word)
  deriving DecidableEq

/-- What the scan of a block carries from one frame to the next. -/
structure Scan where
  frames : Nat
  created : Bool
  authorityHash : Word
  lifecycleChanges : Nat
  sessionAdministration : SessionAdministration
  bootstrapMultiSend : Nat
  bootstrapLaunch : Nat
  deriving DecidableEq

def failure (code message : String) (status : Nat) : RestError := { status, code, message }

def invalidObject : RestError := failure "SMART_INSPECTION_RPC_INVALID" "RPC returned an invalid object." 502

def invalidBytes : RestError := failure "SMART_INSPECTION_RPC_INVALID" "RPC returned invalid bytes." 502

def traceBudget : RestError := failure "SMART_HISTORY_LIMIT" "Account history exceeds the trace complexity budget." 503

def incompleteFrame : RestError := failure "SMART_HISTORY_INCOMPLETE" "Incomplete call trace frame." 503

def invalidReverted : RestError := failure "SMART_HISTORY_INCOMPLETE" "Invalid reverted trace frame." 503

def unknownFrame : RestError := failure "SMART_HISTORY_INCOMPLETE" "Unknown or unbounded call trace frame." 503

def unsupportedSession (message : String) : RestError := failure "SMART_SESSION_HISTORY_UNSUPPORTED" message 422

def creationRequired : RestError := failure "SMART_CREATION_PROOF_REQUIRED"
  "Account creation must be the unique reviewed factory CREATE2." 422

def unsupportedAuthority (message : String) : RestError := failure "SMART_AUTHORITY_HISTORY_UNSUPPORTED" message 422

def invalidCreationTrace (message : String) : RestError := failure "SMART_CREATION_TRACE_INVALID" message 422

def unsupportedModule (message : String) : RestError := failure "SMART_MODULE_HISTORY_UNSUPPORTED" message 422

variable {Session : Type} (platform : Platform Session) (profile : Profile) (txHash : Word)

def kindOf (type : String) : Option Kind :=
  match platform.toUpperCase type with
  | "CALL" => some .call
  | "STATICCALL" => some .staticCall
  | "DELEGATECALL" => some .delegateCall
  | "CALLCODE" => some .callCode
  | "CREATE" => some .create
  | "CREATE2" => some .create2
  | "SELFDESTRUCT" => some .selfDestruct
  | _ => none

def sessionAdminSelectors : List Bytes := [
  "disableActionId(bytes32,bytes32)",
  "disableActionPolicies(bytes32,bytes32,address[])",
  "disableERC1271Policies(bytes32,address[],(bytes32,string[])[])",
  "disableUserOpPolicies(bytes32,address[])",
  "enableActionPolicies(bytes32,(bytes4,address,(address,bytes)[])[])",
  "enableERC1271Policies(bytes32,((bytes32,string[])[],(address,bytes)[]))",
  "enableUserOpPolicies(bytes32,(address,bytes)[])",
  "removeSession(bytes32)",
  "revokeEnableSignature(bytes32)",
  "setPermit4337Paymaster(bytes32,bool)",
  "onUninstall(bytes)"].map platform.selectorOf

def onInstallSelector : Bytes := platform.selectorOf "onInstall(bytes)"

def validateUserOpSelector : Bytes := platform.selectorOf
  "validateUserOp((address,uint256,bytes,bytes,bytes32,uint256,bytes32,bytes,bytes),bytes32)"

/-- `SAFE7579_SESSION_STATEFUL_SELECTORS` -/
def statefulSelectors : List Bytes := sessionAdminSelectors platform ++
  [onInstallSelector platform, platform.enableSessionsSelector, validateUserOpSelector platform]

/-- What an entry of the session module changes: nothing, or the sessions, with those it initializes if it does. -/
def sessionMutation (data : Bytes) : Except RestError (Option (Option (List Session))) := do
  let selector := data.take 4
  refuse (selector ∉ statefulSelectors platform && selector ∉ platform.sessionViewSelectors)
    (unsupportedSession "A successful unrecognized module entry cannot be treated as read-only.")
  let undecoded := unsupportedSession "Session administration history cannot be decoded against the pinned source."
  let administers := if selector ∈ sessionAdminSelectors platform then some none else none
  if selector = onInstallSelector platform then
    match platform.decodeMutation data with
    | some (.onInstall []) => return administers
    | some (.onInstall (_ :: sessions)) =>
      match platform.decodeSessions sessions with
      | some sessions => return some (some sessions)
      | none => .error undecoded
    | _ => .error undecoded
  else
    match platform.decodeSetup data with
    | some sessions => return some (some sessions)
    | none =>
      if selector = validateUserOpSelector platform then
        match platform.decodeMutation data with
        | some (.validateUserOp signature) => return if signature.head? = some 0 then none else some none
        | _ => .error undecoded
      else return administers

/-- The record of a change to the sessions. -/
def administer (data : Bytes) (ids : Option (List Word)) (before : SessionAdministration) : SessionAdministration where
  epoch := before.epoch + 1
  hash := platform.fingerprint before.hash txHash data
  lastInitialization := ids.map (fun ids => (before.epoch + 1, ids))

def sessionAdministration (data : Bytes) (before : SessionAdministration) : Except RestError SessionAdministration := do
  match ← sessionMutation platform data with
  | none => return before
  | some initializations => do
    refuse (initializations.any (fun sessions => sessions.length < 1 || 64 < sessions.length))
      (unsupportedSession "Session initialization exceeds the bounded history certificate.")
    refuse (2 ^ 256 ≤ before.epoch + 1) (unsupportedSession "Session administration epoch exhausted.")
    return administer platform txHash data (initializations.map (·.map platform.permissionIdOf)) before

/-- The delegated batch of the reviewed creation. -/
def isMultiSend (frame : Frame) : Bool :=
  match profile.prepared.bind Prepared.bootstrap, profile.multiSend with
  | some bootstrap, some multiSend =>
    frame.target = some multiSend && txHash = profile.creationTransaction && frame.input = some bootstrap.multiSendData
  | _, _ => false

/-- The delegated launch of the reviewed creation. -/
def isLaunch (frame : Frame) : Bool :=
  match profile.prepared with
  | some prepared =>
    frame.target = some profile.launchpad && txHash = profile.creationTransaction &&
      frame.input = some ((prepared.bootstrap.map Bootstrap.launchpadData).getD prepared.setupData)
  | none => false

/-- A direct call of the batch, as it was reviewed. -/
def isBatched (type : String) (target : Address) (data : Bytes) : Trace → Bool
  | .malformed => false
  | .frame child _ =>
    child.error = .absent && child.type = some type && child.sender = some profile.account &&
      child.target = some target && child.input = some data && child.value = some 0

def isBatch (bootstrap : Bootstrap) : List Trace → Bool
  | [first, second] =>
    isBatched profile "CALL" profile.signerFactory bootstrap.signerFactoryData first &&
      isBatched profile "DELEGATECALL" profile.launchpad bootstrap.launchpadData second
  | _ => false

/-- A frame whose effects stand, its calls, and whether the reviewed batch makes it. -/
structure Site where
  fields : Frame
  calls : List Trace
  insideBootstrap : Bool

namespace Site

variable (site : Site)

def kind : Option Kind := site.fields.type.bind (kindOf platform)

def fromSafe : Bool := site.fields.sender = some profile.account

def toSafe : Bool := site.fields.target = some profile.account

def creates : Bool := (site.kind platform = some .create || site.kind platform = some .create2) && site.toSafe profile

def delegates : Bool := site.fromSafe profile && site.kind platform = some .delegateCall

def input : Bytes := site.fields.input.getD []

/-- A call of the account to one of its contracts. -/
def callsTo (contract : Address) : Bool :=
  site.fromSafe profile && site.kind platform = some .call && site.fields.target = some contract

/-- A call that reaches the account itself. -/
def entersSafe : Bool :=
  site.toSafe profile && (site.kind platform = some .call || site.kind platform = some .staticCall)

/-- The calls of the frame are made inside the batch where it is one or is made by one. -/
def opens : Bool :=
  site.insideBootstrap || (site.delegates platform profile && isMultiSend profile txHash site.fields)

/-- A target and bounded bytes, in every frame but the last of a contract. -/
def bounds : Except RestError Unit :=
  match site.kind platform with
  | none => .error unknownFrame
  | some .selfDestruct => .ok ()
  | some _ =>
    if site.fields.target.isNone then .error unknownFrame
    else match site.fields.input with
      | none => .error invalidBytes
      | some input => refuse (2097154 < 2 + 2 * input.length) unknownFrame

end Site

/-- The account's own calls of the session module. -/
def sessionStep (site : Site) (before : SessionAdministration) : Except RestError SessionAdministration :=
  if site.callsTo platform profile profile.smartSessions then
    sessionAdministration platform txHash site.input before
  else return before

def creation (site : Site) (created : Bool) : Except RestError Bool :=
  if site.creates platform profile then do
    refuse (created || site.kind platform ≠ some .create2 || site.fields.sender ≠ some profile.factory ||
      txHash ≠ profile.creationTransaction) creationRequired
    return true
  else return created

/-- The batches and the launches counted so far, and those of the frame. -/
def delegation (site : Site) (multiSends launches : Nat) : Except RestError (Nat × Nat) :=
  if site.delegates platform profile then do
    let bootstrap := profile.prepared.bind Prepared.bootstrap
    let multiSend := isMultiSend profile txHash site.fields
    let launch := isLaunch profile txHash site.fields
    refuse (multiSend && (multiSends ≠ 0 || site.insideBootstrap || !bootstrap.any (isBatch profile · site.calls)))
      (invalidCreationTrace "Atomic passkey creation requires its exact two successful bootstrap calls.")
    refuse (launch && bootstrap.isSome && (!site.insideBootstrap || launches ≠ 0))
      (invalidCreationTrace "The passkey launchpad must execute once inside its reviewed creation batch.")
    refuse (site.fields.target ≠ some profile.singleton && site.fields.target ≠ some profile.utility &&
        !launch && !multiSend)
      (unsupportedAuthority "An unreviewed owner delegatecall can hide module authority and blocks execution.")
    return (if multiSend then multiSends + 1 else multiSends,
      if launch && bootstrap.isSome then launches + 1 else launches)
  else return (multiSends, launches)

/-- The modules of an entry that changes them; of any other entry nothing. -/
def ModuleCall.modules : ModuleCall → Option (List Module)
  | .installModule module | .uninstallModule module => some [module]
  | .initializeAccount modules | .initializeAccountWithValidators modules => some modules
  | .other => none

def ModuleCall.unsupported : ModuleCall → RestError
  | .installModule _ | .uninstallModule _ =>
    unsupportedModule "Unknown or multi-type authority cannot be certified from a selector mapping."
  | _ => unsupportedModule "Initial module authority is unsupported."

def moduleChange (site : Site) : Except RestError Bool :=
  if site.callsTo platform profile profile.safe7579 then
    match platform.decodeModule site.input with
    | none => return false
    | some call =>
      match call.modules with
      | none => return false
      | some modules => do
        refuse (modules.any (fun module => module.moduleType ≠ 1 || module.module ≠ profile.smartSessions))
          call.unsupported
        return true
  else return false

def lifecycleChange (site : Site) : Except RestError Bool :=
  if site.entersSafe platform profile then
    match platform.decodeLifecycle site.input with
    | none => return false
    | some (.enableModule module) => do
      refuse (module ≠ profile.safe7579)
        (unsupportedAuthority "An alternate Safe module bypasses the reviewed validator.")
      return true
    | some (.setFallbackHandler handler) => do
      refuse (handler ≠ profile.safe7579)
        (unsupportedAuthority "A different Safe fallback handler breaks complete adapter history.")
      return true
    | some (.setGuard guard) => do
      refuse (guard ≠ 0) (unsupportedAuthority "A Safe guard requires a separate reviewed lifecycle.")
      return true
    | some .other => return true
  else return false

/-- The authority hash and the count of its changes. -/
def extend (data : Bytes) (authority : Word × Nat) : Word × Nat :=
  (platform.fingerprint authority.1 txHash data, authority.2 + 1)

/-- The rules of one frame whose effects stand. -/
def inspect (s : Scan) (site : Site) : Except RestError Scan := do
  site.bounds platform
  let sessions ← sessionStep platform profile txHash site s.sessionAdministration
  let created ← creation platform profile txHash site s.created
  refuse (site.fromSafe profile && (site.kind platform = some .selfDestruct || site.kind platform = some .callCode))
    (unsupportedAuthority "Unsupported account code lifecycle.")
  let (multiSends, launches) ← delegation platform profile txHash site s.bootstrapMultiSend s.bootstrapLaunch
  let modules ← moduleChange platform profile site
  let lifecycle ← lifecycleChange platform profile site
  let authority := (s.authorityHash, s.lifecycleChanges)
  let authority := if modules then extend platform txHash site.input authority else authority
  let authority := if lifecycle then extend platform txHash site.input authority else authority
  return { s with
    created
    authorityHash := authority.1
    lifecycleChanges := authority.2
    sessionAdministration := sessions
    bootstrapMultiSend := multiSends
    bootstrapLaunch := launches }

mutual

/-- A failed frame ends the visit of everything under it. -/
def visit (limit : Nat) : Trace → Nat → Bool → Scan → Except RestError Scan
  | trace, depth, insideBootstrap, s => do
    let s := { s with frames := s.frames + 1 }
    refuse (limit < s.frames || 128 < depth) traceBudget
    match trace with
    | .malformed => .error invalidObject
    | .frame fields calls => do
      refuse (fields.type.isNone || fields.sender.isNone || !fields.callsListed) incompleteFrame
      match fields.error with
      | .other => .error invalidReverted
      | .text message => do
        refuse message.isEmpty invalidReverted
        return s
      | .absent => do
        let site : Site := { fields, calls, insideBootstrap }
        let s ← inspect platform profile txHash s site
        visitAll limit calls (depth + 1) (site.opens platform profile txHash) s

def visitAll (limit : Nat) : List Trace → Nat → Bool → Scan → Except RestError Scan
  | [], _, _, s => .ok s
  | trace :: rest, depth, insideBootstrap, s => do
    let s ← visit limit trace depth insideBootstrap s
    visitAll limit rest depth insideBootstrap s

end

def scan (limit : Nat) (traced : Trace) (s : Scan) : Except RestError Scan := do
  let s ← visit platform profile txHash limit traced 0 false { s with bootstrapMultiSend := 0, bootstrapLaunch := 0 }
  refuse ((profile.prepared.bind Prepared.bootstrap).isSome && txHash = profile.creationTransaction &&
      (s.bootstrapMultiSend ≠ 1 || s.bootstrapLaunch ≠ 1))
    (invalidCreationTrace "The complete atomic passkey creation trace is required.")
  return s

/-- The transactions of a block in turn, under one budget of frames. -/
def scanBlock (limit : Nat) (transactions : List (Word × Trace)) (s : Scan) : Except RestError Scan :=
  transactions.foldlM (fun s (txHash, traced) => scan platform profile txHash limit traced s) { s with frames := 0 }

/-- The blocks with an authority transaction, up to a snapshot that their last header must be the one of. -/
def scanHistory (limit : Nat) (blocks : List (List (Word × Trace))) (covered : Bool) (s : Scan) :
    Except RestError Scan := do
  let s ← blocks.foldlM (fun s transactions => scanBlock platform profile limit transactions s) s
  refuse (!s.created || !covered) (failure "SMART_HISTORY_INCOMPLETE"
    "Creation and the requested final snapshot must be covered by complete traces." 503)
  return s

mutual

/-- The frames whose effects stand, each before those it calls; nothing under a failed frame is one. -/
def effective : Trace → Bool → List Site
  | .malformed, _ => []
  | .frame fields calls, insideBootstrap =>
    let site : Site := { fields, calls, insideBootstrap }
    match fields.error with
    | .absent => site :: effectiveAll calls (site.opens platform profile txHash)
    | _ => []

def effectiveAll : List Trace → Bool → List Site
  | [], _ => []
  | trace :: rest, insideBootstrap => effective trace insideBootstrap ++ effectiveAll rest insideBootstrap

end

namespace Site

variable (site : Site)

def authorityChanges : List Bytes :=
  (if moduleChange platform profile site matches .ok true then [site.input] else []) ++
    if lifecycleChange platform profile site matches .ok true then [site.input] else []

/-- What a frame adds to the record of the sessions: its bytes, and the permissions it initializes. -/
def sessionChange : Option (Bytes × Option (List Word)) :=
  if site.callsTo platform profile profile.smartSessions then
    match sessionMutation platform site.input with
    | .ok (some initializations) => some (site.input, initializations.map (·.map platform.permissionIdOf))
    | _ => none
  else none

def batches : Bool := site.delegates platform profile && isMultiSend profile txHash site.fields

def launches : Bool :=
  site.delegates platform profile && isLaunch profile txHash site.fields &&
    (profile.prepared.bind Prepared.bootstrap).isSome

end Site

def LifecycleCall.Supported (profile : Profile) : LifecycleCall → Prop
  | .enableModule module => module = profile.safe7579
  | .setFallbackHandler handler => handler = profile.safe7579
  | .setGuard guard => guard = 0
  | .other => True

/-- The rules of the profile for one frame. -/
structure Permitted (site : Site) : Prop where
  known : ∃ kind, site.kind platform = some kind ∧ (kind ≠ .selfDestruct → site.fields.target.isSome ∧
    ∃ input, site.fields.input = some input ∧ 2 + 2 * input.length ≤ 2097154)
  kept : site.fromSafe profile = true →
    site.kind platform ≠ some .selfDestruct ∧ site.kind platform ≠ some .callCode
  created : site.creates platform profile = true → site.kind platform = some .create2 ∧
    site.fields.sender = some profile.factory ∧ txHash = profile.creationTransaction
  delegated : site.delegates platform profile = true → site.fields.target = some profile.singleton ∨
    site.fields.target = some profile.utility ∨ isLaunch profile txHash site.fields = true ∨
    isMultiSend profile txHash site.fields = true
  batched : site.batches platform profile txHash = true → site.insideBootstrap = false ∧
    ∃ bootstrap, profile.prepared.bind Prepared.bootstrap = some bootstrap ∧
      isBatch profile bootstrap site.calls = true
  launched : site.launches platform profile txHash = true → site.insideBootstrap = true
  modules : site.callsTo platform profile profile.safe7579 = true → ∀ call modules,
    platform.decodeModule site.input = some call → call.modules = some modules →
    ∀ module ∈ modules, module.moduleType = 1 ∧ module.module = profile.smartSessions
  lifecycle : site.entersSafe platform profile = true → ∀ call, platform.decodeLifecycle site.input = some call →
    call.Supported profile
  sessions : site.callsTo platform profile profile.smartSessions = true → ∃ change,
    sessionMutation platform site.input = .ok change ∧
    ∀ sessions, change = some (some sessions) → 1 ≤ sessions.length ∧ sessions.length ≤ 64

/-- A scan that went over some frames: each was permitted, and what they left behind is folded from them in order. -/
structure Folded (sites : List Site) (s t : Scan) : Prop where
  permitted : ∀ site ∈ sites, Permitted platform profile txHash site
  authority : (t.authorityHash, t.lifecycleChanges) = (sites.flatMap (Site.authorityChanges platform profile)).foldl
    (fun authority data => extend platform txHash data authority) (s.authorityHash, s.lifecycleChanges)
  sessions : t.sessionAdministration = (sites.filterMap (Site.sessionChange platform profile)).foldl
    (fun before change => administer platform txHash change.1 change.2 before) s.sessionAdministration
  created : t.created.toNat = s.created.toNat + sites.countP (Site.creates platform profile)
  multiSends : t.bootstrapMultiSend = s.bootstrapMultiSend + sites.countP (Site.batches platform profile txHash)
  launches : t.bootstrapLaunch = s.bootstrapLaunch + sites.countP (Site.launches platform profile txHash)

variable {platform profile txHash} {s t u : Scan} {site : Site}

theorem Folded.nil : Folded platform profile txHash [] s s := ⟨nofun, rfl, rfl, rfl, rfl, rfl⟩

theorem Folded.append {first second : List Site} (one : Folded platform profile txHash first s t)
    (other : Folded platform profile txHash second t u) : Folded platform profile txHash (first ++ second) s u where
  permitted := List.forall_mem_append.mpr ⟨one.permitted, other.permitted⟩
  authority := by rw [List.flatMap_append, List.foldl_append, ← one.authority, other.authority]
  sessions := by rw [List.filterMap_append, List.foldl_append, ← one.sessions, other.sessions]
  created := by rw [List.countP_append, other.created, one.created, Nat.add_assoc]
  multiSends := by rw [List.countP_append, other.multiSends, one.multiSends, Nat.add_assoc]
  launches := by rw [List.countP_append, other.launches, one.launches, Nat.add_assoc]

theorem bounds_ok (bounded : site.bounds platform = .ok ()) : ∃ kind, site.kind platform = some kind ∧
    (kind ≠ .selfDestruct → site.fields.target.isSome ∧
      ∃ input, site.fields.input = some input ∧ 2 + 2 * input.length ≤ 2097154) := by
  unfold Site.bounds at bounded
  split at bounded
  · cases bounded
  · rename_i kind
    exact ⟨_, kind, fun other => absurd rfl other⟩
  · rename_i kind _ same
    refine ⟨_, same, fun _ => ?_⟩
    split at bounded
    · cases bounded
    · rename_i targeted
      split at bounded
      · cases bounded
      · rename_i input given
        have short := refuse_ok.mp bounded
        rw [decide_eq_false_iff_not, Nat.not_lt] at short
        exact ⟨Option.isSome_iff_ne_none.mpr (by simpa using targeted), input, given, short⟩

theorem session_ok {before after : SessionAdministration}
    (ran : sessionStep platform profile txHash site before = .ok after) :
    (site.callsTo platform profile profile.smartSessions = true → ∃ change,
      sessionMutation platform site.input = .ok change ∧
      ∀ sessions, change = some (some sessions) → 1 ≤ sessions.length ∧ sessions.length ≤ 64) ∧
    after = (site.sessionChange platform profile).toList.foldl
      (fun before change => administer platform txHash change.1 change.2 before) before := by
  unfold Site.sessionChange
  unfold sessionStep at ran
  split at ran
  · rename_i calls
    unfold sessionAdministration at ran
    obtain ⟨change, mutation, ran⟩ := ok_bind ran
    rw [if_pos calls, mutation]
    cases change with
    | none =>
      cases ran
      exact ⟨fun _ => ⟨none, rfl, nofun⟩, rfl⟩
    | some initializations =>
      obtain ⟨few, ran⟩ := ok_refuse ran
      obtain ⟨_, ran⟩ := ok_refuse ran
      cases ran
      refine ⟨fun _ => ⟨_, rfl, ?_⟩, rfl⟩
      rintro sessions ⟨⟩
      simp only [Option.any_some, Bool.or_eq_false_iff, decide_eq_false_iff_not] at few
      omega
  · rename_i other
    cases ran
    rw [if_neg other]
    exact ⟨fun calls => absurd calls other, rfl⟩

theorem creation_ok {created after : Bool} (ran : creation platform profile txHash site created = .ok after) :
    (site.creates platform profile = true → site.kind platform = some .create2 ∧
      site.fields.sender = some profile.factory ∧ txHash = profile.creationTransaction) ∧
    after.toNat = created.toNat + [site].countP (Site.creates platform profile) := by
  unfold creation at ran
  split at ran
  · rename_i creates
    obtain ⟨unique, ran⟩ := ok_refuse ran
    cases ran
    simp only [Bool.or_eq_false_iff, decide_eq_false_iff_not, not_not] at unique
    obtain ⟨⟨⟨fresh, kind⟩, sender⟩, own⟩ := unique
    refine ⟨fun _ => ⟨kind, sender, own⟩, ?_⟩
    rw [fresh, List.countP_singleton, if_pos creates]
    rfl
  · rename_i other
    cases ran
    exact ⟨fun creates => absurd creates other, by rw [List.countP_singleton, if_neg other, Nat.add_zero]⟩

theorem delegation_ok {multiSends launches : Nat} {after : Nat × Nat}
    (ran : delegation platform profile txHash site multiSends launches = .ok after) :
    (site.delegates platform profile = true → site.fields.target = some profile.singleton ∨
      site.fields.target = some profile.utility ∨ isLaunch profile txHash site.fields = true ∨
      isMultiSend profile txHash site.fields = true) ∧
    (site.batches platform profile txHash = true → site.insideBootstrap = false ∧ ∃ bootstrap,
      profile.prepared.bind Prepared.bootstrap = some bootstrap ∧ isBatch profile bootstrap site.calls = true) ∧
    (site.launches platform profile txHash = true → site.insideBootstrap = true) ∧
    after = (multiSends + [site].countP (Site.batches platform profile txHash),
      launches + [site].countP (Site.launches platform profile txHash)) := by
  unfold delegation at ran
  rw [List.countP_singleton, List.countP_singleton]
  unfold Site.batches Site.launches
  split at ran
  · rename_i delegates
    rw [delegates]
    obtain ⟨batch, ran⟩ := ok_refuse ran
    obtain ⟨launch, ran⟩ := ok_refuse ran
    obtain ⟨reviewed, ran⟩ := ok_refuse ran
    cases ran
    simp only [Bool.true_and, Bool.and_eq_false_iff, Bool.or_eq_false_iff, Bool.not_eq_false', decide_eq_false_iff_not,
      not_not] at batch launch reviewed ⊢
    refine ⟨fun _ => ?_, fun batches => ?_, fun launches => ?_, ?_⟩
    · tauto
    · obtain none | ⟨⟨_, outside⟩, reviewed⟩ := batch
      · rw [none] at batches
        cases batches
      · obtain ⟨bootstrap, held, same⟩ := (Option.any_eq_true ..).mp reviewed
        exact ⟨outside, bootstrap, held, same⟩
    · obtain none | inside := launch
      · rw [Bool.and_eq_true] at launches
        rw [launches.1, launches.2] at none
        simp at none
      · exact inside.1
    · refine Prod.ext ?_ ?_
      · change (if _ then _ else _) = multiSends + _
        split <;> rfl
      · change (if _ then _ else _) = _ + _
        split <;> rfl
  · rename_i other
    cases ran
    rw [Bool.not_eq_true] at other
    simp [other]

theorem moduleChange_ok {changed : Bool} (ran : moduleChange platform profile site = .ok changed)
    (calls : site.callsTo platform profile profile.safe7579 = true) {call : ModuleCall} {modules : List Module}
    (decoded : platform.decodeModule site.input = some call) (changes : call.modules = some modules) :
    ∀ module ∈ modules, module.moduleType = 1 ∧ module.module = profile.smartSessions := by
  unfold moduleChange at ran
  rw [if_pos calls, decoded] at ran
  simp only [changes] at ran
  obtain ⟨supported, _⟩ := ok_refuse ran
  simpa using supported

theorem lifecycleChange_ok {changed : Bool} (ran : lifecycleChange platform profile site = .ok changed)
    (enters : site.entersSafe platform profile = true) {call : LifecycleCall}
    (decoded : platform.decodeLifecycle site.input = some call) : call.Supported profile := by
  unfold lifecycleChange at ran
  rw [if_pos enters, decoded] at ran
  cases call with
  | enableModule module | setFallbackHandler handler | setGuard guard =>
    simpa [LifecycleCall.Supported] using (ok_refuse ran).1
  | other => trivial

theorem inspect_ok (ran : inspect platform profile txHash s site = .ok t) :
    Folded platform profile txHash [site] s t := by
  unfold inspect at ran
  obtain ⟨_, bounded, ran⟩ := ok_bind ran
  obtain ⟨sessions, sessionsRan, ran⟩ := ok_bind ran
  obtain ⟨created, createdRan, ran⟩ := ok_bind ran
  obtain ⟨kept, ran⟩ := ok_refuse ran
  obtain ⟨⟨multiSends, launches⟩, delegationRan, ran⟩ := ok_bind ran
  obtain ⟨modules, modulesRan, ran⟩ := ok_bind ran
  obtain ⟨lifecycle, lifecycleRan, ran⟩ := ok_bind ran
  cases ran
  obtain ⟨sessionRule, sessionFold⟩ := session_ok sessionsRan
  obtain ⟨creationRule, creations⟩ := creation_ok createdRan
  obtain ⟨delegated, batched, launched, counts⟩ := delegation_ok delegationRan
  obtain ⟨batches, launchings⟩ := Prod.mk.inj counts
  have permitted : Permitted platform profile txHash site := {
    known := bounds_ok bounded
    kept := fun own => by simpa [own] using kept
    created := creationRule
    delegated
    batched
    launched
    modules := fun calls call modules decoded changes => moduleChange_ok modulesRan calls decoded changes
    lifecycle := fun enters call decoded => lifecycleChange_ok lifecycleRan enters decoded
    sessions := sessionRule }
  refine ⟨fun other member => List.mem_singleton.mp member ▸ permitted, ?_, ?_, creations, batches, launchings⟩
  · simp only [List.flatMap_singleton, Site.authorityChanges, modulesRan, lifecycleRan]
    cases modules <;> cases lifecycle <;> rfl
  · rw [show sessions = _ from sessionFold]
    cases change : site.sessionChange platform profile with
    | none => rw [List.filterMap_cons_none change]; rfl
    | some held => rw [List.filterMap_cons_some change]; rfl

mutual

theorem visit_ok {limit depth : Nat} {insideBootstrap : Bool} {s t : Scan} : (trace : Trace) →
    visit platform profile txHash limit trace depth insideBootstrap s = .ok t →
    Folded platform profile txHash (effective platform profile txHash trace insideBootstrap) s t
  | .malformed, ran => by
    rw [visit] at ran
    obtain ⟨_, ran⟩ := ok_refuse ran
    cases ran
  | .frame fields calls, ran => by
    rw [visit] at ran
    iterate 2 obtain ⟨_, ran⟩ := ok_refuse ran
    rw [effective]
    cases error : fields.error with
    | other =>
      rw [error] at ran
      cases ran
    | text message =>
      rw [error] at ran
      obtain ⟨_, ran⟩ := ok_refuse ran
      cases ran
      exact ⟨nofun, rfl, rfl, rfl, rfl, rfl⟩
    | absent =>
      rw [error] at ran
      obtain ⟨u, inspected, ran⟩ := ok_bind ran
      have first := inspect_ok inspected
      have rest := visitAll_ok calls ran
      have whole := first.append rest
      exact ⟨whole.permitted, whole.authority, whole.sessions, whole.created, whole.multiSends, whole.launches⟩

theorem visitAll_ok {limit depth : Nat} {insideBootstrap : Bool} {s t : Scan} : (calls : List Trace) →
    visitAll platform profile txHash limit calls depth insideBootstrap s = .ok t →
    Folded platform profile txHash (effectiveAll platform profile txHash calls insideBootstrap) s t
  | [], ran => by
    cases ran
    exact .nil
  | trace :: rest, ran => by
    rw [visitAll] at ran
    obtain ⟨u, first, ran⟩ := ok_bind ran
    exact (visit_ok trace first).append (visitAll_ok rest ran)

end

section History
variable (platform : Platform Session) (profile : Profile)

def sitesOf (transaction : Word × Trace) : List Site := effective platform profile transaction.1 transaction.2 false

def authorityOf (transaction : Word × Trace) : List (Word × Bytes) :=
  ((sitesOf platform profile transaction).flatMap (Site.authorityChanges platform profile)).map (transaction.1, ·)

def sessionsOf (transaction : Word × Trace) : List (Word × Bytes × Option (List Word)) :=
  ((sitesOf platform profile transaction).filterMap (Site.sessionChange platform profile)).map (transaction.1, ·)

/-- Whether the transaction creates the account, as a count of the frames that do. -/
def creationsOf (transaction : Word × Trace) : Nat :=
  (sitesOf platform profile transaction).countP (Site.creates platform profile)

/-- The reviewed batch ran once, where the transaction is the reviewed creation. -/
def Batched (transaction : Word × Trace) : Prop :=
  (profile.prepared.bind Prepared.bootstrap).isSome = true → transaction.1 = profile.creationTransaction →
    (sitesOf platform profile transaction).countP (Site.batches platform profile transaction.1) = 1 ∧
    (sitesOf platform profile transaction).countP (Site.launches platform profile transaction.1) = 1

structure Covers (transactions : List (Word × Trace)) (s t : Scan) : Prop where
  permitted : ∀ transaction ∈ transactions, Batched platform profile transaction ∧
    ∀ site ∈ sitesOf platform profile transaction, Permitted platform profile transaction.1 site
  authority : (t.authorityHash, t.lifecycleChanges) = (transactions.flatMap (authorityOf platform profile)).foldl
    (fun authority change => extend platform change.1 change.2 authority) (s.authorityHash, s.lifecycleChanges)
  sessions : t.sessionAdministration = (transactions.flatMap (sessionsOf platform profile)).foldl
    (fun before change => administer platform change.1 change.2.1 change.2.2 before) s.sessionAdministration
  created : t.created.toNat = s.created.toNat + (transactions.map (creationsOf platform profile)).sum

end History

variable {transactions : List (Word × Trace)} {limit : Nat}

theorem Covers.nil : Covers platform profile [] s s := ⟨nofun, rfl, rfl, rfl⟩

theorem Covers.append {first second : List (Word × Trace)} (one : Covers platform profile first s t)
    (other : Covers platform profile second t u) : Covers platform profile (first ++ second) s u where
  permitted := List.forall_mem_append.mpr ⟨one.permitted, other.permitted⟩
  authority := by rw [List.flatMap_append, List.foldl_append, ← one.authority, other.authority]
  sessions := by rw [List.flatMap_append, List.foldl_append, ← one.sessions, other.sessions]
  created := by rw [List.map_append, List.sum_append, other.created, one.created, Nat.add_assoc]

theorem scan_ok {transaction : Word × Trace}
    (ran : scan platform profile transaction.1 limit transaction.2 s = .ok t) :
    Covers platform profile [transaction] s t := by
  unfold scan at ran
  obtain ⟨u, visited, ran⟩ := ok_bind ran
  obtain ⟨complete, ran⟩ := ok_refuse ran
  cases ran
  have folded := visit_ok transaction.2 visited
  have batches := folded.multiSends
  have launches := folded.launches
  simp only [Nat.zero_add] at batches launches
  constructor
  · refine fun other member => List.mem_singleton.mp member ▸ ⟨fun prepared own => ?_, folded.permitted⟩
    simp only [prepared, own, decide_true, Bool.true_and, Bool.or_eq_false_iff, decide_eq_false_iff_not,
      not_not] at complete
    exact ⟨batches ▸ complete.1, launches ▸ complete.2⟩
  · rw [List.flatMap_singleton, authorityOf, List.foldl_map]
    exact folded.authority
  · rw [List.flatMap_singleton, sessionsOf, List.foldl_map]
    exact folded.sessions
  · rw [List.map_singleton, List.sum_singleton]
    exact folded.created

theorem scans_ok (ran : transactions.foldlM (fun s (txHash, traced) =>
    scan platform profile txHash limit traced s) s = .ok t) : Covers platform profile transactions s t := by
  induction transactions generalizing s with
  | nil =>
    cases ran
    exact .nil
  | cons transaction rest ih =>
    rw [List.foldlM_cons] at ran
    obtain ⟨u, first, ran⟩ := ok_bind ran
    exact (scan_ok first).append (ih ran)

theorem scanBlocks_ok {blocks : List (List (Word × Trace))} (ran : blocks.foldlM (fun s transactions =>
    scanBlock platform profile limit transactions s) s = .ok t) : Covers platform profile blocks.flatten s t := by
  induction blocks generalizing s with
  | nil =>
    cases ran
    exact .nil
  | cons transactions rest ih =>
    rw [List.foldlM_cons] at ran
    obtain ⟨u, first, ran⟩ := ok_bind ran
    have block := scans_ok first
    exact Covers.append ⟨block.permitted, block.authority, block.sessions, block.created⟩ (ih ran)

/-- An accepted history is one the profile permits, and its record is a fold. Every frame whose effects stand keeps the
profile's rules, the reviewed batch runs exactly once in its creation, and the account is created exactly once; the
authority hash, the count of its changes and the record of the sessions are folded, in the order of the transactions and
of their frames, from the changes of those frames alone. -/
theorem trace_scan_folds {blocks : List (List (Word × Trace))} {covered : Bool}
    (ran : scanHistory platform profile limit blocks covered s = .ok t) :
    (∀ transaction ∈ blocks.flatten, Batched platform profile transaction ∧
      ∀ site ∈ sitesOf platform profile transaction, Permitted platform profile transaction.1 site) ∧
    (t.authorityHash, t.lifecycleChanges) = (blocks.flatten.flatMap (authorityOf platform profile)).foldl
      (fun authority change => extend platform change.1 change.2 authority) (s.authorityHash, s.lifecycleChanges) ∧
    t.sessionAdministration = (blocks.flatten.flatMap (sessionsOf platform profile)).foldl
      (fun before change => administer platform change.1 change.2.1 change.2.2 before) s.sessionAdministration ∧
    s.created.toNat + (blocks.flatten.map (creationsOf platform profile)).sum = 1 := by
  unfold scanHistory at ran
  obtain ⟨u, visited, ran⟩ := ok_bind ran
  obtain ⟨complete, ran⟩ := ok_refuse ran
  cases ran
  have covers := scanBlocks_ok visited
  have created := covers.created
  rw [Bool.or_eq_false_iff, Bool.not_eq_false', Bool.not_eq_false'] at complete
  rw [complete.1] at created
  exact ⟨covers.permitted, covers.authority, covers.sessions, created.symm⟩

/-- The factory creates the account with its reviewed batch, and a call that fails hides a frame that would not be
permitted. Then the account removes a session. -/
theorem trace_scan_folds_sample :
    let platform : Platform Unit := {
      toUpperCase := id, selectorOf := fun _ => [9], enableSessionsSelector := [], sessionViewSelectors := []
      decodeModule := fun _ => none, decodeLifecycle := fun _ => none, decodeMutation := fun _ => some (.onInstall [])
      decodeSetup := fun _ => none, decodeSessions := fun _ => none, permissionIdOf := fun _ => 0
      fingerprint := fun previous txHash _ => previous + txHash }
    let profile : Profile := {
      account := 9, factory := 2, singleton := 3, utility := 4, launchpad := 5, safe7579 := 6, smartSessions := 7
      multiSend := some 10, signerFactory := 8, prepared := some ⟨[], some ⟨[2], [3], [4]⟩⟩, creationTransaction := 100 }
    let destroyed : Trace := .frame ⟨some "SELFDESTRUCT", some 9, some 1, none, none, .absent, true⟩ []
    let failed : Trace := .frame ⟨some "CALL", some 9, some 1, some [], some 0, .text "reverted", true⟩ [destroyed]
    let batch : Trace := .frame ⟨some "DELEGATECALL", some 9, some 10, some [2], some 0, .absent, true⟩
      [.frame ⟨some "CALL", some 9, some 8, some [3], some 0, .absent, true⟩ [],
        .frame ⟨some "DELEGATECALL", some 9, some 5, some [4], some 0, .absent, true⟩ []]
    let traced : Trace := .frame ⟨some "CREATE2", some 2, some 9, some [], some 0, .absent, true⟩ [failed, batch]
    let removed : Trace := .frame ⟨some "CALL", some 9, some 7, some [9], some 0, .absent, true⟩ []
    ∃ t, scanHistory platform profile 20 [[(100, traced)], [(101, removed)]] true ⟨0, false, 0, 0, ⟨0, 0, none⟩, 0, 0⟩ = .ok t ∧
      t.sessionAdministration = ⟨1, 101, none⟩ ∧ Batched platform profile (100, traced) ∧
      creationsOf platform profile (100, traced) + creationsOf platform profile (101, removed) = 1 := by
  intro platform profile destroyed failed batch traced removed
  have ran : scanHistory platform profile 20 [[(100, traced)], [(101, removed)]] true ⟨0, false, 0, 0, ⟨0, 0, none⟩, 0, 0⟩ =
      .ok ⟨1, true, 0, 0, ⟨1, 101, none⟩, 0, 0⟩ := by decide +kernel
  obtain ⟨kept, _, _, once⟩ := trace_scan_folds ran
  exact ⟨_, ran, rfl, (kept _ (by simp)).1, by simpa using once⟩

end JBCenter.TraceScan
