import Mathlib.Data.List.Sort
import Mathlib.Data.List.Dedup
import JBCenter.Base.OrderedMap
import JBCenter.Sponsor.Chain

/-! The deploy queue: the rows of sponsored deploys and the statements of the store that read
and write them. Each definition is one committed statement, or one transaction. -/
namespace JBCenter.Sponsor

inductive DeployStatus where
  | queued
  | sent
  | confirmed
  | failed
deriving DecidableEq

structure IntentDeployRow where
  requester : String
  status : DeployStatus := .queued
  bundleUuid : Option String := none
  transactionHash : Option String := none
  error : Option String := none
  attempts : Nat := 0
  reservedWei : Nat := 0
  spentWei : Nat := 0
  leaseUntil : Option Nat := none
  createdAt : Nat
deriving DecidableEq

structure DeploymentCall where
  chainId : Nat
  target : String
  data : String
deriving DecidableEq

structure IntentEnvelope where
  deploymentVersion : String
  chainIds : List Nat
  deploymentCalls : List DeploymentCall

structure Deployment where
  projectId : String
  transactionHash : String
  /-- The committed call was made by the forwarder, so the deploying sender is the sponsor. -/
  forwarded : Bool
deriving DecidableEq

structure DeployPatch where
  status : Option DeployStatus := none
  transactionHash : Option String := none
  bundleUuid : Option String := none
  error : Option String := none
  spentWei : Option Nat := none
deriving DecidableEq

/-- Rows and deployments are keyed by intent and chain; `now` is the clock of the store. -/
structure Database where
  intents : OrderedMap String IntentEnvelope
  deployments : OrderedMap (String × Nat) Deployment
  rows : OrderedMap (String × Nat) IntentDeployRow
  now : Nat

def dayMs : Nat := 86400000

namespace IntentDeployRow

/-- The row is `queued` or `sent`. -/
def isOpen (row : IntentDeployRow) : Bool := row.status == .queued || row.status == .sent

/-- No lease, or one that ended. -/
def lapsed (now : Nat) (row : IntentDeployRow) : Bool := row.leaseUntil.all (· < now)

/-- A retired row gives its reservation back only when no bundle was ever submitted for it. -/
def retire (error : String) (row : IntentDeployRow) : IntentDeployRow :=
  { row with status := .failed, error := some error
             reservedWei := if row.bundleUuid.isNone then 0 else row.reservedWei }

def patched (patch : DeployPatch) (row : IntentDeployRow) : IntentDeployRow :=
  { row with
    status := patch.status.getD row.status
    transactionHash := patch.transactionHash.or row.transactionHash
    bundleUuid := patch.bundleUuid.or row.bundleUuid
    error := patch.error.map (fun error => String.ofList (slice errorLimit error.toList))
    spentWei := patch.spentWei.getD row.spentWei
    reservedWei :=
      if patch.status = some .confirmed then 0
      else if patch.status = some .failed ∧ row.bundleUuid = none ∧ patch.bundleUuid = none then 0
      else row.reservedWei }

end IntentDeployRow

def foreignKey : Failure := .other "error"

namespace Database

/-- Whether a wallet, not the sponsor's forwarder, deployed any chain of the intent. -/
def walletDeployedOf (db : Database) (intentId : String) : Bool :=
  db.deployments.entries.any (fun (key, deployment) => key.1 == intentId && !deployment.forwarded)

/-- The entries of one intent, in the order of their chains. -/
def ofIntent (intentId : String) (entries : List ((String × Nat) × V)) : List (Nat × V) :=
  ((entries.filter (fun entry => entry.1.1 == intentId)).map (fun entry => (entry.1.2, entry.2))).insertionSort
    (fun a b => a.1 ≤ b.1)

def selectDeployments (db : Database) (intentId : String) : List (Nat × Deployment) :=
  ofIntent intentId db.deployments.entries

def selectDeploys (db : Database) (intentId : String) : List (Nat × IntentDeployRow) :=
  ofIntent intentId db.rows.entries

/-- Retires the bundle-less sponsored rows of intents a wallet deployed: of one intent, or
of every intent. A live lease does not protect a row. -/
def retireUnpaidForWallet (db : Database) (intentId : Option String) : Database :=
  { db with rows := db.rows.mapValues fun key row =>
      if intentId.all (· == key.1) && row.status == .queued && row.bundleUuid.isNone && db.walletDeployedOf key.1
      then row.retire "mixed sender" else row }

/-- One transaction: a wallet deployment also retires the sponsored rows that never reached a bundle. -/
def recordDeployment (db : Database) (intentId : String) (chainId : Nat) (value : Deployment) :
    Except Failure Database :=
  match db.deployments.get (intentId, chainId) with
  | some recorded =>
    if recorded.projectId ≠ value.projectId ∨ recorded.transactionHash ≠ value.transactionHash then
      .error (.conflict "A different deployment is already recorded for that chain")
    else if recorded.forwarded then .ok db else .ok (db.retireUnpaidForWallet (some intentId))
  | none =>
    if !db.intents.has intentId then .error foreignKey
    else if db.deployments.entries.any (fun (key, other) =>
        (key.2 == chainId && other.projectId == value.projectId) ||
          other.transactionHash == value.transactionHash) then
      .error (.conflict "That onchain project or transaction is already linked")
    else
      let inserted := { db with deployments := db.deployments.set (intentId, chainId) value }
      if value.forwarded then .ok inserted else .ok (inserted.retireUnpaidForWallet (some intentId))

/-- The row of one chain of a queue request: inserted, or started over when it failed
without a bundle. No row may be written twice by one statement. -/
def queueRow (db : Database) (intentId requester : String) (reservedWei : Nat) (retryFailed : Bool)
    (chainId : Nat) : Option IntentDeployRow :=
  match db.rows.get (intentId, chainId) with
  | none => some { requester, reservedWei, createdAt := db.now }
  | some row =>
    if retryFailed && row.status == .failed && row.bundleUuid.isNone then
      some { row with
        requester := requester, reservedWei := reservedWei, status := .queued, attempts := 0, error := none,
        bundleUuid := none, transactionHash := none, leaseUntil := none, createdAt := db.now }
    else none

def queueDeploys (db : Database) (intentId : String) (chainIds : List Nat) (requester : String)
    (reservedWeiPerChain : Nat) (retryFailed : Bool) : Except Failure Database :=
  let rowOf := db.queueRow intentId requester reservedWeiPerChain retryFailed
  let written := chainIds.filter (fun chainId => (rowOf chainId).isSome)
  let write (rows : OrderedMap (String × Nat) IntentDeployRow) (chainId : Nat) :=
    (rowOf chainId).elim rows (rows.set (intentId, chainId))
  if !db.intents.has intentId && !written.isEmpty then .error foreignKey
  else if ¬ written.Nodup then .error (.other "error")
  else .ok { db with rows := written.foldl write db.rows }

/-- First statement of a claim: a row whose attempts are spent is a dead end. -/
def retireExhausted (db : Database) : Database :=
  { db with rows := db.rows.mapValues fun _ row =>
      if row.isOpen && 3 ≤ row.attempts && row.lapsed db.now then row.retire "attempts exhausted" else row }

/-- Second statement of a claim: a day of waiting ends a row that the lane reached. -/
def retireWaiting (db : Database) : Database :=
  { db with rows := db.rows.mapValues fun _ row =>
      if row.isOpen && row.createdAt + dayMs < db.now && (row.bundleUuid.isSome || row.error.isSome)
        && row.lapsed db.now
      then row.retire (if row.bundleUuid.isNone then "retries exhausted" else "bundle unresolved") else row }

def claimable (db : Database) (intentId : String) (row : IntentDeployRow) : Bool :=
  row.isOpen && row.lapsed db.now && row.attempts < 3 && (row.bundleUuid.isSome || !db.walletDeployedOf intentId)

/-- The intents of the fourth statement of a claim, in order and at most `limit`. -/
def picked (db : Database) (limit : Nat) : List String :=
  (((db.rows.entries.filter (fun (key, row) => db.claimable key.1 row)).map (fun entry => entry.1.1)).dedup.insertionSort
    (· ≤ ·)).take limit

/-- Fourth statement of a claim: leases the claimable rows of the picked intents. -/
def leaseQueued (db : Database) (leaseSeconds limit : Nat) : Database :=
  { db with rows := db.rows.mapValues fun key row =>
      if db.claimable key.1 row && (db.picked limit).contains key.1 then
        { row with leaseUntil := some (db.now + leaseSeconds * 1000), attempts := row.attempts + 1 }
      else row }

/-- The rows the fourth statement returned, by intent. -/
def leased (db : Database) (limit : Nat) : List (String × List Nat) :=
  (db.picked limit).map fun intentId =>
    (intentId, ((db.selectDeploys intentId).filter (fun (_, row) => db.claimable intentId row)).map Prod.fst)

def updateDeploy (db : Database) (intentId : String) (chainId : Nat) (patch : DeployPatch) :
    Except Failure Database :=
  let retired : Except Failure Database :=
    if patch.bundleUuid.isSome then .error (.conflict "deploy retired before its bundle") else .ok db
  match db.rows.get (intentId, chainId) with
  | none => retired
  | some row =>
    if patch.bundleUuid.isSome && row.status == .failed && row.bundleUuid.isNone then retired
    else .ok { db with rows := db.rows.set (intentId, chainId) (row.patched patch) }

def releaseClaim (db : Database) (intentId : String) (chainIds : List Nat) : Database :=
  { db with rows := db.rows.mapValues fun key row =>
      if key.1 == intentId && chainIds.contains key.2 then
        { row with attempts := row.attempts - 1, leaseUntil := some (db.now + 300000) }
      else row }

/-- Reserved plus spent wei since `since`, for one requester or for every requester. -/
def sponsoredWeiSince (db : Database) (since : Nat) (requester : Option String) : Nat :=
  ((db.rows.values.filter (fun row => since ≤ row.createdAt && requester.all (· == row.requester))).map
    (fun row => row.reservedWei + row.spentWei)).sum

/-- The bundle the row of a chain carries. -/
def bundleOf (db : Database) (intentId : String) (chainId : Nat) : Option String :=
  (db.rows.get (intentId, chainId)).bind IntentDeployRow.bundleUuid

theorem mem_ofIntent {entries : List ((String × Nat) × V)} {intentId : String} {chainId : Nat} {value : V} :
    (chainId, value) ∈ ofIntent intentId entries ↔ ((intentId, chainId), value) ∈ entries := by
  simp only [ofIntent, List.mem_insertionSort, List.mem_map, List.mem_filter, Prod.mk.injEq]
  constructor
  · rintro ⟨⟨⟨other, chain⟩, held⟩, ⟨member, here⟩, rfl, rfl⟩
    cases eq_of_beq here
    exact member
  · exact fun member => ⟨_, ⟨member, by simp⟩, rfl, rfl⟩

theorem mem_selectDeploys {db : Database} {intentId : String} {chainId : Nat} {row : IntentDeployRow} :
    (chainId, row) ∈ db.selectDeploys intentId ↔ db.rows.get (intentId, chainId) = some row :=
  mem_ofIntent.trans OrderedMap.mem_entries_iff

variable {db next : Database} {intentId : String} {chainId : Nat}

/-- An update of the whole table that leaves every row its bundle. -/
theorem bundleOf_mapValues {f : String × Nat → IntentDeployRow → IntentDeployRow}
    (kept : ∀ key row, (f key row).bundleUuid = row.bundleUuid) :
    ({ db with rows := db.rows.mapValues f } : Database).bundleOf intentId chainId = db.bundleOf intentId chainId := by
  unfold bundleOf
  rw [OrderedMap.get_mapValues]
  cases db.rows.get (intentId, chainId) with
  | none => rfl
  | some row => exact kept _ row

theorem bundleOf_retireUnpaidForWallet {only : Option String} :
    (db.retireUnpaidForWallet only).bundleOf intentId chainId = db.bundleOf intentId chainId :=
  bundleOf_mapValues fun _ row => by split <;> rfl

/-- An update writes the row it names. It does nothing where that row is missing, and a bundle
is refused where the row is missing or was retired without one. -/
theorem updateDeploy_ok {patch : DeployPatch} (updated : db.updateDeploy intentId chainId patch = .ok next) :
    (db.rows.get (intentId, chainId) = none ∧ patch.bundleUuid = none ∧ next = db) ∨
      ∃ row, db.rows.get (intentId, chainId) = some row ∧
        ¬ (patch.bundleUuid.isSome ∧ row.status = .failed ∧ row.bundleUuid = none) ∧
        next = { db with rows := db.rows.set (intentId, chainId) (row.patched patch) } := by
  unfold updateDeploy at updated
  cases found : db.rows.get (intentId, chainId) with
  | none =>
    simp only [found] at updated
    split at updated
    · cases updated
    · next unbundled =>
      cases updated
      exact .inl ⟨rfl, by simpa using unbundled, rfl⟩
  | some row =>
    simp only [found] at updated
    split at updated
    · next retired =>
      simp only [Bool.and_eq_true] at retired
      simp [retired.1.1] at updated
    · next open_ =>
      cases updated
      exact .inr ⟨row, rfl, by simpa [and_assoc] using open_, rfl⟩

theorem bundleOf_updateDeploy {patch : DeployPatch} (updated : db.updateDeploy intentId chainId patch = .ok next)
    (other : String) (chain : Nat) : next.bundleOf other chain =
      if (other, chain) = (intentId, chainId) then patch.bundleUuid.or (db.bundleOf intentId chainId)
      else db.bundleOf other chain := by
  rcases updateDeploy_ok updated with ⟨missing, unbundled, rfl⟩ | ⟨row, found, _, rfl⟩
  · split
    · next same =>
      cases same
      simp [bundleOf, missing, unbundled]
    · rfl
  · simp only [bundleOf, OrderedMap.get_set]
    split
    · next same =>
      cases same
      simp [found, IntentDeployRow.patched]
    · rfl

/-- A fold of writes to distinct chains of one intent. -/
theorem get_foldl_write (rowOf : Nat → Option IntentDeployRow) (chains : List Nat)
    (rows : OrderedMap (String × Nat) IntentDeployRow) (key : String × Nat) :
    (chains.foldl (fun rows chainId => (rowOf chainId).elim rows (rows.set (intentId, chainId))) rows).get key =
      if key.1 = intentId ∧ key.2 ∈ chains then (rowOf key.2).or (rows.get key) else rows.get key := by
  induction chains generalizing rows with
  | nil => simp
  | cons first rest ih =>
    rw [List.foldl_cons, ih]
    obtain ⟨other, chain⟩ := key
    cases written : rowOf first with
    | none =>
      by_cases here : other = intentId ∧ chain = first
      · obtain ⟨rfl, rfl⟩ := here
        simp [written]
      · have cons : (other = intentId ∧ chain ∈ first :: rest) ↔ (other = intentId ∧ chain ∈ rest) := by
          simp only [List.mem_cons]
          tauto
        simp only [Option.elim_none, cons]
    | some row =>
      simp only [Option.elim_some, OrderedMap.get_set, Prod.mk.injEq]
      by_cases here : other = intentId ∧ chain = first
      · obtain ⟨rfl, rfl⟩ := here
        simp [written]
      · have cons : (other = intentId ∧ chain ∈ first :: rest) ↔ (other = intentId ∧ chain ∈ rest) := by
          simp only [List.mem_cons]
          tauto
        simp only [if_neg here, cons]

variable {retryFailed : Bool} {reserved : Nat}

variable {requester : String}

/-- A queue request writes the rows of its chains that are absent, or failed without a bundle and asked for again. -/
theorem get_queueDeploys {chainIds : List Nat}
    (queued : db.queueDeploys intentId chainIds requester reserved retryFailed = .ok next) (key : String × Nat) :
    next.rows.get key = if key.1 = intentId ∧ key.2 ∈ chainIds
      then (db.queueRow intentId requester reserved retryFailed key.2).or (db.rows.get key)
      else db.rows.get key := by
  simp only [queueDeploys] at queued
  split at queued
  · cases queued
  · split at queued
    · cases queued
    · cases queued
      rw [get_foldl_write]
      by_cases written : (db.queueRow intentId requester reserved retryFailed key.2).isSome
      · simp [List.mem_filter, written]
      · simp only [List.mem_filter, written, and_false, if_false, Bool.false_eq_true]
        rw [Option.not_isSome_iff_eq_none.mp written, Option.none_or, ite_self]

theorem queueRow_bundle {row : IntentDeployRow}
    (written : db.queueRow intentId requester reserved retryFailed chainId = some row) :
    row.bundleUuid = none ∧ db.bundleOf intentId chainId = none := by
  unfold queueRow at written
  unfold bundleOf
  cases found : db.rows.get (intentId, chainId) with
  | none =>
    simp only [found, Option.some.injEq] at written
    exact ⟨by rw [← written], rfl⟩
  | some old =>
    simp only [found] at written
    split at written
    · next failed =>
      simp only [Bool.and_eq_true, Option.isNone_iff_eq_none] at failed
      cases written
      exact ⟨rfl, failed.2⟩
    · cases written

theorem bundleOf_queueDeploys {chainIds : List Nat}
    (queued : db.queueDeploys intentId chainIds requester reserved retryFailed = .ok next) (other : String)
    (chain : Nat) : next.bundleOf other chain = db.bundleOf other chain := by
  unfold bundleOf
  rw [get_queueDeploys queued]
  split
  · next here =>
    obtain ⟨rfl, _⟩ := here
    cases written : db.queueRow other requester reserved retryFailed chain with
    | none => rfl
    | some row =>
      obtain ⟨clear, before⟩ := queueRow_bundle written
      simpa [bundleOf, clear] using before.symm
  · rfl

/-- Recording a deployment touches the queue only to retire rows that never reached a bundle. -/
theorem recordDeployment_rows {value : Deployment} (recorded : db.recordDeployment intentId chainId value = .ok next) :
    next.rows = db.rows ∨ ∃ other : Database, other.rows = db.rows ∧ next = other.retireUnpaidForWallet (some intentId) := by
  unfold recordDeployment at recorded
  split at recorded
  · split at recorded
    · cases recorded
    · split at recorded
      · cases recorded
        exact .inl rfl
      · cases recorded
        exact .inr ⟨db, rfl, rfl⟩
  · split at recorded
    · cases recorded
    · split at recorded
      · cases recorded
      · dsimp only at recorded
        split at recorded
        · cases recorded
          exact .inl rfl
        · cases recorded
          exact .inr ⟨{ db with deployments := db.deployments.set (intentId, chainId) value }, rfl, rfl⟩

theorem bundleOf_recordDeployment {value : Deployment} (recorded : db.recordDeployment intentId chainId value = .ok next)
    (other : String) (chain : Nat) : next.bundleOf other chain = db.bundleOf other chain := by
  rcases recordDeployment_rows recorded with same | ⟨before, same, rfl⟩
  · rw [bundleOf, bundleOf, same]
  · rw [bundleOf_retireUnpaidForWallet, bundleOf, bundleOf, same]

end Database
end JBCenter.Sponsor
