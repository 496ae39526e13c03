import JBCenter.Base.Pools
import JBCenter.Base.Search
import Mathlib.Data.Nat.Basic

/-! The index of proxy creations by the account factory: a retained seed, tables that every replica may
advance over finalized blocks, and live logs above them. Addresses and hashes are numbers, so the order of
addresses is the order of their lower-case hexadecimal. -/
namespace JBCenter.SmartAccounts

/-- A creation in a canonical block. -/
structure Creation where
  proxy : Nat
  transactionHash : Nat
  logIndex : Nat
deriving DecidableEq

structure Block where
  hash : Nat
  creations : List Creation
deriving DecidableEq

/-- The canonical chain as far as the factory's creations go. Blocks above its head are `none`. -/
structure Chain where
  block : Nat → Option Block
  finalized : Nat
  settled : ∀ n ≤ finalized, (block n).isSome = true
  indexed : ∀ n b, block n = some b → (b.creations.map Creation.logIndex).Nodup

/-- A log as a node answers with it. -/
structure Log where
  address : Nat
  removed : Bool
  proxy : Nat
  blockNumber : Nat
  blockHash : Nat
  transactionHash : Nat
  logIndex : Nat
deriving DecidableEq

structure Header where
  number : Nat
  hash : Nat

inductive Tag where
  | number (n : Nat)
  | finalized

structure FactoryHistorySeed where
  chainId : Nat
  factory : Nat
  through : Nat
  hash : Nat
  creations : List (Nat × Nat)

inductive Failure where
  | unavailable (message : String)
  | error (message : String)
  | connection
deriving DecidableEq

def disagreement : String := "The retained creation index disagrees with canonical logs."

def disagrees : Failure := .unavailable disagreement

def Chain.header (chain : Chain) : Tag → Option Header
  | .number n => (chain.block n).map (fun b => ⟨n, b.hash⟩)
  | .finalized => (chain.block chain.finalized).map (fun b => ⟨chain.finalized, b.hash⟩)

/-- The creation logs of a block. -/
def Chain.logs (chain : Chain) (factory n : Nat) : List Log :=
  match chain.block n with
  | none => []
  | some b => b.creations.map (fun c => ⟨factory, false, c.proxy, n, b.hash, c.transactionHash, c.logIndex⟩)

def span (first last : Nat) : List Nat := List.range' first (last + 1 - first)

/-- What `eth_getLogs` answers for the factory's creations in a range of blocks. -/
def Chain.getLogs (chain : Chain) (factory first last : Nat) (proxy : Option Nat) : List Log :=
  ((span first last).flatMap (chain.logs factory)).filter (fun log => proxy.all (fun proxy => log.proxy == proxy))

structure HistoryRow where
  throughBlock : Nat
  blockHash : Nat

structure CreationRow where
  proxy : Nat
  blockNumber : Nat
  logIndex : Nat

structure Database where
  history : Option HistoryRow
  creations : List CreationRow

def Log.row (log : Log) : CreationRow := ⟨log.proxy, log.blockNumber, log.logIndex⟩

/-- `INSERT … ON CONFLICT DO NOTHING` by the primary key. -/
def insertRow (creations : List CreationRow) (row : CreationRow) : List CreationRow :=
  if creations.any (fun other => other.blockNumber == row.blockNumber && other.logIndex == row.logIndex) then creations
  else creations ++ [row]

/-- `transaction` is the one that holds the advisory lock, with the tables as it sees them. Every replica
shares one run of `advance` among its callers: `syncing` is the process that runs it, `outcomes` how each
such run ended. -/
structure World where
  chain : Chain
  database : Database
  transaction : Option (Nat × Database)
  syncing : Nat → Option Nat
  outcomes : Nat → Option (Except Failure Unit)

/-- `readCreations` also names the block its caller scans live logs from, which is no part of the query. -/
inductive Op where
  | join (replica : Nat)
  | await (run : Nat)
  | settle (replica : Nat) (outcome : Except Failure Unit)
  | begin
  | rollback
  | readHistory
  | insertCreations (rows : List CreationRow)
  | upsertHistory (row : HistoryRow)
  | commit
  | header (tag : Tag)
  | getLogs (first last : Nat) (proxy : Option Nat)
  | readCreations (proxy last after through : Nat)

def Op.Result : Op → Type
  | .join _ => Option Nat
  | .begin => Bool
  | .readHistory => Option HistoryRow
  | .header _ => Header
  | .getLogs _ _ _ => List Log
  | .readCreations _ _ _ _ => List Nat
  | _ => Unit

/-- `lost`: the operation was performed but its answer did not arrive. -/
inductive Reply where
  | answered
  | lost
  | failed
deriving DecidableEq

/-- The transaction of a process, if it has one open. -/
def World.own (w : World) (pid : Nat) : Option Database :=
  match w.transaction with
  | some (owner, working) => if owner = pid then some working else none
  | none => none

/-- A statement inside the process's transaction. Without one the server reports an error. -/
def World.within (w : World) (pid : Nat) (change : Database → Database) : Except Failure Unit × World :=
  match w.own pid with
  | some working => (.ok (), { w with transaction := some (pid, change working) })
  | none => (.error .connection, w)

def World.abandon (w : World) (pid : Nat) : World :=
  match w.own pid with
  | some _ => { w with transaction := none }
  | none => w

/-- An operation whose answer arrives. -/
def answer (factory : Nat) (pid : Nat) (w : World) : (op : Op) → Except Failure op.Result × World
  | .join replica =>
    match w.syncing replica with
    | some run => (.ok (some run), w)
    | none => (.ok none, { w with syncing := Function.update w.syncing replica (some pid) })
  | .await run =>
    match w.outcomes run with
    | some outcome => (outcome, w)
    | none => (.error .connection, w)
  | .settle replica outcome => (.ok (), { w with
      syncing := Function.update w.syncing replica none
      outcomes := Function.update w.outcomes pid (some outcome) })
  | .begin =>
    match w.transaction with
    | some _ => (.ok false, w)
    | none => (.ok true, { w with transaction := some (pid, w.database) })
  | .rollback => (.ok (), w.abandon pid)
  -- A transaction reads the row before it writes it, and the lock keeps the row as it is.
  | .readHistory => (.ok w.database.history, w)
  | .insertCreations rows => w.within pid fun working => { working with creations := rows.foldl insertRow working.creations }
  | .upsertHistory row => w.within pid fun working => { working with history := some row }
  | .commit =>
    match w.own pid with
    | some working => (.ok (), { w with database := working, transaction := none })
    | none => (.error .connection, w)
  | .header tag =>
    match w.chain.header tag with
    | some header => (.ok header, w)
    | none => (.error (.unavailable "A canonical factory-index anchor is unavailable."), w)
  | .getLogs first last proxy => (.ok (w.chain.getLogs factory first last proxy), w)
  | .readCreations proxy last after _ => (.ok ((w.database.creations.filter (fun row =>
      row.proxy == proxy && decide (row.blockNumber ≤ last) && decide (after < row.blockNumber))).map
        CreationRow.blockNumber), w)

def perform (factory pid : Nat) (op : Op) (reply : Reply) (w : World) : Except Failure op.Result × World :=
  match reply with
  | .answered => answer factory pid w op
  | .lost => (.error .connection, (answer factory pid w op).2)
  | .failed => (.error .connection, w)

/-- Waiting on a run ends only when the run has, and what happens inside a process does not fail. -/
def admits (op : Op) (reply : Reply) (w : World) : Bool :=
  match op with
  | .join _ | .settle _ _ => reply == .answered
  | .await run => reply == .answered && (w.outcomes run).isSome
  | _ => true

abbrev Code := Action Op Failure Op.Result Unit

def join (replica : Nat) : Code (Option Nat) := Action.request (Op.join replica)

def waitFor (run : Nat) : Code Unit := Action.request (Op.await run)

def settle (replica : Nat) (outcome : Except Failure Unit) : Code Unit := Action.request (Op.settle replica outcome)

def lock : Code Bool := Action.request Op.begin

def rollback : Code Unit := Action.request Op.rollback

def readHistory : Code (Option HistoryRow) := Action.request Op.readHistory

def insertCreations (rows : List CreationRow) : Code Unit := Action.request (Op.insertCreations rows)

def upsertHistory (row : HistoryRow) : Code Unit := Action.request (Op.upsertHistory row)

def commit : Code Unit := Action.request Op.commit

def header (tag : Tag) : Code Header := Action.request (Op.header tag)

def getLogs (first last : Nat) (proxy : Option Nat) : Code (List Log) := Action.request (Op.getLogs first last proxy)

def readCreations (proxy last after through : Nat) : Code (List Nat) :=
  Action.request (Op.readCreations proxy last after through)

def unavailableIf (refused : Prop) [Decidable refused] (message : String) : Code Unit :=
  if refused then Action.raise (.unavailable message) else pure ()

def checkPage (factory first last : Nat) (proxy : Option Nat) (result : List Log) : Except Failure (List Log) :=
  if 10000 ≤ result.length then .error (.unavailable "A factory history page is incomplete.")
  else if result.any (fun log => log.removed || log.address != factory || decide (log.blockNumber < first)
      || decide (last < log.blockNumber) || proxy.any (fun proxy => log.proxy != proxy)) then
    .error (.unavailable "A factory history page contains invalid evidence.")
  else if ¬ (result.map (fun log => (log.blockHash, log.logIndex))).Nodup then
    .error (.unavailable "A factory history page contains duplicate evidence.")
  else .ok result

def logs (factory first last : Nat) (proxy : Option Nat) : Code (List Log) :=
  if last < first ∨ 500 ≤ last - first then Action.raise (.error "Factory history requires 500-block pages")
  else do
    let result ← getLogs first last proxy
    Action.ofExcept (checkPage factory first last proxy result)

def storePage (found : List Log) : Code Unit :=
  if found ≠ [] then insertCreations (found.map Log.row) else pure ()

/-- At most `count` pages of finalized blocks above `through`, and the last block they reach. -/
def pages (factory finalized : Nat) : Nat → Nat → Code Nat
  | 0, through => pure through
  | count + 1, through =>
    if through < finalized then do
      let found ← logs factory (through + 1) (min (through + 500) finalized) none
      storePage found
      pages factory finalized count (min (through + 500) finalized)
    else pure through

/-- How far the tables reach: to the end of the seed until a row says more. -/
def FactoryHistorySeed.mark (seed : FactoryHistorySeed) (row : Option HistoryRow) : HistoryRow :=
  row.getD ⟨seed.through, seed.hash⟩

def advanceFrom (seed : FactoryHistorySeed) (previous : HistoryRow) : Code Unit := do
  unavailableIf (previous.throughBlock < seed.through) "The factory index predates its retained prefix."
  let anchor ← header (.number previous.throughBlock)
  unavailableIf (anchor.hash ≠ previous.blockHash) "The finalized factory index changed; it must be rebuilt."
  let finalized ← header .finalized
  let through ← pages seed.factory finalized.number 12 previous.throughBlock
  let last ← header (.number through)
  upsertHistory ⟨through, last.hash⟩
  let again ← header (.number previous.throughBlock)
  unavailableIf (again.hash ≠ previous.blockHash) "The factory index anchor changed during its update."
  commit

def advance (seed : FactoryHistorySeed) : Code Unit :=
  Action.tryCatch
    (do
      let locked ← lock
      if locked then do
        let row ← readHistory
        advanceFrom seed (seed.mark row)
      else rollback)
    (fun error => do
      Action.tryCatch rollback (fun _ => pure ())
      Action.raise error)

/-- A replica runs one `advance` at a time and its callers share the outcome. -/
def sync (seed : FactoryHistorySeed) (replica : Nat) : Code Unit := do
  let current ← join replica
  match current with
  | some run => waitFor run
  | none => do
    let outcome ← Action.tryCatch (do advance seed; pure (Except.ok ())) (fun error => pure (Except.error error))
    settle replica outcome
    Action.ofExcept outcome

/-- The seed's blocks with a creation of the proxy, up to `last`. -/
def FactoryHistorySeed.prefixOf (seed : FactoryHistorySeed) (proxy last : Nat) : List Nat :=
  ((runAt Prod.fst seed.creations proxy).map Prod.snd).filter (fun block => decide (block ≤ last))

def collect (factory proxy : Nat) : List Nat → Code (List Log)
  | [] => pure []
  | block :: rest => do
    let found ← logs factory block block (some proxy)
    let others ← collect factory proxy rest
    pure (found ++ others)

/-- The live logs from `first` to `last` in pages of 500 blocks. `fuel` is at least their number. -/
def scan (factory proxy last : Nat) : Nat → Nat → Code (List Log)
  | 0, _ => pure []
  | fuel + 1, first =>
    if first ≤ last then do
      let found ← logs factory first (if first + 499 < last then first + 499 else last) (some proxy)
      let others ← scan factory proxy last fuel (first + 500)
      pure (found ++ others)
    else pure []

def creationLogsFrom (seed : FactoryHistorySeed) (proxy last : Nat) (mark : HistoryRow) : Code (List Log) := do
  let anchor ← header (.number mark.throughBlock)
  unavailableIf (anchor.hash ≠ mark.blockHash) "The factory index anchor is no longer canonical."
  unavailableIf (mark.throughBlock + 10000 < last)
    "Account history is catching up. Try checking the account again shortly."
  let tail ← readCreations proxy last seed.through mark.throughBlock
  let found ← collect seed.factory proxy (seed.prefixOf proxy last ++ tail).eraseDups
  unavailableIf (found.length ≠ (seed.prefixOf proxy last ++ tail).length) disagreement
  let live ← scan seed.factory proxy last (last + 1 - mark.throughBlock) (mark.throughBlock + 1)
  pure (found ++ live)

def creationLogs (seed : FactoryHistorySeed) (replica chainId factory proxy last : Nat) : Code (Option (List Log)) :=
  if chainId ≠ seed.chainId ∨ factory ≠ seed.factory then pure none
  else do
    sync seed replica
    let row ← readHistory
    let found ← creationLogsFrom seed proxy last (seed.mark row)
    pure (some found)

def ascending : Nat → List (Nat × Nat) → Bool
  | _, [] => true
  | previous, row :: rest => decide (previous ≤ row.1) && ascending row.1 rest

theorem pairwise_of_ascending (ordered : ascending previous rows = true) :
    rows.Pairwise (fun a b => a.1 ≤ b.1) ∧ ∀ row ∈ rows, previous ≤ row.1 := by
  induction rows generalizing previous with
  | nil => exact ⟨.nil, nofun⟩
  | cons row rest ih =>
    obtain ⟨first, ordered⟩ := Bool.and_eq_true_iff.mp ordered
    obtain ⟨sorted, above⟩ := ih ordered
    refine ⟨List.pairwise_cons.mpr ⟨above, sorted⟩, fun other member => ?_⟩
    obtain rfl | member := List.mem_cons.mp member
    · exact of_decide_eq_true first
    · exact (of_decide_eq_true first).trans (above other member)

/-- An index over a seed that is sorted by address. -/
structure FactoryHistoryIndex where
  seed : FactoryHistorySeed
  sorted : seed.creations.Pairwise (fun a b => a.1 ≤ b.1)

def FactoryHistoryIndex.construct (seed : FactoryHistorySeed) : Except Failure FactoryHistoryIndex :=
  if ordered : ascending 0 seed.creations = true then .ok ⟨seed, (pairwise_of_ascending ordered).1⟩
  else .error (.unavailable "The retained factory index is not sorted by address.")

inductive Task where
  | sync (replica : Nat)
  | creationLogs (replica chainId factory proxy last : Nat)
deriving DecidableEq

/-- What a task returns: nothing for a `sync`. -/
abbrev Outcome := Except Failure (Option (List Log))

/-- The outside may finalize more and change the chain above the blocks that are final. -/
def Chain.Grows (chain next : Chain) : Prop :=
  chain.finalized ≤ next.finalized ∧ ∀ n ≤ chain.finalized, next.block n = chain.block n

instance (chain next : Chain) : Decidable (chain.Grows next) := inferInstanceAs (Decidable (_ ∧ _))

def FactoryHistoryIndex.code (index : FactoryHistoryIndex) : Task → Program Op Failure Op.Result (Outcome × Unit)
  | .sync replica => (sync index.seed replica >>= fun _ => pure none : Code (Option (List Log))) ()
  | .creationLogs replica chainId factory proxy last => creationLogs index.seed replica chainId factory proxy last ()

def FactoryHistoryIndex.machine (index : FactoryHistoryIndex) :
    Machine Task Op Failure Reply Chain Op.Result (Outcome × Unit) World where
  code := index.code
  perform := perform index.seed.factory
  admits := admits
  abandon pid w := w.abandon pid
  change next w := { w with chain := next }
  possible next w := decide (w.chain.Grows next)

end JBCenter.SmartAccounts
