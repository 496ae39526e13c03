import JBCenter.Base.Answers
import JBCenter.Base.JsonTexts
import JBCenter.Base.OrderedMap
import JBCenter.Rest.Core
import Mathlib.Data.List.Sort

/-! The checkpoints of a smart account's history, in memory and in tables. A checkpoint is kept
for each bucket of 128 blocks, and the newest buckets of an account are kept. -/
namespace JBCenter.Checkpoints
open Rest JsonTexts
open JsonTokens (JsonValue Scalar)
open Utf16 (spelled)

structure LastInitialization where
  epoch : String
  permissionIds : List String

structure SessionAdministration where
  epoch : String
  hash : String
  lastInitialization : Option LastInitialization

structure Safe7579HistoryCheckpoint where
  schemaVersion : Int
  key : String
  creationBlock : String
  creationHash : String
  creationTransaction : String
  initializerHash : String
  lastBlock : String
  lastHash : String
  authorityHash : String
  lifecycleChanges : Int
  sessionAdministration : SessionAdministration

def invalid (message : String) : RestError := { status := 503, code := "SMART_CHECKPOINT_INVALID", message }

/-- Matches `/^[1-9][0-9]{0,15}:0x[0-9a-f]{40}:0x[0-9a-f]{64}:0x[0-9a-f]{64}$/`, with a safe integer in front. -/
def isKey (key : String) : Bool :=
  match split key ':' with
  | [chain, wallet, manifest, utility] =>
    (match chain.toList with
    | first :: rest => inRange '1' '9' first && rest.length ≤ 15 && rest.all isDigit
    | [] => false) && isLowerHex 40 wallet && isLowerHex 64 manifest && isLowerHex 64 utility &&
      isSafeInteger (decimalValue chain)
  | _ => false

def assertKey (key : String) : Except RestError Unit :=
  refuse (!isKey key) (invalid "The checkpoint requires an exact chain, wallet, manifest and utility runtime identity.")

/-- Matches `/^(0|[1-9][0-9]{0,77})$/`. -/
def isDecimal (text : String) : Bool :=
  match text.toList with
  | ['0'] => true
  | first :: rest => inRange '1' '9' first && rest.length ≤ 77 && rest.all isDigit
  | [] => false

def isHash (text : String) : Bool := isHex 64 text

def isUint (text : String) : Bool := isDecimal text && decimalValue text < 2 ^ 256

def textOf (text : String) : CodeUnits := spelled text.toList

def member (name : String) (value : String) : CodeUnits × JsonValue := (textOf name, .scalar (.text (textOf value)))

def numberMember (name : String) (value : Int) :
    CodeUnits × JsonValue := (textOf name, .scalar (.number (textOf (toString value))))

def LastInitialization.toJson (initialization : LastInitialization) : JsonValue :=
  .object [member "epoch" initialization.epoch,
    (textOf "permissionIds", .array (initialization.permissionIds.map fun id => .scalar (.text (textOf id))))]

def SessionAdministration.toJson (admin : SessionAdministration) : JsonValue :=
  .object ([member "epoch" admin.epoch, member "hash" admin.hash] ++
    (admin.lastInitialization.map fun initialization => (textOf "lastInitialization", initialization.toJson)).toList)

def Safe7579HistoryCheckpoint.toJson (checkpoint : Safe7579HistoryCheckpoint) : JsonValue :=
  .object [numberMember "schemaVersion" checkpoint.schemaVersion, member "key" checkpoint.key,
    member "creationBlock" checkpoint.creationBlock, member "creationHash" checkpoint.creationHash,
    member "creationTransaction" checkpoint.creationTransaction, member "initializerHash" checkpoint.initializerHash,
    member "lastBlock" checkpoint.lastBlock, member "lastHash" checkpoint.lastHash,
    member "authorityHash" checkpoint.authorityHash, numberMember "lifecycleChanges" checkpoint.lifecycleChanges,
    (textOf "sessionAdministration", checkpoint.sessionAdministration.toJson)]

/-- The length in bytes of the document as it is stored. -/
def byteLength (checkpoint : Safe7579HistoryCheckpoint) : Nat := (Utf16.encode (render checkpoint.toJson)).length

def assertInitialization (admin : SessionAdministration) (initialization : LastInitialization) : Except RestError Unit :=
  refuse (!isUint initialization.epoch || decimalValue admin.epoch < decimalValue initialization.epoch ||
      64 < initialization.permissionIds.length || !initialization.permissionIds.all isHash)
    (invalid "The session initialization checkpoint is malformed or oversized.")

def validate (value : Safe7579HistoryCheckpoint) : Except RestError Unit := do
  assertKey value.key
  let admin := value.sessionAdministration
  refuse (!isUint admin.epoch || !isHash admin.hash) (invalid "The session administration checkpoint is missing or malformed.")
  optionally (assertInitialization admin) admin.lastInitialization
  refuse (value.schemaVersion != 2 || !isDecimal value.creationBlock || !isDecimal value.lastBlock ||
      2 ^ 256 ≤ decimalValue value.lastBlock || decimalValue value.lastBlock < decimalValue value.creationBlock ||
      !([value.creationHash, value.creationTransaction, value.initializerHash, value.lastHash, value.authorityHash].all isHash) ||
      !isSafeInteger value.lifecycleChanges || value.lifecycleChanges < 0 || 8192 < byteLength value)
    (invalid "The checkpoint requires bounded exact block and source evidence.")

structure Safe7579CheckpointOptions where
  maxKeys : Option Int
  historyBuckets : Option Int
  deriving DecidableEq

structure Limits where
  maxKeys : Nat
  historyBuckets : Nat
  keys_bounded : 1 ≤ maxKeys ∧ maxKeys ≤ 100000
  buckets_bounded : 2 ≤ historyBuckets ∧ historyBuckets ≤ 64

/-- The limits of the options, or a `TypeError`. -/
def limits (options : Safe7579CheckpointOptions) : Except String Limits :=
  let maxKeys := options.maxKeys.getD 10000
  let historyBuckets := options.historyBuckets.getD 32
  if bounded : 1 ≤ maxKeys ∧ maxKeys ≤ 100000 ∧ 2 ≤ historyBuckets ∧ historyBuckets ≤ 64 then
    .ok ⟨maxKeys.toNat, historyBuckets.toNat, by omega, by omega⟩
  else .error "Use bounded checkpoint capacity and 2–64 retained history buckets."

def lastBlock (checkpoint : Safe7579HistoryCheckpoint) : Nat := decimalValue checkpoint.lastBlock

def bucketOf (checkpoint : Safe7579HistoryCheckpoint) : Nat := lastBlock checkpoint / 128

def sameCreation (a b : Safe7579HistoryCheckpoint) : Bool :=
  a.creationBlock = b.creationBlock && toLowerCase a.creationHash = toLowerCase b.creationHash &&
    toLowerCase a.creationTransaction = toLowerCase b.creationTransaction &&
    toLowerCase a.initializerHash = toLowerCase b.initializerHash

def assertCreation (existing next : Safe7579HistoryCheckpoint) : Except RestError Unit :=
  refuse (!sameCreation existing next)
    { status := 409, code := "SMART_CHECKPOINT_CREATION_CHANGED",
      message := "The checkpoint namespace already binds another verified account creation. " ++
        "Review and retire the prior checkpoint namespace." }

def capacity (message : String) : RestError := { status := 503, code := "SMART_CHECKPOINT_CAPACITY", message }

/-- Newest first. -/
def byLastBlock (checkpoints : List Safe7579HistoryCheckpoint) : List Safe7579HistoryCheckpoint :=
  checkpoints.insertionSort (fun a b => lastBlock b ≤ lastBlock a)

/-- The greatest bucket first. -/
def byBucket (buckets : List Nat) : List Nat := buckets.insertionSort (· ≥ ·)

namespace Memory

/-- The checkpoints of each key, by their buckets. -/
abbrev Records := OrderedMap String (OrderedMap Nat Safe7579HistoryCheckpoint)

def recordsOf (records : Records) (key : String) : OrderedMap Nat Safe7579HistoryCheckpoint := (records.get key).getD .empty

def get (records : Records) (key : String) : Except RestError (List Safe7579HistoryCheckpoint) := do
  assertKey key
  return byLastBlock (recordsOf records key).values

/-- The checkpoint in its bucket, where none of a later block is there. -/
def place (records : OrderedMap Nat Safe7579HistoryCheckpoint) (checkpoint : Safe7579HistoryCheckpoint) :
    OrderedMap Nat Safe7579HistoryCheckpoint :=
  match records.get (bucketOf checkpoint) with
  | none => records.set (bucketOf checkpoint) checkpoint
  | some prior =>
    if lastBlock prior ≤ lastBlock checkpoint then records.set (bucketOf checkpoint) checkpoint else records

def retire (limits : Limits) (records : OrderedMap Nat Safe7579HistoryCheckpoint) : OrderedMap Nat Safe7579HistoryCheckpoint :=
  records.deleteAll ((byBucket (records.entries.map Prod.fst)).drop limits.historyBuckets)

/-- The check of a checkpoint against the first of its key, or of the capacity where it is the first. -/
def accept (limits : Limits) (records : Records) (checkpoint : Safe7579HistoryCheckpoint) : Except RestError Unit :=
  match (recordsOf records checkpoint.key).values.head? with
  | some existing => assertCreation existing checkpoint
  | none => refuse (limits.maxKeys ≤ records.entries.length) (capacity "The verified-account checkpoint capacity is reached.")

def put (limits : Limits) (checkpoint : Safe7579HistoryCheckpoint) : Fallible RestError Records Unit := do
  Fallible.check (validate checkpoint)
  Fallible.check (accept limits (← MonadState.get) checkpoint)
  modify fun records => records.set checkpoint.key (retire limits (place (recordsOf records checkpoint.key) checkpoint))

end Memory

namespace Postgres

structure Row where
  lastBlock : Nat
  document : Safe7579HistoryCheckpoint

/-- The table by its primary key, of the key of an account and a bucket. -/
abbrev Table := OrderedMap (String × Nat) Row

def rowsOf (table : Table) (key : String) : List Row := (table.filter fun row _ => row.1 = key).values

/-- `ORDER BY last_block DESC`. -/
def newestFirst (rows : List Row) : List Row := rows.insertionSort (fun a b => b.lastBlock ≤ a.lastBlock)

def get (limits : Limits) (table : Table) (key : String) : Except RestError (List Safe7579HistoryCheckpoint) := do
  assertKey key
  ((newestFirst (rowsOf table key)).take limits.historyBuckets).mapM fun row => do
    validate row.document
    refuse (row.document.key != key) (invalid "Stored checkpoint does not match its namespace.")
    return row.document

/-- `INSERT … ON CONFLICT … DO UPDATE`, where the new row is not older. -/
def upsert (table : Table) (checkpoint : Safe7579HistoryCheckpoint) : Table :=
  match table.get (checkpoint.key, bucketOf checkpoint) with
  | none => table.set (checkpoint.key, bucketOf checkpoint) ⟨lastBlock checkpoint, checkpoint⟩
  | some row =>
    if row.lastBlock ≤ lastBlock checkpoint then table.set (checkpoint.key,
      bucketOf checkpoint) ⟨lastBlock checkpoint, checkpoint⟩
    else table

def bucketsOf (table : Table) (key : String) :
    List Nat := ((table.filter fun row _ => row.1 = key).entries.map Prod.fst).map Prod.snd

/-- `DELETE … WHERE key=$1 AND bucket NOT IN (… ORDER BY bucket DESC LIMIT $2)`. -/
def prune (limits : Limits) (table : Table) (key : String) : Table :=
  table.filter fun row _ => row.1 ≠ key || row.2 ∈ (byBucket (bucketsOf table key)).take limits.historyBuckets

/-- `count(DISTINCT key)`. -/
def countKeys (table : Table) : Nat := (table.entries.map fun entry => entry.1.1).dedup.length

/-- The check of a checkpoint against the newest row of its key, or of the capacity where there is none. -/
def accept (limits : Limits) (table : Table) (checkpoint : Safe7579HistoryCheckpoint) : Except RestError Unit :=
  match (newestFirst (rowsOf table checkpoint.key)).head? with
  | some existing => do
    validate existing.document
    assertCreation existing.document checkpoint
  | none => refuse (limits.maxKeys ≤ countKeys table) (capacity "The durable verified-account checkpoint capacity is reached.")

def put (limits : Limits) (checkpoint : Safe7579HistoryCheckpoint) : Fallible RestError Table Unit :=
  transaction fun table => do
    validate checkpoint
    accept limits table checkpoint
    return ((), prune limits (upsert table checkpoint) checkpoint.key)

end Postgres

inductive Op where
  | get (key : String)
  | put (checkpoint : Safe7579HistoryCheckpoint)

/-- A `put` answers nothing, which is the empty list here. -/
def Memory.perform (limits : Limits) : Op → Fallible RestError Records (List Safe7579HistoryCheckpoint)
  | .get key => do Fallible.check (Memory.get (← MonadState.get) key)
  | .put checkpoint => do
    Memory.put limits checkpoint
    return []

def Postgres.perform (limits : Limits) : Op → Fallible RestError Table (List Safe7579HistoryCheckpoint)
  | .get key => do Fallible.check (Postgres.get limits (← MonadState.get) key)
  | .put checkpoint => do
    Postgres.put limits checkpoint
    return []

end JBCenter.Checkpoints
