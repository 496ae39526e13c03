import JBCenter.Sessions.Memory

/-! The durable session store: three tables, each operation one transaction under the account's row lock and
the wallet's advisory lock, so that operations on a wallet run one after another. An account's row is there
whenever a session of it is, and the checks of a row that the code has already made are left out. The
transaction reads its clock several times; the readings here are one. -/
namespace JBCenter.Sessions
open Rest

inductive ReservationKind where
  | key | asset
  deriving DecidableEq

/-- A reservation, whose key is its session, its kind and its coordinate. -/
structure ReservationRow where
  sessionId : String
  kind : ReservationKind
  coordinate : String
  chainId : Int
  walletAddress : String
  releasedAt : Option Int

structure Postgres where
  sessions : OrderedMap String StoredSession
  idempotency : OrderedMap (String × String × String) StoredIdempotency
  reservations : List ReservationRow

def Postgres.empty : Postgres := ⟨.empty, .empty, []⟩

def conflict : RestError :=
  sessionError "SESSION_CONFLICT" "This session identity or authorization is already reserved." 409

def violation : RestError := ⟨500, "INTERNAL_ERROR", "A row breaks a check of its table.", none⟩

def localSessionAllocations (record : StoredSession) : List SessionAllocation :=
  (record.allocationGroups.flatMap SessionAllocationGroup.allocations).filter
    (fun entry => entry.chainId = record.compiled.chainId)

/-- The unique keys of the sessions' table; the generation is a number there. -/
def uniqueConflicts (a b : StoredSession) : Bool :=
  a.id = b.id || (sameWallet a b &&
    (same a.compiled.permissionId b.compiled.permissionId || same a.compiled.salt b.compiled.salt ||
      same a.compiled.nonce b.compiled.nonce ||
      (same a.compiled.sessionKey b.compiled.sessionKey &&
        decimalValue a.compiled.generation = decimalValue b.compiled.generation)))

namespace Postgres
variable (encoding : Encoding)

/-- The document a row holds. `jsonb` says whether the column takes a document: its text has neither a NUL
nor an unpaired surrogate and stays within the column's bound. -/
def assertRow (jsonb : StoredSession → Bool) (record : StoredSession) : Except RestError Unit :=
  refuse (record.updatedAt < record.createdAt || !isTime record.updatedAt || record.revision < 0 ||
    maxSafeInteger ≤ record.revision || !jsonb record) violation

def selectSession (s : Postgres) (actor : RestActor) (id : String) : Except RestError StoredSession := do
  Transactions.assertActor actor
  assertSessionId id
  match (s.sessions.get id).filter (fun record => record.actor.accountId = actor.accountId) with
  | none => .error missingSession
  | some record => if canReadSession record actor then cloneSession encoding.record record else .error missingSession

def reserveIdempotency (s : Postgres) (actor : RestActor) (claim : SessionIdempotency) (operation : SessionOperation)
    (id : String) : Except RestError Postgres := do
  refuse (idempotencyPerAccount ≤ (s.idempotency.entries.filter (fun entry => entry.1.1 = actor.accountId)).length)
    (sessionError "SESSION_STORAGE_LIMIT" "The account session idempotency limit is reached." 429)
  return { s with idempotency := s.idempotency.set (Memory.key actor claim.key) ⟨operation, id, claim.requestHash⟩ }

def insertSession (jsonb : StoredSession → Bool) (s : Postgres) (record : StoredSession) : Except RestError Postgres := do
  assertRow jsonb record
  refuse (s.sessions.values.any (uniqueConflicts record)) conflict
  return { s with sessions := s.sessions.set record.id record }

def save (jsonb : StoredSession → Bool) (s : Postgres) (record : StoredSession) :
    Except RestError (StoredSession × Postgres) := do
  let copy ← cloneSession encoding.record record
  assertRow jsonb copy
  return (copy, { s with sessions := s.sessions.set copy.id copy })

/-- An unreleased reservation of another session of the wallet. -/
def overlap (s : Postgres) (record : StoredSession) : Bool :=
  s.reservations.any (fun row => row.chainId = record.compiled.chainId &&
    row.walletAddress = toLowerCase record.compiled.wallet && row.releasedAt.isNone && row.sessionId ≠ record.id)

def coordinates (record : StoredSession) : List (ReservationKind × String) :=
  (.key, toLowerCase record.compiled.sessionKey) ::
    (localSessionAllocations record).map (fun entry => (.asset, toLowerCase entry.asset))

/-- `INSERT … ON CONFLICT DO NOTHING`. -/
def insertReservation (record : StoredSession) (rows : List ReservationRow) (coordinate : ReservationKind × String) :
    List ReservationRow :=
  if rows.any (fun row => row.sessionId = record.id && row.kind = coordinate.1 && row.coordinate = coordinate.2) then rows
  else rows ++ [⟨record.id, coordinate.1, coordinate.2, record.compiled.chainId, toLowerCase record.compiled.wallet, none⟩]

def reserveAuthority (s : Postgres) (record : StoredSession) : Except RestError Postgres := do
  refuse (s.overlap record) (sessionError "SESSION_ALLOCATION_CONFLICT"
    "Another session still reserves this wallet pending finalized onchain retirement." 409)
  return { s with reservations := (coordinates record).foldl (insertReservation record) s.reservations }

def reserveWhen (needed : Bool) (s : Postgres) (record : StoredSession) : Except RestError Postgres :=
  if needed then s.reserveAuthority record else .ok s

def release (s : Postgres) (id : String) (now : Int) : Postgres :=
  { s with reservations := s.reservations.map (fun row =>
      if row.sessionId = id && row.releasedAt.isNone then { row with releasedAt := some now } else row) }

def create (jsonb : StoredSession → Bool) (input : StoredSession) (idempotency : SessionIdempotency) (now : Int)
    (authority : Except RestError Unit) (clock : Int) (guards : Guards) (s : Postgres) :
    Except RestError (StoredSession × Postgres) := do
  assertNewSession encoding input now
  assertSessionIdempotency idempotency
  let record ← cloneSession encoding.record input
  let claim ← cloneSession encoding.idempotency idempotency
  authority
  let existing := s.idempotency.get (Memory.key record.actor claim.key)
  assertIdempotencyMatch existing claim .create none
  match existing with
  | some existing =>
    let stored ← s.selectSession encoding record.actor existing.sessionId
    return (stored, s)
  | none =>
    assertSessionActor record record.actor
    guards.assertBinding record
    let grant := guards.grant record
    assertNewSession encoding record clock
    assertSessionGrant record grant (clock / 1000)
    refuse (sessionsPerAccount ≤ (s.sessions.values.filter (fun other =>
        other.actor.accountId = record.actor.accountId)).length)
      (sessionError "SESSION_STORAGE_LIMIT" "The account session record limit is reached." 429)
    let s ← s.insertSession jsonb record
    let s ← s.reserveIdempotency record.actor claim .create record.id
    authority
    assertNewSession encoding record clock
    assertSessionGrant record grant (clock / 1000)
    let answer ← cloneSession encoding.record record
    return (answer, s)

def ofActivation (kind : LifecycleKind) (accepted : Except RestError Unit) : Except RestError Unit :=
  if kind = .activation then accepted else .ok ()

/-- Both kinds of result are saved alike, when there is something to save. -/
def saveResult (jsonb : StoredSession → Bool) (s : Postgres) (result : StoredSession × Bool) :
    Except RestError ((StoredSession × Bool) × Postgres) :=
  if result.2 then (s.save encoding jsonb result.1).map (fun saved => ((saved.1, true), saved.2)) else .ok (result, s)

def claim (jsonb : StoredSession → Bool) (claim : SessionClaim) (kind : LifecycleKind)
    (authority : Except RestError Unit) (clock : Int) (guards : Guards) (s : Postgres) :
    Except RestError ((StoredSession × Bool) × Postgres) := do
  let claim ← cloneSession encoding.claim claim
  Transactions.assertActor claim.actor
  assertSessionIdempotency claim.idempotency
  authority
  let current ← s.selectSession encoding claim.actor claim.id
  let operation := if kind = .activation then SessionOperation.activate else .revoke
  let existing := s.idempotency.get (Memory.key claim.actor claim.idempotency.key)
  assertIdempotencyMatch existing claim.idempotency operation (some current.id)
  if existing.isSome then return ((current, false), s)
  else
    let grant := guards.grant current
    ofActivation kind (guards.assertBinding current)
    ofActivation kind (assertSessionGrant current grant (clock / 1000))
    let replaced := (current.approvalOf kind).filter (fun prior => prior.planId ≠ claim.approval.planId)
    Memory.assertReplacement guards current replaced clock
    let result ← applySessionClaim encoding current claim kind clock replaced.isSome
    let s ← reserveWhen (result.2 && kind = .activation) s current
    let s ← s.reserveIdempotency claim.actor claim.idempotency operation current.id
    authority
    ofActivation kind (assertSessionGrant current grant (clock / 1000))
    let result ← applySessionClaim encoding current claim kind clock replaced.isSome
    s.saveResult encoding jsonb result

def observe (jsonb : StoredSession → Bool) (update : SessionObservationUpdate) (clock : Int) (guards : Guards)
    (s : Postgres) : Except RestError ((StoredSession × Bool) × Postgres) := do
  let update ← cloneSession encoding.observationUpdate update
  let current ← s.selectSession encoding update.actor update.id
  let result ← applySessionObservation encoding current update (Memory.grantActive guards current clock) clock
  let s ← reserveWhen (result.2 && result.1.enabled && !result.1.reservationsReleased) s result.1
  let released := if result.2 && !current.reservationsReleased && result.1.reservationsReleased then
    s.release current.id clock else s
  released.saveResult encoding jsonb result

def markStale (jsonb : StoredSession → Bool) (update : SessionInvalidationUpdate) (clock : Int) (s : Postgres) :
    Except RestError ((StoredSession × Bool) × Postgres) := do
  let update ← cloneSession encoding.invalidationUpdate update
  let current ← s.selectSession encoding update.actor update.id
  let result ← applySessionInvalidation encoding current update clock
  s.saveResult encoding jsonb result

def execute (jsonb : StoredSession → Bool) (op : Op) (s : Postgres) : Except RestError (Outcome × Postgres) :=
  match op with
  | .create input idempotency now authority clock guards =>
    (create encoding jsonb input idempotency now authority clock guards s).map (fun done => (.record done.1, done.2))
  | .claim request kind authority clock guards =>
    (claim encoding jsonb request kind authority clock guards s).map (fun done => (.ofResult done.1, done.2))
  | .observe update clock guards =>
    (observe encoding jsonb update clock guards s).map (fun done => (.ofResult done.1, done.2))
  | .markStale update clock =>
    (markStale encoding jsonb update clock s).map (fun done => (.ofResult done.1, done.2))

def perform (jsonb : StoredSession → Bool) (op : Op) : Fallible RestError Postgres Outcome :=
  transaction (execute encoding jsonb op)

/-- The session has a reservation that is not released. -/
def holds (s : Postgres) (id : String) : Bool :=
  s.reservations.any (fun row => row.sessionId = id && row.releasedAt.isNone)

end Postgres
end JBCenter.Sessions
