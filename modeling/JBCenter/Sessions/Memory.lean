import JBCenter.Base.Answers
import JBCenter.Base.OrderedMap
import JBCenter.Sessions.Admission
import JBCenter.Transactions.Store

/-! The in-memory session store. Admissions run one at a time under the account authority,
and observations do not yield, so whole operations interleave and nothing else does. The
authority's verdict, the store's clock, and what the binding and grant guards would say of a
record at that moment are part of an operation's input. -/
namespace JBCenter.Sessions
open Rest

inductive SessionOperation where
  | create | activate | revoke
  deriving DecidableEq

structure StoredIdempotency where
  operation : SessionOperation
  sessionId : String
  requestHash : String

structure Memory where
  records : OrderedMap String StoredSession
  idempotency : OrderedMap (String × String × String) StoredIdempotency

def Memory.empty : Memory := ⟨.empty, .empty⟩

/-- The current local state the store asks about, read synchronously. -/
structure Guards where
  assertBinding : StoredSession → Except RestError Unit
  grant : StoredSession → Option Auth.BotGrant
  assertSupersedablePlan : Option (StoredSession → SessionOwnerApproval → Int → Except RestError Unit)

abbrev StoreM := Fallible RestError Memory

open Fallible (check)

def assertIdempotencyMatch (existing : Option StoredIdempotency) (claim : SessionIdempotency)
    (operation : SessionOperation) (sessionId : Option String) : Except RestError Unit := do
  assertSessionIdempotency claim
  refuse (existing.any (fun existing => existing.operation ≠ operation || existing.requestHash ≠ claim.requestHash ||
      sessionId.any (fun id => existing.sessionId ≠ id)))
    (sessionError "SESSION_IDEMPOTENCY_CONFLICT"
      "The idempotency key already binds another exact session request." 409)

namespace Memory

def key (actor : RestActor) (key : String) : String × String × String := (actor.accountId, actor.principalId, key)

def required (s : Memory) (actor : RestActor) (id : String) : Except RestError StoredSession := do
  Transactions.assertActor actor
  assertSessionId id
  match s.records.get id with
  | none => .error missingSession
  | some record => if canReadSession record actor then .ok record else .error missingSession

def checkReservation (s : Memory) (record : StoredSession) : Except RestError Unit :=
  refuse (s.records.values.any (reservationConflicts record))
    (sessionError "SESSION_ALLOCATION_CONFLICT"
      "Another admitted session reserves this physical wallet until finalized revocation." 409)

def checkAuthority (guards : Guards) (record : StoredSession) (now : Int) : Except RestError Unit := do
  guards.assertBinding record
  assertSessionGrant record (guards.grant record) (now / 1000)

def reserve (actor : RestActor) (claim : SessionIdempotency) (operation : SessionOperation) (id : String) :
    StoreM Unit := do
  let s ← get
  check (refuse (idempotencyPerAccount ≤
      (s.idempotency.entries.filter (fun entry => entry.1.1 = actor.accountId)).length)
    (sessionError "SESSION_STORAGE_LIMIT" "Account session idempotency capacity reached." 429))
  set { s with idempotency := s.idempotency.set (key actor claim.key) ⟨operation, id, claim.requestHash⟩ }

variable (encoding : Encoding)

def create (input : StoredSession) (idempotency : SessionIdempotency) (now : Int)
    (authority : Except RestError Unit) (clock : Int) (guards : Guards) : StoreM StoredSession := do
  check (assertNewSession encoding input now)
  check (assertSessionIdempotency idempotency)
  let record ← check (cloneSession encoding.record input)
  let claim ← check (cloneSession encoding.idempotency idempotency)
  check authority
  let s ← get
  let existing := s.idempotency.get (key record.actor claim.key)
  check (assertIdempotencyMatch existing claim .create none)
  match existing with
  | some existing =>
    let stored ← check (s.required record.actor existing.sessionId)
    check (cloneSession encoding.record stored)
  | none =>
    check (assertNewSession encoding record clock)
    check (checkAuthority guards record clock)
    check (refuse (s.records.has record.id || s.records.values.any (identityConflicts record))
      (sessionError "SESSION_CONFLICT"
        "The immutable permission, salt, nonce or key generation is already recorded." 409))
    check (refuse (sessionsPerAccount ≤ (s.records.values.filter (fun other =>
        other.compiled.ownerAccountId = record.compiled.ownerAccountId)).length)
      (sessionError "SESSION_STORAGE_LIMIT" "Account session record capacity reached." 429))
    reserve record.actor claim .create record.id
    modify fun s => { s with records := s.records.set record.id record }
    check (cloneSession encoding.record record)

/-- Replacing the approved plan needs proof that the prior one can no longer be submitted. -/
def assertReplacement (guards : Guards) (current : StoredSession) (prior : Option SessionOwnerApproval)
    (now : Int) : Except RestError Unit :=
  optionally (fun prior =>
    match guards.assertSupersedablePlan with
    | none => .error (sessionError "SESSION_PLAN_REPLACEMENT_UNAVAILABLE"
        "A synchronous prior-plan and transport guard is required for replacement." 503)
    | some assertSupersedable => assertSupersedable current prior now) prior

def claim (claim : SessionClaim) (kind : LifecycleKind) (authority : Except RestError Unit) (clock : Int)
    (guards : Guards) : StoreM (StoredSession × Bool) := do
  let claim ← check (cloneSession encoding.claim claim)
  check (Transactions.assertActor claim.actor)
  check (assertSessionIdempotency claim.idempotency)
  check authority
  let s ← get
  let current ← check (s.required claim.actor claim.id)
  let operation := if kind = .activation then SessionOperation.activate else .revoke
  let existing := s.idempotency.get (key claim.actor claim.idempotency.key)
  check (assertIdempotencyMatch existing claim.idempotency operation (some current.id))
  if existing.isSome then
    let record ← check (cloneSession encoding.record current)
    return (record, false)
  else
    check (if kind = .activation then checkAuthority guards current clock else .ok ())
    let replaced := (current.approvalOf kind).filter (fun prior => prior.planId ≠ claim.approval.planId)
    check (assertReplacement guards current replaced clock)
    let result ← check (applySessionClaim encoding current claim kind clock replaced.isSome)
    check (if result.2 && kind = .activation then s.checkReservation current else .ok ())
    reserve claim.actor claim.idempotency operation current.id
    modify fun s => { s with records := if result.2 then s.records.set current.id result.1 else s.records }
    check (cloneSession encoding.result result)

/-- The guards accept the record now; a refusal of theirs is the answer no. -/
def grantActive (guards : Guards) (record : StoredSession) (now : Int) : Bool :=
  match checkAuthority guards record now with
  | .ok _ => true
  | .error _ => false

def observe (update : SessionObservationUpdate) (clock : Int) (guards : Guards) :
    StoreM (StoredSession × Bool) := do
  let update ← check (cloneSession encoding.observationUpdate update)
  let s ← get
  let current ← check (s.required update.actor update.id)
  let result ← check (applySessionObservation encoding current update (grantActive guards current clock) clock)
  check (if result.2 && result.1.enabled && !result.1.reservationsReleased then s.checkReservation current
    else .ok ())
  modify fun s => { s with records := if result.2 then s.records.set current.id result.1 else s.records }
  check (cloneSession encoding.result result)

def markStale (update : SessionInvalidationUpdate) (clock : Int) : StoreM (StoredSession × Bool) := do
  let update ← check (cloneSession encoding.invalidationUpdate update)
  let s ← get
  let current ← check (s.required update.actor update.id)
  let result ← check (applySessionInvalidation encoding current update clock)
  modify fun s => { s with records := if result.2 then s.records.set current.id result.1 else s.records }
  check (cloneSession encoding.result result)

end Memory

inductive Op where
  | create (input : StoredSession) (idempotency : SessionIdempotency) (now : Int)
      (authority : Except RestError Unit) (clock : Int) (guards : Guards)
  | claim (claim : SessionClaim) (kind : LifecycleKind) (authority : Except RestError Unit) (clock : Int)
      (guards : Guards)
  | observe (update : SessionObservationUpdate) (clock : Int) (guards : Guards)
  | markStale (update : SessionInvalidationUpdate) (clock : Int)

inductive Outcome where
  | record (record : StoredSession)
  | result (record : StoredSession) (changed : Bool)

def Outcome.ofResult (result : StoredSession × Bool) : Outcome := .result result.1 result.2

variable (encoding : Encoding)

def perform : Op → StoreM Outcome
  | .create input idempotency now authority clock guards =>
    Outcome.record <$> Memory.create encoding input idempotency now authority clock guards
  | .claim claim kind authority clock guards =>
    Outcome.ofResult <$> Memory.claim encoding claim kind authority clock guards
  | .observe update clock guards => Outcome.ofResult <$> Memory.observe encoding update clock guards
  | .markStale update clock => Outcome.ofResult <$> Memory.markStale encoding update clock

/-- Runs of the store from its empty start, every operation's answer recorded. -/
abbrev MemoryRuns (history : List (Answer Op RestError Outcome)) (s : Memory) : Prop :=
  Run (Performs (perform encoding)) Memory.empty history s

end JBCenter.Sessions
