import JBCenter.Base.Answers
import JBCenter.Transactions.Reservations
import JBCenter.UserOperations.Store

/-! The in-memory userOperation store. Each operation is one synchronous callback, so what can
interleave is whole operations, and the transport claims of the two stores it shares its table
with. The verdicts of the account authority and of the binding and session guard, and the
readings of the clock, are part of the input. -/
namespace JBCenter.UserOperations
open Rest
open Transactions (Transports ReservedTransport assertActor assertText)
open Fallible (check)

structure NonceEntry where
  id : String
  commitment : String

structure Memory where
  records : OrderedMap String UserOperationRecord
  preparations : OrderedMap (String × String × String) String
  submissions : OrderedMap (String × String × String) String
  nonces : OrderedMap (Int × String × Nat) NonceEntry
  transports : Transports

/-- The store's operations, which may leave writes behind when they throw. -/
abbrev StoreM := Fallible RestError Memory

def preparationKey (actor : RestActor) (value : String) : String × String × String :=
  (actor.accountId, actor.principalId, value)

namespace Memory

def empty : Memory := ⟨.empty, .empty, .empty, .empty, .empty⟩

def required (s : Memory) (actor : RestActor) (id : String) : Except RestError UserOperationRecord := do
  assertActor actor
  assertText id 192
  match s.records.get id with
  | none => .error missing
  | some record => if owns record actor then .ok record else .error missing

def find (s : Memory) (id : String) : Except RestError UserOperationRecord :=
  match s.records.get id with
  | none => .error missing
  | some record => .ok record

variable (encoding : Encoding) (codec : UserOperationCodec)

def create (input : UserOperationRecord) (now clock : Int) (authority session : Except RestError Unit) :
    StoreM UserOperationRecord := do
  check (assertNew encoding codec input now)
  let record ← check (clone encoding.record input)
  check authority
  let s ← get
  match s.preparations.get (preparationKey record.actor record.preparationKey) with
  | some previous =>
    let stored ← check (s.required record.actor previous)
    check (refuse (!same stored.inputHash record.inputHash) conflict)
    check (clone encoding.record stored)
  | none =>
    check (assertNew encoding codec record clock)
    check session
    check (refuse (s.records.has record.id) conflict)
    check (refuse (recordsPerAccount ≤
        (s.records.values.filter (fun other => other.actor.accountId = record.actor.accountId)).length)
      (fail "USER_OPERATION_STORAGE_LIMIT" "Account UserOperation record capacity reached." 429))
    modify fun s => { s with
      preparations := s.preparations.set (preparationKey record.actor record.preparationKey) record.id }
    modify fun s => { s with records := s.records.set record.id record }
    check (clone encoding.record record)

/-- The nonce is free, or bound to this very submission. -/
def assertNonce (s : Memory) (record : UserOperationRecord) (input : UserOperationClaim) : Except RestError Unit :=
  refuse ((s.nonces.get (nonceKey record)).any (fun reservation =>
      reservation.id ≠ record.id || !same reservation.commitment input.signedCommitment))
    (fail "USER_OPERATION_NONCE_CONFLICT"
      "The full sender nonce is permanently reserved by another UserOperation." 409)

/-- The writes of a publication, the transports first: they alone can still refuse it. -/
def publish (record stored : UserOperationRecord) (input : UserOperationClaim) : StoreM Unit := do
  Fallible.zoom Memory.transports (fun transports s => { s with transports })
    (Transports.claim record.planId record.stepIndexes .erc4337 record.id)
  modify fun s => { s with nonces := s.nonces.set (nonceKey record) ⟨record.id, input.signedCommitment⟩ }
  modify fun s => { s with submissions := s.submissions.set (preparationKey input.actor input.key) record.id }
  modify fun s => { s with records := s.records.set record.id stored }

/-- The clock is read once for each time the claim is checked. -/
def claim (input : UserOperationClaim) (first second : Int) (authority session : Except RestError Unit) :
    StoreM (UserOperationRecord × Bool) := do
  check (assertClaim encoding input)
  let input ← check (clone encoding.claim input)
  check authority
  let s ← get
  let record ← check (s.required input.actor input.id)
  check (refuse ((s.submissions.get (preparationKey input.actor input.key)).any (· ≠ input.id)) conflict)
  let result ← check (claimed encoding codec record { input with now := first })
  if !result.2 then
    return result
  let _ ← check (dispatchRecord record input)
  check session
  check (s.assertNonce record input)
  let result ← check (claimed encoding codec record { input with now := second })
  let stored ← check (clone encoding.record result.1)
  publish record stored input
  return result

def settle (id commitment : String) (state : UserOperationState) : StoreM UserOperationRecord := do
  check (assertText id 192)
  let s ← get
  let record ← check (s.find id)
  let next ← check (settled encoding record commitment state)
  modify fun s => { s with records := s.records.set id next }
  check (clone encoding.record next)

/-- An expired operation releases its nonce. -/
def observe (id : String) (revision : Int) (observation : UserOperationObservation) :
    StoreM UserOperationRecord := do
  check (assertText id 192)
  let s ← get
  let record ← check (s.find id)
  let observation ← check (clone encoding.observation observation)
  let next ← check (observed encoding record revision observation)
  modify fun s => { s with nonces :=
    if next.state = .observed .expired then s.nonces.delete (nonceKey next) else s.nonces }
  modify fun s => { s with records := s.records.set id next }
  check (clone encoding.record next)

end Memory

/-- An operation of the store, or a transport claim of a store that shares its table. -/
inductive Op where
  | create (input : UserOperationRecord) (now clock : Int) (authority session : Except RestError Unit)
  | claim (input : UserOperationClaim) (first second : Int) (authority session : Except RestError Unit)
  | settle (id commitment : String) (state : UserOperationState)
  | observe (id : String) (revision : Int) (observation : UserOperationObservation)
  | transportClaim (planId : String) (stepIndexes : List Int) (transport : ReservedTransport) (bindingId : String)

inductive Outcome where
  | record (record : UserOperationRecord)
  | claimed (record : UserOperationRecord) (dispatch : Bool)
  | reserved

def perform (encoding : Encoding) (codec : UserOperationCodec) : Op → StoreM Outcome
  | .create input now clock authority session =>
    Outcome.record <$> Memory.create encoding codec input now clock authority session
  | .claim input first second authority session => do
    let (record, dispatch) ← Memory.claim encoding codec input first second authority session
    return .claimed record dispatch
  | .settle id commitment state => Outcome.record <$> Memory.settle encoding id commitment state
  | .observe id revision observation => Outcome.record <$> Memory.observe encoding id revision observation
  | .transportClaim planId stepIndexes transport bindingId => do
    Fallible.zoom Memory.transports (fun transports s => { s with transports })
      (Transports.claim planId stepIndexes transport bindingId)
    return .reserved

abbrev Runs (encoding : Encoding) (codec : UserOperationCodec) (history : List (Answer Op RestError Outcome))
    (s : Memory) : Prop :=
  Run (Performs (perform encoding codec)) Memory.empty history s

end JBCenter.UserOperations
