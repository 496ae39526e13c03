import JBCenter.Base.Answers
import JBCenter.Sponsorship.Store
import JBCenter.Transactions.Reservations

/-! The in-memory sponsorship store. Each operation is one synchronous callback, so what can
interleave is whole operations, and the transport claims of the two stores it shares its table
with. The account authority's verdict and the time a claim waited for it are part of the input. -/
namespace JBCenter.Sponsorship
open Rest
open Transactions (Transports ReservedTransport)
open Fallible (check)

/-- The nonce of a forwarder on its chain, whatever account, principal or plan uses it. -/
structure ForwardNonceKey where
  chainId : Int
  forwarder : String
  sender : String
  nonce : String
  deriving DecidableEq

def PreparedForwardRequest.nonceKey (request : PreparedForwardRequest) : ForwardNonceKey where
  chainId := request.chainId
  forwarder := toLowerCase request.forwarder
  sender := toLowerCase request.message.sender
  nonce := request.message.nonce

/-- The `decimal` of a canonical text prints as that text again. -/
def assertDecimal (value label : String) : Except RestError Unit :=
  refuse (!isUint256 value)
    (fail "INVALID_SPONSORSHIP_INTEGER" ("Invalid " ++ label ++ "; use a bounded canonical decimal string.") 400)

def assertNonceIdentity (request : PreparedForwardRequest) : Except RestError Unit := do
  refuse (!isSafeInteger request.chainId || request.chainId ≤ 0 || !isHex 40 request.forwarder ||
      !isHex 40 request.message.sender)
    (fail "INVALID_SPONSORSHIP_RECORD" "Invalid forwarding nonce identity." 400)
  assertDecimal request.message.nonce "forwarding nonce"

def ForwardNonceKey.before (a b : ForwardNonceKey) : Bool :=
  a.chainId < b.chainId || a.chainId = b.chainId && (a.forwarder < b.forwarder || a.forwarder = b.forwarder &&
    (a.sender < b.sender || a.sender = b.sender && a.nonce ≤ b.nonce))

def forwardNonceKeys (requests : List PreparedForwardRequest) : Except RestError (List ForwardNonceKey) := do
  refuse (requests.length < 1 || maximumCalls < requests.length)
    (fail "INVALID_SPONSORSHIP_RECORD" "Invalid forwarding nonce reservations." 400)
  requests.forM assertNonceIdentity
  let keys := requests.map PreparedForwardRequest.nonceKey
  refuse (!keys.Nodup)
    (fail "INVALID_SPONSORSHIP_RECORD" "A preparation cannot repeat the same forwarding nonce." 400)
  return keys.insertionSort (fun a b => a.before b = true)

def forwardNonceConflict : RestError :=
  fail "FORWARD_NONCE_CONFLICT" "A forwarding nonce is permanently bound to another sponsorship preparation." 409

structure Memory where
  records : OrderedMap String SponsorshipRecord
  nonces : OrderedMap ForwardNonceKey String
  transports : Transports

/-- The store's operations, which may leave writes behind when they throw. -/
abbrev StoreM := Fallible RestError Memory

namespace Memory

def empty : Memory := ⟨.empty, .empty, .empty⟩

def require (s : Memory) (id : String) : Except RestError SponsorshipRecord :=
  match s.records.get id with
  | none => .error missing
  | some record => .ok record

variable (encoding : Encoding)

def create (record : SponsorshipRecord) (now : Int) (waited : Nat) (authority : Except RestError Unit) :
    StoreM SponsorshipRecord := do
  check (assertNew encoding record now)
  let record ← check (clone encoding.record record)
  check authority
  let s ← get
  match s.records.values.find? (fun other => other.actor.accountId = record.actor.accountId &&
      other.actor.principalId = record.actor.principalId && other.preparationKey = record.preparationKey) with
  | some existing =>
    check (refuse (!same existing.inputHash record.inputHash) conflict)
    check (clone encoding.record existing)
  | none =>
    check (refuse (s.records.has record.id) conflict)
    check (refuse (recordsPerAccount ≤
        (s.records.values.filter (fun other => other.actor.accountId = record.actor.accountId)).length)
      (fail "SPONSORSHIP_STORAGE_LIMIT" "Sponsorship record limit reached." 429))
    check (assertNew encoding record (now + waited))
    modify fun s => { s with records := s.records.set record.id record }
    check (clone encoding.record record)

/-- No key may be bound to another record. -/
def assertUnbound (s : Memory) (keys : List ForwardNonceKey) (id : String) : Except RestError Unit :=
  keys.forM fun key => refuse ((s.nonces.get key).any (· ≠ id)) forwardNonceConflict

/-- The permanent reservations of a publication: every step's transport and every nonce. -/
def reserve (record : SponsorshipRecord) : StoreM Unit := do
  let keys ← check (forwardNonceKeys record.requests)
  let s ← get
  check (s.assertUnbound keys record.id)
  Fallible.zoom Memory.transports (fun transports s => { s with transports })
    (Transports.claim record.planId (record.requests.map PreparedForwardRequest.stepIndex) .relayr record.id)
  modify fun s => { s with nonces := keys.foldl (fun nonces key => nonces.set key record.id) s.nonces }

def claim (input : SponsorshipClaim) (waited : Nat) (authority : Except RestError Unit) :
    StoreM (SponsorshipRecord × Bool) := do
  check (assertClaim encoding input)
  let input ← check (clone encoding.claim input)
  check authority
  let s ← get
  let record ← check (s.require input.id)
  check (refuse (s.records.values.any (fun other => other.id ≠ input.id &&
      other.actor.accountId = input.actor.accountId && other.actor.principalId = input.actor.principalId &&
      other.submission.any (fun submission => submission.key = input.key))) conflict)
  let result ← check (claimed encoding record { input with now := input.now + waited })
  let stored ← check (clone encoding.record result.1)
  if result.2 then
    reserve record
  modify fun s => { s with records := s.records.set record.id stored }
  return result

def settle (id submissionHash : String) (quote : Option RelayrQuote) (runtimeVerified bindingVerified : Bool) :
    StoreM SponsorshipRecord := do
  let s ← get
  let record ← check (s.require id)
  let next ← check (settled encoding record submissionHash quote runtimeVerified bindingVerified)
  modify fun s => { s with records := s.records.set id next }
  check (clone encoding.record next)

def observe (id : String) (revision : Int) (observations : List Payload) : StoreM SponsorshipRecord := do
  let s ← get
  let record ← check (s.require id)
  if record.revision ≠ revision then
    return ← check (clone encoding.record record)
  let next ← check (observed encoding record revision observations)
  modify fun s => { s with records := s.records.set id next }
  check (clone encoding.record next)

end Memory

/-- An operation of the store, or a transport claim of a store that shares its table. -/
inductive Op where
  | create (record : SponsorshipRecord) (now : Int) (waited : Nat) (authority : Except RestError Unit)
  | claim (input : SponsorshipClaim) (waited : Nat) (authority : Except RestError Unit)
  | settle (id submissionHash : String) (quote : Option RelayrQuote) (runtimeVerified bindingVerified : Bool)
  | observe (id : String) (revision : Int) (observations : List Payload)
  | transportClaim (planId : String) (stepIndexes : List Int) (transport : ReservedTransport) (bindingId : String)

inductive Outcome where
  | record (record : SponsorshipRecord)
  | claimed (record : SponsorshipRecord) (dispatch : Bool)
  | reserved

def perform (encoding : Encoding) : Op → StoreM Outcome
  | .create record now waited authority => Outcome.record <$> Memory.create encoding record now waited authority
  | .claim input waited authority => do
    let (record, dispatch) ← Memory.claim encoding input waited authority
    return .claimed record dispatch
  | .settle id submissionHash quote runtimeVerified bindingVerified =>
    Outcome.record <$> Memory.settle encoding id submissionHash quote runtimeVerified bindingVerified
  | .observe id revision observations => Outcome.record <$> Memory.observe encoding id revision observations
  | .transportClaim planId stepIndexes transport bindingId => do
    Fallible.zoom Memory.transports (fun transports s => { s with transports })
      (Transports.claim planId stepIndexes transport bindingId)
    return .reserved

/-- Runs of the store from its empty start, every operation's answer recorded. -/
abbrev Runs (encoding : Encoding) (history : List (Answer Op RestError Outcome)) (s : Memory) : Prop :=
  Run (Performs (perform encoding)) Memory.empty history s

end JBCenter.Sponsorship
