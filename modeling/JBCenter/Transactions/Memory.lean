import JBCenter.Base.Runs
import JBCenter.Transactions.Reservations

/-! The in-memory transaction store. Each operation is one synchronous callback, so the
store changes one operation at a time; what can interleave is whole operations, and the
transport claims of the other two stores. The account authority's verdict and the time an
operation waited for it are part of the operation's input. -/
namespace JBCenter.Transactions
open Rest

structure NonceBinding where
  planId : String
  stepIndex : Int
  deriving DecidableEq

structure Memory where
  plans : OrderedMap String StoredPlan
  idempotency : OrderedMap (String × String × String) StoredIdempotency
  nonces : OrderedMap (Int × String × String) NonceBinding
  transports : Transports

def Memory.empty : Memory := ⟨.empty, .empty, .empty, .empty⟩

/-- The store's operations, which may leave writes behind when they throw. -/
abbrev StoreM := Fallible RestError Memory

open Fallible (check)

def Memory.require (s : Memory) (actor : RestActor) (id : String) : Except RestError StoredPlan := do
  assertActor actor
  assertText id 192
  match s.plans.get id with
  | none => .error missingPlan
  | some plan => if owns plan actor then .ok plan else .error missingPlan

def Memory.assertIdempotencyCapacity (s : Memory) (actor : RestActor) : Except RestError Unit :=
  refuse (idempotencyPerAccount ≤
    (s.idempotency.values.filter (fun entry => entry.accountId = actor.accountId)).length) storageLimit

/-- A key that is already bound needs no room. -/
def Memory.assertSpareBinding (s : Memory) (actor : RestActor) (claim : IdempotencyClaim) :
    Except RestError Unit :=
  if s.idempotency.has (idemKey actor claim.key) then .ok () else s.assertIdempotencyCapacity actor

def reserveIdempotency (actor : RestActor) (claim : IdempotencyClaim) (planId : String)
    (stepIndex : Option Int) : StoreM Unit := do
  let s ← get
  if s.idempotency.has (idemKey actor claim.key) then
    return ()
  check (s.assertIdempotencyCapacity actor)
  set { s with idempotency :=
    s.idempotency.set (idemKey actor claim.key) ⟨claim, planId, stepIndex, actor.accountId⟩ }

variable (bytes : JsonBytes)

def create (input : StoredPlan) (claim : IdempotencyClaim) (now : Int)
    (authority : Except RestError Unit) : StoreM StoredPlan := do
  check (assertNewPlan bytes input now)
  check (assertIdempotency claim)
  let plan ← check (boundedClone bytes.plan input)
  check authority
  let s ← get
  let existing := s.idempotency.get (idemKey plan.actor claim.key)
  check (checkIdempotency existing claim none)
  match existing with
  | some found =>
    let stored ← check (s.require plan.actor found.planId)
    check (boundedClone bytes.plan stored)
  | none =>
    check (refuse (s.plans.has plan.id) (conflict "Transaction plan ID already exists."))
    check (refuse (plansPerAccount ≤
      (s.plans.values.filter (fun entry => entry.actor.accountId = plan.actor.accountId)).length) storageLimit)
    reserveIdempotency plan.actor claim plan.id none
    modify fun s => { s with plans := s.plans.set plan.id plan }
    check (boundedClone bytes.plan plan)

/-- The plans after a claim: an unchanged one is not written. -/
def PreparedClaim.stored (prepared : PreparedClaim) (plans : OrderedMap String StoredPlan) (id : String) :
    OrderedMap String StoredPlan :=
  if prepared.changed then plans.set id prepared.plan else plans

/-- The claim as the callback reads it: its clock has moved on by the time it waited. -/
def SubmissionClaim.after (claim : SubmissionClaim) (waited : Nat) : SubmissionClaim :=
  { claim with now := claim.now + waited }

def claimSubmission (claim : SubmissionClaim) (waited : Nat) (authority : Except RestError Unit) :
    StoreM (StoredPlan × Bool) := do
  check (assertActor claim.actor)
  check (assertIdempotency claim.idempotency)
  let claim ← check (boundedClone bytes.claim claim)
  check authority
  let s ← get
  let current ← check (s.require claim.actor claim.planId)
  check (checkIdempotency (s.idempotency.get (idemKey claim.actor claim.idempotency.key))
    claim.idempotency (some (claim.planId, claim.stepIndex)))
  let result ← check (prepareClaim bytes current (claim.after waited))
  check (refuse ((s.nonces.get (nonceKey claim.attempt)).any
      (fun reservation => reservation ≠ ⟨claim.planId, claim.stepIndex⟩))
    (conflict "Sender nonce is already reserved by another transaction step."))
  check (s.assertSpareBinding claim.actor claim.idempotency)
  Fallible.zoom Memory.transports (fun transports s => { s with transports })
    (Transports.claim claim.planId [claim.stepIndex] .direct (toLowerCase claim.attempt.hash))
  reserveIdempotency claim.actor claim.idempotency claim.planId (some claim.stepIndex)
  modify fun s => { s with nonces := s.nonces.set (nonceKey claim.attempt) ⟨claim.planId, claim.stepIndex⟩ }
  modify fun s => { s with plans := result.stored s.plans claim.planId }
  let plan ← check (boundedClone bytes.plan result.plan)
  return (plan, result.dispatch)

def save (actor : RestActor) (id : String) (expectedRevision : Int) (steps : List StoredStep) :
    StoreM StoredPlan := do
  check (assertRevision expectedRevision)
  let s ← get
  let plan ← check (s.require actor id)
  check (refuse (plan.revision ≠ expectedRevision)
    (conflict "Transaction plan changed; inspect it before retrying."))
  check (assertSavedSteps bytes plan steps)
  let next ← check (boundedClone bytes.plan { plan with revision := plan.revision + 1, steps })
  modify fun s => { s with plans := s.plans.set id next }
  check (boundedClone bytes.plan next)

/-- The three external operations write a plan only when its revision moved. -/
def storeChanged (planId : String) (current next : StoredPlan) : StoreM StoredPlan := do
  modify fun s => { s with plans :=
    if next.revision ≠ current.revision then s.plans.set planId next else s.plans }
  check (boundedClone bytes.plan next)

def reserveExternalExecution (actor : RestActor) (planId : String) (stepIndexes : List Int)
    (bindingId : String) : StoreM StoredPlan := do
  let s ← get
  let current ← check (s.require actor planId)
  check (assertExternalIndexes current stepIndexes)
  check (s.transports.assertClaimed planId stepIndexes .relayr bindingId)
  let next ← check (attachExternalExecutions bytes current
    (stepIndexes.map fun stepIndex => ⟨stepIndex, .relayr, bindingId⟩))
  storeChanged bytes planId current next

def saveExternalExecution (actor : RestActor) (planId : String) (expectedRevision : Int)
    (bindingId : String) (updates : List ExternalStepObservation) : StoreM StoredPlan := do
  check (assertRevision expectedRevision)
  let s ← get
  let current ← check (s.require actor planId)
  check (refuse (current.revision ≠ expectedRevision)
    (conflict "Transaction plan changed; inspect it before retrying."))
  let next ← check (applyExternalObservations bytes current bindingId updates)
  check (updates.forM fun update =>
    match (at? current.steps update.index).bind StoredStep.externalExecution with
    | some external => s.transports.assertClaimed planId [update.index] external.transport bindingId
    | none => .error (invalid "Invalid external execution step indexes."))
  storeChanged bytes planId current next

def syncExternalExecutions (actor : RestActor) (planId : String) : StoreM StoredPlan := do
  check (assertActor actor)
  check (assertText planId 192)
  let s ← get
  match s.plans.get planId with
  | none => throw missingPlan
  | some current =>
    if !canRead current actor then
      throw missingPlan
    let bindings ← check (s.transports.list planId)
    let next ← check (attachExternalExecutions bytes current bindings)
    storeChanged bytes planId current next

def settleSubmission (actor : RestActor) (id : String) (index : Int) (leaseToken : String)
    (patch : SubmissionPatch) : StoreM StoredPlan := do
  let s ← get
  let current ← check (s.require actor id)
  let next ← check (settle bytes current index leaseToken patch)
  modify fun s => { s with plans := s.plans.set id next }
  check (boundedClone bytes.plan next)

/-- An operation of the store, or a transport claim of a store that shares its table. -/
inductive Op where
  | create (input : StoredPlan) (claim : IdempotencyClaim) (now : Int) (authority : Except RestError Unit)
  | claimSubmission (claim : SubmissionClaim) (waited : Nat) (authority : Except RestError Unit)
  | save (actor : RestActor) (id : String) (expectedRevision : Int) (steps : List StoredStep)
  | reserveExternalExecution (actor : RestActor) (planId : String) (stepIndexes : List Int) (bindingId : String)
  | saveExternalExecution (actor : RestActor) (planId : String) (expectedRevision : Int) (bindingId : String)
      (updates : List ExternalStepObservation)
  | syncExternalExecutions (actor : RestActor) (planId : String)
  | settleSubmission (actor : RestActor) (id : String) (index : Int) (leaseToken : String)
      (patch : SubmissionPatch)
  | transportClaim (planId : String) (stepIndexes : List Int) (transport : ReservedTransport)
      (bindingId : String)

inductive Outcome where
  | plan (plan : StoredPlan)
  | claimed (plan : StoredPlan) (dispatch : Bool)
  | reserved

def perform : Op → StoreM Outcome
  | .create input claim now authority => Outcome.plan <$> create bytes input claim now authority
  | .claimSubmission claim waited authority => do
    let (plan, dispatch) ← claimSubmission bytes claim waited authority
    return .claimed plan dispatch
  | .save actor id expectedRevision steps => Outcome.plan <$> save bytes actor id expectedRevision steps
  | .reserveExternalExecution actor planId stepIndexes bindingId =>
    Outcome.plan <$> reserveExternalExecution bytes actor planId stepIndexes bindingId
  | .saveExternalExecution actor planId expectedRevision bindingId updates =>
    Outcome.plan <$> saveExternalExecution bytes actor planId expectedRevision bindingId updates
  | .syncExternalExecutions actor planId => Outcome.plan <$> syncExternalExecutions bytes actor planId
  | .settleSubmission actor id index leaseToken patch =>
    Outcome.plan <$> settleSubmission bytes actor id index leaseToken patch
  | .transportClaim planId stepIndexes transport bindingId => do
    Fallible.zoom Memory.transports (fun transports s => { s with transports })
      (Transports.claim planId stepIndexes transport bindingId)
    return .reserved

/-- What one operation of a run was asked and what it answered. -/
structure Event where
  op : Op
  result : Except RestError Outcome

def Step (s : Memory) (event : Event) (t : Memory) : Prop :=
  match (perform bytes event.op).run s with
  | .ok outcome next => event.result = .ok outcome ∧ t = next
  | .error error next => event.result = .error error ∧ t = next

/-- Runs of the store from its empty start, every operation's answer recorded. -/
abbrev Runs (history : List Event) (s : Memory) : Prop := Run (Step bytes) Memory.empty history s

end JBCenter.Transactions
