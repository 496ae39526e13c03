import JBCenter.Auth.Requests
import JBCenter.Base.RowLocks
import JBCenter.Base.Runs
import Mathlib.Logic.Function.Basic

/-! The nonce protocol of the PostgreSQL account store. Each statement is one step, so any
number of transactions and cleanups interleave between any two statements; the only thing
that makes one wait for another is the row of an account's nonce. The account row lock is
left out. A refusal by a check of the account, its grant or its wallet authority, a timeout
and a crash are all a rollback, possible at any point. -/
namespace JBCenter.Auth
open Rest

def databaseNow (clock : Nat) : Int := ((clock / 1000000 : Nat) : Int)

inductive Route where
  | enroll | authorizeAndConsume | authorizeWalletApp
  deriving DecidableEq

/-- The clock as the final check reads it: the wallet route reads milliseconds first. -/
def completedNow (route : Route) (clock : Nat) : Int :=
  match route with
  | .authorizeWalletApp => ((clock / 1000 : Nat) : Int) / 1000
  | _ => databaseNow clock

inductive Phase where
  | begun
  | admitted (now : Int)
  | full (now : Int)
  | swept (now : Int)
  | clear (now : Int)
  | consumed
  | completed
  | committed (granted : Bool)
  | rolledBack
  deriving DecidableEq

structure Transaction where
  route : Route
  request : VerifiedRequest
  phase : Phase
  deriving DecidableEq

/-- The row a request takes: its account and its nonce, case aside. -/
def VerifiedRequest.row (request : VerifiedRequest) : String × String :=
  (request.accountId, toLowerCase request.nonce)

structure Database where
  clock : Nat
  nonces : RowLocks Nat (String × String) Int
  transactions : Nat → Option Transaction
  /-- Cleanups under way: the clock each one read and its row limit. -/
  cleanups : Nat → Option (Int × Nat)

namespace Database

def enter (s : Database) (t : Nat) (transaction : Transaction) : Database :=
  { s with transactions := Function.update s.transactions t (some transaction) }

def advance (s : Database) (t : Nat) (transaction : Transaction) (phase : Phase) : Database :=
  s.enter t { transaction with phase }

def abort (s : Database) (t : Nat) (transaction : Transaction) : Database :=
  { s.advance t transaction .rolledBack with nonces := s.nonces.rollback t }

def write (s : Database) (t : Nat) (key : String × String) (value : Option Int) : Database :=
  { s with nonces := s.nonces.write t key value }

/-- The rows of an account that a transaction sees. -/
def count (s : Database) (t : Nat) (accountId : String) : Int :=
  ((s.nonces.view t).entries.filter (fun row => row.1.1 = accountId)).length

end Database

inductive Event where
  | tick (elapsed : Nat)
  | begin (t : Nat) (route : Route) (request : VerifiedRequest)
  | recheck (t : Nat)
  | count (t : Nat)
  | sweep (t : Nat) (rows : List (String × String))
  | recount (t : Nat)
  | insert (t : Nat)
  | complete (t : Nat)
  | commit (t : Nat) (granted : Bool)
  | rollback (t : Nat)
  | readClock (cleanup : Nat) (maximum : Nat)
  | cleanupExpiredNonces (cleanup : Nat) (rows : List (String × String))

def Phase.active : Phase → Bool
  | .committed _ | .rolledBack => false
  | _ => true

/-- A row that a delete of rows expired at `now` may remove, if nobody else holds it. -/
def Database.deletable (s : Database) (t : Nat) (accountId : String) (now : Int) (row : String × String) : Bool :=
  row.1 = accountId && ((s.nonces.view t).get row).any (fun expiresAt => expiresAt ≤ now) && s.nonces.free t row

/-- A committed row no transaction holds, expired at the clock a cleanup read. -/
def Database.expired (s : Database) (now : Int) (row : String × String) : Bool :=
  (s.nonces.rows.get row).any (fun expiresAt => expiresAt ≤ now) && (s.nonces.pending.get row).isNone

def step (maxNoncesPerAccount : Int) (s : Database) : Event → Option Database
  | .tick elapsed => some { s with clock := s.clock + elapsed }
  | .begin t route request => do
    guard (s.transactions t = none)
    guard (assertRequest request = .ok ())
    return s.enter t ⟨route, request, .begun⟩
  | .recheck t => do
    let transaction ← s.transactions t
    guard (transaction.phase = .begun)
    let now := databaseNow s.clock
    if assertRequest { transaction.request with now } = .ok () then
      return s.advance t transaction (.admitted now)
    else
      return s.abort t transaction
  | .count t => do
    let transaction ← s.transactions t
    match transaction.phase with
    | .admitted now =>
      if nonceCapacity maxNoncesPerAccount transaction.request.grantId ≤ s.count t transaction.request.accountId
      then some (s.advance t transaction (.full now))
      else some (s.advance t transaction (.clear now))
    | _ => none
  -- Which expired rows the statement's snapshot holds is left open.
  | .sweep t rows => do
    let transaction ← s.transactions t
    match transaction.phase with
    | .full now => do
      guard (rows.all (s.deletable t transaction.request.accountId now))
      return (rows.foldl (fun s row => s.write t row none) s).advance t transaction (.swept now)
    | _ => none
  | .recount t => do
    let transaction ← s.transactions t
    match transaction.phase with
    | .swept now =>
      if nonceCapacity maxNoncesPerAccount transaction.request.grantId ≤ s.count t transaction.request.accountId
      then some (s.abort t transaction)
      else some (s.advance t transaction (.clear now))
    | _ => none
  -- Waits for the row's holder, then reads the row as that transaction left it.
  | .insert t => do
    let transaction ← s.transactions t
    match transaction.phase with
    | .clear now => do
      guard (s.nonces.free t transaction.request.row)
      if ((s.nonces.view t).get transaction.request.row).any (fun expiresAt => now < expiresAt) then
        return s.abort t transaction
      else
        return (s.write t transaction.request.row (some transaction.request.expiresAt)).advance t transaction .consumed
    | _ => none
  | .complete t => do
    let transaction ← s.transactions t
    guard (transaction.phase = .consumed)
    if assertRequest { transaction.request with now := completedNow transaction.route s.clock } = .ok () then
      return s.advance t transaction .completed
    else
      return s.abort t transaction
  -- Only the wallet route commits a nonce whose request it then refuses.
  | .commit t granted => do
    let transaction ← s.transactions t
    guard (transaction.phase = .completed)
    guard (granted = true ∨ transaction.route = .authorizeWalletApp)
    return { s.advance t transaction (.committed granted) with nonces := s.nonces.commit t }
  | .rollback t => do
    let transaction ← s.transactions t
    guard (transaction.phase.active = true)
    return s.abort t transaction
  | .readClock cleanup maximum => do
    guard (s.cleanups cleanup = none ∧ 1 ≤ maximum ∧ maximum ≤ 10000)
    return { s with cleanups := Function.update s.cleanups cleanup (some (databaseNow s.clock, maximum)) }
  -- Which of the expired rows the limit and the locks leave out is left open.
  | .cleanupExpiredNonces cleanup rows => do
    let (now, maximum) ← s.cleanups cleanup
    guard (rows.length ≤ maximum ∧ rows.all (s.expired now))
    return { s with
      nonces := { s.nonces with rows := rows.foldl OrderedMap.delete s.nonces.rows }
      cleanups := Function.update s.cleanups cleanup none }

/-- Any clock and any stored nonces; nothing under way. -/
structure Database.Initial (s : Database) : Prop where
  transactions : ∀ t, s.transactions t = none
  cleanups : ∀ cleanup, s.cleanups cleanup = none
  pending : s.nonces.pending = .empty

def Step (maxNoncesPerAccount : Int) (s : Database) (event : Event) (t : Database) : Prop :=
  step maxNoncesPerAccount s event = some t

end JBCenter.Auth
