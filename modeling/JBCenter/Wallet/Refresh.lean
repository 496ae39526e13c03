import Mathlib
import JBCenter.Base.Answers
import JBCenter.Base.OrderedMap
import JBCenter.Wallet.Authority

/-! The authority refresh queue: which accounts are to be observed again, and which of them a worker
has leased. Every operation holds the row of the control from its first statement to its last, and
reads the clock of the database several times. -/
namespace JBCenter.Wallet.Refresh
open Rest
open Deployments (Address)

structure Settings where
  maxTracked : Nat
  maxConcurrent : Nat
  maxStartsPerMinute : Nat
  interestMs : Int
  leaseMs : Int
  refreshLeadMs : Int
  verifiedMinRetryMs : Int
  backoffBaseMs : Int
  backoffMaxMs : Int
  revision : Nat
  deriving DecidableEq

def defaults : Settings where
  maxTracked := 32
  maxConcurrent := 2
  maxStartsPerMinute := 30
  interestMs := 86400000
  leaseMs := 120000
  refreshLeadMs := 60000
  verifiedMinRetryMs := 1000
  backoffBaseMs := 2000
  backoffMaxMs := 30000
  revision := 2

/-- What the constructor accepts: settings between 1 and the defaults. -/
def settingsCheck (s : Settings) : Bool :=
  1 ≤ s.maxTracked && s.maxTracked ≤ defaults.maxTracked && 1 ≤ s.maxConcurrent && s.maxConcurrent ≤ defaults.maxConcurrent &&
  1 ≤ s.maxStartsPerMinute && s.maxStartsPerMinute ≤ defaults.maxStartsPerMinute &&
  1 ≤ s.interestMs && s.interestMs ≤ defaults.interestMs && 1 ≤ s.leaseMs && s.leaseMs ≤ defaults.leaseMs &&
  1 ≤ s.refreshLeadMs && s.refreshLeadMs ≤ defaults.refreshLeadMs &&
  1 ≤ s.verifiedMinRetryMs && s.verifiedMinRetryMs ≤ defaults.verifiedMinRetryMs &&
  1 ≤ s.backoffBaseMs && s.backoffBaseMs ≤ defaults.backoffBaseMs && 1 ≤ s.backoffMaxMs &&
    s.backoffMaxMs ≤ defaults.backoffMaxMs &&
  1 ≤ s.revision && s.revision ≤ defaults.revision && s.backoffBaseMs ≤ s.backoffMaxMs

/-- A queue that could be constructed. -/
structure QueueSettings extends Settings where
  accepted : settingsCheck toSettings = true

def windowMs : Int := 60000

structure JobLease where
  token : String
  untilMs : Int
  deriving DecidableEq

structure Job where
  interestedUntilMs : Int
  dueAtMs : Int
  lease : Option JobLease
  failures : Nat

structure Control where
  windowStartMs : Int
  startsInWindow : Nat
  configuration : Option Settings

structure AuthorityRefreshLease where
  accountId : Address
  token : String
  untilMs : Int
  deriving DecidableEq

inductive AuthorityRefreshOutcome where
  | verified
  | unready
  | progress
  | conflict
  | failed
  deriving DecidableEq

structure AuthorityRefreshResult where
  outcome : AuthorityRefreshOutcome
  readyUntilMs : Option Int

inductive AuthorityRefreshStatus where
  | queued
  | coalesced
  | overloaded

structure AuthorityRefreshRequest where
  status : AuthorityRefreshStatus
  retryAtMs : Option Int

structure AuthorityRefreshStats where
  tracked : Nat
  interested : Nat
  due : Nat
  inFlight : Nat
  oldestDueAtMs : Option Int
  startsInWindow : Nat
  maxStartsPerMinute : Nat

inductive RefreshError where
  | refused (error : RestError)
  | expiredLease
  | expiredInterest (retryAtMs : Int)
  /-- The database refused a row. -/
  | violated (constraint : String)

def invalid : RefreshError :=
  .refused ⟨400, "WALLET_AUTHORITY_REFRESH_INVALID", "Authority refresh fields or bounds are invalid.", none⟩

def ineligible : RefreshError :=
  .refused ⟨403, "WALLET_AUTHORITY_REFRESH_INELIGIBLE", "An enrolled Base wallet with a live passkey binding is required.", none⟩

def clockUnavailable : RefreshError :=
  .refused ⟨503, "WALLET_AUTHORITY_REFRESH_CLOCK_INVALID", "Authority refresh database time is unavailable.", none⟩

def clockMovedBackwards : RefreshError :=
  .refused ⟨503, "WALLET_AUTHORITY_REFRESH_CLOCK_INVALID", "Authority refresh database time moved backwards.", none⟩

def configurationConflict : RefreshError :=
  .refused ⟨409, "WALLET_AUTHORITY_REFRESH_CONFIG_CONFLICT",
    "Authority refresh replicas must share one bounded configuration.", none⟩

def milliseconds (value : Int) : Bool := isSafeInteger value && 0 < value

def databaseNow (nowMs : Int) : Except RefreshError Unit :=
  refuse (!milliseconds nowMs || maxSafeInteger - 300000 < nowMs) clockUnavailable

def adopted (settings : Settings) (row : Control) : Except RefreshError Control :=
  match row.configuration with
  | none => .ok { row with configuration := some settings }
  | some held =>
    if held.revision < settings.revision then .ok { row with configuration := some settings }
    else if held ≠ settings then .error configurationConflict
    else .ok row

/-- A window that is over makes way for the next one. -/
def windowed (nowMs : Int) (row : Control) : Control :=
  if row.windowStartMs = 0 ∨ row.windowStartMs + windowMs ≤ nowMs then { row with windowStartMs := nowMs, startsInWindow := 0 }
  else row

def control (settings : Settings) (nowMs : Int) (row : Control) : Except RefreshError Control := do
  databaseNow nowMs
  let row ← adopted settings row
  refuse (nowMs < row.windowStartMs) clockMovedBackwards
  return windowed nowMs row

abbrev Jobs := OrderedMap Address Job

/-- The row's own constraints. -/
def jobCheck (accountId : Address) (job : Job) : Bool :=
  account accountId && milliseconds job.interestedUntilMs && milliseconds job.dueAtMs &&
  job.lease.all (fun lease => milliseconds lease.untilMs) && job.failures ≤ 16

def store (jobs : Jobs) (accountId : Address) (job : Job) : Except RefreshError Jobs := do
  refuse (!jobCheck accountId job) (.violated "rest_wallet_authority_refresh_jobs_check")
  return jobs.set accountId job

def Job.free (job : Job) (nowMs : Int) : Bool := job.lease.all (fun lease => lease.untilMs ≤ nowMs)

def Job.running (job : Job) (nowMs : Int) : Bool := job.lease.any (fun lease => nowMs < lease.untilMs)

/-- What the statements over all jobs see besides the rows: the accounts that qualify, and the rows
others hold. -/
structure Sight where
  eligible : Address → Bool
  locked : Address → Bool

def expirable (sight : Sight) (nowMs : Int) (entry : Address × Job) : Bool :=
  entry.2.free nowMs && (entry.2.interestedUntilMs ≤ nowMs || !sight.eligible entry.1) && !sight.locked entry.1

def idleLonger (a b : Address × Job) : Bool :=
  a.2.interestedUntilMs < b.2.interestedUntilMs || (a.2.interestedUntilMs = b.2.interestedUntilMs && a.1 ≤ b.1)

def dueEarlier (a b : Address × Job) : Bool :=
  a.2.dueAtMs < b.2.dueAtMs || (a.2.dueAtMs = b.2.dueAtMs && a.1 ≤ b.1)

def cleanup (settings : Settings) (sight : Sight) (nowMs : Int) (jobs : Jobs) : Jobs :=
  jobs.deleteAll ((((jobs.entries.filter (expirable sight nowMs)).mergeSort idleLonger).take settings.maxTracked).map Prod.fst)

/-- The job to give its slot to new demand: the one idle longest that is not in flight. -/
def evictable (sight : Sight) (nowMs : Int) (jobs : Jobs) : Option (Address × Job) :=
  ((jobs.entries.filter (fun entry => entry.2.free nowMs && !sight.locked entry.1)).mergeSort idleLonger).head?

def claimable (sight : Sight) (nowMs : Int) (jobs : Jobs) : Option (Address × Job) :=
  ((jobs.entries.filter (fun entry => nowMs < entry.2.interestedUntilMs && entry.2.dueAtMs ≤ nowMs && entry.2.free nowMs &&
    sight.eligible entry.1 && !sight.locked entry.1)).mergeSort dueEarlier).head?

structure QueueStore where
  control : Control
  jobs : Jobs
  /-- The last time that was read while the control row was held. -/
  clock : Int

structure RequestReads where
  control : Int
  now : Int
  extended : Int
  after : Int
  sight : Sight

structure ClaimReads where
  control : Int
  now : Int
  started : Int
  after : Int
  sight : Sight

structure CompleteReads where
  control : Int
  now : Int
  changed : Int
  written : Int
  cleaned : Int
  last : Int
  sight : Sight

structure StatsReads where
  control : Int
  now : Int
  sight : Sight

def retryAt (settings : Settings) (job : Job) (row : Control) : Int :=
  max (max job.dueAtMs (job.lease.elim 0 (·.untilMs)))
    (if settings.maxStartsPerMinute ≤ row.startsInWindow then row.windowStartMs + windowMs else 0)

def extendInterest (settings : Settings) (accountId : Address) (job : Job) (extendedMs afterMs : Int) (jobs : Jobs) :
    Except RefreshError Jobs := do
  let interestedUntilMs := max job.interestedUntilMs (extendedMs + settings.interestMs)
  let jobs ← store jobs accountId { job with interestedUntilMs }
  databaseNow afterMs
  refuse (interestedUntilMs ≤ afterMs) (.expiredInterest afterMs)
  return jobs

/-- The end of a request that found room: the job is inserted and its interest begins. -/
def enqueue (settings : Settings) (accountId : Address) (reads : RequestReads) (row : Control) (jobs : Jobs) :
    Except RefreshError (AuthorityRefreshRequest × QueueStore) := do
  let job : Job := ⟨reads.now + settings.interestMs, reads.now, none, 0⟩
  let jobs ← store jobs accountId job
  let jobs ← extendInterest settings accountId job reads.extended reads.after jobs
  let retryAtMs := if settings.maxStartsPerMinute ≤ row.startsInWindow then row.windowStartMs + windowMs else reads.now
  return (⟨.queued, some retryAtMs⟩, ⟨row, jobs, reads.after⟩)

def request (settings : Settings) (accountId : Address) (reads : RequestReads) (s : QueueStore) :
    Except RefreshError (AuthorityRefreshRequest × QueueStore) := do
  refuse (!account accountId) invalid
  let row ← control settings reads.control s.control
  databaseNow reads.now
  refuse (!reads.sight.eligible accountId) ineligible
  let jobs := cleanup settings reads.sight reads.now s.jobs
  match jobs.get accountId with
  | some job =>
    let extended ← extendInterest settings accountId job reads.extended reads.after jobs
    return (⟨.coalesced, some (retryAt settings job row)⟩, ⟨row, extended, reads.after⟩)
  | none =>
    if settings.maxTracked ≤ jobs.entries.length then
      match evictable reads.sight reads.now jobs with
      | none =>
        let retryAtMs := (jobs.values.map (fun job => max job.interestedUntilMs (job.lease.elim 0 (·.untilMs)))).min?
        return (⟨.overloaded, retryAtMs⟩, ⟨row, jobs, reads.now⟩)
      | some entry => enqueue settings accountId reads row (jobs.delete entry.1)
    else enqueue settings accountId reads row jobs

def leasedJob (job : Job) (lease : AuthorityRefreshLease) : Job :=
  { job with
    lease := some ⟨lease.token, lease.untilMs⟩
    dueAtMs := lease.untilMs }

def claim (settings : Settings) (token : String) (reads : ClaimReads) (s : QueueStore) :
    Except RefreshError (Option AuthorityRefreshLease × QueueStore) := do
  let row ← control settings reads.control s.control
  databaseNow reads.now
  let jobs := cleanup settings reads.sight reads.now s.jobs
  if settings.maxStartsPerMinute ≤ row.startsInWindow then return (none, ⟨row, jobs, reads.now⟩)
  else if settings.maxConcurrent ≤ jobs.values.countP (·.running reads.now) then return (none, ⟨row, jobs, reads.now⟩)
  else
    match claimable reads.sight reads.now jobs with
    | none => return (none, ⟨row, jobs, reads.now⟩)
    | some (accountId, job) =>
      databaseNow reads.started
      if job.interestedUntilMs ≤ reads.started then return (none, ⟨row, jobs, reads.started⟩)
      else
        let lease : AuthorityRefreshLease := ⟨accountId, token, reads.started + settings.leaseMs⟩
        let jobs ← store jobs accountId (leasedJob job lease)
        refuse (30 < row.startsInWindow + 1) (.violated "rest_wallet_authority_refresh_control_starts_in_window_check")
        databaseNow reads.after
        refuse (lease.untilMs ≤ reads.after) .expiredLease
        return (some lease, ⟨{ row with startsInWindow := row.startsInWindow + 1 }, jobs, reads.after⟩)

def AuthorityRefreshResult.verifiedAt (result : AuthorityRefreshResult) (nowMs : Int) : Bool :=
  result.outcome = .verified && result.readyUntilMs.any (fun readyUntilMs => nowMs < readyUntilMs)

def failuresAfter (result : AuthorityRefreshResult) (nowMs : Int) (failures : Nat) : Nat :=
  if result.verifiedAt nowMs || result.outcome = .progress then 0 else min 16 (failures + 1)

def retryDelay (settings : Settings) (result : AuthorityRefreshResult) (nowMs : Int) (failures : Nat) : Int :=
  if result.verifiedAt nowMs then
    max settings.verifiedMinRetryMs
      (min (result.readyUntilMs.getD 0) (nowMs + walletAuthorityMaximumAgeMs) - nowMs - settings.refreshLeadMs)
  else if result.outcome = .progress then settings.backoffBaseMs
  else min settings.backoffMaxMs (settings.backoffBaseMs * 2 ^ (failuresAfter result nowMs failures - 1))

/-- The job after an attempt. At the failure cap its interest ends. -/
def completedJob (settings : Settings) (result : AuthorityRefreshResult) (nowMs : Int) (job : Job) : Job where
  interestedUntilMs :=
    if 16 ≤ failuresAfter result nowMs job.failures then min job.interestedUntilMs nowMs else job.interestedUntilMs
  dueAtMs := nowMs + retryDelay settings result nowMs job.failures
  lease := none
  failures := failuresAfter result nowMs job.failures

def resultCheck (result : AuthorityRefreshResult) : Bool :=
  if result.outcome = .verified then result.readyUntilMs.any milliseconds else result.readyUntilMs.isNone

def complete (settings : Settings) (lease : AuthorityRefreshLease) (result : AuthorityRefreshResult) (reads : CompleteReads)
    (s : QueueStore) : Except RefreshError (Bool × QueueStore) := do
  refuse (!account lease.accountId || !isUuid lease.token || !milliseconds lease.untilMs || !resultCheck result) invalid
  let row ← control settings reads.control s.control
  databaseNow reads.now
  match (s.jobs.get lease.accountId).filter (fun job => job.lease = some ⟨lease.token, lease.untilMs⟩) with
  | none => return (false, ⟨row, s.jobs, reads.now⟩)
  | some job =>
    if lease.untilMs ≤ reads.now then return (false, ⟨row, s.jobs, reads.now⟩)
    else if lease.untilMs ≤ reads.changed then return (false, ⟨row, s.jobs, reads.changed⟩)
    else
      let jobs ← store s.jobs lease.accountId (completedJob settings result reads.now job)
      databaseNow reads.written
      refuse (lease.untilMs ≤ reads.written) .expiredLease
      databaseNow reads.cleaned
      databaseNow reads.last
      refuse (lease.untilMs ≤ reads.last) .expiredLease
      return (true, ⟨row, cleanup settings reads.sight reads.cleaned jobs, reads.last⟩)

def Job.dueAt (job : Job) (nowMs : Int) : Bool := nowMs < job.interestedUntilMs && job.dueAtMs ≤ nowMs && job.free nowMs

def stats (settings : Settings) (reads : StatsReads) (s : QueueStore) :
    Except RefreshError (AuthorityRefreshStats × QueueStore) := do
  let row ← control settings reads.control s.control
  databaseNow reads.now
  let jobs := cleanup settings reads.sight reads.now s.jobs
  return (
    { tracked := jobs.entries.length
      interested := jobs.values.countP (fun job => reads.now < job.interestedUntilMs)
      due := jobs.values.countP (·.dueAt reads.now)
      inFlight := jobs.values.countP (·.running reads.now)
      oldestDueAtMs := ((jobs.values.filter (·.dueAt reads.now)).map (·.dueAtMs)).min?
      startsInWindow := row.startsInWindow
      maxStartsPerMinute := settings.maxStartsPerMinute },
    ⟨row, jobs, reads.now⟩)

inductive QueueOp where
  | request (accountId : Address) (reads : RequestReads)
  /-- The token is the one that is drawn. -/
  | claim (token : String) (reads : ClaimReads)
  | complete (lease : AuthorityRefreshLease) (result : AuthorityRefreshResult) (reads : CompleteReads)
  | stats (reads : StatsReads)

inductive QueueOutcome where
  | requested (request : AuthorityRefreshRequest)
  | claimed (lease : Option AuthorityRefreshLease)
  | completed (done : Bool)
  | stats (stats : AuthorityRefreshStats)

/-- The readings of an operation do not go back, nor behind those made before under the control row. -/
def QueueOp.Ordered (s : QueueStore) : QueueOp → Prop
  | .request _ r => s.clock ≤ r.control ∧ r.control ≤ r.now ∧ r.now ≤ r.extended ∧ r.extended ≤ r.after
  | .claim _ r => s.clock ≤ r.control ∧ r.control ≤ r.now ∧ r.now ≤ r.started ∧ r.started ≤ r.after
  | .complete _ _ r => s.clock ≤ r.control ∧ r.control ≤ r.now ∧ r.now ≤ r.changed ∧ r.changed ≤ r.written ∧
      r.written ≤ r.cleaned ∧ r.cleaned ≤ r.last
  | .stats r => s.clock ≤ r.control ∧ r.control ≤ r.now

instance (s : QueueStore) : (op : QueueOp) → Decidable (op.Ordered s)
  | .request _ r => inferInstanceAs (Decidable (s.clock ≤ r.control ∧ r.control ≤ r.now ∧
      r.now ≤ r.extended ∧ r.extended ≤ r.after))
  | .claim _ r => inferInstanceAs (Decidable (s.clock ≤ r.control ∧ r.control ≤ r.now ∧ r.now ≤ r.started ∧ r.started ≤ r.after))
  | .complete _ _ r => inferInstanceAs (Decidable (s.clock ≤ r.control ∧ r.control ≤ r.now ∧ r.now ≤ r.changed ∧
      r.changed ≤ r.written ∧ r.written ≤ r.cleaned ∧ r.cleaned ≤ r.last))
  | .stats r => inferInstanceAs (Decidable (s.clock ≤ r.control ∧ r.control ≤ r.now))

/-- What a caught error answers; what the transaction wrote before it is rolled back. -/
def caught (s : QueueStore) (op : QueueOp) (error : RefreshError) : Except RefreshError (QueueOutcome × QueueStore) :=
  match op, error with
  | .request _ _, .expiredInterest retryAtMs => .ok (.requested ⟨.overloaded, some retryAtMs⟩, s)
  | .claim _ _, .expiredLease => .ok (.claimed none, s)
  | .complete _ _ _, .expiredLease => .ok (.completed false, s)
  | _, _ => .error error

def execute (settings : Settings) (op : QueueOp) (s : QueueStore) : Except RefreshError (QueueOutcome × QueueStore) := do
  match op with
  | .request accountId reads =>
    let (answer, t) ← request settings accountId reads s
    return (.requested answer, t)
  | .claim token reads =>
    let (lease, t) ← claim settings token reads s
    return (.claimed lease, t)
  | .complete lease result reads =>
    let (done, t) ← complete settings lease result reads s
    return (.completed done, t)
  | .stats reads =>
    let (answer, t) ← stats settings reads s
    return (.stats answer, t)

def perform (settings : Settings) (op : QueueOp) (s : QueueStore) : Except RefreshError (QueueOutcome × QueueStore) :=
  match execute settings op s with
  | .ok answer => .ok answer
  | .error error => caught s op error

def queue (settings : Settings) (op : QueueOp) : Fallible RefreshError QueueStore QueueOutcome :=
  transaction (perform settings op)

abbrev QueueAnswer := Answer QueueOp RefreshError QueueOutcome

def QueueStep (settings : Settings) (s : QueueStore) (answer : QueueAnswer) (t : QueueStore) : Prop :=
  answer.op.Ordered s ∧ Performs (queue settings) s answer t

abbrev QueueRuns (settings : Settings) := Run (QueueStep settings)

def QueueStore.Created (s : QueueStore) : Prop := s.control = ⟨0, 0, none⟩ ∧ s.jobs = .empty

end JBCenter.Wallet.Refresh
