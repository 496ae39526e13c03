import Mathlib.Order.Lattice
import JBCenter.Wallet.Refresh

/-! The bounds of the authority refresh queue: how many jobs are stored and run at once, how many
start in a window, and that a live lease is left alone until the worker that holds it completes it,
once. -/
namespace JBCenter.Wallet.Refresh
open Rest
open Deployments (Address)
open OrderedMap (countP_set_le get_filter get_of_mem get_set get_set_ne get_set_self length_set_of_has)

variable {settings : Settings} {nowMs : Int} {before after jobs : Jobs} {sight : Sight} {accountId : Address} {job : Job}

/-- Jobs were taken out, and only such as no lease holds. -/
structure Thinned (nowMs : Int) (before after : Jobs) : Prop where
  kept : ∀ accountId job, after.get accountId = some job → before.get accountId = some job
  held : ∀ accountId job, before.get accountId = some job → job.free nowMs = false → after.get accountId = some job
  length : after.entries.length ≤ before.entries.length
  count : ∀ p, after.values.countP p ≤ before.values.countP p

theorem Thinned.refl : Thinned nowMs jobs jobs := ⟨fun _ _ => id, fun _ _ found _ => found, le_rfl, fun _ => le_rfl⟩

theorem Thinned.trans {middle : Jobs} (first : Thinned nowMs before middle) (second : Thinned nowMs middle after) :
    Thinned nowMs before after where
  kept _ _ found := first.kept _ _ (second.kept _ _ found)
  held _ _ found busy := second.held _ _ (first.held _ _ found busy) busy
  length := second.length.trans first.length
  count p := (second.count p).trans (first.count p)

theorem thinned_filter {keep : Address → Job → Bool}
    (free : ∀ accountId job, before.get accountId = some job → keep accountId job = false → job.free nowMs = true) :
    Thinned nowMs before (before.filter keep) where
  kept accountId job found := by
    rw [get_filter, Option.filter_eq_some_iff] at found
    exact found.1
  held accountId job found busy := by
    rw [get_filter, found]
    cases kept : keep accountId job with
    | true => simp [Option.filter, kept]
    | false =>
      rw [free accountId job found kept] at busy
      cases busy
  length := OrderedMap.length_filter_le _ _
  count p := OrderedMap.countP_filter_le _ _ p

theorem cleanup_thinned (settings : Settings) (sight : Sight) (nowMs : Int) (jobs : Jobs) :
    Thinned nowMs jobs (cleanup settings sight nowMs jobs) := by
  rw [cleanup, OrderedMap.deleteAll]
  refine thinned_filter ?_
  intro accountId job found dropped
  rw [decide_eq_false_iff_not, not_not] at dropped
  obtain ⟨⟨key, other⟩, taken, rfl⟩ := List.mem_map.mp dropped
  have member := (List.mergeSort_perm _ _).mem_iff.mp (List.mem_of_mem_take taken)
  obtain ⟨entry, expirable⟩ := List.mem_filter.mp member
  have here : jobs.get key = some other := get_of_mem entry
  cases here.symm.trans found
  rw [Refresh.expirable, Bool.and_eq_true, Bool.and_eq_true] at expirable
  exact expirable.1.1

theorem evictable_some {entry : Address × Job} (found : evictable sight nowMs jobs = some entry) :
    jobs.get entry.1 = some entry.2 ∧ entry.2.free nowMs = true := by
  have member := (List.mergeSort_perm _ _).mem_iff.mp (List.mem_of_head? found)
  obtain ⟨held, free⟩ := List.mem_filter.mp member
  rw [Bool.and_eq_true] at free
  exact ⟨get_of_mem held, free.1⟩

theorem evicted_thinned {entry : Address × Job} (found : evictable sight nowMs jobs = some entry) :
    Thinned nowMs jobs (jobs.delete entry.1) ∧ (jobs.delete entry.1).entries.length < jobs.entries.length := by
  obtain ⟨held, free⟩ := evictable_some found
  refine ⟨thinned_filter ?_, OrderedMap.length_filter_lt held (by simp)⟩
  intro accountId job here dropped
  rw [decide_eq_false_iff_not, not_not] at dropped
  rw [dropped] at here
  cases here.symm.trans held
  exact free

theorem claimable_some (found : claimable sight nowMs jobs = some (accountId, job)) :
    jobs.get accountId = some job ∧ job.free nowMs = true := by
  have member := (List.mergeSort_perm _ _).mem_iff.mp (List.mem_of_head? found)
  obtain ⟨held, due⟩ := List.mem_filter.mp member
  simp only [Bool.and_eq_true] at due
  exact ⟨get_of_mem held, due.1.1.2⟩

/-- Time only ends leases. -/
theorem running_later {laterMs : Int} (later : nowMs ≤ laterMs) (running : job.running laterMs = true) :
    job.running nowMs = true := by
  unfold Job.running at running ⊢
  cases held : job.lease with
  | none =>
    rw [held] at running
    cases running
  | some lease =>
    rw [held, Option.any_some, decide_eq_true_eq] at running
    rw [Option.any_some, decide_eq_true_eq]
    omega

theorem countP_running_le {laterMs : Int} (later : nowMs ≤ laterMs) (jobs : Jobs) :
    jobs.values.countP (·.running laterMs) ≤ jobs.values.countP (·.running nowMs) :=
  List.countP_mono_left fun _ _ running => running_later later running

theorem control_ok {row taken : Control} (ran : control settings nowMs row = .ok taken) :
    taken.windowStartMs ≤ nowMs ∧ nowMs < taken.windowStartMs + windowMs ∧ taken.windowStartMs ≠ 0 ∧
    (taken.windowStartMs = row.windowStartMs ∧ taken.startsInWindow = row.startsInWindow ∨
     taken.windowStartMs = nowMs ∧ taken.startsInWindow = 0 ∧
      (row.windowStartMs = 0 ∨ row.windowStartMs + windowMs ≤ nowMs)) := by
  obtain ⟨_, now, ran⟩ := ok_bind ran
  obtain ⟨held, adopts, ran⟩ := ok_bind ran
  obtain ⟨forward, ran⟩ := ok_refuse ran
  cases ran
  have positive : 0 < nowMs := by
    have read := refuse_ok.mp now
    simp only [milliseconds, Bool.or_eq_false_iff, Bool.not_eq_false', Bool.and_eq_true, decide_eq_true_eq] at read
    exact read.1.2
  have same : held.windowStartMs = row.windowStartMs ∧ held.startsInWindow = row.startsInWindow := by
    unfold adopted at adopts
    split at adopts
    · cases adopts
      exact ⟨rfl, rfl⟩
    · split at adopts
      · cases adopts
        exact ⟨rfl, rfl⟩
      · split at adopts
        · cases adopts
        · cases adopts
          exact ⟨rfl, rfl⟩
  rw [decide_eq_false_iff_not, not_lt, same.1] at forward
  unfold windowed
  split
  · rename_i elapsed
    rw [same.1] at elapsed
    refine ⟨le_rfl, ?_, positive.ne', Or.inr ⟨rfl, rfl, elapsed⟩⟩
    change nowMs < nowMs + 60000
    omega
  · rename_i open_
    rw [not_or, not_le, same.1] at open_
    rw [same.1]
    exact ⟨forward, open_.2, open_.1, Or.inl ⟨rfl, same.2⟩⟩

/-- The reading under which an operation takes the control row. -/
def QueueOp.openedAt : QueueOp → Int
  | .request _ reads => reads.control
  | .claim _ reads => reads.control
  | .complete _ _ reads => reads.control
  | .stats reads => reads.control

/-- The reading by which an operation takes jobs out. -/
def QueueOp.deletesAt : QueueOp → Int
  | .request _ reads => reads.now
  | .claim _ reads => reads.now
  | .complete _ _ reads => reads.cleaned
  | .stats reads => reads.now

def grantedLease (answer : QueueAnswer) : Option AuthorityRefreshLease :=
  match answer.result with
  | .ok (.claimed lease) => lease
  | _ => none

def completedLease (answer : QueueAnswer) : Option AuthorityRefreshLease :=
  match answer.op, answer.result with
  | .complete lease _ _, .ok (.completed true) => some lease
  | _, _ => none

def Idle (answer : QueueAnswer) : Prop := grantedLease answer = none ∧ completedLease answer = none

/-- The control row is taken and jobs that no lease holds are taken out. -/
structure Swept (settings : Settings) (op : QueueOp) (s : QueueStore) (row : Control) (nowMs : Int) (jobs : Jobs) : Prop where
  row : control settings op.openedAt s.control = .ok row
  opened : s.clock ≤ op.openedAt
  later : op.openedAt ≤ nowMs
  before : nowMs ≤ op.deletesAt
  jobs : Thinned nowMs s.jobs jobs

/-- Everything an operation does. -/
inductive Effect (settings : Settings) (s : QueueStore) : QueueAnswer → QueueStore → Prop where
  | idle {answer : QueueAnswer} (nothing : Idle answer) : Effect settings s answer s
  | swept {answer : QueueAnswer} {row : Control} {nowMs clock : Int} {jobs : Jobs} (nothing : Idle answer)
      (swept : Swept settings answer.op s row nowMs jobs) (later : nowMs ≤ clock) : Effect settings s answer ⟨row, jobs, clock⟩
  | asked {accountId : Address} {reads : RequestReads} {result : AuthorityRefreshRequest} {row : Control} {clock : Int}
      {jobs : Jobs} {job : Job} (swept : Swept settings (.request accountId reads) s row reads.now jobs)
      (later : reads.now ≤ clock)
      (lease : job.lease = (jobs.get accountId).bind (·.lease))
      (failures : job.failures = (jobs.get accountId).elim 0 (·.failures))
      (room : jobs.get accountId = none → jobs.entries.length < max settings.maxTracked s.jobs.entries.length) :
      Effect settings s ⟨.request accountId reads, .ok (.requested result)⟩ ⟨row, jobs.set accountId job, clock⟩
  | granted {reads : ClaimReads} {row : Control} {jobs : Jobs} {job : Job} {lease : AuthorityRefreshLease}
      (swept : Swept settings (.claim lease.token reads) s row reads.now jobs)
      (starts : row.startsInWindow < settings.maxStartsPerMinute)
      (running : jobs.values.countP (·.running reads.now) < settings.maxConcurrent) (found : jobs.get lease.accountId = some job)
      (free : job.free reads.now = true) (later : reads.now ≤ reads.after) :
      Effect settings s ⟨.claim lease.token reads, .ok (.claimed (some lease))⟩
        ⟨{ row with startsInWindow := row.startsInWindow + 1 }, jobs.set lease.accountId (leasedJob job lease), reads.after⟩
  | completed {lease : AuthorityRefreshLease} {result : AuthorityRefreshResult}
      {reads : CompleteReads} {row : Control} {job : Job}
      {jobs : Jobs} (row_ok : control settings reads.control s.control = .ok row) (opened : s.clock ≤ reads.control)
      (found : s.jobs.get lease.accountId = some job) (held : job.lease = some ⟨lease.token, lease.untilMs⟩)
      (later : reads.control ≤ reads.cleaned ∧ reads.cleaned ≤ reads.last) (live : reads.last < lease.untilMs)
      (thinned : Thinned reads.cleaned (s.jobs.set lease.accountId (completedJob settings result reads.now job)) jobs) :
      Effect settings s ⟨.complete lease result reads, .ok (.completed true)⟩ ⟨row, jobs, reads.last⟩

theorem store_ok {result : Jobs} (ran : store jobs accountId job = .ok result) : result = jobs.set accountId job := by
  obtain ⟨_, ran⟩ := ok_refuse ran
  cases ran
  rfl

theorem extendInterest_ok {extendedMs afterMs : Int} {result : Jobs}
    (ran : extendInterest settings accountId job extendedMs afterMs jobs = .ok result) :
    ∃ interestedUntilMs, result = jobs.set accountId { job with interestedUntilMs } := by
  obtain ⟨stored, written, ran⟩ := ok_bind ran
  iterate 2 obtain ⟨_, _, ran⟩ := ok_bind ran
  cases ran
  exact ⟨_, store_ok written⟩

theorem set_set (jobs : Jobs) (accountId : Address) (first second : Job) :
    (jobs.set accountId first).set accountId second = jobs.set accountId second := by
  apply OrderedMap.ext_entries
  change OrderedMap.put _ _ (OrderedMap.put _ _ jobs.entries) = OrderedMap.put _ _ jobs.entries
  induction jobs.entries with
  | nil => simp [OrderedMap.put]
  | cons entry rest ih =>
    by_cases here : entry.1 = accountId
    · simp [OrderedMap.put, here]
    · simp [OrderedMap.put, here, ih]

theorem enqueue_ok {reads : RequestReads} {row : Control} {result : AuthorityRefreshRequest} {t : QueueStore}
    (ran : enqueue settings accountId reads row jobs = .ok (result, t)) :
    ∃ job, job.lease = none ∧ job.failures = 0 ∧ t = ⟨row, jobs.set accountId job, reads.after⟩ := by
  obtain ⟨stored, written, ran⟩ := ok_bind ran
  obtain ⟨extended, extends_, ran⟩ := ok_bind ran
  cases ran
  obtain ⟨interestedUntilMs, rfl⟩ := extendInterest_ok extends_
  rw [store_ok written, set_set]
  exact ⟨_, rfl, rfl, rfl⟩

section Operations
variable {s t : QueueStore}

theorem request_ok {reads : RequestReads} {result : AuthorityRefreshRequest}
    (ran : request settings accountId reads s = .ok (result, t)) (ordered : (QueueOp.request accountId reads).Ordered s) :
    Effect settings s ⟨.request accountId reads, .ok (.requested result)⟩ t := by
  obtain ⟨first, second, third, fourth⟩ : s.clock ≤ _ ∧ _ ≤ _ ∧ _ ≤ _ ∧ _ ≤ _ := ordered
  have later : reads.now ≤ reads.after := third.trans fourth
  obtain ⟨_, ran⟩ := ok_refuse ran
  obtain ⟨row, taken, ran⟩ := ok_bind ran
  iterate 2 obtain ⟨_, _, ran⟩ := ok_bind ran
  have cleaned := cleanup_thinned settings reads.sight reads.now s.jobs
  have swept : Swept settings (.request accountId reads) s row reads.now (cleanup settings reads.sight reads.now s.jobs) :=
    ⟨taken, first, second, le_rfl, cleaned⟩
  dsimp only at ran
  split at ran
  · rename_i job found
    obtain ⟨extended, extends_, ran⟩ := ok_bind ran
    cases ran
    obtain ⟨interestedUntilMs, rfl⟩ := extendInterest_ok extends_
    refine .asked swept later ?_ ?_ ?_ <;> simp [found]
  · rename_i absent
    split at ran
    · split at ran
      · cases ran
        exact .swept ⟨rfl, rfl⟩ swept le_rfl
      · rename_i entry evicted
        obtain ⟨job, lease, failures, rfl⟩ := enqueue_ok ran
        obtain ⟨thinned, fewer⟩ := evicted_thinned evicted
        have gone : ((cleanup settings reads.sight reads.now s.jobs).delete entry.1).get accountId = none := by
          rw [OrderedMap.get_delete, absent, ite_self]
        refine .asked ⟨taken, first, second, le_rfl, cleaned.trans thinned⟩ later ?_ ?_ ?_
        · rw [gone, lease]
          rfl
        · rw [gone, failures]
          rfl
        · intro _
          exact (fewer.trans_le cleaned.length).trans_le (le_max_right _ _)
    · rename_i room
      obtain ⟨job, lease, failures, rfl⟩ := enqueue_ok ran
      refine .asked swept later ?_ ?_ ?_
      · rw [absent, lease]
        rfl
      · rw [absent, failures]
        rfl
      · intro _
        exact (Nat.lt_of_not_le room).trans_le (le_max_left _ _)

theorem claim_ok {token : String} {reads : ClaimReads} {lease : Option AuthorityRefreshLease}
    (ran : claim settings token reads s = .ok (lease, t)) (ordered : (QueueOp.claim token reads).Ordered s) :
    Effect settings s ⟨.claim token reads, .ok (.claimed lease)⟩ t := by
  obtain ⟨first, second, third, fourth⟩ : s.clock ≤ _ ∧ _ ≤ _ ∧ _ ≤ _ ∧ _ ≤ _ := ordered
  obtain ⟨row, taken, ran⟩ := ok_bind ran
  obtain ⟨_, _, ran⟩ := ok_bind ran
  have swept : Swept settings (.claim token reads) s row reads.now (cleanup settings reads.sight reads.now s.jobs) :=
    ⟨taken, first, second, le_rfl, cleanup_thinned settings reads.sight reads.now s.jobs⟩
  dsimp only at ran
  split at ran
  · cases ran
    exact .swept ⟨rfl, rfl⟩ swept le_rfl
  · rename_i starts
    split at ran
    · cases ran
      exact .swept ⟨rfl, rfl⟩ swept le_rfl
    · rename_i running
      split at ran
      · cases ran
        exact .swept ⟨rfl, rfl⟩ swept le_rfl
      · rename_i accountId job found
        obtain ⟨_, _, ran⟩ := ok_bind ran
        split at ran
        · cases ran
          exact .swept ⟨rfl, rfl⟩ swept third
        · obtain ⟨stored, written, ran⟩ := ok_bind ran
          iterate 3 obtain ⟨_, _, ran⟩ := ok_bind ran
          cases ran
          rw [store_ok written]
          obtain ⟨held, free⟩ := claimable_some found
          let lease : AuthorityRefreshLease := ⟨accountId, token, reads.started + settings.leaseMs⟩
          have stands : (cleanup settings reads.sight reads.now s.jobs).get lease.accountId = some job := held
          have swept : Swept settings (.claim lease.token reads) s row reads.now _ := swept
          exact .granted swept (Nat.lt_of_not_le starts) (Nat.lt_of_not_le running) stands free (third.trans fourth)

theorem complete_ok {lease : AuthorityRefreshLease} {result : AuthorityRefreshResult} {reads : CompleteReads} {done : Bool}
    (ran : complete settings lease result reads s = .ok (done, t)) (ordered : (QueueOp.complete lease result reads).Ordered s) :
    Effect settings s ⟨.complete lease result reads, .ok (.completed done)⟩ t := by
  obtain ⟨first, second, third, fourth, fifth, sixth⟩ : s.clock ≤ _ ∧ _ ≤ _ ∧ _ ≤ _ ∧ _ ≤ _ ∧ _ ≤ _ ∧ _ ≤ _ := ordered
  have cleaned : reads.now ≤ reads.cleaned := third.trans (fourth.trans fifth)
  obtain ⟨_, ran⟩ := ok_refuse ran
  obtain ⟨row, taken, ran⟩ := ok_bind ran
  obtain ⟨_, _, ran⟩ := ok_bind ran
  have swept : Swept settings (.complete lease result reads) s row reads.now s.jobs := ⟨taken, first, second, cleaned, .refl⟩
  split at ran
  · cases ran
    exact .swept ⟨rfl, rfl⟩ swept le_rfl
  · rename_i job found
    rw [Option.filter_eq_some_iff, decide_eq_true_eq] at found
    split at ran
    · cases ran
      exact .swept ⟨rfl, rfl⟩ swept le_rfl
    · split at ran
      · cases ran
        exact .swept ⟨rfl, rfl⟩ swept third
      · obtain ⟨stored, written, ran⟩ := ok_bind ran
        iterate 4 obtain ⟨_, _, ran⟩ := ok_bind ran
        obtain ⟨live, ran⟩ := ok_refuse ran
        cases ran
        rw [decide_eq_false_iff_not, not_le] at live
        rw [store_ok written]
        exact .completed taken first found.1 found.2 ⟨second.trans cleaned, sixth⟩ live
          (cleanup_thinned settings reads.sight reads.cleaned _)

theorem stats_ok {reads : StatsReads} {result : AuthorityRefreshStats} (ran : stats settings reads s = .ok (result, t))
    (ordered : (QueueOp.stats reads).Ordered s) : Effect settings s ⟨.stats reads, .ok (.stats result)⟩ t := by
  obtain ⟨first, second⟩ : s.clock ≤ _ ∧ _ ≤ _ := ordered
  obtain ⟨row, taken, ran⟩ := ok_bind ran
  obtain ⟨_, _, ran⟩ := ok_bind ran
  cases ran
  exact .swept ⟨rfl, rfl⟩ ⟨taken, first, second, le_rfl, cleanup_thinned settings reads.sight reads.now s.jobs⟩ le_rfl

theorem caught_ok {op : QueueOp} {error : RefreshError} {outcome : QueueOutcome} (ran : caught s op error = .ok (outcome, t)) :
    t = s ∧ Idle ⟨op, .ok outcome⟩ := by
  unfold caught at ran
  split at ran <;> cases ran <;> exact ⟨rfl, rfl, rfl⟩

theorem QueueStep.effect {answer : QueueAnswer} (taken : QueueStep settings s answer t) : Effect settings s answer t := by
  obtain ⟨ordered, performed⟩ := taken
  obtain ⟨op, result⟩ := answer
  obtain ⟨outcome, answered, ran⟩ | ⟨rfl, error, answered, _⟩ := performed.transaction_cases
  · cases answered
    unfold perform at ran
    split at ran
    · rename_i answer executed
      cases ran
      cases op with
      | request accountId reads =>
        obtain ⟨⟨result, t⟩, requested, ran⟩ := ok_bind executed
        cases ran
        exact request_ok requested ordered
      | claim token reads =>
        obtain ⟨⟨lease, t⟩, claimed, ran⟩ := ok_bind executed
        cases ran
        exact claim_ok claimed ordered
      | complete lease result reads =>
        obtain ⟨⟨done, t⟩, completed, ran⟩ := ok_bind executed
        cases ran
        exact complete_ok completed ordered
      | stats reads =>
        obtain ⟨⟨result, t⟩, read, ran⟩ := ok_bind executed
        cases ran
        exact stats_ok read ordered
    · obtain ⟨rfl, idle⟩ := caught_ok ran
      exact .idle idle
  · cases answered
    exact .idle ⟨rfl, by cases op <;> rfl⟩

end Operations

section Bounds
variable {settings : QueueSettings} {s t : QueueStore} {answer : QueueAnswer} {history : List QueueAnswer}

/-- The waits between attempts are the configured ones. -/
theorem retryDelay_bounds (settings : QueueSettings) (result : AuthorityRefreshResult) (nowMs : Int) (failures : Nat) :
    1 ≤ retryDelay settings.toSettings result nowMs failures ∧
    retryDelay settings.toSettings result nowMs failures ≤
      max settings.backoffMaxMs (max settings.verifiedMinRetryMs (walletAuthorityMaximumAgeMs - settings.refreshLeadMs)) := by
  have accepted := settings.accepted
  simp only [settingsCheck, Bool.and_eq_true, decide_eq_true_eq] at accepted
  have verified : 1 ≤ settings.verifiedMinRetryMs := by omega
  have base : 1 ≤ settings.backoffBaseMs := by omega
  have most : settings.backoffBaseMs ≤ settings.backoffMaxMs := by omega
  clear accepted
  unfold retryDelay
  split
  · omega
  · split
    · omega
    · have power : (1 : Int) ≤ 2 ^ (failuresAfter result nowMs failures - 1) := by
        exact_mod_cast Nat.one_le_two_pow
      have product := Int.mul_le_mul_of_nonneg_left power (show 0 ≤ settings.backoffBaseMs by omega)
      omega

theorem failuresAfter_le (result : AuthorityRefreshResult) (nowMs : Int) (failures : Nat) :
    failuresAfter result nowMs failures ≤ 16 := by
  unfold failuresAfter
  split
  · exact Nat.zero_le _
  · exact Nat.min_le_left _ _

/-- What every reachable queue keeps within its settings, at this time and at any later one. -/
structure Bounded (settings : Settings) (s : QueueStore) : Prop where
  tracked : s.jobs.entries.length ≤ settings.maxTracked
  running : ∀ nowMs, s.clock ≤ nowMs → s.jobs.values.countP (·.running nowMs) ≤ settings.maxConcurrent
  failures : ∀ accountId job, s.jobs.get accountId = some job → job.failures ≤ 16

theorem Bounded.thinned {settings : Settings} {clock : Int} (bounded : Bounded settings s) (opened : s.clock ≤ clock)
    (thinned : Thinned nowMs s.jobs jobs) :
    jobs.entries.length ≤ settings.maxTracked ∧
    (∀ nowMs, clock ≤ nowMs → jobs.values.countP (·.running nowMs) ≤ settings.maxConcurrent) ∧
    ∀ accountId job, jobs.get accountId = some job → job.failures ≤ 16 := by
  refine ⟨thinned.length.trans bounded.tracked, ?_, fun accountId job found => bounded.failures _ _ (thinned.kept _ _ found)⟩
  exact fun nowMs later => (thinned.count _).trans (bounded.running nowMs (opened.trans later))

theorem failures_set (few : job.failures ≤ 16)
    (every : ∀ accountId job, jobs.get accountId = some job → job.failures ≤ 16) :
    ∀ other held, (jobs.set accountId job).get other = some held → held.failures ≤ 16 := by
  intro other held found
  rw [get_set] at found
  split at found
  · cases found
    exact few
  · exact every other held found

theorem Effect.bounded {settings : Settings} (effect : Effect settings s answer t) (bounded : Bounded settings s) :
    Bounded settings t := by
  cases effect with
  | idle => exact bounded
  | swept _ swept later =>
    obtain ⟨tracked, running, failures⟩ := bounded.thinned (swept.opened.trans (swept.later.trans later)) swept.jobs
    exact ⟨tracked, running, failures⟩
  | @asked accountId reads result row clock jobs job swept later lease isFailures room =>
    obtain ⟨tracked, running, failures⟩ := bounded.thinned (swept.opened.trans (swept.later.trans later)) swept.jobs
    cases found : jobs.get accountId with
    | none =>
      have idle : ∀ nowMs, job.running nowMs = false := by
        intro nowMs
        rw [found] at lease
        rw [Job.running, lease]
        rfl
      refine ⟨?_, ?_, failures_set ?_ failures⟩
      · have fits := room found
        rw [max_eq_left bounded.tracked] at fits
        exact (OrderedMap.length_set_le _ _ _).trans fits
      · intro nowMs later
        have counted := countP_set_le jobs accountId job (·.running nowMs)
        rw [if_neg (by rw [idle]; exact Bool.false_ne_true)] at counted
        exact counted.trans (running nowMs later)
      · rw [isFailures, found]
        exact Nat.zero_le _
    | some old =>
      have same : ∀ nowMs, job.running nowMs = old.running nowMs := by
        intro nowMs
        rw [found] at lease
        rw [Job.running, lease]
        rfl
      refine ⟨?_, ?_, failures_set ?_ failures⟩
      · rw [length_set_of_has job found]
        exact tracked
      · intro nowMs later
        rw [OrderedMap.countP_set_same found (same nowMs)]
        exact running nowMs later
      · rw [isFailures, found]
        exact failures accountId old found
  | @granted reads row jobs job lease swept starts running found free later =>
    obtain ⟨tracked, _, failures⟩ := bounded.thinned (swept.opened.trans (swept.later.trans later)) swept.jobs
    refine ⟨?_, ?_, failures_set (failures _ job found) failures⟩
    · rw [length_set_of_has _ found]
      exact tracked
    · intro nowMs now
      have counted := countP_set_le jobs lease.accountId (leasedJob job lease) (·.running nowMs)
      have fewer := countP_running_le (later.trans now) jobs
      refine counted.trans ((Nat.add_le_add fewer (show _ ≤ 1 from ?_)).trans (Nat.succ_le_of_lt running))
      split
      · exact le_rfl
      · exact Nat.zero_le _
  | @completed lease result reads row job jobs _ opened found held later live thinned =>
    have clock : s.clock ≤ reads.last := opened.trans (later.1.trans later.2)
    refine ⟨?_, ?_, ?_⟩
    · refine thinned.length.trans ?_
      rw [length_set_of_has _ found]
      exact bounded.tracked
    · intro nowMs now
      have counted := countP_set_le s.jobs lease.accountId (completedJob settings result reads.now job) (·.running nowMs)
      rw [if_neg (by simp [completedJob, Job.running])] at counted
      exact (thinned.count _).trans (counted.trans (bounded.running nowMs (clock.trans now)))
    · intro accountId other kept
      exact failures_set (failuresAfter_le _ _ _) bounded.failures accountId other (thinned.kept _ _ kept)

theorem Effect.protects {settings : Settings} {lease : JobLease}
    (effect : Effect settings s answer t) (found : s.jobs.get accountId = some job) (held : job.lease = some lease)
    (live : answer.op.deletesAt < lease.untilMs) :
    (∃ kept, t.jobs.get accountId = some kept ∧ kept.lease = some lease) ∨
    completedLease answer = some ⟨accountId, lease.token, lease.untilMs⟩ := by
  have busy : ∀ nowMs, nowMs ≤ answer.op.deletesAt → job.free nowMs = false := by
    intro nowMs before
    rw [Job.free, held, Option.all_some, decide_eq_false_iff_not, not_le]
    exact before.trans_lt live
  cases effect with
  | idle => exact Or.inl ⟨job, found, held⟩
  | swept _ swept => exact Or.inl ⟨job, swept.jobs.held _ _ found (busy _ swept.before), held⟩
  | @asked other reads result row clock jobs asked swept _ same _ _ =>
    have kept := swept.jobs.held _ _ found (busy _ swept.before)
    refine Or.inl ?_
    by_cases here : accountId = other
    · refine ⟨asked, by rw [here, get_set_self], ?_⟩
      rw [same, ← here, kept]
      exact held
    · exact ⟨job, by rw [get_set_ne _ _ here]; exact kept, held⟩
  | @granted reads row jobs other claimed swept _ _ stands free _ =>
    have kept := swept.jobs.held _ _ found (busy _ swept.before)
    refine Or.inl ⟨job, ?_, held⟩
    by_cases here : accountId = claimed.accountId
    · rw [here] at kept
      cases kept.symm.trans stands
      rw [busy reads.now le_rfl] at free
      cases free
    · rw [get_set_ne _ _ here]
      exact kept
  | @completed ended result reads row other jobs _ _ stands isLease _ _ thinned =>
    by_cases here : accountId = ended.accountId
    · rw [here] at found
      cases found.symm.trans stands
      cases held.symm.trans isLease
      exact Or.inr (by rw [here]; rfl)
    · refine Or.inl ⟨job, thinned.held _ _ ?_ (busy _ le_rfl), held⟩
      rw [get_set_ne _ _ here]
      exact found

/-- The reading under which a claim that was granted took the control row. -/
def startedAt (answer : QueueAnswer) : Option Int := (grantedLease answer).map (fun _ => answer.op.openedAt)

def startsFrom (fromMs : Int) (history : List QueueAnswer) : Nat :=
  history.countP (fun answer => (startedAt answer).any (fun atMs => fromMs ≤ atMs))

/-- The claims granted in the window that begins at this time. -/
def startsIn (fromMs : Int) (history : List QueueAnswer) : Nat :=
  history.countP (fun answer => (startedAt answer).any (fun atMs => fromMs ≤ atMs && atMs < fromMs + windowMs))

/-- The control row counts the claims of its window, and there are none of a later one. -/
structure Counted (settings : Settings) (history : List QueueAnswer) (row : Control) : Prop where
  within : row.startsInWindow ≤ settings.maxStartsPerMinute
  counted : startsFrom row.windowStartMs history = row.startsInWindow
  past : ∀ answer ∈ history, ∀ atMs, startedAt answer = some atMs → row.windowStartMs ≠ 0 ∧ atMs < row.windowStartMs + windowMs

theorem Counted.taken {settings : Settings} {row taken : Control} (counted : Counted settings history row)
    (ran : control settings nowMs row = .ok taken) : Counted settings history taken := by
  obtain ⟨_, _, begun, ⟨sameStart, sameStarts⟩ | ⟨isStart, none, elapsed⟩⟩ := control_ok ran
  · refine ⟨?_, ?_, ?_⟩
    · rw [sameStarts]
      exact counted.within
    · rw [sameStart, sameStarts]
      exact counted.counted
    · rw [sameStart]
      exact counted.past
  · have earlier : ∀ answer ∈ history, ∀ atMs, startedAt answer = some atMs → atMs < taken.windowStartMs := by
      intro answer member atMs started
      obtain ⟨windowed, before⟩ := counted.past answer member atMs started
      omega
    refine ⟨by omega, ?_, ?_⟩
    · rw [none, startsFrom, List.countP_eq_zero]
      intro answer member
      cases started : startedAt answer with
      | none => simp
      | some atMs =>
        rw [Option.any_some, decide_eq_true_eq, not_le]
        exact earlier answer member atMs started
    · intro answer member atMs started
      have before := earlier answer member atMs started
      refine ⟨begun, ?_⟩
      change _ < _ + 60000
      omega

theorem Counted.idle {settings : Settings} {row : Control} (counted : Counted settings history row)
    (nothing : grantedLease answer = none) : Counted settings (history ++ [answer]) row := by
  have notStarted : startedAt answer = none := by rw [startedAt, nothing, Option.map_none]
  refine ⟨counted.within, ?_, ?_⟩
  · rw [← counted.counted, startsFrom, startsFrom, List.countP_append, List.countP_singleton, notStarted]
    rfl
  · intro other member atMs started
    obtain earlier | last := List.mem_append.mp member
    · exact counted.past other earlier atMs started
    · rw [List.mem_singleton.mp last, notStarted] at started
      cases started

theorem Counted.grant {settings : Settings} {row : Control} {atMs : Int} (counted : Counted settings history row)
    (started : startedAt answer = some atMs) (room : row.startsInWindow < settings.maxStartsPerMinute)
    (windowed : row.windowStartMs ≠ 0) (begun : row.windowStartMs ≤ atMs) (open_ : atMs < row.windowStartMs + windowMs) :
    Counted settings (history ++ [answer]) { row with startsInWindow := row.startsInWindow + 1 } := by
  refine ⟨room, ?_, ?_⟩
  · change startsFrom row.windowStartMs _ = row.startsInWindow + 1
    rw [← counted.counted, startsFrom, startsFrom, List.countP_append, List.countP_singleton, started, Option.any_some,
      if_pos (decide_eq_true begun)]
  · intro other member laterMs isStarted
    obtain earlier | last := List.mem_append.mp member
    · exact counted.past other earlier laterMs isStarted
    · rw [List.mem_singleton.mp last, started] at isStarted
      cases isStarted
      exact ⟨windowed, open_⟩

theorem Effect.counted {settings : Settings} (effect : Effect settings s answer t)
    (counted : Counted settings history s.control) :
    Counted settings (history ++ [answer]) t.control := by
  cases effect with
  | idle nothing => exact counted.idle nothing.1
  | swept nothing swept => exact (counted.taken swept.row).idle nothing.1
  | asked swept => exact (counted.taken swept.row).idle rfl
  | granted swept starts =>
    obtain ⟨begun, open_, windowed, _⟩ := control_ok swept.row
    exact (counted.taken swept.row).grant rfl starts windowed begun open_
  | completed row_ok => exact (counted.taken row_ok).idle rfl

/-- The window is in force, or it is over and its claims are within the bound. -/
def Capped (settings : Settings) (fromMs : Int) (history : List QueueAnswer) (row : Control) : Prop :=
  row.windowStartMs = fromMs ∨ fromMs + windowMs ≤ row.windowStartMs ∧ startsIn fromMs history ≤ settings.maxStartsPerMinute

theorem startsIn_le (fromMs : Int) (history : List QueueAnswer) : startsIn fromMs history ≤ startsFrom fromMs history := by
  refine List.countP_mono_left ?_
  intro answer _ started
  cases isStarted : startedAt answer with
  | none =>
    rw [isStarted] at started
    cases started
  | some atMs =>
    rw [isStarted, Option.any_some, Bool.and_eq_true] at started
    exact started.1

theorem startsIn_later {fromMs : Int} (later : ∀ atMs, startedAt answer = some atMs → fromMs + windowMs ≤ atMs) :
    startsIn fromMs (history ++ [answer]) = startsIn fromMs history := by
  rw [startsIn, startsIn, List.countP_append, List.countP_singleton]
  cases started : startedAt answer with
  | none => rfl
  | some atMs =>
    have after := later atMs started
    rw [Option.any_some, if_neg, Nat.add_zero]
    rw [Bool.and_eq_true, decide_eq_true_eq, decide_eq_true_eq]
    omega

theorem Effect.control {settings : Settings} (effect : Effect settings s answer t) :
    t.control = s.control ∧ startedAt answer = none ∨
    ∃ row, Refresh.control settings answer.op.openedAt s.control = .ok row ∧ t.control.windowStartMs = row.windowStartMs ∧
      ∀ atMs, startedAt answer = some atMs → atMs = answer.op.openedAt := by
  have opened : ∀ atMs, startedAt answer = some atMs → atMs = answer.op.openedAt := by
    intro atMs started
    obtain ⟨_, _, same⟩ := Option.map_eq_some_iff.mp started
    exact same.symm
  cases effect with
  | idle nothing => exact Or.inl ⟨rfl, by rw [startedAt, nothing.1, Option.map_none]⟩
  | swept _ swept => exact Or.inr ⟨_, swept.row, rfl, opened⟩
  | asked swept => exact Or.inr ⟨_, swept.row, rfl, opened⟩
  | granted swept => exact Or.inr ⟨_, swept.row, rfl, opened⟩
  | completed row_ok => exact Or.inr ⟨_, row_ok, rfl, opened⟩

theorem Effect.capped {settings : Settings} {fromMs : Int} (effect : Effect settings s answer t)
    (counted : Counted settings history s.control) (capped : Capped settings fromMs history s.control) (windowed : 0 < fromMs) :
    Capped settings fromMs (history ++ [answer]) t.control := by
  obtain ⟨same, none⟩ | ⟨row, taken, same, opened⟩ := effect.control
  · rw [same]
    refine capped.imp id ?_
    rintro ⟨elapsed, few⟩
    rw [startsIn_later (by rw [none]; rintro _ ⟨⟩)]
    exact ⟨elapsed, few⟩
  · obtain ⟨begun, _, _, moved⟩ := control_ok taken
    rw [Capped, same]
    obtain ⟨sameStart, _⟩ | ⟨isStart, _, elapsed⟩ := moved
    · rw [sameStart] at begun ⊢
      refine capped.imp id ?_
      rintro ⟨past, few⟩
      rw [startsIn_later (fun atMs started => by rw [opened atMs started]; omega)]
      exact ⟨past, few⟩
    · have past : fromMs + windowMs ≤ row.windowStartMs := by
        obtain here | ⟨past, _⟩ := capped
        · rw [here] at elapsed
          omega
        · have wide : (0 : Int) < windowMs := by decide
          omega
      refine Or.inr ⟨past, ?_⟩
      rw [startsIn_later (fun atMs started => by rw [opened atMs started]; omega)]
      obtain here | ⟨_, few⟩ := capped
      · have total := counted.counted
        have within := counted.within
        rw [here] at total
        exact ((startsIn_le _ _).trans total.le).trans within
      · exact few

def drawnTokens (history : List QueueAnswer) : List String :=
  history.filterMap (fun answer => (grantedLease answer).map (·.token))

theorem Effect.leases {settings : Settings} {lease : JobLease}
    (effect : Effect settings s answer t) (found : t.jobs.get accountId = some job) (held : job.lease = some lease) :
    (∃ old, s.jobs.get accountId = some old ∧ old.lease = some lease) ∨
    grantedLease answer = some ⟨accountId, lease.token, lease.untilMs⟩ := by
  cases effect with
  | idle => exact Or.inl ⟨job, found, held⟩
  | swept _ swept => exact Or.inl ⟨job, swept.jobs.kept _ _ found, held⟩
  | @asked other reads result row clock jobs asked swept _ same _ _ =>
    refine Or.inl ?_
    rw [get_set] at found
    split at found
    · rename_i here
      cases found
      rw [held, ← here] at same
      obtain ⟨old, stands, isLease⟩ := some_bind same.symm
      exact ⟨old, swept.jobs.kept _ _ stands, isLease⟩
    · exact ⟨job, swept.jobs.kept _ _ found, held⟩
  | @granted reads row jobs other claimed swept _ _ stands free _ =>
    rw [get_set] at found
    split at found
    · rename_i here
      cases found
      cases held
      exact Or.inr (by rw [here]; rfl)
    · exact Or.inl ⟨job, swept.jobs.kept _ _ found, held⟩
  | @completed ended result reads row other jobs _ _ stands isLease _ _ thinned =>
    have before := thinned.kept _ _ found
    rw [get_set] at before
    split at before
    · cases before
      cases held
    · exact Or.inl ⟨job, before, held⟩

theorem Effect.completes {settings : Settings} {lease : AuthorityRefreshLease} (effect : Effect settings s answer t)
    (ended : completedLease answer = some lease) :
    (∃ job, s.jobs.get lease.accountId = some job ∧ job.lease = some ⟨lease.token, lease.untilMs⟩) ∧
    (s.clock ≤ t.clock ∧ t.clock < lease.untilMs) ∧
    ∃ result reads old, answer.op = .complete lease result reads ∧ grantedLease answer = none ∧
      ∀ job, t.jobs.get lease.accountId = some job → job = completedJob settings result reads.now old := by
  cases effect with
  | idle nothing =>
    rw [nothing.2] at ended
    cases ended
  | swept nothing =>
    rw [nothing.2] at ended
    cases ended
  | asked => cases ended
  | granted => cases ended
  | @completed _ result reads row job jobs _ opened found held later live thinned =>
    cases ended
    refine ⟨⟨job, found, held⟩, ⟨opened.trans (later.1.trans later.2), live⟩, result, reads, job, rfl, rfl, ?_⟩
    intro kept stands
    have before := thinned.kept _ _ stands
    rw [get_set_self] at before
    exact (Option.some.inj before).symm

/-- The tokens of the leases that are held, and of those that were completed, were drawn; a completed
lease is not held again. -/
structure Redeemed (history : List QueueAnswer) (s : QueueStore) : Prop where
  drawn : ∀ accountId job lease, s.jobs.get accountId = some job → job.lease = some lease → lease.token ∈ drawnTokens history
  spent : ∀ answer ∈ history, ∀ lease, completedLease answer = some lease → lease.token ∈ drawnTokens history ∧
    ∀ job held, s.jobs.get lease.accountId = some job → job.lease = some held → held.token ≠ lease.token
  once : (history.filterMap completedLease).Nodup

theorem drawnTokens_snoc (history : List QueueAnswer) (answer : QueueAnswer) :
    drawnTokens (history ++ [answer]) = drawnTokens history ++ ((grantedLease answer).map (·.token)).toList :=
  filterMap_snoc _ _ _

theorem Effect.redeemed {settings : Settings} (effect : Effect settings s answer t) (redeemed : Redeemed history s)
    (distinct : (drawnTokens (history ++ [answer])).Nodup) : Redeemed (history ++ [answer]) t := by
  have wider : ∀ token ∈ drawnTokens history, token ∈ drawnTokens (history ++ [answer]) := by
    intro token member
    rw [drawnTokens_snoc]
    exact List.mem_append_left _ member
  have fresh : ∀ lease, grantedLease answer = some lease → lease.token ∉ drawnTokens history := by
    intro lease granted member
    rw [drawnTokens_snoc, granted] at distinct
    exact (List.nodup_append.mp distinct).2.2 _ member _ (by simp) rfl
  refine ⟨?_, ?_, ?_⟩
  · intro accountId job lease found held
    obtain ⟨old, stood, same⟩ | granted := effect.leases found held
    · exact wider _ (redeemed.drawn accountId old lease stood same)
    · rw [drawnTokens_snoc, granted]
      simp
  · intro other member lease ended
    obtain earlier | last := List.mem_append.mp member
    · obtain ⟨drawn, gone⟩ := redeemed.spent other earlier lease ended
      refine ⟨wider _ drawn, ?_⟩
      intro job held found isHeld
      obtain ⟨old, stood, same⟩ | granted := effect.leases found isHeld
      · exact gone old held stood same
      · intro same
        exact fresh _ granted (same ▸ drawn)
    · rw [List.mem_singleton.mp last] at ended
      obtain ⟨⟨job, found, held⟩, _, result, reads, old, _, _, after⟩ := effect.completes ended
      refine ⟨wider _ (redeemed.drawn _ _ _ found held), ?_⟩
      intro kept isHeld stands isLease
      rw [after kept stands] at isLease
      cases isLease
  · rw [filterMap_snoc]
    cases ended : completedLease answer with
    | none =>
      rw [Option.toList_none, List.append_nil]
      exact redeemed.once
    | some lease =>
      refine List.nodup_append.mpr ⟨redeemed.once, List.nodup_singleton _, ?_⟩
      intro other member last isLast same
      rw [Option.toList_some, List.mem_singleton] at isLast
      obtain ⟨earlier, before, isOther⟩ := List.mem_filterMap.mp member
      obtain ⟨⟨job, found, held⟩, _⟩ := effect.completes ended
      rw [same, isLast] at isOther
      exact (redeemed.spent earlier before lease isOther).2 job _ found held rfl

theorem QueueStore.Created.bounded {settings : Settings} (created : s.Created) : Bounded settings s := by
  obtain ⟨_, jobs⟩ := created
  refine ⟨?_, ?_, ?_⟩
  · rw [jobs]
    exact Nat.zero_le _
  · intro nowMs _
    rw [jobs]
    exact Nat.zero_le _
  · intro accountId job found
    rw [jobs] at found
    cases found

theorem QueueStore.Created.counted {settings : Settings} (created : s.Created) : Counted settings [] s.control := by
  rw [created.1]
  exact ⟨Nat.zero_le _, rfl, by simp⟩

theorem QueueStore.Created.redeemed (created : s.Created) : Redeemed [] s := by
  refine ⟨?_, by simp, List.nodup_nil⟩
  intro accountId job lease found
  rw [created.2] at found
  cases found

theorem QueueRuns.counted {settings : Settings} {start : QueueStore} (run : QueueRuns settings start history s)
    (created : start.Created) : Counted settings history s.control :=
  Run.invariant (P := fun history s => Counted settings history s.control) run created.counted
    (fun _ counted taken => taken.effect.counted counted)

/-- At every instant the queue is within its settings: the jobs it stores, those that run and the claims
of every window. A live lease is left alone until it is completed, once and while it is live, and then
the next attempt waits. -/
theorem refresh_bounds {start last : QueueStore} {earlier later : List QueueAnswer} (created : start.Created)
    (begun : QueueRuns settings.toSettings start earlier s) (taken : QueueStep settings.toSettings s answer t)
    (ended : QueueRuns settings.toSettings t later last) (drawn : (drawnTokens (earlier ++ answer :: later)).Nodup) :
    Bounded settings.toSettings s ∧
    (0 < s.control.windowStartMs → startsIn s.control.windowStartMs (earlier ++ answer :: later) ≤ settings.maxStartsPerMinute) ∧
    (∀ accountId job lease, s.jobs.get accountId = some job → job.lease = some lease → answer.op.deletesAt < lease.untilMs →
      (∃ kept, t.jobs.get accountId = some kept ∧ kept.lease = some lease) ∨
      completedLease answer = some ⟨accountId, lease.token, lease.untilMs⟩) ∧
    ((earlier ++ answer :: later).filterMap completedLease).Nodup ∧
    ∀ lease, completedLease answer = some lease →
      (∃ job, s.jobs.get lease.accountId = some job ∧ job.lease = some ⟨lease.token, lease.untilMs⟩) ∧
      (s.clock ≤ t.clock ∧ t.clock < lease.untilMs) ∧
      ∃ result reads, answer.op = .complete lease result reads ∧ ∀ job, t.jobs.get lease.accountId = some job →
        reads.now + 1 ≤ job.dueAtMs ∧ job.dueAtMs ≤ reads.now +
          max settings.backoffMaxMs (max settings.verifiedMinRetryMs (walletAuthorityMaximumAgeMs - settings.refreshLeadMs)) := by
  have whole : QueueRuns settings.toSettings start (earlier ++ answer :: later) last := by
    have joined := (begun.snoc taken).append ended
    rwa [List.append_assoc, List.singleton_append] at joined
  refine ⟨?_, ?_, ?_, ?_, ?_⟩
  · exact begun.state_invariant created.bounded (fun bounded taken => taken.effect.bounded bounded)
  · intro windowed
    have rest : QueueRuns settings.toSettings s (answer :: later) last := by
      have joined := (Run.nil.snoc taken).append ended
      rwa [List.nil_append, List.singleton_append] at joined
    have both : Counted settings.toSettings (earlier ++ answer :: later) last.control ∧
        Capped settings.toSettings s.control.windowStartMs (earlier ++ answer :: later) last.control := by
      refine Run.invariant (P := fun history t => Counted settings.toSettings (earlier ++ history) t.control ∧
        Capped settings.toSettings s.control.windowStartMs (earlier ++ history) t.control) rest ?_ ?_
      · rw [List.append_nil]
        exact ⟨QueueRuns.counted begun created, Or.inl rfl⟩
      · rintro history middle event next _ ⟨counted, capped⟩ taken
        rw [← List.append_assoc]
        exact ⟨taken.effect.counted counted, taken.effect.capped counted capped windowed⟩
    obtain ⟨counted, here | ⟨_, few⟩⟩ := both
    · have total := counted.counted
      rw [here] at total
      exact ((startsIn_le _ _).trans total.le).trans counted.within
    · exact few
  · intro accountId job lease found held live
    exact taken.effect.protects found held live
  · have redeemed : (drawnTokens (earlier ++ answer :: later)).Nodup → Redeemed (earlier ++ answer :: later) last := by
      refine Run.invariant (P := fun history t => (drawnTokens history).Nodup → Redeemed history t) whole
        (fun _ => created.redeemed) ?_
      intro history middle event next _ ih taken distinct
      refine taken.effect.redeemed (ih ?_) distinct
      rw [drawnTokens_snoc] at distinct
      exact distinct.of_append_left
    exact (redeemed drawn).once
  · intro lease isEnded
    obtain ⟨held, live, result, reads, old, asked, _, after⟩ := taken.effect.completes isEnded
    refine ⟨held, live, result, reads, asked, ?_⟩
    intro job found
    rw [after job found]
    obtain ⟨least, most⟩ := retryDelay_bounds settings result reads.now old.failures
    exact ⟨Int.add_le_add_left least _, Int.add_le_add_left most _⟩

end Bounds

/-- A job that is requested, leased and completed; the completion is asked for twice. -/
def sampleSettings : QueueSettings := ⟨defaults, by decide⟩

def sampleSight : Sight := ⟨fun _ => true, fun _ => false⟩

def sampleToken : String := "00000000-0000-4000-8000-000000000001"

def sampleComplete (nowMs : Int) : QueueOp :=
  .complete ⟨5, sampleToken, 122000⟩ ⟨.verified, some 500000⟩ ⟨nowMs, nowMs, nowMs, nowMs, nowMs, nowMs, sampleSight⟩

def sampleOps : List QueueOp :=
  [.request 5 ⟨1000, 1000, 1000, 1000, sampleSight⟩, .claim sampleToken ⟨2000, 2000, 2000, 2000, sampleSight⟩,
    sampleComplete 3000, sampleComplete 4000]

def sampleCreated : QueueStore := ⟨⟨0, 0, none⟩, .empty, 0⟩

def sampleHistory : List QueueAnswer := (performAll (queue sampleSettings.toSettings) sampleCreated sampleOps).1

theorem sample_run :
    allowedAll (fun s op => QueueOp.Ordered s op) (queue sampleSettings.toSettings) sampleCreated sampleOps = true ∧
    sampleHistory.map completedLease = [none, none, some ⟨5, sampleToken, 122000⟩, none] ∧
    drawnTokens sampleHistory = [sampleToken] := by decide +kernel

theorem refresh_bounds_sample : ∃ s t : QueueStore, Bounded sampleSettings.toSettings s ∧
    (∃ job, s.jobs.get 5 = some job ∧ job.lease = some ⟨sampleToken, 122000⟩) ∧ (s.clock ≤ t.clock ∧ t.clock < 122000) ∧
    (sampleHistory.filterMap completedLease).Nodup ∧
    sampleHistory.map completedLease = [none, none, some ⟨5, sampleToken, 122000⟩, none] := by
  have run : QueueRuns sampleSettings.toSettings sampleCreated sampleHistory _ := performAll_allowed sample_run.1
  have many := congrArg List.length sample_run.2.1
  rw [List.length_map] at many
  have bound : 2 < sampleHistory.length := by simp [many]
  obtain ⟨s, t, begun, taken, ended⟩ := run.cut bound
  have whole : sampleHistory.take 2 ++ sampleHistory[2] :: sampleHistory.drop 3 = sampleHistory := by
    rw [← List.drop_eq_getElem_cons bound, List.take_append_drop]
  have drawn : (drawnTokens (sampleHistory.take 2 ++ sampleHistory[2] :: sampleHistory.drop 3)).Nodup := by
    rw [whole, sample_run.2.2]
    exact List.nodup_singleton _
  obtain ⟨bounded, _, _, once, held⟩ := refresh_bounds (show sampleCreated.Created from ⟨rfl, rfl⟩) begun taken ended drawn
  have completed : completedLease sampleHistory[2] = some ⟨5, sampleToken, 122000⟩ := by
    have third := congrArg (fun leases => leases[2]?) sample_run.2.1
    simpa [List.getElem?_eq_getElem bound] using third
  obtain ⟨leased, within, _⟩ := held _ completed
  rw [whole] at once
  exact ⟨s, t, bounded, leased, within, once, sample_run.2.1⟩

end JBCenter.Wallet.Refresh
