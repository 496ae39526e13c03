import JBCenter.Sponsor.PaidPasses
import JBCenter.Sponsor.Attempts
import JBCenter.Sponsor.Resumption

/-! Runs and paid rows. In a run without an error that the code takes for an outcome, a row that is paid for
fails only on a verdict or after a day of waiting, and between two passes it can be claimed again. -/
namespace JBCenter.Sponsor

variable {relayr : Relayr} {options : LaneOptions} {leaseSeconds : Nat} {s t : System} {event : Event}

/-- A crash is harmless as long as no paid row is on its third attempt. -/
def Event.orderly (w : World) : Event → Prop
  | .work op reply => op.orderly reply w
  | .crash => Waiting w []
  | _ => True

/-- One step of the sponsor in which no error or crash takes a paid row its outcome. -/
def Orderly (relayr : Relayr) (options : LaneOptions) (leaseSeconds : Nat) (s : System) (event : Event)
    (t : System) : Prop :=
  Sponsored relayr options leaseSeconds s event t ∧ event.orderly s.world

/-- Paid rows in every state of an orderly run, and what is left of the pass keeps it so. -/
structure PaidInvariant (relayr : Relayr) (s : System) : Prop where
  ledger : LedgerInvariant relayr s
  bounded : Bounded s.world.db
  idle : s.worker = none → Waiting s.world []
  safe : ∀ program, s.worker = some program → program.safe paidSetting (fun _ => Pending []) s.world

theorem PaidInvariant.holds (reliable : Reliable relayr) (invariant : PaidInvariant relayr s) : PaidHolds s.world where
  consistent := invariant.ledger.holds.consistent reliable
  nonempty := invariant.ledger.holds.nonempty
  attempts key row found := (invariant.bounded key row found).1
  owned key row found := (invariant.bounded key row found).2

theorem initial_paid (initial : s.Initial) : PaidInvariant relayr s where
  ledger := initial_ledger initial
  bounded key row found := by
    rw [initial.rows] at found
    cases found
  idle _ key row paid _ := by
    have found := paid.1
    rw [initial.rows] at found
    cases found
  safe program running := by
    rw [initial.idle] at running
    cases running

theorem RowsKept.waiting {a b : World} {claims : List (String × List Nat)} (kept : RowsKept a b)
    (waiting : Waiting a claims) : Waiting b claims := fun key row paid => waiting key row (kept.paidRow paid)

theorem outside_paid (invariant : PaidInvariant relayr s)
    (taken : Orderly relayr options leaseSeconds s event t) (outside : event.isWork = false) : PaidInvariant relayr t := by
  have kept := outside_kept taken.1.1 outside
  have bounded := (step_changes taken.1.1).bounded invariant.bounded
  have ledger := step_ledger invariant.ledger taken.1
  have goesOn : t.worker = s.worker → PaidInvariant relayr t := by
    intro same
    refine ⟨ledger, bounded, fun idle => ?_, fun program running => ?_⟩
    · exact kept.waiting (invariant.idle (same ▸ idle))
    · exact Program.safe_rely (invariant.safe program (same ▸ running)) (fun _ _ _ => kept) RowsKept.trans
        (fun _ pending => pending.stable kept)
  have stops : t.worker = none → Waiting t.world [] → PaidInvariant relayr t := by
    intro idle waiting
    refine ⟨ledger, bounded, fun _ => waiting, fun program running => ?_⟩
    rw [idle] at running
    cases running
  rcases (outside_cases taken.1.1 outside).2 with goes | ⟨stopped, same, halts⟩ | ⟨started, same, resting⟩
  · exact goesOn goes
  · refine stops stopped (same ▸ ?_)
    rcases halts with ⟨value, ended⟩ | rfl
    · exact (invariant.safe _ ended : Pending [] s.world).2
    · exact taken.2
  · refine ⟨ledger, bounded, by simp [started], fun program running => ?_⟩
    rw [started] at running
    cases running
    have pending : Pending [] t.world := ⟨by simp, same ▸ invariant.idle resting⟩
    refine Program.safe_mono (pending.runOnce (l := {})) fun result w ended => ?_
    obtain ⟨result, l⟩ := result
    cases result <;> exact ended

theorem work_due (reliable : Reliable relayr) (invariant : PaidInvariant relayr s) {op : Op} {reply : op.Reply}
    (taken : Orderly relayr options leaseSeconds s (.work op reply) t) : PaidDue op s.world := by
  obtain ⟨next, running, -⟩ := step_work taken.1.1
  exact (invariant.safe _ running s.world (.refl _) (invariant.holds reliable)).1

theorem step_paid (reliable : Reliable relayr) (invariant : PaidInvariant relayr s)
    (taken : Orderly relayr options leaseSeconds s event t) : PaidInvariant relayr t := by
  cases outside : event.isWork with
  | false => exact outside_paid invariant taken outside
  | true =>
    cases event with
    | work op reply =>
      have ledger := step_ledger invariant.ledger taken.1
      have bounded := (step_changes taken.1.1).bounded invariant.bounded
      obtain ⟨next, running, rfl⟩ := step_work taken.1.1
      obtain ⟨_, rest⟩ := invariant.safe _ running s.world (.refl _) (invariant.holds reliable)
      refine ⟨ledger, bounded, (by simp), fun program left => ?_⟩
      cases left
      exact rest reply taken.2
    | _ => cases outside

theorem run_paid {start : System} {events : List Event} (reliable : Reliable relayr) (initial : start.Initial)
    (run : Run (Orderly relayr options leaseSeconds) start events s) : PaidInvariant relayr s :=
  run.state_invariant (initial_paid initial) fun invariant taken => step_paid reliable invariant taken

/-- The step that failed the row: an update on a verdict, or the retirement of a row that waited for a day. -/
def FailedBy (s : System) (key : String × Nat) (row : IntentDeployRow) (event : Event) : Prop :=
  (∃ patch cause fate, event = .work (.query (.updateDeploy key.1 key.2 patch cause)) fate ∧ Verdict patch cause) ∨
    (∃ fate, event = .work (.query .retireWaiting) fate ∧ row.createdAt + dayMs < s.world.db.now)

section
variable {key : String × Nat} {row failed : IntentDeployRow}

theorem PaidRow.carries {w : World} (paid : PaidRow w key row) : row.bundleUuid.isSome = true := by
  obtain ⟨-, bundle, -, carried⟩ := paid
  simp [carried]

theorem open_not_failed (open_ : row.isOpen = true) : row.status ≠ .failed := by
  intro closed
  simp [IntentDeployRow.isOpen, closed] at open_

theorem mapValues_fails {db : Database} {f : String × Nat → IntentDeployRow → IntentDeployRow}
    (found : db.rows.get key = some row) (after : (db.rows.mapValues f).get key = some failed) : failed = f key row := by
  rw [OrderedMap.get_mapValues, found] at after
  exact (Option.some.inj after).symm

theorem query_fails {statement : Query} {next : Database} {value : statement.Result} {fate : Fate}
    (due : PaidDue (.query statement) s.world) (paid : PaidRow s.world key row) (open_ : row.isOpen = true)
    (ran : statement.run s.world.db = .ok (value, next)) (after : next.rows.get key = some failed)
    (closed : failed.status = .failed) : FailedBy s key row (.work (.query statement) fate) := by
  have stays := open_not_failed open_
  cases statement with
  | retireExhausted =>
    cases ran
    have made := mapValues_fails paid.1 after
    have few := (due key row paid open_).resolve_right (by simp)
    rw [if_neg (by simp [Nat.not_le.mpr few])] at made
    exact absurd (made ▸ closed) stays
  | retireWaiting =>
    cases ran
    have made := mapValues_fails paid.1 after
    split at made
    · next retired =>
      simp only [Bool.and_eq_true, decide_eq_true_eq] at retired
      exact .inr ⟨fate, rfl, retired.1.1.2⟩
    · exact absurd (made ▸ closed) stays
  | leaseQueued seconds limit =>
    cases ran
    have made := mapValues_fails paid.1 after
    rw [made] at closed
    split at closed <;> exact absurd closed stays
  | releaseClaim intentId chainIds =>
    cases ran
    have made := mapValues_fails paid.1 after
    rw [made] at closed
    split at closed <;> exact absurd closed stays
  | updateDeploy intentId chainId patch cause =>
    rcases Database.updateDeploy_ok (Query.run_updateDeploy ran) with ⟨_, _, rfl⟩ | ⟨before, found, _, rfl⟩
    · cases paid.1.symm.trans after
      exact absurd closed stays
    · simp only [OrderedMap.get_set] at after
      split at after
      · next same =>
        subst same
        cases paid.1.symm.trans found
        cases after
        cases written : patch.status with
        | none => exact absurd (by simpa [IntentDeployRow.patched, written] using closed) stays
        | some status =>
          have fails : patch.status = some .failed := by simpa [IntentDeployRow.patched, written] using closed
          exact .inl ⟨patch, cause, fate, rfl, (due fails).resolve_left fun unpaid => unpaid row paid⟩
      · cases paid.1.symm.trans after
        exact absurd closed stays
  | _ =>
    have kept := (run_kept rfl ran).2 key row paid.1 paid.carries
    cases kept.symm.trans after
    exact absurd closed stays

theorem step_fails (reliable : Reliable relayr) (invariant : PaidInvariant relayr s)
    (taken : Orderly relayr options leaseSeconds s event t) (paid : PaidRow s.world key row) (open_ : row.isOpen = true)
    (after : t.world.db.rows.get key = some failed) (closed : failed.status = .failed) : FailedBy s key row event := by
  have stays := open_not_failed open_
  have unchanged : t.world.db.rows.get key = some row → FailedBy s key row event := by
    intro kept
    cases kept.symm.trans after
    exact absurd closed stays
  cases outside : event.isWork with
  | false =>
    exact unchanged ((outside_kept taken.1.1 outside).rows key row paid.1 paid.carries)
  | true =>
    cases event with
    | work op reply =>
      have due := work_due reliable invariant taken
      obtain ⟨next, running, rfl⟩ := step_work taken.1.1
      cases op with
      | query statement =>
        rcases query_cases statement reply s.world with same | ⟨value, next, ran, made⟩
        · exact unchanged (by rw [same]; exact paid.1)
        · rw [made] at after
          exact query_fails due paid open_ ran after closed
      | external request =>
        cases request with
        | create intentId chainIds entries => cases reply <;> exact unchanged paid.1
        | _ => exact unchanged paid.1
      | mark point => exact unchanged paid.1
    | _ => cases outside

end

theorem sponsored_of_orderly {start : System} {events : List Event}
    (run : Run (Orderly relayr options leaseSeconds) start events s) :
    Run (Sponsored relayr options leaseSeconds) start events s :=
  run.mono And.left

/-- Definitive evidence only, over every orderly run: a paid row that is open fails on a verdict or after a day of
waiting, between two passes it can be claimed as soon as its lease ends, and it never loses its bundle. -/
theorem paid_fails_on_verdict (fresh : FreshBundles relayr) (follows : ExecutionFollowsPayment relayr)
    {start : System} {events : List Event} (initial : start.Initial)
    (run : Run (Orderly relayr options leaseSeconds) start events s) :
    (∀ {event t key row failed}, Orderly relayr options leaseSeconds s event t → PaidRow s.world key row →
      row.isOpen = true → t.world.db.rows.get key = some failed → failed.status = .failed → FailedBy s key row event) ∧
    (s.worker = none → ∀ key row, PaidRow s.world key row → row.isOpen = true → ∀ now, row.lapsed now = true →
      Database.claimable { s.world.db with now := now } key.1 row = true) ∧
    (∀ {later t}, Run (Orderly relayr options leaseSeconds) s later t → ∀ key row, PaidRow s.world key row →
      t.world.db.bundleOf key.1 key.2 = row.bundleUuid) := by
  have reliable : Reliable relayr := ⟨fresh, follows⟩
  have invariant := run_paid reliable initial run
  refine ⟨?_, ?_, ?_⟩
  · intro event t key row failed taken paid open_ after closed
    exact step_fails reliable invariant taken paid open_ after closed
  · intro idle key row paid open_ now lapsed
    have few := (invariant.idle idle key row paid open_).resolve_right (by simp)
    simp [Database.claimable, open_, lapsed, few, paid.carries]
  · intro later t onwards key row paid
    obtain ⟨found, bundle, -, carries⟩ := paid
    have carried : s.world.db.bundleOf key.1 key.2 = some bundle.bundleUuid := by
      rw [Database.bundleOf, found, Option.bind_some, carries]
    rw [carries]
    exact run_keeps reliable initial (sponsored_of_orderly run) (sponsored_of_orderly onwards) carried

/-- Errors are only caught around a whole claim. -/
def quietOutside : Outside
  | .mark (.caught .confirming _) => none
  | .mark (.escaped _ _ _) => none
  | op => sampleOutside op

theorem orderly_run {start : System} {events : List Event} (run : Run (Sponsored relayr options leaseSeconds) start events s)
    (quiet : ∀ event ∈ events, ∀ w, event.orderly w) : Run (Orderly relayr options leaseSeconds) start events s :=
  run.mono_events quiet fun taken quiet => ⟨taken, quiet _⟩

theorem quietOutside_orderly {op : Op} {reply : op.Reply} (answered : quietOutside op = some reply) (w : World) :
    op.orderly reply w := by
  cases op with
  | query statement =>
    cases answered
    cases statement <;> trivial
  | external request => trivial
  | mark point =>
    cases point with
    | caught site error =>
      cases site with
      | confirming => cases answered
      | claim => trivial
    | escaped intentId claimed error => cases answered
    | _ => trivial

theorem waitingPass_orderly : ∀ stage ∈ waitingPass quietOutside 10, stage.all (fun event => ∀ w, event.orderly w) := by
  intro stage member
  simp only [waitingPass, List.mem_cons, List.not_mem_nil, or_false] at member
  rcases member with rfl | rfl | rfl | rfl | rfl
  · exact fun _ => trivial
  · exact fun _ => trivial
  · exact fun op reply answered w => quietOutside_orderly answered w
  · intro op reply answered w
    cases op with
    | external request => trivial
    | query statement => exact quietOutside_orderly answered w
    | mark point => exact quietOutside_orderly answered w
  · exact fun _ => trivial

theorem paid_fails_on_verdict_sample : ∃ events s row, Run (Orderly honest sampleLane 1800) sampleStart events s ∧
    PaidRow s.world ("intent", 10) row ∧ Database.claimable { s.world.db with now := 300002 } "intent" row = true := by
  have played : (sampleStart.play sampleLane 1800 (waitingPass quietOutside 10)).map (fun s =>
      (s.worker.isNone, s.world.paid, s.world.db.rows.get ("intent", 10))) = some (true, [⟨sampleUuid, "intent", [10]⟩],
        some { requester := "browser", bundleUuid := some sampleUuid, error := some "RELAYR_UNAVAILABLE", reservedWei := 5,
               spentWei := 2, leaseUntil := some 300001, createdAt := 1 }) := by decide +kernel
  obtain ⟨s, ended, facts⟩ := Option.map_eq_some_iff.mp played
  obtain ⟨idle, facts⟩ := Prod.mk.inj facts
  obtain ⟨prepaid, found⟩ := Prod.mk.inj facts
  obtain ⟨events, run, quiet⟩ := play_all waitingPass_orderly ended
  have orderly := orderly_run run quiet
  have paid : PaidRow s.world ("intent", 10) _ := ⟨found, ⟨sampleUuid, "intent", [10]⟩, by simp [prepaid], rfl⟩
  have once := paid_fails_on_verdict honest_fresh honest_follows sampleStart_initial orderly
  exact ⟨events, s, _, orderly, paid, once.2.1 (by simpa using idle) _ _ paid rfl 300002 (by decide)⟩

/-- The launch of chain 10 is seen and verified, but its deployment cannot be stored. -/
def refusedOutside : Outside
  | .external (.status bundleUuid) => some (.ok (some (⟨some bundleUuid,
      some [some ⟨some "tx", some 10, none, none, some "hash"⟩]⟩ : StatusDocument)))
  | .query (.recordDeployment _ _ _) => some (.refused "error")
  | op => sampleOutside op

def refusedStages : List Stage :=
  [.event (.queueDeploys "intent" [10] "browser" 5 false), .event .start, .drive sampleOutside 25,
    .drive refusedOutside 8]

def System.statement (s : System) : Option Query :=
  match s.worker with
  | some (.call (.query statement) _) => some statement
  | _ => none

theorem statement_step {statement : Query} (next : s.statement = some statement) (fate : Fate) : ∃ t,
    Sponsored honest options leaseSeconds s (.work (.query statement) fate) t ∧
      t.world = (Op.perform (.query statement) fate s.world).2 := by
  unfold System.statement at next
  split at next
  · next statement rest running =>
    cases next
    exact ⟨_, ⟨work_taken running fate, trivial⟩, rfl⟩
  · cases next

/-- A store that refuses to record a verified launch fails the row, which stays paid for and is never followed again. -/
theorem confirming_fails_paid_row : ¬ ∀ (start s t : System) (events : List Event) (intentId : String) (chainId : Nat)
    (patch : DeployPatch) (error : Failure) (row failed : IntentDeployRow), start.Initial →
    Run (Sponsored honest sampleLane 1800) start events s →
    Sponsored honest sampleLane 1800 s (.work (.query (.updateDeploy intentId chainId patch (some error))) .served) t →
    PaidRow s.world (intentId, chainId) row → row.isOpen = true →
    t.world.db.rows.get (intentId, chainId) = some failed → failed.status = .failed →
    laneOutcome error true = .terminal := by
  intro definitive
  have played : (sampleStart.play sampleLane 1800 refusedStages).map (fun s =>
      (s.statement, s.world.paid, (s.world.db.rows.get ("intent", 10)).map (fun row => (row.bundleUuid, row.isOpen)))) =
        some (some (.updateDeploy "intent" 10
          { status := some .failed, transactionHash := some "hash", error := some "error: lane error" }
          (some (.other "error"))), [⟨sampleUuid, "intent", [10]⟩], some (some sampleUuid, true)) := by decide +kernel
  obtain ⟨s, ended, facts⟩ := Option.map_eq_some_iff.mp played
  obtain ⟨update, facts⟩ := Prod.mk.inj facts
  obtain ⟨prepaid, facts⟩ := Prod.mk.inj facts
  obtain ⟨row, found, facts⟩ := Option.map_eq_some_iff.mp facts
  obtain ⟨carries, open_⟩ := Prod.mk.inj facts
  obtain ⟨events, run⟩ := play_run ended
  obtain ⟨t, taken, world⟩ := statement_step update .served
  have paid : PaidRow s.world ("intent", 10) row := ⟨found, ⟨sampleUuid, "intent", [10]⟩, by simp [prepaid], carries⟩
  have terminal := definitive sampleStart s t events _ _ _ _ row (row.patched
    { status := some .failed, transactionHash := some "hash", error := some "error: lane error" })
    sampleStart_initial run taken paid open_ ?_ rfl
  · exact absurd terminal (by decide)
  · rw [world]
    simp [Op.perform, Query.perform, Query.run, Database.updateDeploy, found, Except.map]

end JBCenter.Sponsor
