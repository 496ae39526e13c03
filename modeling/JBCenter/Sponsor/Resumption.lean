import JBCenter.Sponsor.Grouping

/-! Which rows a lane call is made on. A claim takes the open rows of an intent whatever bundle they carry, and the
worker follows one bundle for all of them. `deploy` is only called on rows without a bundle; `resume` is called on rows
of its own bundle as long as the rows of an intent are opened together and the worker is never cut off while it
records a bundle. -/
namespace JBCenter.Sponsor

variable {options : LaneOptions} {leaseSeconds : Nat} {start s t : System} {event : Event}

/-- A queue request opens no row, the first rows of its intent, or, between two passes, rows beside which no open one
was ever claimed; and every statement of `report.bundle` is answered, with the bundle on its row. -/
def Event.whole (s : System) : Event → Bool
  | .queueDeploys intentId chainIds requester reserved retry =>
    chainIds.all (fun chainId => (s.world.db.queueRow intentId requester reserved retry chainId).isNone) ||
      (s.world.db.selectDeploys intentId).isEmpty ||
      (s.worker.isNone && (s.world.db.selectDeploys intentId).all (fun (_, row) => !row.isOpen || row.stamp = (none, none, 0)))
  | .work op reply => !op.records || (op.perform reply s.world).1.isOk
  | .crash => match s.worker with
    | some (.call op _) => !op.records
    | _ => true
  | _ => true

def Whole (options : LaneOptions) (leaseSeconds : Nat) (s : System) (event : Event) (t : System) : Prop :=
  s.step options leaseSeconds event = some t ∧ event.whole s = true

/-- Between two passes the open rows of every intent agree, and what is left of a pass leaves them so. -/
structure GroupInvariant (s : System) : Prop where
  ledger : LedgerInvariant anyRelayr s
  idle : s.worker = none → ∀ intentId, s.world.db.Alike intentId
  safe : ∀ program, s.worker = some program →
    program.safe grouping (fun _ w => ∀ intentId, w.db.Alike intentId) s.world

theorem initial_group (initial : start.Initial) : GroupInvariant start := by
  refine ⟨initial_ledger initial, fun _ intentId => ⟨(none, none, 0), fun chainId row found => ?_⟩, fun program running => ?_⟩
  · rw [initial.rows] at found
    cases found
  · rw [initial.idle] at running
    cases running

theorem not_known {db : Database} {intentId : String} (empty : (db.selectDeploys intentId).isEmpty = true) :
    ¬db.Known intentId := by
  rintro ⟨chainId, row, found⟩
  have listed := Database.mem_selectDeploys.mpr found
  rw [List.isEmpty_iff.mp empty] at listed
  cases listed

/-- Beside a pass rows are only retired or opened for a new intent; between two passes the open rows still agree. -/
theorem outside_aside (taken : Whole options leaseSeconds s event t) (outside : event.isWork = false) :
    Aside s.world.db t.world.db ∨ (s.worker = none ∧
      ((∀ intentId, s.world.db.Alike intentId) → ∀ intentId, t.world.db.Alike intentId)) := by
  rcases (outside_cases taken.1 outside).1 with ⟨intentId, chainIds, requester, reserved, retry, db, rfl, queued, made⟩ |
    ⟨_, _, _, db, _, recorded, made⟩ | ⟨_, _, made, _⟩
  · have whole := taken.2
    rw [made]
    simp only [Event.whole, Bool.or_eq_true, Bool.and_eq_true, Option.isNone_iff_eq_none, List.all_eq_true] at whole
    rcases whole with (closed | empty) | ⟨resting, unclaimed⟩
    · exact .inl (aside_queueDeploys queued (.inl closed))
    · exact .inl (aside_queueDeploys queued (.inr (not_known empty)))
    · refine .inr ⟨resting, alike_queueDeploys queued fun chainId row found isOpen => ?_⟩
      simpa [isOpen] using unclaimed _ (Database.mem_selectDeploys.mpr found)
  · exact .inl (made ▸ aside_recordDeployment recorded)
  · exact .inl (made ▸ aside_rows rfl)

/-- A worker that stops between two recordings leaves the open rows alike. -/
theorem stopped_alike (invariant : GroupInvariant s) (whole : event.whole s = true)
    (stops : (∃ value, s.worker = some (.done value)) ∨ event = .crash) : ∀ intentId, s.world.db.Alike intentId := by
  rcases stops with ⟨value, ended⟩ | rfl
  · exact invariant.safe _ ended
  · cases running : s.worker with
    | none => exact invariant.idle running
    | some program =>
      cases program with
      | done value => exact invariant.safe _ running
      | call op next =>
        obtain ⟨⟨alike, _⟩, _⟩ := invariant.safe _ running s.world (.refl _) invariant.ledger.holds.nonempty
        simp only [Event.whole, running, Bool.not_eq_true'] at whole
        exact alike.resolve_left (by simp [whole])

theorem outside_group (invariant : GroupInvariant s) (taken : Whole options leaseSeconds s event t)
    (outside : event.isWork = false) : GroupInvariant t := by
  have aside := outside_aside taken outside
  refine ⟨step_ledger invariant.ledger ⟨taken.1, anyRelayr_admitted⟩, ?_, ?_⟩
  · intro idle
    rcases (outside_cases taken.1 outside).2 with goes | ⟨_, same, stops⟩ | ⟨started, _, _⟩
    · have alike := invariant.idle (goes ▸ idle)
      exact aside.elim (fun aside intentId => aside.alike (alike intentId)) fun ⟨_, next⟩ => next alike
    · exact same ▸ stopped_alike invariant taken.2 stops
    · rw [started] at idle
      cases idle
  · intro program running
    rcases (outside_cases taken.1 outside).2 with goes | ⟨stopped, _, _⟩ | ⟨started, same, resting⟩
    · have before : s.worker = some program := goes ▸ running
      have aside := aside.resolve_right fun ⟨resting, _⟩ => by rw [resting] at before; cases before
      exact Program.safe_rely (invariant.safe program before) (fun _ _ _ => aside) Aside.trans
        (fun _ alike intentId => aside.alike (alike intentId))
    · rw [stopped] at running
      cases running
    · rw [started] at running
      cases running
      rw [same]
      refine Program.safe_mono (group_runOnce (l := {}) (invariant.idle resting)) fun result w alike => ?_
      obtain ⟨result, l⟩ := result
      cases result <;> exact alike

theorem step_group (invariant : GroupInvariant s) (taken : Whole options leaseSeconds s event t) : GroupInvariant t := by
  cases works : event.isWork with
  | false => exact outside_group invariant taken works
  | true =>
    cases event with
    | work op reply =>
      have ledger := step_ledger invariant.ledger ⟨taken.1, anyRelayr_admitted⟩
      obtain ⟨next, running, rfl⟩ := step_work taken.1
      obtain ⟨_, rest⟩ := invariant.safe _ running s.world (.refl _) invariant.ledger.holds.nonempty
      refine ⟨ledger, by simp, fun program left => ?_⟩
      cases left
      exact rest reply fun records => by simpa [Event.whole, records] using taken.2
    | _ => cases works

theorem run_group {events : List Event} (initial : start.Initial) (run : Run (Whole options leaseSeconds) start events s) :
    GroupInvariant s :=
  run.state_invariant (initial_group initial) fun invariant taken => step_group invariant taken

/-- In every run `deploy` is only called on rows without a bundle. In every run whose requests open the rows of an
intent together and whose recordings of a bundle succeed, `resume` is only called on rows of its own bundle. -/
theorem lane_calls_bound (initial : start.Initial) :
    (∀ {events s view chainIds reply t}, Run (fun s event t => s.step options leaseSeconds event = some t) start events s →
      s.step options leaseSeconds (.work (.mark (.deploy view chainIds)) reply) = some t →
      ∀ chainId ∈ chainIds, s.world.db.bundleOf view.intentId chainId = none) ∧
    (∀ {events s view chainIds bundleUuid reply t}, Run (Whole options leaseSeconds) start events s →
      s.step options leaseSeconds (.work (.mark (.resume view chainIds bundleUuid)) reply) = some t →
      ∀ chainId ∈ chainIds, s.world.db.bundleOf view.intentId chainId = some bundleUuid) := by
  refine ⟨?_, ?_⟩
  · intro events s view chainIds reply t run taken
    have sponsored : Run (Sponsored anyRelayr options leaseSeconds) start events s :=
      run.mono fun taken => ⟨taken, anyRelayr_admitted⟩
    exact run_due initial sponsored (⟨taken, anyRelayr_admitted⟩ : Sponsored anyRelayr options leaseSeconds s _ t)
  · intro events s view chainIds bundleUuid reply t run taken
    have invariant := run_group initial run
    obtain ⟨next, running, -⟩ := step_work taken
    exact (invariant.safe _ running s.world (.refl _) invariant.ledger.holds.nonempty).1.2

/-- The `resume` call the worker is at. -/
def System.resuming (s : System) : Option (ClaimView × List Nat × String) :=
  match s.worker with
  | some (.call (.mark (.resume view chainIds bundleUuid)) _) => some (view, chainIds, bundleUuid)
  | _ => none

theorem resuming_step {view : ClaimView} {chainIds : List Nat} {bundleUuid : String}
    (next : s.resuming = some (view, chainIds, bundleUuid)) :
    ∃ t, Sponsored honest options leaseSeconds s (.work (.mark (.resume view chainIds bundleUuid)) ()) t := by
  unfold System.resuming at next
  split at next
  · next view chainIds bundleUuid rest running =>
    cases next
    exact ⟨_, work_taken running (), trivial⟩
  · cases next

/-- A pass that prepays a bundle for one chain and cannot read its status: the row waits under its bundle. -/
def waitingPass (outside : Outside) (chainId : Nat) : List Stage :=
  let down : Outside
    | .external (.status _) => some (.error (.rest "RELAYR_UNAVAILABLE"))
    | op => outside op
  [.event (.queueDeploys "intent" [chainId] "browser" 5 false), .event .start, .drive outside 25, .drive down 6,
    .event .finish]

def otherUuid : String := "00000000-0000-0000-0000-00000000000b"

def otherOutside : Outside
  | .external (.create _ _ _) => some (.ok (⟨otherUuid, ""⟩ : QuoteDocument))
  | op => sampleOutside op

/-- A later pass, at its lane call. -/
def nextPass : List Stage := [.event (.tick 400000), .event .start, .drive sampleOutside 7]

/-- Takes whole steps only, each chosen in the state it is taken in. -/
def System.follow (options : LaneOptions) (leaseSeconds : Nat) : List (System → Option Event) → System → Option System
  | [], s => some s
  | choose :: rest, s => do
    let event ← choose s
    if event.whole s then (← s.step options leaseSeconds event).follow options leaseSeconds rest else none

def answering (outside : Outside) (s : System) : Option Event :=
  match s.worker with
  | some (.call op _) => (outside op).map (.work op)
  | _ => none

theorem follow_run {choices : List (System → Option Event)} (followed : s.follow options leaseSeconds choices = some t) :
    ∃ events, Run (Whole options leaseSeconds) s events t := by
  induction choices generalizing s with
  | nil =>
    cases followed
    exact ⟨[], .nil⟩
  | cons choose rest ih =>
    obtain ⟨event, _, followed⟩ := some_bind followed
    split at followed
    · next whole =>
      obtain ⟨middle, taken, followed⟩ := some_bind followed
      obtain ⟨events, run⟩ := ih followed
      exact ⟨_, (Run.nil.snoc ⟨taken, whole⟩).append run⟩
    · cases followed

/-- Two chains queued together are prepaid as one bundle whose status cannot be read; the next pass is at its lane call. -/
def togetherChoices : List (System → Option Event) :=
  let down : Outside
    | .external (.status _) => some (.error (.rest "RELAYR_UNAVAILABLE"))
    | op => sampleOutside op
  [fun _ => some (.queueDeploys "intent" [10, 8453] "browser" 5 false), fun _ => some .start] ++
    List.replicate 29 (answering sampleOutside) ++ List.replicate 9 (answering down) ++
    [fun _ => some .finish, fun _ => some (.tick 400000), fun _ => some .start] ++
    List.replicate 7 (answering sampleOutside)

theorem lane_calls_bound_sample : ∃ events s t, Run (Whole sampleLane 1800) sampleStart events s ∧
    s.step sampleLane 1800 (.work (.mark (.resume ⟨"intent", [10, 8453], []⟩ [10, 8453] sampleUuid)) ()) = some t ∧
    ∀ chainId ∈ [10, 8453], s.world.db.bundleOf "intent" chainId = some sampleUuid := by
  have followed : (sampleStart.follow sampleLane 1800 togetherChoices).map System.resuming =
      some (some (⟨"intent", [10, 8453], []⟩, [10, 8453], sampleUuid)) := by decide +kernel
  obtain ⟨s, ended, next⟩ := Option.map_eq_some_iff.mp followed
  obtain ⟨events, run⟩ := follow_run ended
  obtain ⟨t, taken, _⟩ := resuming_step next
  exact ⟨events, s, t, run, taken, (lane_calls_bound sampleStart_initial).2 run taken⟩

/-- Two chains queued one after the other are prepaid as two bundles; once both wait, one claim takes both rows
and follows the first bundle for both. -/
theorem resume_mixes_bundles : ¬ ∀ (start s t : System) (events : List Event) (view : ClaimView) (chainIds : List Nat)
    (bundleUuid : String), start.Initial → Run (Sponsored honest sampleLane 1800) start events s →
    Sponsored honest sampleLane 1800 s (.work (.mark (.resume view chainIds bundleUuid)) ()) t →
    ∀ chainId ∈ chainIds, s.world.db.bundleOf view.intentId chainId = some bundleUuid := by
  intro bound
  have played : (sampleStart.play sampleLane 1800
      (waitingPass sampleOutside 10 ++ waitingPass otherOutside 8453 ++ nextPass)).map (fun s =>
        (s.resuming, s.world.db.bundleOf "intent" 8453)) =
          some (some (⟨"intent", [10, 8453], []⟩, [10, 8453], sampleUuid), some otherUuid) := by decide +kernel
  obtain ⟨s, ended, facts⟩ := Option.map_eq_some_iff.mp played
  obtain ⟨events, run⟩ := play_run ended
  obtain ⟨t, taken⟩ := resuming_step (congrArg Prod.fst facts)
  have same := bound sampleStart s t events _ _ _ sampleStart_initial run taken 8453 (by simp)
  have held : s.world.db.bundleOf "intent" 8453 = some otherUuid := congrArg Prod.snd facts
  have clash := held.symm.trans same
  revert clash
  decide

end JBCenter.Sponsor
