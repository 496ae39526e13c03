import JBCenter.Sponsor.Budgets

/-! Admissions to the deploy queue over whole runs of the site: requests at any place, the worker, wallets and
both clocks. The budget is kept by runs in which nothing is charged between a comparison and its queueing, and
two requests that compare at the same time break it. -/
namespace JBCenter.Sponsor

variable {options : LaneOptions} {leaseSeconds : Nat} {policy : SponsorPolicy} {client : String}

section
variable {s t : Site} {sponsor : System} {event : Event}

variable {requester : Option String}

theorem sponsor_unraised (taken : s.sponsor.step options leaseSeconds event = some sponsor)
    (queues : ∀ intentId chainIds asking reserved retry, event ≠ .queueDeploys intentId chainIds asking reserved retry)
    (spared : Spared requester (SiteEvent.charged s (.sponsor event))) :
    Unraised requester s.sponsor.world.db sponsor.world.db := by
  cases works : event.isWork with
  | true =>
    cases event with
    | work op reply =>
      obtain ⟨next, -, rfl⟩ := step_work taken
      cases op with
      | external request =>
        rw [show (Op.perform (.external request) reply s.sponsor.world).2.db = _ from External.perform_db reply _]
        exact .refl _ _
      | mark point => exact .refl _ _
      | query statement =>
        rcases query_cases statement reply s.sponsor.world with same | ⟨value, next, ran, made⟩
        · rw [same]
          exact .refl _ _
        · rw [made]
          cases reply with
          | served => exact run_unraised spared ran
          | lost name => exact run_unraised spared ran
          | refused name =>
            have unchanged : next = s.sponsor.world.db := (congrArg World.db made).symm
            rw [unchanged]
            exact .refl _ _
    | _ => cases works
  | false =>
    rcases (outside_cases taken works).1 with ⟨_, _, _, _, _, _, rfl, _⟩ | ⟨_, _, _, db, _, recorded, made⟩ | ⟨_, _, made, _⟩
    · exact absurd rfl (queues _ _ _ _ _)
    · exact made ▸ unraised_recordDeployment recorded
    · exact made ▸ unraised_of_rows rfl

theorem sponsor_unspent (ledger : LedgerInvariant anyRelayr s.sponsor) (unspent : Unspent s.sponsor.world.db)
    (taken : s.sponsor.step options leaseSeconds event = some sponsor) : Unspent sponsor.world.db := by
  refine (step_rewrites taken ?_).unspent unspent
  rintro op reply key patch rfl updates
  obtain ⟨next, running, -⟩ := step_work taken
  obtain ⟨due, -⟩ := ledger.safe _ running s.sponsor.world (.refl _) ledger.holds
  unfold Op.update at updates
  split at updates
  · cases updates
    exact due.2
  · cases updates

theorem RouteOp.perform_db (op : RouteOp) (reply : op.Reply) (store : Store) :
    (op.perform reply store).2.db = store.db ∨ ∃ intentId chainIds asking reserved retry,
      op = .queueDeploys intentId chainIds asking reserved retry ∧ (op.fate reply).commits = true ∧
        store.db.queueDeploys intentId chainIds asking reserved retry = .ok (op.perform reply store).2.db := by
  have stays : (∀ value next, op.run store = .ok (value, next) → next.db = store.db) →
      (op.perform reply store).2.db = store.db := by
    intro kept
    unfold RouteOp.perform
    cases ran : op.run store with
    | error error => cases op.fate reply <;> rfl
    | ok result => cases op.fate reply <;> first | exact kept _ _ ran | rfl
  cases op with
  | queueDeploys intentId chainIds asking reserved retry =>
    unfold RouteOp.perform
    cases queued : store.db.queueDeploys intentId chainIds asking reserved retry with
    | error error => cases reply <;> exact .inl (by simp [RouteOp.fate, RouteOp.run, queued, Except.map])
    | ok db =>
      cases reply with
      | refused name => exact .inl rfl
      | served => exact .inr ⟨_, _, _, _, _, rfl, rfl, by simp [RouteOp.fate, RouteOp.run, queued, Except.map]⟩
      | lost name => exact .inr ⟨_, _, _, _, _, rfl, rfl, by simp [RouteOp.fate, RouteOp.run, queued, Except.map]⟩
  | now => exact .inl (stays fun _ _ ran => by cases ran; rfl)
  | selectIntent | selectDeployments | selectDeploys => exact .inl (stays fun _ _ ran => by cases ran; rfl)
  | sponsoredWeiSince since requester => exact .inl (stays fun _ _ ran => by cases ran; rfl)
  | consumeRequest key limit windowSeconds => exact .inl (stays fun _ _ ran => by cases ran; rfl)

theorem queueDeploys_spares {db next : Database} {intentId asking : String} {chainIds : List Nat} {reserved : Nat}
    {retry : Bool} (unspent : Unspent db) (spared : Spared requester (some asking))
    (queued : db.queueDeploys intentId chainIds asking reserved retry = .ok next) : Unraised requester db next := by
  intro since
  have added : next.sponsoredWeiSince since requester ≤ db.sponsoredWeiSince since requester +
      chainIds.length * reservationOf asking reserved requester := sponsoredWeiSince_queueDeploys unspent queued
  cases requester with
  | none => cases spared
  | some name =>
    have other : ¬ (name == asking) = true := by
      rw [beq_iff_eq]
      exact fun same => spared (congrArg some same.symm)
    rw [reservationOf, Option.all_some, if_neg other, Nat.mul_zero, Nat.add_zero] at added
    exact added

theorem RouteOp.perform_clock (op : RouteOp) (reply : op.Reply) (store : Store) :
    (op.perform reply store).2.clock = store.clock := by
  have kept : ∀ value next, op.run store = .ok (value, next) → next.clock = store.clock := by
    intro value next ran
    cases op with
    | queueDeploys intentId chainIds asking reserved retry =>
      simp only [RouteOp.run] at ran
      cases queued : store.db.queueDeploys intentId chainIds asking reserved retry with
      | error error => rw [queued] at ran; cases ran
      | ok db => rw [queued] at ran; cases ran; rfl
    | _ => cases ran; rfl
  unfold RouteOp.perform
  cases ran : op.run store with
  | error error => cases op.fate reply <;> rfl
  | ok result => cases op.fate reply <;> first | exact kept _ _ ran | rfl

variable {index : Nat} {op : RouteOp}

theorem serve_cases {reply : op.Reply}
    (taken : s.step options leaseSeconds (.serve index op reply) = some t) :
    ∃ request next, s.requests[index]? = some ⟨request, .call op next⟩ ∧
      t = { s.commit (op.perform reply s.store).2 with
        requests := s.requests.set index ⟨request, next (op.perform reply s.store).1⟩ } := by
  simp only [Site.step] at taken
  split at taken
  · next request current next found =>
    split at taken
    · next same =>
      subst same
      cases taken
      exact ⟨request, next, found, rfl⟩
    · cases taken
  · cases taken

variable {request : DeployRequest} {next : Except RouteFailure op.Result →
  Program RouteOp RouteFailure RouteOp.Result (Except RouteFailure DeployResponse × Unit)}

theorem serve_taken (found : s.requests[index]? = some ⟨request, .call op next⟩) (reply : op.Reply) :
    s.step options leaseSeconds (.serve index op reply) = some { s.commit (op.perform reply s.store).2 with
      requests := s.requests.set index ⟨request, next (op.perform reply s.store).1⟩ } := by
  simp [Site.step, found]

theorem unraced_spares {event : SiteEvent} (unraced : s.unraced event = true)
    (found : s.requests[index]? = some ⟨request, .call op next⟩) (other : event.serves ≠ some index) :
    (op.pastTotal = true → Spared none (event.charged s)) ∧
      (op.pastSlice request.client = true → Spared (some mcpClient) (event.charged s)) := by
  have listed : ((⟨request, .call op next⟩ : InFlight), index) ∈ s.requests.zipIdx :=
    List.mk_mem_zipIdx_iff_getElem?.mpr found
  have clear := List.all_eq_true.mp unraced _ listed
  simp only [Bool.or_eq_true, beq_iff_eq, InFlight.undisturbed, Bool.and_eq_true, Bool.not_eq_true', bne_iff_ne] at clear
  obtain ⟨total, slice⟩ := clear.resolve_left other
  refine ⟨fun past => ?_, fun past => ?_⟩
  · exact Option.isNone_iff_eq_none.mp (total.resolve_left (by simp [past]))
  · exact slice.resolve_left (by simp [past])

/-- The ledger holds, nothing is spent without a bundle, and every request will compare before it queues. -/
structure BudgetInvariant (options : LaneOptions) (s : Site) : Prop where
  ledger : LedgerInvariant anyRelayr s.sponsor
  unspent : Unspent s.sponsor.world.db
  careful : ∀ request ∈ s.requests, request.program.safe (routeSetting options.policy request.request.client)
    (fun _ _ => True) s.store

theorem initial_budget (initial : s.Initial) : BudgetInvariant options s where
  ledger := initial_ledger initial.sponsor
  unspent key row found := by
    rw [initial.sponsor.rows] at found
    cases found
  careful request member := by
    rw [initial.requests] at member
    cases member

theorem rely_trans {a b c : Store} (first : (routeSetting policy client).rely op a b)
    (second : (routeSetting policy client).rely op b c) : (routeSetting policy client).rely op a c :=
  ⟨Nat.le_trans first.1 second.1, fun past => (first.2.1 past).trans (second.2.1 past),
    fun past => (first.2.2 past).trans (second.2.2 past)⟩

theorem careful_after {event : SiteEvent} {request : InFlight} (invariant : BudgetInvariant options s)
    (unraced : s.unraced event = true) (found : s.requests[index]? = some request) (other : event.serves ≠ some index)
    (later : s.clock ≤ t.clock) (unraised : ∀ requester, Spared requester (event.charged s) →
      Unraised requester s.sponsor.world.db t.sponsor.world.db) :
    request.program.safe (routeSetting options.policy request.request.client) (fun _ _ => True) t.store := by
  refine Program.safe_rely (invariant.careful request (List.mem_of_getElem? found)) (fun op next stands => ?_)
    rely_trans (fun _ => id)
  obtain ⟨asked, program⟩ := request
  cases stands
  obtain ⟨total, slice⟩ := unraced_spares unraced found other
  exact ⟨later, fun past => unraised none (total past), fun past => unraised (some mcpClient) (slice past)⟩

theorem sponsor_cases (taken : s.step options leaseSeconds (.sponsor event) = some t) :
    (∀ intentId chainIds asking reserved retry, event ≠ .queueDeploys intentId chainIds asking reserved retry) ∧
      ∃ sponsor, s.sponsor.step options leaseSeconds event = some sponsor ∧ t = { s with sponsor } := by
  cases event with
  | queueDeploys intentId chainIds asking reserved retry => cases taken
  | _ =>
    simp only [Site.step] at taken
    obtain ⟨sponsor, stepped, made⟩ := Option.map_eq_some_iff.mp taken
    exact ⟨by simp, sponsor, stepped, made.symm⟩

theorem serve_store (op : RouteOp) (reply : op.Reply) {requests : List InFlight} :
    (op.perform reply s.store).2 = Site.store { s.commit (op.perform reply s.store).2 with requests } := by
  have clock := op.perform_clock reply s.store
  generalize (op.perform reply s.store).2 = store at clock
  obtain ⟨db, quotas, now⟩ := store
  cases clock
  rfl

theorem serve_unraised {reply : op.Reply}
    (unspent : Unspent s.sponsor.world.db) (spared : Spared requester (SiteEvent.charged s (.serve index op reply))) :
    Unraised requester s.sponsor.world.db (op.perform reply s.store).2.db := by
  rcases op.perform_db reply s.store with same | ⟨intentId, chainIds, asking, reserved, retry, rfl, commits, queued⟩
  · rw [same]
    exact .refl _ _
  · refine queueDeploys_spares unspent ?_ queued
    have charged : SiteEvent.charged s (.serve index (.queueDeploys intentId chainIds asking reserved retry) reply) =
        some asking := if_pos commits
    rwa [charged] at spared

theorem serve_ledger {reply : op.Reply} (invariant : BudgetInvariant options s) :
    LedgerInvariant anyRelayr (s.commit (op.perform reply s.store).2).sponsor ∧
      Unspent (op.perform reply s.store).2.db := by
  unfold Site.commit
  rcases op.perform_db reply s.store with same | ⟨intentId, chainIds, asking, reserved, retry, rfl, _, queued⟩
  · rw [same]
    exact ⟨invariant.ledger, invariant.unspent⟩
  · refine ⟨?_, (rewrites_queueDeploys queued).unspent invariant.unspent⟩
    generalize (RouteOp.perform _ reply s.store).2.db = db at queued
    have taken : s.sponsor.step options 0 (.queueDeploys intentId chainIds asking reserved retry) =
        some { s.sponsor with world := { s.sponsor.world with db } } := by
      rw [System.step, show s.sponsor.world.db.queueDeploys intentId chainIds asking reserved retry = .ok db from queued]
      rfl
    exact step_ledger invariant.ledger ⟨taken, anyRelayr_admitted⟩

theorem step_budget {event : SiteEvent} (invariant : BudgetInvariant options s)
    (taken : s.Step options leaseSeconds Site.unraced event t) : BudgetInvariant options t := by
  obtain ⟨stepped, unraced⟩ := taken
  cases event with
  | sponsor event =>
    obtain ⟨queues, sponsor, took, rfl⟩ := sponsor_cases stepped
    refine ⟨step_ledger invariant.ledger ⟨took, anyRelayr_admitted⟩,
      sponsor_unspent invariant.ledger invariant.unspent took, fun request member => ?_⟩
    obtain ⟨index, found⟩ := List.getElem?_of_mem member
    exact careful_after invariant unraced found (by simp [SiteEvent.serves]) (Nat.le_refl _)
      fun _ spared => sponsor_unraised took queues spared
  | tick elapsed =>
    cases stepped
    refine ⟨invariant.ledger, invariant.unspent, fun request member => ?_⟩
    obtain ⟨index, found⟩ := List.getElem?_of_mem member
    exact careful_after invariant unraced found (by simp [SiteEvent.serves]) (Nat.le_add_right _ _)
      fun _ _ => .refl _ _
  | arrive request =>
    cases stepped
    refine ⟨invariant.ledger, invariant.unspent, fun other member => ?_⟩
    rcases List.mem_append.mp member with before | new
    · exact invariant.careful other before
    · cases List.mem_singleton.mp new
      exact Program.safe_mono safe_handle fun _ _ _ => trivial
  | serve index op reply =>
    obtain ⟨request, next, found, rfl⟩ := serve_cases stepped
    have kept : LedgerInvariant anyRelayr (s.commit (op.perform reply s.store).2).sponsor ∧
      Unspent (op.perform reply s.store).2.db := serve_ledger invariant
    obtain ⟨ledger, unspent⟩ := kept
    refine ⟨ledger, unspent, fun other member => ?_⟩
    obtain ⟨place, held⟩ := List.getElem?_of_mem member
    by_cases same : place = index
    · subst same
      rw [List.getElem?_set_self (List.getElem?_eq_some_iff.mp found).1] at held
      cases held
      have own := invariant.careful _ (List.mem_of_getElem? found) s.store
        ⟨Nat.le_refl _, fun _ => .refl _ _, fun _ => .refl _ _⟩ trivial
      have rest := own.2 reply trivial
      rwa [show (routeSetting options.policy request.client).perform op reply s.store = op.perform reply s.store from rfl,
        serve_store op reply] at rest
    · have kept : s.requests[place]? = some other := by
        rwa [List.getElem?_set_ne (Ne.symm same)] at held
      exact careful_after invariant unraced kept (by simpa [SiteEvent.serves] using Ne.symm same) (Nat.le_refl _)
        fun _ spared => serve_unraised invariant.unspent spared

theorem run_budget {start : Site} {events : List SiteEvent} (initial : start.Initial)
    (run : Run (Site.Step options leaseSeconds Site.unraced) start events s) : BudgetInvariant options s :=
  run.state_invariant (initial_budget initial) fun invariant taken => step_budget invariant taken

theorem fits_after {store : Store} {db : Database} {intentId requester : String} {chainIds : List Nat} {reserved : Nat}
    {retry : Bool} (unspent : Unspent store.db) (fits : Fits policy requester (chainIds.length * reserved) store)
    (queued : store.db.queueDeploys intentId chainIds requester reserved retry = .ok db) :
    db.sponsoredWeiSince (store.clock - dayMs) none ≤ policy.dailyBudgetWei ∧ (requester = mcpClient →
      db.sponsoredWeiSince (store.clock - dayMs) (some mcpClient) ≤ policy.mcpDailyBudgetWei) := by
  have added : ∀ whose, db.sponsoredWeiSince (store.clock - dayMs) whose ≤
      store.db.sponsoredWeiSince (store.clock - dayMs) whose + chainIds.length * reserved := by
    intro whose
    refine Nat.le_trans (sponsoredWeiSince_queueDeploys unspent queued) (Nat.add_le_add_left ?_ _)
    refine Nat.mul_le_mul_left _ ?_
    unfold reservationOf
    split
    · exact Nat.le_refl _
    · exact Nat.zero_le _
  exact ⟨Nat.le_trans (added none) fits.1, fun mcp => Nat.le_trans (added (some mcpClient)) (fits.2 mcp)⟩

/-- The daily budget over every run in which no request is raced: when a request queues its rows, the rows of the day
count for at most the budget, and those of the MCP for at most its slice. -/
theorem admitted_within_budget {start : Site} {events : List SiteEvent} (initial : start.Initial)
    (run : Run (Site.Step options leaseSeconds Site.unraced) start events s) {index : Nat} {intentId requester : String}
    {chainIds : List Nat} {reserved : Nat} {retry : Bool} {fate : Fate}
    (taken : s.Step options leaseSeconds Site.unraced
      (.serve index (.queueDeploys intentId chainIds requester reserved retry) fate) t) :
    t.store.db.sponsoredWeiSince (t.store.clock - dayMs) none ≤ options.policy.dailyBudgetWei ∧
    (requester = mcpClient →
      t.store.db.sponsoredWeiSince (t.store.clock - dayMs) (some mcpClient) ≤ options.policy.mcpDailyBudgetWei) := by
  have invariant := run_budget initial run
  obtain ⟨request, next, found, rfl⟩ := serve_cases taken.1
  have own := invariant.careful _ (List.mem_of_getElem? found) s.store
    ⟨Nat.le_refl _, fun _ => .refl _ _, fun _ => .refl _ _⟩ trivial
  rw [← serve_store (.queueDeploys intentId chainIds requester reserved retry) fate,
    RouteOp.perform_clock (.queueDeploys intentId chainIds requester reserved retry) fate s.store]
  rcases RouteOp.perform_db (.queueDeploys intentId chainIds requester reserved retry) fate s.store with
    same | ⟨_, _, _, _, _, same, _, queued⟩
  · rw [same]
    exact ⟨Nat.le_trans (Nat.le_add_right _ _) own.1.2.1,
      fun mcp => Nat.le_trans (Nat.le_add_right _ _) (own.1.2.2 mcp)⟩
  · cases same
    exact fits_after invariant.unspent own.1.2 queued

end

/-- Every statement of a request is served. -/
def RouteOp.served : (op : RouteOp) → op.Reply
  | .now => ()
  | .selectIntent _ => Fate.served
  | .selectDeployments _ => Fate.served
  | .selectDeploys _ => Fate.served
  | .sponsoredWeiSince _ _ => Fate.served
  | .consumeRequest _ _ _ => Fate.served
  | .queueDeploys _ _ _ _ _ => Fate.served

/-- A request performs its next statements, as far as the guard lets it. -/
def Site.drive (guard : Site → SiteEvent → Bool) (index : Nat) : Nat → Site → Option Site
  | 0, s => some s
  | steps + 1, s => match s.requests[index]? with
    | some ⟨request, .call op next⟩ =>
      if guard s (.serve index op op.served) then
        Site.drive guard index steps { s.commit (op.perform op.served s.store).2 with
          requests := s.requests.set index ⟨request, next (op.perform op.served s.store).1⟩ }
      else none
    | _ => none

theorem Site.drive_run {guard : Site → SiteEvent → Bool} {steps : Nat} {s t : Site}
    (driven : s.drive guard index steps = some t) :
    ∃ events, Run (Site.Step options leaseSeconds guard) s events t := by
  induction steps generalizing s with
  | zero =>
    cases driven
    exact ⟨[], .nil⟩
  | succ steps ih =>
    unfold Site.drive at driven
    split at driven
    · next request op next found =>
      split at driven
      · next passes =>
        obtain ⟨events, rest⟩ := ih driven
        exact ⟨_, (Run.nil.snoc ⟨serve_taken found op.served, passes⟩).append rest⟩
      · cases driven
    · cases driven

def sampleIntent (last : String) : String := "00000000-0000-1000-8000-00000000000" ++ last

def budgetLane : LaneOptions := { sampleLane with
  policy := { sampleLane.policy with dailyBudgetWei := 150000000000000, mcpDailyBudgetWei := 120000000000000 } }

/-- Two intents of one chain each; the budget covers one of them. -/
def budgetStart : Site where
  sponsor := { sampleStart with world := { sampleStart.world with db := { sampleStart.world.db with
    intents := (OrderedMap.empty.set (sampleIntent "a") ⟨"6", [10], [⟨10, "deployer", "launch"⟩]⟩).set (sampleIntent "b")
      ⟨"6", [8453], [⟨8453, "deployer", "launch"⟩]⟩ } } }
  quotas := .empty
  clock := dayMs
  requests := []

theorem budgetStart_initial : budgetStart.Initial := ⟨⟨rfl, rfl, rfl, rfl⟩, rfl⟩

def sampleRequest (last : String) : DeployRequest := ⟨sampleIntent last, .object none, "browser"⟩

/-- The statement a request stands at. -/
def Site.standing (s : Site) (index : Nat) : Option RouteOp :=
  match s.requests[index]? with
  | some ⟨_, .call op _⟩ => some op
  | _ => none

theorem standing_step {s : Site} (stands : s.standing index = some op) (reply : op.Reply) :
    ∃ t, s.step options leaseSeconds (.serve index op reply) = some t ∧ t.store = (op.perform reply s.store).2 := by
  unfold Site.standing at stands
  split at stands
  · next request op next found =>
    cases stands
    exact ⟨_, serve_taken found reply, (serve_store op reply).symm⟩
  · cases stands

inductive Turn where
  | arrive (request : DeployRequest)
  | drive (index steps : Nat)

def Site.play (options : LaneOptions) (guard : Site → SiteEvent → Bool) : List Turn → Site → Option Site
  | [], s => some s
  | .arrive request :: rest, s =>
    if guard s (.arrive request) then s.step options 1800 (.arrive request) >>= Site.play options guard rest else none
  | .drive index steps :: rest, s => s.drive guard index steps >>= Site.play options guard rest

theorem Site.play_run {guard : Site → SiteEvent → Bool} {turns : List Turn} {s t : Site}
    (played : s.play options guard turns = some t) : ∃ events, Run (Site.Step options 1800 guard) s events t := by
  induction turns generalizing s with
  | nil =>
    cases played
    exact ⟨[], .nil⟩
  | cons turn rest ih =>
    cases turn with
    | arrive request =>
      simp only [Site.play] at played
      split at played
      · next passes =>
        obtain ⟨middle, taken, played⟩ := some_bind played
        obtain ⟨events, onwards⟩ := ih played
        exact ⟨_, (Run.nil.snoc ⟨taken, passes⟩).append onwards⟩
      · cases played
    | drive index steps =>
      obtain ⟨middle, driven, played⟩ := some_bind played
      obtain ⟨earlier, first⟩ := Site.drive_run driven
      obtain ⟨later, onwards⟩ := ih played
      exact ⟨_, first.append onwards⟩

/-- One request, up to the statement that queues its row. -/
def singleTurns : List Turn := [.arrive (sampleRequest "a"), .drive 0 6]

/-- Two requests that both compare before either queues. -/
def racingTurns : List Turn :=
  [.arrive (sampleRequest "a"), .arrive (sampleRequest "b"), .drive 0 6, .drive 1 6, .drive 0 1]

/-- The reservation of one launch call. -/
def sampleReservation : Nat := 100000000000010

theorem admitted_within_budget_sample : ∃ events s t, Run (Site.Step budgetLane 1800 Site.unraced) budgetStart events s ∧
    s.Step budgetLane 1800 Site.unraced
      (.serve 0 (.queueDeploys (sampleIntent "a") [10] "browser" sampleReservation false) Fate.served) t ∧
    t.store.db.sponsoredWeiSince (t.store.clock - dayMs) none ≤ 150000000000000 := by
  have played : (budgetStart.play budgetLane Site.unraced singleTurns).map (fun s => (s.standing 0,
      s.unraced (.serve 0 (.queueDeploys (sampleIntent "a") [10] "browser" sampleReservation false) Fate.served))) =
        some (some (.queueDeploys (sampleIntent "a") [10] "browser" sampleReservation false), true) := by decide +kernel
  obtain ⟨s, ended, facts⟩ := Option.map_eq_some_iff.mp played
  obtain ⟨stands, unraced⟩ := Prod.mk.inj facts
  obtain ⟨events, run⟩ := Site.play_run ended
  obtain ⟨t, taken, -⟩ := standing_step stands Fate.served
  exact ⟨events, s, t, run, ⟨taken, unraced⟩, (admitted_within_budget budgetStart_initial run ⟨taken, unraced⟩).1⟩

/-- Both requests find the budget unspent and both are admitted. -/
theorem racing_requests_overspend : ¬ ∀ (start s t : Site) (events : List SiteEvent) (index : Nat)
    (intentId requester : String) (chainIds : List Nat) (reserved : Nat) (retry : Bool) (fate : Fate), start.Initial →
    Run (Site.Step budgetLane 1800 (fun _ _ => true)) start events s →
    s.Step budgetLane 1800 (fun _ _ => true)
      (.serve index (.queueDeploys intentId chainIds requester reserved retry) fate) t →
    t.store.db.sponsoredWeiSince (t.store.clock - dayMs) none ≤ budgetLane.policy.dailyBudgetWei := by
  intro kept
  have played : (budgetStart.play budgetLane (fun _ _ => true) racingTurns).map (fun s => (s.standing 1,
      (RouteOp.perform (.queueDeploys (sampleIntent "b") [8453] "browser" sampleReservation false) Fate.served
        s.store).2.db.sponsoredWeiSince 0 none, s.store.clock)) =
        some (some (.queueDeploys (sampleIntent "b") [8453] "browser" sampleReservation false),
          2 * sampleReservation, dayMs) := by decide +kernel
  obtain ⟨s, ended, facts⟩ := Option.map_eq_some_iff.mp played
  obtain ⟨stands, facts⟩ := Prod.mk.inj facts
  obtain ⟨total, clock⟩ := Prod.mk.inj facts
  obtain ⟨events, run⟩ := Site.play_run ended
  obtain ⟨t, taken, after⟩ := standing_step stands Fate.served
  have within := kept budgetStart s t events 1 _ _ _ _ _ Fate.served budgetStart_initial run ⟨taken, rfl⟩
  have same := RouteOp.perform_clock (.queueDeploys (sampleIntent "b") [8453] "browser" sampleReservation false)
    Fate.served s.store
  rw [after, same, clock, Nat.sub_self, total] at within
  revert within
  decide

end JBCenter.Sponsor
