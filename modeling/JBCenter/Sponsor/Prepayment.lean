import JBCenter.Base.Runs
import JBCenter.Sponsor.Claims

/-! Runs of the sponsor. Every operation the worker performs meets what is due for it, whatever the requests,
the wallets, the clock and crashes do in between, so the ledger holds in every state a run reaches. -/
namespace JBCenter.Sponsor

variable {relayr : Relayr} {options : LaneOptions} {leaseSeconds : Nat} {s t : System} {event : Event}

def Event.admitted (relayr : Relayr) (w : World) : Event → Prop
  | .work op reply => Admitted relayr op reply w
  | _ => True

/-- One step of the sponsor beside a Relayr that answers as `relayr` does. -/
def Sponsored (relayr : Relayr) (options : LaneOptions) (leaseSeconds : Nat) (s : System) (event : Event)
    (t : System) : Prop :=
  s.step options leaseSeconds event = some t ∧ event.admitted relayr s.world

/-- A Relayr that may answer anything. -/
def anyRelayr : Relayr := fun _ _ _ => True

theorem anyRelayr_admitted {w : World} : event.admitted anyRelayr w := by
  cases event with
  | work op reply =>
    cases op with
    | external request => exact fun _ => trivial
    | _ => trivial
  | _ => trivial

/-- An empty queue: nothing quoted, nothing paid, no pass under way. -/
structure System.Initial (s : System) : Prop where
  idle : s.worker = none
  rows : s.world.db.rows = OrderedMap.empty
  quotes : s.world.quotes = []
  paid : s.world.paid = []

def Event.isWork : Event → Bool
  | .work _ _ => true
  | _ => false

/-- Where the worker does nothing, the transaction of a request commits, or the rows and deployments stay. -/
theorem outside_cases (taken : s.step options leaseSeconds event = some t) (outside : event.isWork = false) :
    ((∃ intentId chainIds requester reserved retry db, event = .queueDeploys intentId chainIds requester reserved retry ∧
      s.world.db.queueDeploys intentId chainIds requester reserved retry = .ok db ∧ t.world = { s.world with db }) ∨
    (∃ intentId chainId value db, event = .recordDeployment intentId chainId value ∧
      s.world.db.recordDeployment intentId chainId value = .ok db ∧ t.world = { s.world with db }) ∨
    ∃ intents now, t.world = { s.world with db := { s.world.db with intents, now } } ∧
      ∀ intentId, s.world.db.intents.has intentId = true → intents.has intentId = true) ∧
    (t.worker = s.worker ∨
      (t.worker = none ∧ t.world = s.world ∧ ((∃ value, s.worker = some (.done value)) ∨ event = .crash)) ∨
      (t.worker = some (runOnce options leaseSeconds {}) ∧ t.world = s.world ∧ s.worker = none)) := by
  cases event with
  | queueDeploys intentId chainIds requester reserved retry =>
    cases taken
    refine ⟨?_, .inl rfl⟩
    cases queued : s.world.db.queueDeploys intentId chainIds requester reserved retry with
    | ok db => exact .inl ⟨_, _, _, _, _, db, rfl, queued, rfl⟩
    | error error => exact .inr (.inr ⟨_, _, rfl, fun _ => id⟩)
  | recordDeployment intentId chainId value =>
    cases taken
    refine ⟨.inr ?_, .inl rfl⟩
    cases recorded : s.world.db.recordDeployment intentId chainId value with
    | ok db => exact .inl ⟨_, _, _, db, rfl, recorded, rfl⟩
    | error error => exact .inr ⟨_, _, rfl, fun _ => id⟩
  | createIntent intentId envelope =>
    simp only [System.step] at taken
    split at taken
    · cases taken
    · cases taken
      refine ⟨.inr (.inr ⟨_, _, rfl, fun other known => ?_⟩), .inl rfl⟩
      rw [OrderedMap.has, OrderedMap.get_set]
      split
      · rfl
      · exact known
  | tick elapsed =>
    cases taken
    exact ⟨.inr (.inr ⟨_, _, rfl, fun _ => id⟩), .inl rfl⟩
  | start =>
    simp only [System.step] at taken
    split at taken
    · next resting =>
      cases taken
      exact ⟨.inr (.inr ⟨_, _, rfl, fun _ => id⟩), .inr (.inr ⟨rfl, rfl, resting⟩)⟩
    · cases taken
  | work op reply => cases outside
  | finish =>
    simp only [System.step] at taken
    split at taken
    · next value ended =>
      cases taken
      exact ⟨.inr (.inr ⟨_, _, rfl, fun _ => id⟩), .inr (.inl ⟨rfl, rfl, .inl ⟨value, ended⟩⟩)⟩
    · cases taken
  | crash =>
    cases taken
    exact ⟨.inr (.inr ⟨_, _, rfl, fun _ => id⟩), .inr (.inl ⟨rfl, rfl, .inr rfl⟩)⟩

variable {events : List Event} {op : Op}

theorem step_work {reply : op.Reply} (taken : s.step options leaseSeconds (.work op reply) = some t) :
    ∃ next, s.worker = some (.call op next) ∧
      t = ⟨(op.perform reply s.world).2, some (next (op.perform reply s.world).1)⟩ := by
  simp only [System.step] at taken
  split at taken
  · next current next running =>
    split at taken
    · next same =>
      subst same
      cases taken
      exact ⟨next, running, rfl⟩
    · cases taken
  · cases taken

/-- What one step can be: the worker performs the operation it is at, or the ledger stays as it is
and the worker goes on, starts over or stops. -/
theorem step_cases (taken : s.step options leaseSeconds event = some t) :
    (∃ op reply next, event = .work op reply ∧ s.worker = some (.call op next) ∧
      t = ⟨(op.perform reply s.world).2, some (next (op.perform reply s.world).1)⟩) ∨
    (SameLedger s.world t.world ∧ (t.worker = s.worker ∨ t.worker = none ∨
      (t.worker = some (runOnce options leaseSeconds {}) ∧ t.world = s.world))) := by
  cases works : event.isWork with
  | true =>
    cases event with
    | work op reply =>
      obtain ⟨next, running, made⟩ := step_work taken
      exact .inl ⟨op, reply, next, rfl, running, made⟩
    | _ => cases works
  | false =>
    obtain ⟨changed, worker⟩ := outside_cases taken works
    refine .inr ⟨?_, worker.imp_right (Or.imp And.left (And.imp_right And.left))⟩
    rcases changed with ⟨_, _, _, _, _, db, _, queued, made⟩ | ⟨_, _, _, db, _, recorded, made⟩ | ⟨_, _, made, _⟩
    · exact made ▸ ⟨rfl, rfl, Database.bundleOf_queueDeploys queued⟩
    · exact made ▸ ⟨rfl, rfl, Database.bundleOf_recordDeployment recorded⟩
    · exact made ▸ ⟨rfl, rfl, fun _ _ => rfl⟩

theorem work_taken {next : Except Failure op.Result → Program Op Failure Op.Result (Except Failure Unit × Locals)}
    (running : s.worker = some (.call op next)) (reply : op.Reply) : s.step options leaseSeconds (.work op reply) =
      some ⟨(op.perform reply s.world).2, some (next (op.perform reply s.world).1)⟩ := by
  simp [System.step, running]

theorem SameLedger.holds {a b : World} (same : SameLedger a b) (held : LedgerHolds relayr a) : LedgerHolds relayr b where
  nonempty intentId chainId := by
    rw [same.bundles]
    exact held.nonempty intentId chainId
  consistent reliable := by
    have consistent := held.consistent reliable
    exact {
      distinct := same.quotes ▸ consistent.distinct
      quoted := same.quotes ▸ same.paid ▸ consistent.quoted
      carried := fun bundle prepaid chainId member => by
        rw [same.bundles]
        exact consistent.carried bundle (same.paid ▸ prepaid) chainId member
      known := fun carried => by
        rw [same.bundles] at carried
        rw [same.quotes]
        exact consistent.known carried }

variable {chainId : Nat} {bundleUuid intentId : String}

/-- The bundles after a committed write of one. -/
theorem updateDeploy_written (cause : Option Failure) (fate : Fate) (w : World)
    {patch : DeployPatch} (written : patch.bundleUuid = some bundleUuid) :
    let w' := (Op.perform (.query (.updateDeploy intentId chainId patch cause)) fate w).2
    w'.quotes = w.quotes ∧ w'.paid = w.paid ∧ (w' = w ∨ ∀ other chain, w'.db.bundleOf other chain =
      if (other, chain) = (intentId, chainId) then some bundleUuid else w.db.bundleOf other chain) := by
  refine ⟨rfl, rfl, (query_cases (.updateDeploy intentId chainId patch cause) fate w).imp_right ?_⟩
  rintro ⟨value, next, ran, made⟩ other chain
  rw [made, Database.bundleOf_updateDeploy (Query.run_updateDeploy ran), written, Option.some_or]

theorem write_holds {a b : World} (held : LedgerHolds relayr a)
    (due : BundleDue relayr a intentId chainId bundleUuid) (quotes : b.quotes = a.quotes) (paid : b.paid = a.paid)
    (bundles : ∀ other chain, b.db.bundleOf other chain =
      if (other, chain) = (intentId, chainId) then some bundleUuid else a.db.bundleOf other chain) :
    LedgerHolds relayr b where
  nonempty other chain := by
    rw [bundles]
    split
    · simpa using due.nonempty
    · exact held.nonempty other chain
  consistent reliable := by
    have consistent := held.consistent reliable
    exact {
      distinct := quotes ▸ consistent.distinct
      quoted := quotes ▸ paid ▸ consistent.quoted
      carried := fun bundle prepaid chain member => by
        have before := consistent.carried bundle (paid ▸ prepaid) chain member
        rw [bundles]
        split
        · next here =>
          cases here
          rcases due.unchanged reliable with clear | same
          · rw [clear] at before
            cases before
          · exact same.symm.trans before
        · exact before
      known := fun carried => by
        rw [bundles] at carried
        rw [quotes]
        split at carried
        · next here =>
          cases here
          cases carried
          exact due.quoted reliable
        · exact consistent.known carried }

theorem create_holds {a b : World} {bundle : Bundle} (held : LedgerHolds relayr a)
    (fresh : Reliable relayr → ∀ quoted ∈ a.quotes, quoted.bundleUuid ≠ bundle.bundleUuid)
    (made : b = { a with quotes := a.quotes ++ [bundle] }) : LedgerHolds relayr b := by
  subst made
  refine ⟨held.nonempty, fun reliable => ?_⟩
  have consistent := held.consistent reliable
  exact {
    distinct := fun first one second two same => by
      rcases List.mem_append.mp one with one | one <;> rcases List.mem_append.mp two with two | two
      · exact consistent.distinct first one second two same
      · cases List.mem_singleton.mp two
        exact absurd same (fresh reliable first one)
      · cases List.mem_singleton.mp one
        exact absurd same.symm (fresh reliable second two)
      · rw [List.mem_singleton.mp one, List.mem_singleton.mp two]
    quoted := fun other prepaid => List.mem_append_left _ (consistent.quoted other prepaid)
    carried := consistent.carried
    known := fun carried => by
      obtain ⟨other, quoted, named⟩ := consistent.known carried
      exact ⟨other, List.mem_append_left _ quoted, named⟩ }

theorem pay_holds {a b : World} {bundle : Bundle} (held : LedgerHolds relayr a) (quoted : bundle ∈ a.quotes)
    (carries : ∀ chainId ∈ bundle.chainIds, a.db.bundleOf bundle.intentId chainId = some bundle.bundleUuid)
    (made : b = { a with paid := a.paid ++ [bundle] }) : LedgerHolds relayr b := by
  subst made
  refine ⟨held.nonempty, fun reliable => ?_⟩
  have consistent := held.consistent reliable
  exact {
    distinct := consistent.distinct
    quoted := fun other prepaid => by
      rcases List.mem_append.mp prepaid with before | now
      · exact consistent.quoted other before
      · exact List.mem_singleton.mp now ▸ quoted
    carried := fun other prepaid => by
      rcases List.mem_append.mp prepaid with before | now
      · exact consistent.carried other before
      · exact List.mem_singleton.mp now ▸ carries
    known := consistent.known }

/-- An operation is still, a write of a bundle, a quote or a prepayment. -/
theorem due_holds {reply : op.Reply} {w : World} (held : LedgerHolds relayr w) (due : Due relayr op w)
    (admitted : Admitted relayr op reply w) : LedgerHolds relayr (op.perform reply w).2 := by
  cases still : op.still with
  | true => exact (still_same op still reply w).holds held
  | false =>
    cases op with
    | query statement =>
      cases statement with
      | updateDeploy intentId chainId patch cause =>
        obtain ⟨bundleUuid, written⟩ : ∃ bundleUuid, patch.bundleUuid = some bundleUuid :=
          Option.isSome_iff_exists.mp (by simpa [Op.still, Op.writesBundle] using still)
        obtain ⟨quotes, paid, same | bundles⟩ := updateDeploy_written cause reply w written
        · rw [same]
          exact held
        · exact write_holds held (due.1 bundleUuid written) quotes paid bundles
      | _ => cases still
    | external request =>
      cases request with
      | create intentId chainIds entries =>
        cases reply with
        | error error => exact held
        | ok document => exact create_holds held (fun reliable => reliable.fresh (admitted rfl)) rfl
      | sendPayment bundle payment raw => exact pay_holds held due.1 due.2 rfl
      | _ => cases still
    | mark point => exact held

/-- A step that was due takes no row its bundle and gives it no other. -/
theorem due_keeps {reply : op.Reply} {w : World} (reliable : Reliable relayr) (due : Due relayr op w)
    (carried : w.db.bundleOf intentId chainId = some bundleUuid) :
    (op.perform reply w).2.db.bundleOf intentId chainId = some bundleUuid := by
  cases still : op.still with
  | true => rwa [(still_same op still reply w).bundles]
  | false =>
    cases op with
    | query statement =>
      cases statement with
      | updateDeploy other chain patch cause =>
        obtain ⟨fresh, written⟩ : ∃ fresh, patch.bundleUuid = some fresh :=
          Option.isSome_iff_exists.mp (by simpa [Op.still, Op.writesBundle] using still)
        obtain ⟨_, _, same | bundles⟩ := updateDeploy_written cause reply w written
        · rwa [same]
        · rw [bundles]
          split
          · next here =>
            cases here
            rcases (due.1 fresh written).unchanged reliable with clear | same
            · rw [clear] at carried
              cases carried
            · exact same.symm.trans carried
          · exact carried
      | _ => cases still
    | external request =>
      cases request with
      | create intentId chainIds entries => cases reply <;> exact carried
      | sendPayment bundle payment raw => exact carried
      | _ => cases still
    | mark point => exact carried

/-- The ledger holds, and what is left of the worker's pass will keep it. -/
structure LedgerInvariant (relayr : Relayr) (s : System) : Prop where
  holds : LedgerHolds relayr s.world
  safe : ∀ program, s.worker = some program → program.safe (ledger relayr) (fun _ _ => True) s.world

theorem initial_ledger (initial : s.Initial) : LedgerInvariant relayr s := by
  have clear : ∀ intentId chainId, s.world.db.bundleOf intentId chainId = none := by
    intro intentId chainId
    rw [Database.bundleOf, initial.rows]
    rfl
  refine ⟨⟨fun intentId chainId => by rw [clear]; simp, fun _ => ?_⟩, fun program running => ?_⟩
  · exact {
      distinct := by simp [initial.quotes]
      quoted := by simp [initial.paid]
      carried := by simp [initial.paid]
      known := fun carried => by
        rw [clear] at carried
        cases carried }
  · rw [initial.idle] at running
    cases running

theorem step_ledger (invariant : LedgerInvariant relayr s) (taken : Sponsored relayr options leaseSeconds s event t) :
    LedgerInvariant relayr t := by
  obtain ⟨stepped, admitted⟩ := taken
  rcases step_cases stepped with ⟨op, reply, next, rfl, running, rfl⟩ | ⟨same, worker⟩
  · obtain ⟨due, rest⟩ := invariant.safe _ running s.world (.refl _) invariant.holds
    refine ⟨due_holds invariant.holds due admitted, fun program left => ?_⟩
    cases left
    exact rest reply admitted
  · refine ⟨same.holds invariant.holds, fun program running => ?_⟩
    rcases worker with kept | stopped | ⟨started, world⟩
    · exact Program.safe_rely (invariant.safe program (kept ▸ running)) (fun _ _ _ => same) SameLedger.trans (fun _ => id)
    · rw [stopped] at running
      cases running
    · rw [started] at running
      cases running
      rw [world]
      refine Program.safe_mono (ledger_runOnce (l := {})) fun _ _ _ => trivial

theorem run_ledger {start : System} (initial : start.Initial)
    (run : Run (Sponsored relayr options leaseSeconds) start events s) : LedgerInvariant relayr s :=
  run.state_invariant (initial_ledger initial) fun invariant taken => step_ledger invariant taken

/-- What is due for an operation holds whenever the worker performs it. -/
theorem run_due {start : System} {reply : op.Reply} (initial : start.Initial)
    (run : Run (Sponsored relayr options leaseSeconds) start events s)
    (taken : Sponsored relayr options leaseSeconds s (.work op reply) t) : Due relayr op s.world := by
  obtain ⟨next, running, -⟩ := step_work taken.1
  have invariant := run_ledger initial run
  exact (invariant.safe _ running s.world (.refl _) invariant.holds).1

/-- A row never loses or changes its bundle. -/
theorem run_keeps {start : System} {later : List Event} (reliable : Reliable relayr) (initial : start.Initial)
    (run : Run (Sponsored relayr options leaseSeconds) start events s)
    (onwards : Run (Sponsored relayr options leaseSeconds) s later t)
    (carried : s.world.db.bundleOf intentId chainId = some bundleUuid) :
    t.world.db.bundleOf intentId chainId = some bundleUuid := by
  induction onwards with
  | nil => exact carried
  | snoc past taken ih =>
    rcases step_cases taken.1 with ⟨op, reply, next, rfl, running, rfl⟩ | ⟨same, -⟩
    · exact due_keeps reliable (run_due initial (run.append past) taken) ih
    · rw [same.bundles]
      exact ih

/-- Two prepaid bundles of one intent share no chain. -/
theorem paid_disjoint {w : World} (consistent : Consistent w) {a b : Bundle} (first : a ∈ w.paid) (second : b ∈ w.paid)
    (sameIntent : a.intentId = b.intentId) (inFirst : chainId ∈ a.chainIds)
    (inSecond : chainId ∈ b.chainIds) : a.bundleUuid = b.bundleUuid := by
  have one := consistent.carried a first chainId inFirst
  have two := consistent.carried b second chainId inSecond
  rw [sameIntent, two] at one
  exact (Option.some.inj one).symm

/-- A Relayr that gives every quote an id of its own and names transactions of prepaid bundles only. -/
def honestly : (op : Op) → op.Reply → World → Bool
  | .external (.create _ _ _), .ok document, w => w.quotes.all (fun quoted => quoted.bundleUuid ≠ document.bundleUuid)
  | .external (.status bundleUuid), .ok (some document), w =>
    (document.transactions.getD []).reduceOption.all fun item => match item.chain, item.hash with
      | some chainId, some _ =>
        w.paid.any (fun bundle => bundle.bundleUuid == bundleUuid && bundle.chainIds.contains chainId)
      | _, _ => true
  | _, _, _ => true

def honest : Relayr := fun w request answer => honestly (.external request) answer w = true

theorem honest_fresh : FreshBundles honest := by
  intro w intentId chainIds entries document answered quoted member
  simpa using List.all_eq_true.mp answered quoted member

theorem honest_follows : ExecutionFollowsPayment honest := by
  intro w bundleUuid document transactions item chainId answered listed present chain hashed
  have named := List.all_eq_true.mp answered item (by simpa [listed, List.reduceOption_mem_iff] using present)
  obtain ⟨hash, held⟩ := Option.isSome_iff_exists.mp hashed
  simp only [chain, held, List.any_eq_true, Bool.and_eq_true, beq_iff_eq, List.contains_eq_mem,
    decide_eq_true_eq] at named
  exact named

abbrev Outside := (op : Op) → Option op.Reply

/-- The worker performs its next operations, each answered by the outside. -/
def System.drive (outside : Outside) : Nat → System → Option System
  | 0, s => some s
  | steps + 1, s => match s.worker with
    | some (.call op next) => match outside op with
      | some reply =>
        if honestly op reply s.world then
          System.drive outside steps ⟨(op.perform reply s.world).2, some (next (op.perform reply s.world).1)⟩
        else none
      | none => none
    | _ => none

inductive Stage where
  | event (event : Event)
  | drive (outside : Outside) (steps : Nat)

def System.play (options : LaneOptions) (leaseSeconds : Nat) : List Stage → System → Option System
  | [], s => some s
  | .event event :: rest, s =>
    if event.isWork then none else s.step options leaseSeconds event >>= System.play options leaseSeconds rest
  | .drive outside steps :: rest, s => s.drive outside steps >>= System.play options leaseSeconds rest

theorem honestly_admitted {reply : op.Reply} {w : World} (kept : honestly op reply w = true) :
    Admitted honest op reply w := by
  cases op with
  | external request => exact fun _ => kept
  | _ => trivial

/-- What is true of every event the stage can make. -/
def Stage.all (P : Event → Prop) : Stage → Prop
  | .event event => P event
  | .drive outside _ => ∀ op reply, outside op = some reply → P (.work op reply)

theorem drive_run {P : Event → Prop} {outside : Outside} {steps : Nat}
    (all : ∀ op reply, outside op = some reply → P (.work op reply)) (driven : s.drive outside steps = some t) :
    ∃ events, Run (Sponsored honest options leaseSeconds) s events t ∧ ∀ event ∈ events, P event := by
  induction steps generalizing s with
  | zero =>
    cases driven
    exact ⟨[], .nil, by simp⟩
  | succ steps ih =>
    unfold System.drive at driven
    split at driven
    · next op next running =>
      split at driven
      · next reply answered =>
        split at driven
        · next kept =>
          obtain ⟨events, rest, every⟩ := ih driven
          refine ⟨_, (Run.nil.snoc ⟨work_taken running reply, honestly_admitted kept⟩).append rest, ?_⟩
          simpa using ⟨all op reply answered, every⟩
        · cases driven
      · cases driven
    · cases driven

theorem play_all {P : Event → Prop} {stages : List Stage} (all : ∀ stage ∈ stages, stage.all P)
    (played : s.play options leaseSeconds stages = some t) :
    ∃ events, Run (Sponsored honest options leaseSeconds) s events t ∧ ∀ event ∈ events, P event := by
  induction stages generalizing s with
  | nil =>
    cases played
    exact ⟨[], .nil, by simp⟩
  | cons stage rest ih =>
    have first := all stage List.mem_cons_self
    have later : ∀ stage ∈ rest, stage.all P := fun stage member => all stage (List.mem_cons_of_mem _ member)
    cases stage with
    | event event =>
      simp only [System.play] at played
      split at played
      · cases played
      · next outside =>
        obtain ⟨middle, taken, played⟩ := some_bind played
        obtain ⟨events, onwards, every⟩ := ih later played
        have admitted : event.admitted honest s.world := by
          cases event <;> trivial
        refine ⟨_, (Run.nil.snoc ⟨taken, admitted⟩).append onwards, ?_⟩
        simpa using ⟨first, every⟩
    | drive outside steps =>
      obtain ⟨middle, driven, played⟩ := some_bind played
      obtain ⟨earlier, opening, before⟩ := drive_run first driven
      obtain ⟨events, onwards, every⟩ := ih later played
      refine ⟨_, opening.append onwards, fun event member => ?_⟩
      exact (List.mem_append.mp member).elim (before event) (every event)

theorem play_run {stages : List Stage} (played : s.play options leaseSeconds stages = some t) :
    ∃ events, Run (Sponsored honest options leaseSeconds) s events t := by
  have all : ∀ stage ∈ stages, stage.all (fun _ => True) := by
    intro stage _
    cases stage <;> simp [Stage.all]
  obtain ⟨events, run, -⟩ := play_all all played
  exact ⟨events, run⟩

/-- At most one prepayment for a chain of an intent, over every run of one worker: a row keeps the bundle it
carries, `deploy` is called on rows without one, and the prepayment leaves the key when the row of every chain
of the bundle carries it. -/
theorem prepaid_at_most_once (fresh : FreshBundles relayr) (follows : ExecutionFollowsPayment relayr)
    {start : System} {events : List Event} (initial : start.Initial)
    (run : Run (Sponsored relayr options leaseSeconds) start events s) :
    (∀ a ∈ s.world.paid, ∀ b ∈ s.world.paid, a.intentId = b.intentId →
      ∀ chainId ∈ a.chainIds, chainId ∈ b.chainIds → a.bundleUuid = b.bundleUuid) ∧
    (∀ {later t}, Run (Sponsored relayr options leaseSeconds) s later t → ∀ intentId chainId bundleUuid,
      s.world.db.bundleOf intentId chainId = some bundleUuid → t.world.db.bundleOf intentId chainId = some bundleUuid) ∧
    (∀ {view chainIds reply t}, Sponsored relayr options leaseSeconds s (.work (.mark (.deploy view chainIds)) reply) t →
      ∀ chainId ∈ chainIds, s.world.db.bundleOf view.intentId chainId = none) ∧
    (∀ {bundle payment raw reply t},
      Sponsored relayr options leaseSeconds s (.work (.external (.sendPayment bundle payment raw)) reply) t →
      ∀ chainId ∈ bundle.chainIds, s.world.db.bundleOf bundle.intentId chainId = some bundle.bundleUuid) := by
  have reliable : Reliable relayr := ⟨fresh, follows⟩
  have invariant := run_ledger initial run
  refine ⟨?_, ?_, ?_, ?_⟩
  · intro a first b second sameIntent chainId inFirst inSecond
    exact paid_disjoint (invariant.holds.consistent reliable) first second sameIntent inFirst inSecond
  · intro later t onwards intentId chainId bundleUuid carried
    exact run_keeps reliable initial run onwards carried
  · intro view chainIds reply t taken
    exact run_due initial run taken
  · intro bundle payment raw reply t taken
    exact (run_due initial run taken).2

def sampleUuid : String := "00000000-0000-0000-0000-00000000000a"

def sampleLane : LaneOptions where
  policy := { paused := false, perRequesterPerDay := 5, dailyBudgetWei := 100, mcpDailyBudgetWei := 20
              maximumGas := 10, maximumFeePerGas := 1 }
  rpcChains := [10, 8453]
  projectsAddress := "projects"
  createTopic := "Create"
  safeFactory := "factory"
  canonicalFactory := fun _ => true
  decodeSafeSetupCall := fun _ => none
  predictSafeAddress := fun _ _ => ""
  quotedPayments := fun _ entries _ _ => .ok (entries.map (fun entry => ("tx", entry)), [⟨10, "relayr", "pay", 1, 99⟩])
  boundEntries := fun _ quote => .ok quote.entries
  parseStatus := fun status _ => .ok ((((status >>= StatusDocument.transactions).getD []).reduceOption.zipIdx).map
    (fun (item, step) => (step, item.hash)))
  verifyRelayrPaymentEvent := fun _ _ _ _ => .ok ()
  rounds := 1

def sampleStart : System where
  world := {
    db := {
      intents := OrderedMap.empty.set "intent" ⟨"6", [10, 8453], [⟨10, "deployer", "launch"⟩, ⟨8453, "deployer", "launch"⟩]⟩
      deployments := .empty
      rows := .empty
      now := 1 }
    quotes := []
    paid := [] }
  worker := none

theorem sampleStart_initial : sampleStart.Initial := ⟨rfl, rfl, rfl, rfl⟩

/-- Every statement is served and every request answered well; the launches of a prepaid bundle are named. -/
def sampleOutside : Outside
  | .query _ => some .served
  | .mark .stall => none
  | .mark (.deploy _ _) => some ()
  | .mark (.resume _ _ _) => some ()
  | .mark (.caught _ _) => some ()
  | .mark (.escaped _ _ _) => some ()
  | .external .now => some (.ok (0 : Nat))
  | .external .wait => some (.ok ())
  | .external (.getCode _ _) => some (.ok (none : Option String))
  | .external (.proxyCreationCode _) => some (.ok "")
  | .external (.simulate _ _) => some (.ok ())
  | .external (.estimateGas _ _) => some (.ok (0 : Nat))
  | .external (.creationFee _) => some (.ok (0 : Nat))
  | .external (.getBalance _) => some (.ok (200000 : Nat))
  | .external (.prepare _ _ _ _ _) => some (.ok (⟨1, "request"⟩ : Prepared))
  | .external (.signTypedData _) => some (.ok "signature")
  | .external (.signed _ _) => some (.ok (⟨10, "forwarder", "execute", 0, 0⟩ : RelayrEntry))
  | .external (.create _ _ _) => some (.ok (⟨sampleUuid, ""⟩ : QuoteDocument))
  | .external (.status _) => some (.ok (none : Option StatusDocument))
  | .external (.estimateFeesPerGas _) => some (.ok (⟨1, 1⟩ : Fees))
  | .external (.getTransactionCount _) => some (.ok (0 : Nat))
  | .external (.signTransaction _ _ _ _) => some (.ok "raw")
  | .external (.sendPayment _ _ _) => some (.ok "hash")
  | .external (.waitForTransactionReceipt _ _) => some (.ok (⟨true, [⟨"projects", ["Create", "0x7"]⟩], 1, 1⟩ : Receipt))
  | .external (.verify _ _ _ _ _) => some (.ok ())

/-- Both chains are queued, claimed, quoted, recorded and prepaid. -/
def sampleStages : List Stage :=
  [.event (.queueDeploys "intent" [10, 8453] "browser" 5 false), .event .start, .drive sampleOutside 29]

theorem prepaid_at_most_once_sample : ∃ events s, Run (Sponsored honest sampleLane 1800) sampleStart events s ∧
    s.world.paid = [⟨sampleUuid, "intent", [10, 8453]⟩] ∧ (∀ {later t},
      Run (Sponsored honest sampleLane 1800) s later t → t.world.db.bundleOf "intent" 8453 = some sampleUuid) := by
  have played : (sampleStart.play sampleLane 1800 sampleStages).map (fun s =>
      (s.world.paid, s.world.db.bundleOf "intent" 8453)) =
        some ([⟨sampleUuid, "intent", [10, 8453]⟩], some sampleUuid) := by decide +kernel
  obtain ⟨s, ended, facts⟩ := Option.map_eq_some_iff.mp played
  obtain ⟨events, run⟩ := play_run ended
  have once := prepaid_at_most_once honest_fresh honest_follows sampleStart_initial run
  refine ⟨events, s, run, congrArg Prod.fst facts, fun onwards => ?_⟩
  exact once.2.1 onwards "intent" 8453 sampleUuid (congrArg Prod.snd facts)

end JBCenter.Sponsor
