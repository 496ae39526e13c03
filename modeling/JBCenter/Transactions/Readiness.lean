import JBCenter.Transactions.Steps

/-! When a step may be dispatched. Readiness is decided twice, by the service before it claims and by
the store when it does; the two tests accept the same steps, and the store decides over the document
it holds at that instant. -/
namespace JBCenter.Transactions
open Rest

/-- How the service's check ends: a refusal that names the steps waited for, or the `TypeError` of
reading a step that does not exist. -/
inductive DependencyError where
  | unconfirmed (error : RestError) (blockedBy : List Int)
  | undefinedStep

def dependenciesUnconfirmed : RestError :=
  ⟨409, "DEPENDENCIES_UNCONFIRMED",
    "Prerequisite transactions need canonical confirmations and any modeled semantic proof before this step can execute.", none⟩

def satisfied (step : StoredStep) : Bool :=
  step.state = .confirmed && step.receipt.any (fun receipt => receipt.canonical && receipt.status = .success) &&
  step.semantic.any (fun semantic => semantic.status = .verified || semantic.status = .unmodeled)

def assertDependencies (plan : StoredPlan) (index : Int) : Except DependencyError Unit := do
  let some call := at? plan.draft.calls index | .error .undefinedStep
  refuse (call.dependsOn.any (fun dependency => (at? plan.steps dependency).isNone)) .undefinedStep
  let blocked := call.dependsOn.filter (fun dependency => !(at? plan.steps dependency).any satisfied)
  refuse (blocked.length ≠ 0) (.unconfirmed dependenciesUnconfirmed blocked)

/-- The store's check, as `prepareClaim` makes it. -/
def dependenciesReady (plan : StoredPlan) (index : Int) : Except RestError Unit :=
  ((at? plan.draft.calls index).elim [] PlanCall.dependsOn).forM fun dependency =>
    refuse (!dependencyConfirmed plan dependency)
      (conflict "Transaction dependencies are not confirmed with verified outcomes.")

theorem dependencyConfirmed_eq (plan : StoredPlan) (dependency : Int) :
    dependencyConfirmed plan dependency = (at? plan.steps dependency).any satisfied := by
  unfold dependencyConfirmed
  cases at? plan.steps dependency with
  | none => rfl
  | some step =>
    obtain ⟨_, state, _, _, receipt, semantic⟩ := step
    cases receipt <;> cases semantic <;> rfl

variable {plan : StoredPlan}

theorem dependenciesReady_iff {index : Int} {call : PlanCall} (found : at? plan.draft.calls index = some call) :
    dependenciesReady plan index = .ok () ↔ ∀ dependency ∈ call.dependsOn, dependencyConfirmed plan dependency = true := by
  rw [dependenciesReady, found, Option.elim_some, forM_ok]
  refine forall₂_congr fun dependency _ => ?_
  rw [refuse_ok]
  simp

/-- Both checks accept the same steps. -/
theorem assertDependencies_iff {index : Int} {call : PlanCall} (found : at? plan.draft.calls index = some call) :
    assertDependencies plan index = .ok () ↔ ∀ dependency ∈ call.dependsOn, dependencyConfirmed plan dependency = true := by
  unfold assertDependencies
  rw [found]
  constructor
  · intro accepted
    obtain ⟨_, accepted⟩ := ok_refuse accepted
    have none := refuse_ok.mp accepted
    intro dependency member
    rw [decide_eq_false_iff_not, not_not, List.length_eq_zero_iff, List.filter_eq_nil_iff] at none
    have satisfied := none dependency member
    rwa [Bool.not_eq_true, Bool.not_eq_false', ← dependencyConfirmed_eq] at satisfied
  · intro ready
    refine bind_run (refuse_ok.mpr ?_) (refuse_ok.mpr ?_)
    · rw [List.any_eq_false]
      intro dependency member missing
      have confirmed := ready dependency member
      rw [dependencyConfirmed_eq, Option.isNone_iff_eq_none.mp missing] at confirmed
      cases confirmed
    · rw [decide_eq_false_iff_not, not_not, List.length_eq_zero_iff, List.filter_eq_nil_iff]
      intro dependency member
      rw [← dependencyConfirmed_eq, ready dependency member]
      exact Bool.false_ne_true

/-- An authorization admits the clock: it has not expired, and begins 30 seconds after it at most. -/
structure Authorization.Admits (window : Authorization) (nowMs : Int) : Prop where
  current : nowMs / 1000 < window.expiresAt
  begun : window.issuedAt ≤ nowMs / 1000 + 30
  lasts : window.issuedAt < window.expiresAt ∧ window.expiresAt - window.issuedAt ≤ 300

theorem assertAuthorization_ok {authorization : Option Authorization} {nowMs : Int}
    (accepted : assertAuthorization authorization nowMs = .ok ()) :
    ∀ window, authorization = some window → window.Admits nowMs := by
  rintro window rfl
  have checked := refuse_ok.mp accepted
  simp only [Bool.or_eq_false_iff, decide_eq_false_iff_not, not_le, not_lt] at checked
  obtain ⟨⟨⟨⟨_, current⟩, begun⟩, ordered⟩, short⟩ := checked
  exact ⟨current, begun, ordered, short⟩

/-- What the document says of a step when a claim on it is to be dispatched. -/
structure Ready (plan : StoredPlan) (claim : SubmissionClaim) (call : PlanCall) : Prop where
  unexpired : claim.now < plan.expiresAt
  authorized : ∀ window, claim.authorization = some window → window.Admits claim.now
  dependencies : ∀ dependency ∈ call.dependsOn, ∃ step receipt semantic, at? plan.steps dependency = some step ∧
    step.state = .confirmed ∧ step.receipt = some receipt ∧ receipt.canonical = true ∧ receipt.status = .success ∧
    step.semantic = some semantic ∧ (semantic.status = .verified ∨ semantic.status = .unmodeled)

theorem dependencyConfirmed_ok {dependency : Int} (confirmed : dependencyConfirmed plan dependency = true) :
    ∃ step receipt semantic, at? plan.steps dependency = some step ∧ step.state = .confirmed ∧
      step.receipt = some receipt ∧ receipt.canonical = true ∧ receipt.status = .success ∧
      step.semantic = some semantic ∧ (semantic.status = .verified ∨ semantic.status = .unmodeled) := by
  rw [dependencyConfirmed_eq, Option.any_eq_true_iff_get] at confirmed
  obtain ⟨present, accepted⟩ := confirmed
  obtain ⟨step, found⟩ := Option.isSome_iff_exists.mp present
  simp only [found, Option.get_some, satisfied, Bool.and_eq_true, decide_eq_true_eq] at accepted
  obtain ⟨⟨state, received⟩, proved⟩ := accepted
  cases isReceipt : step.receipt with
  | none =>
    rw [isReceipt] at received
    cases received
  | some receipt =>
    cases isSemantic : step.semantic with
    | none =>
      rw [isSemantic] at proved
      cases proved
    | some semantic =>
      rw [isReceipt, Option.any_some, Bool.and_eq_true, decide_eq_true_eq] at received
      rw [isSemantic, Option.any_some, Bool.or_eq_true, decide_eq_true_eq, decide_eq_true_eq] at proved
      exact ⟨step, receipt, semantic, found, state, isReceipt, received.1, received.2, isSemantic, proved⟩

variable {bytes : JsonBytes}

theorem prepareClaim_dispatch {claim : SubmissionClaim} {result : PreparedClaim}
    (prepared : prepareClaim bytes plan claim = .ok result) (dispatched : result.dispatch = true) :
    (∃ step, at? plan.steps claim.stepIndex = some step) ∧ claim.now < plan.expiresAt ∧
    assertAuthorization claim.authorization claim.now = .ok () ∧ dependenciesReady plan claim.stepIndex = .ok () := by
  unfold prepareClaim at prepared
  iterate 4 obtain ⟨_, _, prepared⟩ := ok_bind prepared
  split at prepared
  · rename_i step place
    iterate 3 obtain ⟨_, prepared⟩ := ok_refuse prepared
    split at prepared
    · iterate 2 obtain ⟨_, _, prepared⟩ := ok_bind prepared
      cases prepared
      cases dispatched
    · split at prepared
      · cases prepared
        cases dispatched
      · obtain ⟨_, prepared⟩ := ok_refuse prepared
        obtain ⟨unexpired, prepared⟩ := ok_refuse prepared
        obtain ⟨_, authorized, prepared⟩ := ok_bind prepared
        obtain ⟨_, ready, _⟩ := ok_bind prepared
        exact ⟨⟨step, place⟩, by simpa using unexpired, authorized, ready⟩
  · cases prepared

/-- Every stored plan has as many steps as calls. -/
def Memory.Paired (s : Memory) : Prop :=
  ∀ id plan, s.plans.get id = some plan → plan.steps.length = plan.draft.calls.length

theorem Rewrites.paired {reserved : Int → Option Reservation} {current next : StoredPlan}
    (rewritten : Rewrites bytes reserved current next) (paired : current.steps.length = current.draft.calls.length) :
    next.steps.length = next.draft.calls.length := by
  rw [rewritten.steps.length, congrArg StoredPlan.draft rewritten.document]
  exact paired

theorem effect_paired {s t : Memory} {op : Op} {outcome : Outcome} (effect : Effect bytes s op outcome t)
    (paired : s.Paired) : t.Paired := by
  cases effect with
  | created plan new absent =>
    intro id other found
    rw [OrderedMap.get_set] at found
    split at found
    · cases found
      exact new.calls
    · exact paired id other found
  | rewritten key other stored next saved =>
    intro id plan found
    rw [OrderedMap.get_set] at found
    split at found
    · cases found
      rcases next with same | rewritten
      · rw [same]
        exact paired _ _ stored
      · exact rewritten.paired (paired _ _ stored)
    · exact paired id plan found
  | claimed claim stored prepared =>
    intro id plan found
    change (PreparedClaim.stored _ s.plans claim.planId).get id = some plan at found
    unfold PreparedClaim.stored at found
    split at found
    · rw [OrderedMap.get_set] at found
      split at found
      · cases found
        obtain ⟨step, _, rfl | ⟨new, _, _, _, same⟩⟩ := prepareClaim_ok prepared
        · exact paired _ _ stored
        · rw [same]
          change (List.set _ _ _).length = _
          rw [List.length_set]
          exact paired _ _ stored
      · exact paired id plan found
    · exact paired id plan found
  | reserved => exact paired

theorem run_paired {history : List Event} {s : Memory} (run : Runs bytes history s) : s.Paired := by
  refine run_invariant (P := fun _ s => s.Paired) run ?_ id (fun paired effect => effect_paired effect paired)
  intro id plan found
  cases found

theorem at?_length {items : List α} {others : List β} {index : Int} {item : α} (same : items.length = others.length)
    (found : at? items index = some item) : ∃ other, at? others index = some other := by
  obtain ⟨nonneg, here⟩ := at?_some found
  obtain ⟨bound, _⟩ := List.getElem?_eq_some_iff.mp here
  rw [at?, if_neg (by omega)]
  exact ⟨_, List.getElem?_eq_getElem (same ▸ bound)⟩

/-- A claim is dispatched only when its step is ready in the document the store holds then, by a test
that accepts what the service's own check accepts. -/
theorem dispatch_only_when_ready {bytes : JsonBytes} {history : List Event} {s : Memory} (run : Runs bytes history s) :
    (∀ claim waited authority plan t, Step bytes s ⟨.claimSubmission claim waited authority, .ok (.claimed plan true)⟩ t →
      ∃ current call, s.plans.get claim.planId = some current ∧ at? current.draft.calls claim.stepIndex = some call ∧
        Ready current (claim.after waited) call) ∧
    ∀ id plan index call, s.plans.get id = some plan → at? plan.draft.calls index = some call →
      (assertDependencies plan index = .ok () ↔ dependenciesReady plan index = .ok ()) := by
  refine ⟨?_, ?_⟩
  · intro claim waited authority plan t stepped
    obtain ⟨error, impossible, _⟩ | ⟨outcome, answered, effect⟩ := step_cases (run_bounded run) stepped
    · cases impossible
    · generalize outcomeIs : Outcome.claimed plan true = expected at answered
      cases answered
      cases effect with
      | rewritten => cases outcomeIs
      | claimed claim found prepared =>
        injection outcomeIs with _ dispatched
        obtain ⟨⟨step, place⟩, unexpired, authorized, ready⟩ := prepareClaim_dispatch prepared dispatched.symm
        obtain ⟨call, called⟩ := at?_length (run_paired run _ _ found) place
        refine ⟨_, call, found, called, unexpired, assertAuthorization_ok authorized, ?_⟩
        intro dependency member
        exact dependencyConfirmed_ok ((dependenciesReady_iff called).mp ready dependency member)
  · intro id plan index call _ found
    rw [assertDependencies_iff found, dependenciesReady_iff found]

/-- A plan of one step, dispatched under an authorization that begins 20 seconds after the clock. -/
def earlyClaim : SubmissionClaim := { sampleClaim 0 "first" 0 with authorization := some ⟨20, 100⟩ }

def earlyStart : List Event × Memory := performAll sampleBytes .empty [sampleCreate]

/-- The operation is a claim that is answered with a dispatch. -/
def dispatching (bytes : JsonBytes) (op : Op) (s : Memory) : Bool :=
  match (perform bytes op).run s with
  | .ok (.claimed _ dispatch) _ => dispatch
  | _ => false

theorem dispatching_step {op : Op} {s : Memory} (dispatched : dispatching bytes op s = true) :
    ∃ plan t, Step bytes s ⟨op, .ok (.claimed plan true)⟩ t := by
  unfold dispatching at dispatched
  split at dispatched
  · rename_i plan dispatch t ran
    subst dispatched
    exact ⟨plan, t, by simp only [Step, ran, and_self]⟩
  · cases dispatched

theorem early_dispatching : dispatching sampleBytes (.claimSubmission earlyClaim 0 (.ok ())) earlyStart.2 = true := by
  decide +kernel

/-- The clock need not be within the window: it may be up to 30 seconds before it. -/
theorem early_authorization_dispatched : Runs sampleBytes earlyStart.1 earlyStart.2 ∧
    (∃ plan t, Step sampleBytes earlyStart.2 ⟨.claimSubmission earlyClaim 0 (.ok ()), .ok (.claimed plan true)⟩ t) ∧
    ∃ window, earlyClaim.authorization = some window ∧ (earlyClaim.after 0).now < 1000 * window.issuedAt :=
  ⟨performAll_run _ _, dispatching_step early_dispatching, ⟨20, 100⟩, rfl, by decide⟩

theorem dispatch_only_when_ready_sample : ∃ current call, earlyStart.2.plans.get "plan" = some current ∧
    at? current.draft.calls 0 = some call ∧ Ready current (earlyClaim.after 0) call := by
  have run : Runs sampleBytes earlyStart.1 earlyStart.2 := performAll_run _ _
  obtain ⟨plan, t, stepped⟩ := dispatching_step early_dispatching
  exact (dispatch_only_when_ready run).1 earlyClaim 0 (.ok ()) plan t stepped

end JBCenter.Transactions
