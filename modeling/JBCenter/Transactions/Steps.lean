import JBCenter.Transactions.Effects

/-! One operation seen from one plan step, and the store's runs built from such views. -/
namespace JBCenter.Transactions
open Rest
open OrderedMap (get_set get_set_ne get_set_self)
variable {bytes : JsonBytes} {id : String} {i : Nat} {s t : Memory}

def Memory.stepAt (s : Memory) (id : String) (i : Nat) : Option StoredStep :=
  (s.plans.get id).bind (fun plan => plan.steps[i]?)

/-- The claim, at the clock the store read, of an event that let its caller dispatch a step. -/
def Event.dispatched (id : String) (i : Nat) (event : Event) : Option SubmissionClaim :=
  match event.op, event.result with
  | .claimSubmission claim waited _, .ok (.claimed _ true) =>
    if claim.planId = id ∧ claim.stepIndex = i then some (claim.after waited) else none
  | _, _ => none

inductive StepChange (s : Memory) (event : Event) (id : String) (i : Nat) :
    Option StoredStep → Option StoredStep → Prop where
  | absent (quiet : event.dispatched id i = none) : StepChange s event id i none none
  | fresh (quiet : event.dispatched id i = none) (unsigned : new.attempt = none)
      (unbound : new.externalExecution = none) : StepChange s event id i none (some new)
  | evolved (quiet : event.dispatched id i = none) (how : Evolved (s.transports.reservation id) i old new)
      (unsigned : event.op.submission = none ∨ new = old) : StepChange s event id i (some old) (some new)
  | claimed (asked : event.op.submission = some (claim, waited)) (target : claim.planId = id)
      (index : claim.stepIndex = i) (claimable : Claimable plan (claim.after waited) old)
      (how : Claimed plan (claim.after waited) old new dispatch)
      (answer : event.dispatched id i = if dispatch then some (claim.after waited) else none) :
    StepChange s event id i (some old) (some new)

theorem dispatched_of_other (other : op.submission = none) :
    Event.dispatched id i ⟨op, result⟩ = none := by
  cases op with
  | claimSubmission => cases other
  | _ => rfl

theorem StepChange.same (quiet : Event.dispatched id i event = none) (step : Option StoredStep) :
    StepChange s event id i step step := by
  cases step with
  | none => exact .absent quiet
  | some step => exact .evolved quiet (Or.inl (Kept.refl step)) (Or.inr rfl)

theorem StepChange.pointwise (quiet : Event.dispatched id i event = none)
    (other : event.op.submission = none)
    (steps : Pointwise (Evolved (s.transports.reservation id)) before after) :
    StepChange s event id i before[i]? after[i]? := by
  cases new : after[i]? with
  | none =>
    have short : before[i]? = none := by
      rw [List.getElem?_eq_none_iff] at new ⊢
      rwa [← steps.length]
    rw [short]
    exact .absent quiet
  | some step =>
    obtain ⟨old, place, how⟩ := steps.origin new
    rw [place]
    exact .evolved quiet how (Or.inl other)

/-- A claim rewrites the step it names and no other. -/
theorem StepChange.withStep (asked : event.op.submission = some (claim, waited)) (target : claim.planId = id)
    (claimable : Claimable plan (claim.after waited) old)
    (how : Claimed plan (claim.after waited) old new dispatch)
    (answer : Event.dispatched id i event =
      if claim.stepIndex = (i : Int) ∧ dispatch then some (claim.after waited) else none) :
    StepChange s event id i plan.steps[i]? (withStep plan claim.stepIndex new).steps[i]? := by
  obtain ⟨nonneg, place⟩ := at?_some claimable.place
  change plan.steps[claim.stepIndex.toNat]? = some old at place
  change 0 ≤ claim.stepIndex at nonneg
  by_cases here : claim.stepIndex = i
  · have index : claim.stepIndex.toNat = i := by omega
    have bound := (List.getElem?_eq_some_iff.mp place).1
    simp only [Transactions.withStep, index] at place bound ⊢
    rw [List.getElem?_set_self bound, place]
    exact .claimed asked target here claimable how (by simpa only [here, true_and] using answer)
  · have index : claim.stepIndex.toNat ≠ i := by omega
    simp only [Transactions.withStep, List.getElem?_set_ne index]
    exact .same (by simpa only [here, false_and, if_false] using answer) _

theorem stepAt_set (s : Memory) (key : String) (plan : StoredPlan) :
    Memory.stepAt { s with plans := s.plans.set key plan } id i =
      if id = key then plan.steps[i]? else s.stepAt id i := by
  unfold Memory.stepAt
  rw [get_set]
  split <;> rfl

theorem stepAt_of_get (found : s.plans.get id = some plan) : s.stepAt id i = plan.steps[i]? := by
  simp only [Memory.stepAt, found, Option.bind_some]

theorem claimed_step (found : s.plans.get claim.planId = some current)
    (prepared : prepareClaim bytes current (claim.after waited) = .ok result)
    (plans : t.plans = result.stored s.plans claim.planId) :
    StepChange s ⟨.claimSubmission claim waited authority, .ok (.claimed result.plan result.dispatch)⟩ id i
      (s.stepAt id i) (t.stepAt id i) := by
  obtain ⟨step, claimable, rfl | ⟨new, how, _, _, same⟩⟩ := prepareClaim_ok prepared
  · have kept : t.stepAt id i = s.stepAt id i := by
      simp only [Memory.stepAt, plans, PreparedClaim.stored, Bool.false_eq_true, if_false]
    rw [kept]
    exact .same rfl _
  · rw [same] at plans
    simp only [PreparedClaim.stored, if_true] at plans
    have after : t.stepAt id i = if id = claim.planId then
        (withStep current claim.stepIndex new).steps[i]? else s.stepAt id i := by
      rw [Memory.stepAt, plans]
      exact stepAt_set s claim.planId _
    rw [after]
    by_cases here : id = claim.planId
    · subst here
      rw [if_pos rfl, stepAt_of_get found]
      refine .withStep rfl rfl claimable how ?_
      cases result.dispatch <;> simp [Event.dispatched]
    · rw [if_neg here]
      refine .same ?_ _
      cases result.dispatch <;> simp [Event.dispatched, Ne.symm here]

/-- What an operation does to one plan step, wherever that step is. -/
theorem effect_step (effect : Effect bytes s op outcome t) (id : String) (i : Nat) :
    StepChange s ⟨op, .ok outcome⟩ id i (s.stepAt id i) (t.stepAt id i) := by
  cases effect with
  | created plan new absent =>
    change StepChange s _ id i _ (Memory.stepAt { s with plans := s.plans.set plan.id plan } id i)
    rw [stepAt_set]
    by_cases here : id = plan.id
    · subst here
      have unknown : s.stepAt plan.id i = none := by simp [Memory.stepAt, absent]
      rw [if_pos rfl, unknown]
      cases place : plan.steps[i]? with
      | none => exact .absent rfl
      | some step => exact .fresh rfl (new.unsigned place).1 (new.unsigned place).2
    · rw [if_neg here]
      exact .same rfl _
  | rewritten key other found next saved =>
    rw [stepAt_set]
    by_cases here : id = key
    · subst here
      rw [if_pos rfl, stepAt_of_get found]
      rcases next with rfl | rewritten
      · exact .same (dispatched_of_other other) _
      · exact .pointwise (dispatched_of_other other) other rewritten.steps
    · rw [if_neg here]
      exact .same (dispatched_of_other other) _
  | claimed _ found prepared free reserved => exact claimed_step found prepared rfl
  | reserved => exact .same rfl _

theorem effect_transports (effect : Effect bytes s op outcome t) : s.transports.Extends t.transports := by
  cases effect with
  | created => exact fun _ _ _ found => found
  | rewritten => exact fun _ _ _ found => found
  | claimed _ _ _ _ reserved => exact Transports.claim_extends reserved
  | reserved claimed => exact Transports.claim_extends claimed

/-- A nonce stays bound to the step it was first bound to. -/
theorem effect_nonces (effect : Effect bytes s op outcome t) (found : s.nonces.get key = some binding) :
    t.nonces.get key = some binding := by
  cases effect with
  | created => exact found
  | rewritten => exact found
  | claimed claim _ _ free _ =>
    change (s.nonces.set _ _).get key = _
    rw [get_set]
    split
    · rename_i same
      rw [same] at found
      rw [free binding found]
    · exact found
  | reserved => exact found

/-- How one operation moves a stored plan: not at all, or by one revision. -/
structure Moved (before after : StoredPlan) : Prop where
  changed : after ≠ before → after.revision = before.revision + 1

theorem effect_plans (effect : Effect bytes s op outcome t) (found : s.plans.get id = some before) :
    ∃ after, t.plans.get id = some after ∧ Moved before after := by
  have untouched : Moved before before := ⟨fun differ => False.elim (differ rfl)⟩
  cases effect with
  | created plan _ absent =>
    have other : id ≠ plan.id := by
      rintro rfl
      rw [absent] at found
      contradiction
    exact ⟨before, by rwa [get_set_ne _ _ other], untouched⟩
  | rewritten key other stored next saved =>
    by_cases here : id = key
    · subst here
      cases found.symm.trans stored
      refine ⟨_, get_set_self _ _ _, ⟨fun differ => ?_⟩⟩
      rcases next with same | rewritten
      · exact False.elim (differ same)
      · exact rewritten.revision
    · exact ⟨before, by rwa [get_set_ne _ _ here], untouched⟩
  | claimed claim stored prepared =>
    obtain ⟨step, _, rfl | ⟨new, _, _, _, same⟩⟩ := prepareClaim_ok prepared
    · exact ⟨before, found, untouched⟩
    · by_cases here : id = claim.planId
      · subst here
        cases found.symm.trans stored
        rw [same]
        exact ⟨withStep before claim.stepIndex new, get_set_self _ _ _, ⟨fun _ => rfl⟩⟩
      · rw [same]
        exact ⟨before, (get_set_ne _ _ here).trans found, untouched⟩
  | reserved => exact ⟨before, found, untouched⟩

theorem effect_bounded (effect : Effect bytes s op outcome t) (bounded : s.Bounded bytes) :
    t.Bounded bytes := by
  cases effect with
  | created _ new absent =>
    intro id plan found
    rw [get_set] at found
    split at found
    · cases found
      exact new.bounded
    · exact bounded id plan found
  | rewritten _ other stored next saved =>
    intro id plan found
    rw [get_set] at found
    split at found
    · cases found
      exact next.bounded bounded stored
    · exact bounded id plan found
  | claimed claim stored prepared =>
    intro id plan found
    change (PreparedClaim.stored _ s.plans claim.planId).get id = some plan at found
    unfold PreparedClaim.stored at found
    split at found
    · rw [get_set] at found
      split at found
      · cases found
        exact prepareClaim_bounded prepared (bounded _ _ stored)
      · exact bounded id plan found
    · exact bounded id plan found
  | reserved => exact bounded

/-- One event of a run: a refusal that changed nothing, or an answer and its effect. -/
theorem step_cases (bounded : s.Bounded bytes) (stepped : Step bytes s event t) :
    (∃ error, event.result = .error error ∧ t = s) ∨
    ∃ outcome, event.result = .ok outcome ∧ Effect bytes s event.op outcome t := by
  unfold Step at stepped
  split at stepped
  · rename_i outcome next ran
    obtain ⟨answer, rfl⟩ := stepped
    exact Or.inr ⟨outcome, answer, perform_ok ran⟩
  · rename_i error next failed
    obtain ⟨answer, rfl⟩ := stepped
    exact Or.inl ⟨error, answer, perform_atomic bounded event.op error _ failed⟩

theorem step_bounded (bounded : s.Bounded bytes) (stepped : Step bytes s event t) : t.Bounded bytes := by
  obtain ⟨_, _, rfl⟩ | ⟨_, _, effect⟩ := step_cases bounded stepped
  · exact bounded
  · exact effect_bounded effect bounded

theorem run_bounded (run : Runs bytes history s) : s.Bounded bytes := by
  refine run.state_invariant ?_ step_bounded
  intro id plan found
  cases found

/-- What every effect keeps, every event of a run keeps: a refusal changes nothing. -/
theorem run_invariant {P : List Event → Memory → Prop} (run : Runs bytes history s) (initial : P [] .empty)
    (refused : ∀ {history s op error}, P history s → P (history ++ [⟨op, .error error⟩]) s)
    (effect : ∀ {history s op outcome t}, P history s → Effect bytes s op outcome t →
      P (history ++ [⟨op, .ok outcome⟩]) t) : P history s := by
  refine run.invariant initial ?_
  intro history s event t past holds stepped
  obtain ⟨op, result⟩ := event
  obtain ⟨error, answer, rfl⟩ | ⟨outcome, answer, changed⟩ := step_cases (run_bounded past) stepped
  · cases answer
    exact refused holds
  · cases answer
    exact effect holds changed

/-- The events and the state of operations performed one after another. -/
def performAll (bytes : JsonBytes) (s : Memory) : List Op → List Event × Memory
  | [] => ([], s)
  | op :: rest =>
    match (perform bytes op).run s with
    | .ok outcome t => (⟨op, .ok outcome⟩ :: (performAll bytes t rest).1, (performAll bytes t rest).2)
    | .error error t => (⟨op, .error error⟩ :: (performAll bytes t rest).1, (performAll bytes t rest).2)

theorem performAll_run (ops : List Op) (s : Memory) :
    Run (Step bytes) s (performAll bytes s ops).1 (performAll bytes s ops).2 := by
  induction ops generalizing s with
  | nil => exact .nil
  | cons op rest ih =>
    unfold performAll
    split
    · rename_i outcome t ran
      have first : Run (Step bytes) s [⟨op, .ok outcome⟩] t :=
        Run.nil.snoc (by simp only [Step, ran, and_self])
      exact first.append (ih t)
    · rename_i error t failed
      have first : Run (Step bytes) s [⟨op, .error error⟩] t :=
        Run.nil.snoc (by simp only [Step, failed, and_self])
      exact first.append (ih t)

/-- A plan of one step, and claims on it, to run the store on. -/
def samplePlan : StoredPlan where
  id := "plan"
  actor := ⟨"account", "owner:account"⟩
  draft := ⟨"0xaaaaaaaaaaaaaaaaaaaaaaaaaaaaaaaaaaaaaaaa", [⟨1, []⟩], "pay"⟩
  commitment := "0xcccccccccccccccccccccccccccccccccccccccccccccccccccccccccccccccc"
  createdAt := 0
  expiresAt := 100000
  revision := 0
  steps := [{ index := 0, state := .waiting }]

def sampleClaim (now : Int) (leaseToken : String) (expectedRevision : Int) : SubmissionClaim where
  actor := samplePlan.actor
  planId := "plan"
  stepIndex := 0
  expectedRevision
  attempt := {
    hash := "0xABababababababababababababababababababababababababababababababab"
    rawTransaction := "0x02"
    sender := "0xBbbbbbbbbbbbbbbbbbbbbbbbbbbbbbbbbbbbbbbb"
    chainId := 1
    nonce := "7"
    type := .eip1559
    gas := "21000"
    maximumFeePerGas := "1"
    maximumCost := "21000"
    reservedAt := now
    leaseToken
    leaseUntil := now + 10
    dispatchCount := 0 }
  idempotency := ⟨"submit", "request", "submit"⟩
  now
  dispatch := true

def sampleBytes : JsonBytes where
  plan := fun _ => 1000
  claim := fun _ => 1000
  receipt := fun _ => 1000
  semantic := fun _ => 1000
  lastError := fun _ => 1000

def sampleCreate : Op := .create samplePlan ⟨"create", "draft", "create"⟩ 0 (.ok ())

/-- The plan created and its only step dispatched. -/
def sampleRun : List Event × Memory :=
  performAll sampleBytes .empty [sampleCreate, .claimSubmission (sampleClaim 0 "first" 0) 0 (.ok ())]

theorem sampleRun_dispatched :
    ((sampleRun.2.stepAt "plan" 0).bind StoredStep.attempt).map SignedAttempt.dispatchCount = some 1 := by
  decide +kernel

theorem sampleRun_signed : ∃ plan step attempt, sampleRun.2.plans.get "plan" = some plan ∧
    plan.steps[0]? = some step ∧ step.attempt = some attempt ∧ attempt.dispatchCount = 1 := by
  obtain ⟨attempt, present, count⟩ := Option.map_eq_some_iff.mp sampleRun_dispatched
  obtain ⟨step, found, present⟩ := some_bind present
  obtain ⟨plan, stored, place⟩ := some_bind found
  exact ⟨plan, step, attempt, stored, place, present, count⟩

end JBCenter.Transactions
