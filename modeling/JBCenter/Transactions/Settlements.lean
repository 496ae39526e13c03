import JBCenter.Transactions.Atomicity

/-! Settlements. A reply of the network that arrives late is settled under the lease token it was sent with, before,
between or after the refreshes that found the receipt, lost it again or leased the step anew. -/
namespace JBCenter.Transactions
open Rest
variable {bytes : JsonBytes} {plan next : StoredPlan} {index : Int} {token : String} {patch : SubmissionPatch}
variable {s t : Memory}

def StoredStep.lease (step : StoredStep) : Option String := step.attempt.map SignedAttempt.leaseToken

def StoredStep.Reconciled (step : StoredStep) : Prop :=
  step.receipt.isSome ∨ step.state = .confirming ∨ step.state = .confirmed ∨ step.state = .reverted ∨
    step.state = .reorged

/-- What a reply may note on a step: its state, when it was sent, and the last error. -/
structure Noted (patch : SubmissionPatch) (old new : StoredStep) : Prop where
  frame : { new with state := old.state, attempt := old.attempt } = old
  attempt : new.attempt.map SignedAttempt.core = old.attempt.map SignedAttempt.core
  state : new.state = old.state ∨ new.state = patch.state
  reconciled : old.Reconciled → new.state = old.state

structure NotedPlan (index : Int) (token : String) (patch : SubmissionPatch) (plan next : StoredPlan) : Prop where
  document : next = { plan with steps := next.steps, revision := plan.revision + 1 }
  others : ∀ i : Nat, (i : Int) ≠ index → next.steps[i]? = plan.steps[i]?
  step : ∃ (i : Nat) (old new : StoredStep), (i : Int) = index ∧ plan.steps[i]? = some old ∧ next.steps[i]? = some new ∧
    old.lease = some token ∧ Noted patch old new

theorem settledStep_noted {current : StoredStep} {attempt : SignedAttempt} (held : current.attempt = some attempt) :
    Noted patch current (settledStep current attempt patch) where
  frame := by cases current; cases held; rfl
  attempt := (settledStep_kept held).attempt
  state := by
    simp only [settledStep]
    split
    · exact Or.inr rfl
    · exact Or.inl rfl
  reconciled spoken := by
    simp only [settledStep]
    rw [if_neg]
    rcases spoken with receipt | state | state | state | state
    · simp [Option.isNone_eq_false_iff.mpr receipt]
    all_goals simp [state]

theorem withStep_noted {current : StoredStep} {attempt : SignedAttempt} (place : at? plan.steps index = some current)
    (held : current.attempt = some attempt) :
    NotedPlan index attempt.leaseToken patch plan (withStep plan index (settledStep current attempt patch)) := by
  obtain ⟨nonneg, found⟩ := at?_some place
  have same : (index.toNat : Int) = index := Int.toNat_of_nonneg nonneg
  refine ⟨rfl, ?_, index.toNat, current, settledStep current attempt patch, same, found, ?_, ?_, settledStep_noted held⟩
  · intro i other
    exact List.getElem?_set_ne (by omega)
  · exact List.getElem?_set_self (List.getElem?_eq_some_iff.mp found).1
  · simp [StoredStep.lease, held]

theorem settle_noted (settled : settle bytes plan index token patch = .ok next) :
    next = plan ∨ NotedPlan index token patch plan next := by
  obtain rfl | ⟨current, attempt, place, held, rfl, rfl, _⟩ := settle_cases settled
  · exact Or.inl rfl
  · exact Or.inr (withStep_noted place held)

theorem settle_other (settled : settle bytes plan index token patch = .ok next)
    (other : ∀ step, at? plan.steps index = some step → step.lease ≠ some token) : next = plan := by
  obtain rfl | ⟨current, attempt, place, held, rfl, rfl, _⟩ := settle_cases settled
  · rfl
  · exact False.elim (other current place (by simp [StoredStep.lease, held]))

structure SettlementInput (plan : StoredPlan) (index : Int) (token : String) (patch : SubmissionPatch) : Prop where
  safe : isSafeInteger index = true
  place : (at? plan.steps index).isSome
  text : assertText token 192 = .ok ()
  broadcastAt : optionally assertTime patch.broadcastAt = .ok ()
  lastError : optionally assertLastError patch.lastError = .ok ()

theorem settle_other_answers (input : SettlementInput plan index token patch)
    (other : ∀ step, at? plan.steps index = some step → step.lease ≠ some token) :
    settle bytes plan index token patch = .ok plan := by
  obtain ⟨step, place⟩ := Option.isSome_iff_exists.mp input.place
  have stale := other step place
  unfold settle refuse
  simp only [input.safe, Bool.not_true, Bool.false_eq_true, if_false, place, input.text, input.broadcastAt,
    input.lastError]
  cases held : step.attempt with
  | none => rfl
  | some attempt =>
    have differs : attempt.leaseToken ≠ token := by simpa [StoredStep.lease, held] using stale
    simp only [if_pos differs]
    rfl

/-- What a settlement makes of the store: the plan it names is noted on or left, and nothing else is touched. -/
structure Settles (id : String) (index : Int) (token : String) (patch : SubmissionPatch) (s t : Memory) : Prop where
  frame : t = { s with plans := t.plans }
  others : ∀ other, other ≠ id → t.plans.get other = s.plans.get other
  plan : ∃ plan next, s.plans.get id = some plan ∧ t.plans.get id = some next ∧
    (next = plan ∨ NotedPlan index token patch plan next)
  stale : (∀ plan step, s.plans.get id = some plan → at? plan.steps index = some step →
    step.lease ≠ some token) → t = s

theorem settleSubmission_settles {actor : RestActor} {id : String}
    (ran : (settleSubmission bytes actor id index token patch).run s = .ok next t) :
    Settles id index token patch s t := by
  unfold settleSubmission at ran
  obtain ⟨_, _, read, ran⟩ := Fallible.bind_ok ran
  cases read
  obtain ⟨plan, required, ran⟩ := Fallible.check_bind_ok ran
  obtain ⟨answer, settled, ran⟩ := Fallible.check_bind_ok ran
  obtain ⟨_, _, written, ran⟩ := Fallible.bind_ok ran
  cases written
  obtain ⟨_, rfl⟩ := Fallible.check_ok ran
  have found := require_ok required
  refine ⟨rfl, ?_, ⟨plan, answer, found, OrderedMap.get_set_self _ _ _, settle_noted settled⟩, ?_⟩
  · intro other differs
    exact OrderedMap.get_set_ne _ _ differs
  · intro stale
    cases settle_other settled (fun step => stale plan step found)
    simp only [OrderedMap.set_get found]

theorem perform_settles {actor : RestActor} {id : String} {outcome : Outcome}
    (ran : (perform bytes (.settleSubmission actor id index token patch)).run s = .ok outcome t) :
    Settles id index token patch s t := by
  obtain ⟨_, settled, _⟩ := Fallible.map_ok ran
  exact settleSubmission_settles settled

/-- What late replies leave of a step: all but its notes, and its state too once reconciliation has spoken. -/
structure Survives (old new : StoredStep) : Prop where
  frame : { new with state := old.state, attempt := old.attempt } = old
  attempt : new.attempt.map SignedAttempt.core = old.attempt.map SignedAttempt.core
  reconciled : old.Reconciled → new.state = old.state

theorem Noted.survives {old new : StoredStep} (noted : Noted patch old new) : Survives old new :=
  ⟨noted.frame, noted.attempt, noted.reconciled⟩

theorem Survives.refl (step : StoredStep) : Survives step step := ⟨rfl, rfl, fun _ => rfl⟩

theorem Survives.spoken {old new : StoredStep} (survives : Survives old new) (spoken : old.Reconciled) :
    new.Reconciled := by
  have receipt : new.receipt = old.receipt := by rw [← survives.frame]
  have state := survives.reconciled spoken
  unfold StoredStep.Reconciled at spoken ⊢
  rwa [receipt, state]

theorem Survives.trans {a b c : StoredStep} (first : Survives a b) (second : Survives b c) : Survives a c where
  frame := by
    have same : { c with state := a.state, attempt := a.attempt } = { b with state := a.state, attempt := a.attempt } := by
      rw [← second.frame]
    rw [same, first.frame]
  attempt := second.attempt.trans first.attempt
  reconciled spoken := (second.reconciled (first.spoken spoken)).trans (first.reconciled spoken)

/-- Nothing but plans changed, and every step of every plan survived. -/
structure Unharmed (s t : Memory) : Prop where
  frame : t = { s with plans := t.plans }
  steps : ∀ {id i step}, s.stepAt id i = some step → ∃ later, t.stepAt id i = some later ∧ Survives step later

theorem Unharmed.refl (s : Memory) : Unharmed s s := ⟨rfl, fun found => ⟨_, found, .refl _⟩⟩

theorem Unharmed.trans {s t u : Memory} (first : Unharmed s t) (second : Unharmed t u) : Unharmed s u where
  frame := by
    rw [second.frame, first.frame]
  steps found := by
    obtain ⟨middle, held, kept⟩ := first.steps found
    obtain ⟨final, held, kept'⟩ := second.steps held
    exact ⟨final, held, kept.trans kept'⟩

theorem Settles.unharmed {id : String} (settles : Settles id index token patch s t) : Unharmed s t where
  frame := settles.frame
  steps := by
    intro other i step found
    obtain ⟨plan, next, stored, written, change⟩ := settles.plan
    by_cases same : other = id
    · subst same
      rw [stepAt_of_get stored] at found
      rw [stepAt_of_get written]
      obtain rfl | noted := change
      · exact ⟨step, found, .refl step⟩
      · obtain ⟨j, old, new, place, before, after, _, notes⟩ := noted.step
        by_cases here : i = j
        · subst here
          cases before.symm.trans found
          exact ⟨new, after, notes.survives⟩
        · refine ⟨step, ?_, .refl step⟩
          rw [noted.others i (by omega), found]
    · refine ⟨step, ?_, .refl step⟩
      unfold Memory.stepAt at found ⊢
      rwa [settles.others other same]

def Event.settles (event : Event) : Prop :=
  ∃ actor id index token patch, event.op = .settleSubmission actor id index token patch

theorem settled_step {event : Event} (bounded : s.Bounded bytes) (stepped : Step bytes s event t)
    (settles : event.settles) : Unharmed s t := by
  obtain ⟨actor, id, index, token, patch, op⟩ := settles
  unfold Step at stepped
  split at stepped
  · rename_i outcome next ran
    rw [op] at ran
    rw [stepped.2]
    exact (perform_settles ran).unharmed
  · rename_i error next failed
    rw [stepped.2, perform_atomic bounded _ _ _ failed]
    exact .refl s

theorem settlements_unharmed {later : List Event} (bounded : s.Bounded bytes) (run : Run (Step bytes) s later t)
    (settle : ∀ event ∈ later, event.settles) : t.Bounded bytes ∧ Unharmed s t := by
  induction run with
  | nil => exact ⟨bounded, .refl s⟩
  | snoc past taken ih =>
    rw [List.forall_mem_append] at settle
    obtain ⟨bounded, unharmed⟩ := ih settle.1
    exact ⟨step_bounded bounded taken, unharmed.trans (settled_step bounded taken (settle.2 _ List.mem_cons_self))⟩

/-- A late reply rolls nothing back. Under another token than the step's own the plan is left as it is; under its own it
is noted on one step, whose state stays once reconciliation has spoken. That is so after whatever the store did before,
and any number of replies in a row leave every step's receipt, attempt and reconciled state. -/
theorem late_reply_keeps_reconciliation (bytes : JsonBytes) :
    (∀ plan index token patch next, settle bytes plan index token patch = .ok next →
      next = plan ∨ NotedPlan index token patch plan next) ∧
    (∀ plan index token patch,
      (∀ step, at? plan.steps index = some step → step.lease ≠ some token) →
      (∀ next, settle bytes plan index token patch = .ok next → next = plan) ∧
      (SettlementInput plan index token patch → settle bytes plan index token patch = .ok plan)) ∧
    ∀ history s, Runs bytes history s →
      (∀ actor id index token patch,
        (∀ error t, (perform bytes (.settleSubmission actor id index token patch)).run s = .error error t → t = s) ∧
        ∀ outcome t, (perform bytes (.settleSubmission actor id index token patch)).run s = .ok outcome t →
          Settles id index token patch s t) ∧
      ∀ later t, Run (Step bytes) s later t → (∀ event ∈ later, event.settles) → Unharmed s t := by
  refine ⟨fun _ _ _ _ _ => settle_noted, ?_, ?_⟩
  · intro plan index token patch stale
    exact ⟨fun next settled => settle_other settled stale, fun input => settle_other_answers input stale⟩
  · intro history s run
    refine ⟨fun actor id index token patch => ⟨?_, fun outcome t => perform_settles⟩, ?_⟩
    · intro error t failed
      exact perform_atomic (run_bounded run) _ error t failed
    · intro later t continued settles
      exact (settlements_unharmed (run_bounded run) continued settles).2

def sampleReply : SubmissionPatch := { state := .submitted, broadcastAt := some 5 }

def answeredState (op : Op) (s : Memory) : Option StepState :=
  match (perform sampleBytes op).run s with
  | .ok _ t => (t.stepAt "plan" 0).map StoredStep.state
  | .error _ _ => none

theorem late_reply_keeps_reconciliation_sample :
    ∃ outcome t, (perform sampleBytes (.settleSubmission samplePlan.actor "plan" 0 "first" sampleReply)).run sampleRun.2 =
      .ok outcome t ∧ (t.stepAt "plan" 0).map StoredStep.state = some .submitted ∧
      Settles "plan" 0 "first" sampleReply sampleRun.2 t := by
  have noted : answeredState (.settleSubmission samplePlan.actor "plan" 0 "first" sampleReply) sampleRun.2 =
      some .submitted := by decide +kernel
  unfold answeredState at noted
  split at noted
  · rename_i outcome t ran
    have replies := ((late_reply_keeps_reconciliation sampleBytes).2.2 sampleRun.1 sampleRun.2 (performAll_run _ _)).1
    exact ⟨outcome, t, ran, noted, (replies samplePlan.actor "plan" 0 "first" sampleReply).2 outcome t ran⟩
  · cases noted

end JBCenter.Transactions
