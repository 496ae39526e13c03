import JBCenter.Base.Pointwise
import JBCenter.Transactions.Memory

/-! What an accepted request makes of a plan document. Each function of the store gets
one inversion, and later proofs read documents through these only. -/
namespace JBCenter.Transactions
open Rest
variable {bytes : JsonBytes}

/-- What claims alone may set: everything but the notes a settlement makes. -/
def SignedAttempt.core (attempt : SignedAttempt) : SignedAttempt :=
  { attempt with broadcastAt := none, lastError := none }

def ExternalExecution.binding (external : ExternalExecution) : Reservation :=
  ⟨external.transport, external.bindingId⟩

/-- The execution a step is bound to is untouched. -/
structure Kept (old new : StoredStep) : Prop where
  attempt : new.attempt.map SignedAttempt.core = old.attempt.map SignedAttempt.core
  external : new.externalExecution.map ExternalExecution.binding =
    old.externalExecution.map ExternalExecution.binding

theorem Kept.refl (step : StoredStep) : Kept step step := ⟨rfl, rfl⟩

/-- An unbound step gets the external execution its permanent reservation names. -/
structure Attached (reserved : Option Reservation) (old new : StoredStep) : Prop where
  unsigned : old.attempt = none
  unbound : old.externalExecution = none
  still : new.attempt = none
  bound : ∃ external, new.externalExecution = some external ∧ reserved = some external.binding

/-- The fate of one step under every operation but a submission claim. -/
def Evolved (reserved : Int → Option Reservation) (i : Nat) (old new : StoredStep) : Prop :=
  Kept old new ∨ Attached (reserved i) old new

theorem Evolved.steps_refl (steps : List StoredStep) : Pointwise (Evolved reserved) steps steps := by
  apply Pointwise.refl
  intro i step
  exact Or.inl (Kept.refl step)

/-- How every operation but a submission claim may rewrite a stored plan. -/
structure Rewrites (bytes : JsonBytes) (reserved : Int → Option Reservation)
    (current next : StoredPlan) : Prop where
  document : next = { current with steps := next.steps, revision := current.revision + 1 }
  bounded : bytes.plan next ≤ maximumPlanBytes
  steps : Pointwise (Evolved reserved) current.steps next.steps

theorem Rewrites.revision (rewritten : Rewrites bytes reserved current next) :
    next.revision = current.revision + 1 :=
  congrArg StoredPlan.revision rewritten.document

theorem boundedClone_ok {size : α → Nat} {value copy : α} (cloned : boundedClone size value = .ok copy) :
    value = copy ∧ size value ≤ maximumPlanBytes := by
  unfold boundedClone at cloned
  obtain ⟨small, cloned⟩ := ok_refuse cloned
  cases cloned
  exact ⟨rfl, by simpa using small⟩

theorem boundedClone_of_le {size : α → Nat} {value : α} (small : size value ≤ maximumPlanBytes) :
    boundedClone size value = .ok value := by
  unfold boundedClone refuse
  rw [if_neg (by simpa using small)]
  rfl

theorem assertSavedStep_ok (accepted : assertSavedStep index previous step = .ok ()) :
    Kept previous step := by
  unfold assertSavedStep at accepted
  obtain ⟨_, accepted⟩ := ok_refuse accepted
  obtain ⟨external, accepted⟩ := ok_refuse accepted
  have attempt : step.attempt = previous.attempt := by simpa using refuse_ok.mp accepted
  refine ⟨by rw [attempt], ?_⟩
  by_cases same : step = previous
  · rw [same]
  · simp only [ne_eq, same, not_false_eq_true, decide_true, Bool.and_true, Bool.or_eq_false_iff,
      Option.isSome_eq_false_iff, Option.isNone_iff_eq_none] at external
    rw [external.1, external.2]

theorem assertSavedSteps_ok (accepted : assertSavedSteps bytes plan steps = .ok ()) :
    Pointwise (fun _ old new => Kept old new) plan.steps steps := by
  unfold assertSavedSteps at accepted
  obtain ⟨length, accepted⟩ := ok_refuse accepted
  obtain ⟨_, checked, _⟩ := ok_bind accepted
  have length : steps.length = plan.steps.length := by simpa using length
  refine ⟨length, ?_⟩
  intro i old new first second
  have member : ((old, new), i) ∈ (plan.steps.zip steps).zipIdx := by
    rw [List.mk_mem_zipIdx_iff_getElem?, List.getElem?_zip_eq_some]
    exact ⟨first, second⟩
  exact assertSavedStep_ok (forM_ok.mp checked _ member)

theorem settledStep_kept (held : current.attempt = some attempt) :
    Kept current (settledStep current attempt patch) :=
  ⟨by simp [settledStep, held, SignedAttempt.core], rfl⟩

theorem withStep_rewrites (place : at? current.steps index = some old)
    (related : Kept old new ∨ Attached (reserved index) old new)
    (small : bytes.plan (withStep current index new) ≤ maximumPlanBytes) :
    Rewrites bytes reserved current (withStep current index new) := by
  obtain ⟨nonneg, found⟩ := at?_some place
  refine ⟨rfl, small, Pointwise.set (Evolved.steps_refl _) ?_⟩
  intro a b first _
  cases first.symm.trans found
  rwa [Evolved, Int.toNat_of_nonneg nonneg]

/-- A settlement leaves the plan, or notes on the step whose lease carries the token. -/
theorem settle_cases (settled : settle bytes plan index leaseToken patch = .ok next) :
    next = plan ∨ ∃ current attempt, at? plan.steps index = some current ∧ current.attempt = some attempt ∧
      attempt.leaseToken = leaseToken ∧ next = withStep plan index (settledStep current attempt patch) ∧
      bytes.plan next ≤ maximumPlanBytes := by
  unfold settle at settled
  obtain ⟨_, settled⟩ := ok_refuse settled
  split at settled
  · rename_i current place
    iterate 3 obtain ⟨_, _, settled⟩ := ok_bind settled
    split at settled
    · rename_i attempt held
      split at settled
      · cases settled
        exact Or.inl rfl
      · rename_i token
        iterate 2 obtain ⟨_, _, settled⟩ := ok_bind settled
        simp only at settled
        split at settled
        · cases settled
          exact Or.inl rfl
        · obtain ⟨rfl, small⟩ := boundedClone_ok settled
          exact Or.inr ⟨current, attempt, place, held, not_not.mp token, rfl, small⟩
    · cases settled
      exact Or.inl rfl
  · cases settled

theorem settle_ok (settled : settle bytes plan index leaseToken patch = .ok next) :
    next = plan ∨ Rewrites bytes reserved plan next := by
  obtain rfl | ⟨current, attempt, place, held, _, rfl, small⟩ := settle_cases settled
  · exact Or.inl rfl
  · exact Or.inr (withStep_rewrites place (Or.inl (settledStep_kept held)) small)

/-- A step that carries nothing yet can be attached, whatever happened to the others. -/
theorem attached_of_empty (related : Kept old step ∨ Attached reserved old step)
    (unsigned : step.attempt = none) (unbound : step.externalExecution = none)
    (external : ExternalExecution) (bound : reserved = some external.binding) (state : StepState) :
    Attached reserved old { step with externalExecution := some external, state } := by
  rcases related with kept | attached
  · have attempt := kept.attempt
    have binding := kept.external
    rw [unsigned, Option.map_none, eq_comm, Option.map_eq_none_iff] at attempt
    rw [unbound, Option.map_none, eq_comm, Option.map_eq_none_iff] at binding
    exact ⟨attempt, binding, unsigned, external, rfl, bound⟩
  · obtain ⟨held, present, _⟩ := attached.bound
    rw [unbound] at present
    contradiction

theorem attachBinding_ok (reservedHere : reserved binding.stepIndex = some ⟨binding.transport, binding.bindingId⟩)
    (progress : Pointwise (Evolved reserved) plan.steps before.1)
    (attached : attachBinding plan before binding = .ok after) :
    Pointwise (Evolved reserved) plan.steps after.1 := by
  unfold attachBinding at attached
  split at attached
  · cases attached
    exact progress
  iterate 2 obtain ⟨_, _, attached⟩ := ok_bind attached
  split at attached
  · rename_i step place
    obtain ⟨nonneg, found⟩ := at?_some place
    split at attached
    · rename_i call _
      obtain ⟨unsigned, attached⟩ := ok_refuse attached
      split at attached
      · obtain ⟨_, attached⟩ := ok_refuse attached
        cases attached
        exact progress
      · rename_i unbound
        obtain ⟨_, attached⟩ := ok_refuse attached
        cases attached
        apply progress.set
        intro a b first second
        cases second.symm.trans found
        have related := progress.related _ a step first found
        rw [Evolved, Int.toNat_of_nonneg nonneg] at related ⊢
        have empty : step.attempt = none := by simpa using unsigned
        exact Or.inr (attached_of_empty related empty unbound ⟨_, _, call.chainId, none⟩ reservedHere
          .reserved)
    · cases attached
  · cases attached

theorem attachExternalExecutions_ok
    (reservedAll : ∀ binding ∈ bindings, reserved binding.stepIndex = some ⟨binding.transport, binding.bindingId⟩)
    (attached : attachExternalExecutions bytes plan bindings = .ok next) :
    next = plan ∨ Rewrites bytes reserved plan next := by
  unfold attachExternalExecutions at attached
  obtain ⟨_, _, attached⟩ := ok_bind attached
  obtain ⟨⟨steps, changed⟩, folded, attached⟩ := ok_bind attached
  have progress : Pointwise (Evolved reserved) plan.steps steps :=
    foldlM_ok (P := fun progress => Pointwise (Evolved reserved) plan.steps progress.1) folded
      (Evolved.steps_refl plan.steps)
      (fun _ binding _ member kept done => attachBinding_ok (reservedAll binding member) kept done)
  cases changed with
  | false =>
    cases attached
    exact Or.inl rfl
  | true =>
    obtain ⟨rfl, small⟩ := boundedClone_ok attached
    exact Or.inr ⟨rfl, small, progress⟩

theorem observeStep_ok
    (steps : Pointwise (fun _ old new => Kept old new) plan.steps before)
    (observed : observeStep bytes plan bindingId before update = .ok after) :
    Pointwise (fun _ old new => Kept old new) plan.steps after := by
  unfold observeStep at observed
  obtain ⟨_, observed⟩ := ok_refuse observed
  split at observed
  · rename_i previous place
    have found := (at?_some place).2
    obtain ⟨unsigned, observed⟩ := ok_refuse observed
    split at observed
    · rename_i external bound
      obtain ⟨matching, observed⟩ := ok_refuse observed
      iterate 5 obtain ⟨_, _, observed⟩ := ok_bind observed
      cases observed
      simp only [ne_eq, Bool.or_eq_false_iff, decide_eq_false_iff_not, not_not] at matching
      apply steps.set
      intro a b first _
      cases first.symm.trans found
      have empty : previous.attempt = none := by simpa using unsigned
      exact ⟨by simp [empty], by simp [bound, ExternalExecution.binding, matching.1.2]⟩
    · cases observed
  · cases observed

theorem applyExternalObservations_ok
    (applied : applyExternalObservations bytes plan bindingId updates = .ok next) :
    next = plan ∨ Rewrites bytes reserved plan next := by
  unfold applyExternalObservations at applied
  iterate 3 obtain ⟨_, _, applied⟩ := ok_bind applied
  obtain ⟨steps, folded, applied⟩ := ok_bind applied
  have kept : Pointwise (fun _ old new => Kept old new) plan.steps steps :=
    foldlM_ok folded (Pointwise.refl (fun _ => Kept.refl) plan.steps)
      (fun _ _ _ _ before observed => observeStep_ok before observed)
  split at applied
  · cases applied
    exact Or.inl rfl
  · obtain ⟨rfl, small⟩ := boundedClone_ok applied
    exact Or.inr ⟨rfl, small, kept.mono (fun _ _ _ => Or.inl)⟩

/-- A plan as it is created: nothing has happened to it, and it fits its limits. -/
structure NewPlan (bytes : JsonBytes) (plan : StoredPlan) : Prop where
  revision : plan.revision = 0
  bounded : bytes.plan plan ≤ maximumPlanBytes
  calls : plan.steps.length = plan.draft.calls.length
  steps : ∀ i step, plan.steps[i]? = some step → assertNewStep i step = true

theorem assertNewPlan_ok (accepted : assertNewPlan bytes plan now = .ok ()) : NewPlan bytes plan := by
  unfold assertNewPlan at accepted
  iterate 5 obtain ⟨_, _, accepted⟩ := ok_bind accepted
  obtain ⟨initial, accepted⟩ := ok_refuse accepted
  cases cloned : boundedClone bytes.plan plan with
  | error e =>
    rw [cloned] at accepted
    cases accepted
  | ok copy =>
    simp only [Bool.or_eq_false_iff, List.any_eq_false, ne_eq, decide_eq_false_iff_not, not_not] at initial
    refine ⟨initial.1.1.1.1.1.1.2, (boundedClone_ok cloned).2, initial.1.2, ?_⟩
    intro i step found
    simpa using initial.2 (step, i) (List.mk_mem_zipIdx_iff_getElem?.mpr found)

theorem NewPlan.unsigned {i : Nat} (new : NewPlan bytes plan) (found : plan.steps[i]? = some step) :
    step.attempt = none ∧ step.externalExecution = none := by
  have checked := new.steps i step found
  simp only [assertNewStep, Bool.and_eq_true, Option.isNone_iff_eq_none] at checked
  exact ⟨checked.1.1.1.2, checked.1.1.2⟩

/-- What a submission claim may make of the step it names. -/
inductive Claimed (plan : StoredPlan) (claim : SubmissionClaim) (step : StoredStep) :
    StoredStep → Bool → Prop where
  | recorded (unsigned : step.attempt = none) :
    Claimed plan claim step
      { index := claim.stepIndex, state := .submitted, attempt := some (recordedAttempt claim.attempt) } false
  | dispatched (lapsed : ∀ held, step.attempt = some held →
        held.leaseUntil ≤ claim.now ∧ held.leaseToken ≠ claim.attempt.leaseToken)
      (current : claim.now < claim.attempt.leaseUntil) (unexpired : claim.now < plan.expiresAt)
      (ready : ∀ call, at? plan.draft.calls claim.stepIndex = some call →
        ∀ dependency ∈ call.dependsOn, dependencyConfirmed plan dependency = true) :
    Claimed plan claim step
      { step with attempt := some (dispatchedAttempt step.attempt claim.attempt), state := .reserved } true

/-- An accepted claim names an unforwarded step that holds this signed transaction or none. -/
structure Claimable (plan : StoredPlan) (claim : SubmissionClaim) (step : StoredStep) : Prop where
  place : at? plan.steps claim.stepIndex = some step
  unbound : step.externalExecution = none
  same : ∀ held, step.attempt = some held → attemptIdentity held = attemptIdentity claim.attempt

theorem dispatch_ready (accepted : ((at? plan.draft.calls index).elim [] PlanCall.dependsOn).forM
      (fun dependency => refuse (!dependencyConfirmed plan dependency) error) = .ok ())
    (found : at? plan.draft.calls index = some call) :
    ∀ dependency ∈ call.dependsOn, dependencyConfirmed plan dependency = true := by
  intro dependency member
  rw [found] at accepted
  simpa using refuse_ok.mp (forM_ok.mp accepted dependency member)

theorem prepareClaim_ok (prepared : prepareClaim bytes plan claim = .ok result) :
    ∃ step, Claimable plan claim step ∧ (result = ⟨plan, false, false⟩ ∨
      ∃ new, Claimed plan claim step new result.dispatch ∧ plan.revision = claim.expectedRevision ∧
        bytes.plan (withStep plan claim.stepIndex new) ≤ maximumPlanBytes ∧
        result = ⟨withStep plan claim.stepIndex new, result.dispatch, true⟩) := by
  unfold prepareClaim at prepared
  iterate 4 obtain ⟨_, _, prepared⟩ := ok_bind prepared
  split at prepared
  · rename_i step place
    obtain ⟨unbound, prepared⟩ := ok_refuse prepared
    obtain ⟨same, prepared⟩ := ok_refuse prepared
    obtain ⟨fresh, prepared⟩ := ok_refuse prepared
    have claimable : Claimable plan claim step := by
      refine ⟨place, by simpa using unbound, ?_⟩
      intro held present
      simpa [present, sameAttempt] using same
    refine ⟨step, claimable, ?_⟩
    split at prepared
    · rename_i observed
      simp only [Bool.and_eq_true, Option.isNone_iff_eq_none] at observed
      obtain ⟨_, _, prepared⟩ := ok_bind prepared
      obtain ⟨_, cloned, prepared⟩ := ok_bind prepared
      obtain ⟨rfl, small⟩ := boundedClone_ok cloned
      cases prepared
      exact Or.inr ⟨_, .recorded observed.1, by simpa [observed.1] using fresh, small, rfl⟩
    · split at prepared
      · cases prepared
        exact Or.inl rfl
      · rename_i _ open'
        obtain ⟨revision, prepared⟩ := ok_refuse prepared
        obtain ⟨unexpired, prepared⟩ := ok_refuse prepared
        obtain ⟨_, _, prepared⟩ := ok_bind prepared
        obtain ⟨_, dependencies, prepared⟩ := ok_bind prepared
        obtain ⟨window, prepared⟩ := ok_refuse prepared
        obtain ⟨token, prepared⟩ := ok_refuse prepared
        obtain ⟨_, _, prepared⟩ := ok_bind prepared
        obtain ⟨_, cloned, prepared⟩ := ok_bind prepared
        obtain ⟨rfl, small⟩ := boundedClone_ok cloned
        cases prepared
        simp only [Bool.or_eq_true, not_or] at open'
        simp only [Bool.or_eq_false_iff, decide_eq_false_iff_not, not_le] at window unexpired
        refine Or.inr ⟨_, .dispatched ?_ window.1.1 unexpired ?_, by simpa using revision, small, rfl⟩
        · intro held present
          have lease := open'.2
          simp only [present, Option.any_some, decide_eq_true_eq, not_lt] at lease
          exact ⟨lease, by simpa [present] using token⟩
        · intro call found
          exact dispatch_ready dependencies found
  · cases prepared

end JBCenter.Transactions
