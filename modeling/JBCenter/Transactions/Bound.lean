import JBCenter.Transactions.Steps

/-! What the store holds of a step that is bound to an external execution: the call's chain, a hash and a receipt
in the shape an observation must have. Every operation that writes a plan keeps it. -/
namespace JBCenter.Transactions
open Rest Fallible
variable {bytes : JsonBytes}

structure SoundReceipt (transactionHash : Option String) (receipt : StoredReceipt) : Prop where
  bound : ∃ hash, transactionHash = some hash ∧ hash ≠ "" ∧ toLowerCase receipt.transactionHash = toLowerCase hash
  blockHash : isHex 64 receipt.blockHash = true
  blockNumber : isUint256 receipt.blockNumber = true
  confirmations : isSafeInteger receipt.confirmations = true ∧ 0 ≤ receipt.confirmations
  observedAt : isSafeInteger receipt.observedAt = true ∧ 0 ≤ receipt.observedAt

structure SoundBinding (draft : PlanDraft) (i : Nat) (step : StoredStep) (external : ExternalExecution) : Prop where
  unsigned : step.attempt = none
  forwarded : external.transport ≠ .direct
  bindingId : assertText external.bindingId 192 = .ok ()
  chain : (draft.calls[i]?).map PlanCall.chainId = some external.chainId
  hash : ∀ hash, external.transactionHash = some hash → isHex 64 hash = true
  receipt : ∀ receipt, step.receipt = some receipt → SoundReceipt external.transactionHash receipt

structure SoundStep (draft : PlanDraft) (i : Nat) (step : StoredStep) : Prop where
  index : step.index = i
  external : ∀ external, step.externalExecution = some external → SoundBinding draft i step external

def SoundSteps (draft : PlanDraft) (steps : List StoredStep) : Prop :=
  ∀ (i : Nat) step, steps[i]? = some step → SoundStep draft i step

structure SoundPlan (plan : StoredPlan) : Prop where
  calls : plan.steps.length = plan.draft.calls.length
  few : plan.steps.length ≤ maximumSteps
  steps : SoundSteps plan.draft plan.steps

def Memory.Sound (s : Memory) : Prop := ∀ id plan, s.plans.get id = some plan → SoundPlan plan

variable {s : Memory} {plan : StoredPlan} {step : StoredStep}

variable {draft : PlanDraft} {next : StoredPlan} {claim : SubmissionClaim}

theorem SoundStep.unbound {i : Nat} (index : step.index = i)
    (none : step.externalExecution = none) : SoundStep draft i step := by
  refine ⟨index, ?_⟩
  intro external bound
  rw [none] at bound
  cases bound

variable {steps : List StoredStep}

theorem SoundSteps.set {index : Nat}
    (sound : SoundSteps draft steps) (new : SoundStep draft index step) : SoundSteps draft (steps.set index step) := by
  intro i held found
  rw [List.getElem?_set] at found
  split at found
  · rename_i same
    split at found
    · cases found
      rwa [← same]
    · cases found
  · exact sound i held found

theorem SoundPlan.withSteps (sound : SoundPlan plan)
    (length : steps.length = plan.steps.length) (kept : SoundSteps plan.draft steps) (revision : Int) :
    SoundPlan { plan with steps, revision } :=
  ⟨length.trans sound.calls, by rw [length]; exact sound.few, kept⟩

theorem SoundPlan.withStep {index : Int} {old : StoredStep} (sound : SoundPlan plan)
    (place : at? plan.steps index = some old) (new : (i : Nat) → (i : Int) = index → SoundStep plan.draft i step) :
    SoundPlan (withStep plan index step) := by
  obtain ⟨nonneg, _⟩ := at?_some place
  refine sound.withSteps (by rw [List.length_set]) (sound.steps.set (new _ (Int.toNat_of_nonneg nonneg))) _

theorem SoundPlan.at {index : Int} (sound : SoundPlan plan)
    (place : at? plan.steps index = some step) :
    ∃ i : Nat, (i : Int) = index ∧ plan.steps[i]? = some step ∧ SoundStep plan.draft i step := by
  obtain ⟨nonneg, found⟩ := at?_some place
  exact ⟨_, Int.toNat_of_nonneg nonneg, found, sound.steps _ _ found⟩

theorem assertNewPlan_sound {now : Int} (accepted : assertNewPlan bytes plan now = .ok ()) :
    SoundPlan plan := by
  have new := assertNewPlan_ok accepted
  unfold assertNewPlan at accepted
  iterate 5 obtain ⟨_, _, accepted⟩ := ok_bind accepted
  obtain ⟨initial, _⟩ := ok_refuse accepted
  simp only [Bool.or_eq_false_iff, decide_eq_false_iff_not, Nat.not_lt] at initial
  refine ⟨new.calls, initial.1.1.2, ?_⟩
  intro i step found
  have checked := new.steps i step found
  simp only [assertNewStep, Bool.and_eq_true, decide_eq_true_eq] at checked
  exact .unbound checked.1.1.1.1.1 (new.unsigned found).2

theorem Claimed.sound {i : Nat} {new : StoredStep}
    {dispatch : Bool} (how : Claimed plan claim step new dispatch) (claimable : Claimable plan claim step)
    (place : (i : Int) = claim.stepIndex) (sound : SoundStep draft i step) : SoundStep draft i new := by
  cases how with
  | recorded => exact .unbound place.symm rfl
  | dispatched => exact .unbound sound.index claimable.unbound

theorem prepareClaim_sound {result : PreparedClaim} (sound : SoundPlan plan)
    (prepared : prepareClaim bytes plan claim = .ok result) : SoundPlan result.plan := by
  obtain ⟨step, claimable, rfl | ⟨new, how, _, _, same⟩⟩ := prepareClaim_ok prepared
  · exact sound
  · rw [same]
    refine sound.withStep claimable.place ?_
    obtain ⟨i, place, _, held⟩ := sound.at claimable.place
    intro j same
    have equal : j = i := by omega
    subst equal
    exact how.sound claimable place held

theorem assertSavedStep_sound {i : Nat} {previous : StoredStep} (sound : SoundStep draft i previous)
    (accepted : assertSavedStep i previous step = .ok ()) :
    SoundStep draft i step ∧ (previous.externalExecution.isSome = true → step = previous) := by
  unfold assertSavedStep at accepted
  obtain ⟨index, accepted⟩ := ok_refuse accepted
  obtain ⟨external, _⟩ := ok_refuse accepted
  by_cases same : step = previous
  · rw [same]
    exact ⟨sound, fun _ => rfl⟩
  · simp only [ne_eq, same, not_false_eq_true, decide_true, Bool.and_true, Bool.or_eq_false_iff,
      Option.isSome_eq_false_iff, Option.isNone_iff_eq_none] at external
    refine ⟨.unbound (by simpa using index) external.1, fun bound => ?_⟩
    rw [external.2] at bound
    cases bound

theorem assertSavedSteps_sound (sound : SoundPlan plan)
    (accepted : assertSavedSteps bytes plan steps = .ok ()) :
    steps.length = plan.steps.length ∧ ∀ (i : Nat) step, steps[i]? = some step →
      SoundStep plan.draft i step ∧ ∀ old, plan.steps[i]? = some old → old.externalExecution.isSome = true → step = old := by
  unfold assertSavedSteps at accepted
  obtain ⟨length, accepted⟩ := ok_refuse accepted
  obtain ⟨_, checked, _⟩ := ok_bind accepted
  have length : steps.length = plan.steps.length := by simpa using length
  refine ⟨length, ?_⟩
  intro i step found
  have bound : i < plan.steps.length := by
    rw [← length]
    exact (List.getElem?_eq_some_iff.mp found).1
  have previous : plan.steps[i]? = some plan.steps[i] := List.getElem?_eq_getElem bound
  have member : ((plan.steps[i], step), i) ∈ (plan.steps.zip steps).zipIdx := by
    rw [List.mk_mem_zipIdx_iff_getElem?, List.getElem?_zip_eq_some]
    exact ⟨previous, found⟩
  obtain ⟨kept, same⟩ := assertSavedStep_sound (sound.steps i _ previous) (forM_ok.mp checked _ member)
  refine ⟨kept, ?_⟩
  intro old there external
  cases previous.symm.trans there
  exact same external

theorem settle_sound {index : Int} {leaseToken : String} {patch : SubmissionPatch}
    (sound : SoundPlan plan) (settled : settle bytes plan index leaseToken patch = .ok next) : SoundPlan next := by
  obtain rfl | ⟨current, attempt, place, signed, _, rfl, _⟩ := settle_cases settled
  · exact sound
  · obtain ⟨i, same, _, held⟩ := sound.at place
    refine sound.withStep place ?_
    intro j here
    have equal : j = i := by omega
    subst equal
    refine .unbound held.index ?_
    -- a signed step is not bound
    cases bound : current.externalExecution with
    | none => exact bound
    | some external =>
      have unsigned := (held.external external bound).unsigned
      rw [signed] at unsigned
      cases unsigned

theorem attachBinding_sound {before after : List StoredStep × Bool} {binding : TransportReservation}
    (sound : SoundSteps plan.draft before.1) (attached : attachBinding plan before binding = .ok after) :
    SoundSteps plan.draft after.1 ∧ after.1.length = before.1.length := by
  unfold attachBinding at attached
  split at attached
  · cases attached
    exact ⟨sound, rfl⟩
  rename_i forwarded
  obtain ⟨_, _, attached⟩ := ok_bind attached
  obtain ⟨_, text, attached⟩ := ok_bind attached
  split at attached
  · rename_i step place
    split at attached
    · rename_i call called
      obtain ⟨unsigned, attached⟩ := ok_refuse attached
      split at attached
      · obtain ⟨_, attached⟩ := ok_refuse attached
        cases attached
        exact ⟨sound, rfl⟩
      · obtain ⟨fresh, attached⟩ := ok_refuse attached
        cases attached
        obtain ⟨nonneg, found⟩ := at?_some place
        simp only [Bool.or_eq_false_iff, Option.isSome_eq_false_iff, Option.isNone_iff_eq_none] at fresh unsigned
        refine ⟨sound.set ⟨(sound _ _ found).index, ?_⟩, by rw [List.length_set]⟩
        intro external bound
        cases bound
        refine ⟨unsigned, forwarded, text, ?_, nofun, ?_⟩
        · rw [(at?_some called).2]
          rfl
        · intro receipt present
          rw [fresh.1.2] at present
          cases present
    · cases attached
  · cases attached

theorem attachExternalExecutions_sound {bindings : List TransportReservation}
    (sound : SoundPlan plan) (attached : attachExternalExecutions bytes plan bindings = .ok next) : SoundPlan next := by
  unfold attachExternalExecutions at attached
  obtain ⟨_, _, attached⟩ := ok_bind attached
  obtain ⟨⟨steps, changed⟩, folded, attached⟩ := ok_bind attached
  have kept : SoundSteps plan.draft steps ∧ steps.length = plan.steps.length :=
    foldlM_ok (P := fun progress => SoundSteps plan.draft progress.1 ∧ progress.1.length = plan.steps.length) folded
      ⟨sound.steps, rfl⟩ fun _ _ _ _ before done =>
        have after := attachBinding_sound before.1 done
        ⟨after.1, after.2.trans before.2⟩
  cases changed with
  | false =>
    cases attached
    exact sound
  | true =>
    obtain ⟨rfl, _⟩ := boundedClone_ok attached
    exact sound.withSteps kept.2 kept.1 _

theorem assertExternalReceipt_sound {transactionHash : Option String} {receipt : StoredReceipt}
    (accepted : assertExternalReceipt bytes transactionHash receipt = .ok ()) : SoundReceipt transactionHash receipt := by
  unfold assertExternalReceipt at accepted
  obtain ⟨shape, accepted⟩ := ok_refuse accepted
  obtain ⟨_, time, _⟩ := ok_bind accepted
  have observed := refuse_ok.mp time
  simp only [Bool.or_eq_false_iff, Bool.not_eq_false', decide_eq_false_iff_not, Int.not_lt] at shape observed
  refine ⟨?_, shape.1.1.1.2, shape.1.1.2, ⟨shape.1.2, shape.2⟩, observed⟩
  have bound := shape.1.1.1.1
  split at bound
  · cases bound
  · rename_i hash
    simp only [Bool.or_eq_false_iff, decide_eq_false_iff_not, not_not] at bound
    refine ⟨hash, rfl, ?_, bound.2⟩
    rintro rfl
    exact bound.1 (by decide)

theorem observeStep_sound {bindingId : String} {before after : List StoredStep}
    {update : ExternalStepObservation} (text : assertText bindingId 192 = .ok ()) (sound : SoundSteps plan.draft before)
    (observed : observeStep bytes plan bindingId before update = .ok after) :
    SoundSteps plan.draft after ∧ after.length = before.length := by
  unfold observeStep at observed
  obtain ⟨_, observed⟩ := ok_refuse observed
  split at observed
  · rename_i previous place
    obtain ⟨nonneg, _⟩ := at?_some place
    obtain ⟨_, observed⟩ := ok_refuse observed
    split at observed
    · rename_i external bound
      obtain ⟨matching, observed⟩ := ok_refuse observed
      obtain ⟨hexadecimal, observed⟩ := ok_refuse observed
      obtain ⟨_, receipt, observed⟩ := ok_bind observed
      iterate 3 obtain ⟨_, _, observed⟩ := ok_bind observed
      cases observed
      simp only [ne_eq, Bool.or_eq_false_iff, decide_eq_false_iff_not, not_not] at matching
      refine ⟨sound.set ⟨(Int.toNat_of_nonneg nonneg).symm, ?_⟩, by rw [List.length_set]⟩
      intro held same
      cases same
      refine ⟨rfl, matching.1.1, text, ?_, ?_, ?_⟩
      · have called := matching.2
        rw [at?, if_neg (Int.not_lt.mpr nonneg)] at called
        exact called
      · intro hash given
        simp only at given
        simpa [given] using hexadecimal
      · intro held present
        simp only at present
        rw [present] at receipt
        exact assertExternalReceipt_sound receipt
    · cases observed
  · cases observed

theorem applyExternalObservations_sound {bindingId : String}
    {updates : List ExternalStepObservation} (sound : SoundPlan plan)
    (applied : applyExternalObservations bytes plan bindingId updates = .ok next) : SoundPlan next := by
  unfold applyExternalObservations at applied
  obtain ⟨_, text, applied⟩ := ok_bind applied
  iterate 2 obtain ⟨_, _, applied⟩ := ok_bind applied
  obtain ⟨steps, folded, applied⟩ := ok_bind applied
  have kept : SoundSteps plan.draft steps ∧ steps.length = plan.steps.length :=
    foldlM_ok (P := fun steps => SoundSteps plan.draft steps ∧ steps.length = plan.steps.length) folded
      ⟨sound.steps, rfl⟩ fun _ _ _ _ before done =>
        have after := observeStep_sound text before.1 done
        ⟨after.1, after.2.trans before.2⟩
  split at applied
  · cases applied
    exact sound
  · obtain ⟨rfl, _⟩ := boundedClone_ok applied
    exact sound.withSteps kept.2 kept.1 _

theorem Memory.Sound.required {actor : RestActor} {id : String} (sound : s.Sound)
    (required : s.require actor id = .ok plan) : SoundPlan plan := sound id plan (require_ok required)

theorem Memory.Sound.with {id : String} (sound : s.Sound) (new : SoundPlan plan) :
    Memory.Sound { s with plans := s.plans.set id plan } := by
  intro other held found
  rw [OrderedMap.get_set] at found
  split at found
  · cases found
    exact new
  · exact sound other held found

theorem reserveIdempotency_leaves {actor : RestActor} {claim : IdempotencyClaim} {planId : String}
    {stepIndex : Option Int} (sound : s.Sound) : Leaves (reserveIdempotency actor claim planId stepIndex) s Memory.Sound := by
  unfold reserveIdempotency
  refine leaves_get_bind ?_
  split
  · exact leaves_pure sound
  · exact leaves_check_bind sound fun _ _ => leaves_modify (g := fun _ => _) sound

theorem storeChanged_leaves {planId : String} {current : StoredPlan} (sound : s.Sound)
    (new : SoundPlan next) : Leaves (storeChanged bytes planId current next) s Memory.Sound := by
  unfold storeChanged
  refine leaves_modify_bind (leaves_check ?_)
  split
  · exact sound.with new
  · exact sound

theorem create_leaves {input : StoredPlan} {claim : IdempotencyClaim} {now : Int}
    {authority : Except RestError Unit} (sound : s.Sound) : Leaves (create bytes input claim now authority) s Memory.Sound := by
  unfold create
  refine leaves_check_bind sound fun _ accepted => leaves_check_bind sound fun _ _ =>
    leaves_check_bind sound fun plan cloned => leaves_check_bind sound fun _ _ => leaves_get_bind ?_
  refine leaves_check_bind sound fun _ _ => ?_
  split
  · exact leaves_check_bind sound fun _ _ => leaves_check sound
  · refine leaves_check_bind sound fun _ _ => leaves_check_bind sound fun _ _ =>
      leaves_bind (reserveIdempotency_leaves sound) fun _ t _ kept => leaves_modify_bind (leaves_check ?_)
    obtain ⟨rfl, _⟩ := boundedClone_ok cloned
    exact kept.with (assertNewPlan_sound accepted)

theorem claimSubmission_leaves {waited : Nat} {authority : Except RestError Unit}
    (sound : s.Sound) : Leaves (claimSubmission bytes claim waited authority) s Memory.Sound := by
  unfold claimSubmission
  refine leaves_check_bind sound fun _ _ => leaves_check_bind sound fun _ _ => leaves_check_bind sound fun claim _ =>
    leaves_check_bind sound fun _ _ => leaves_get_bind ?_
  refine leaves_check_bind sound fun current required => leaves_check_bind sound fun _ _ =>
    leaves_check_bind sound fun result prepared => leaves_check_bind sound fun _ _ => leaves_check_bind sound fun _ _ =>
    leaves_bind (leaves_zoom fun _ => sound) fun _ t _ kept => leaves_bind (reserveIdempotency_leaves kept) fun _ u _ kept =>
    leaves_modify_bind (leaves_modify_bind (leaves_check_bind ?_ fun _ _ => leaves_pure ?_))
  all_goals
    unfold PreparedClaim.stored
    split
    · exact kept.with (prepareClaim_sound (sound.required required) prepared)
    · exact kept

theorem perform_leaves (sound : s.Sound) (op : Op) : Leaves (perform bytes op) s Memory.Sound := by
  cases op with
  | create => exact leaves_map (create_leaves sound)
  | claimSubmission => exact leaves_bind (claimSubmission_leaves sound) fun _ _ _ kept => leaves_pure kept
  | save actor id expected steps =>
    refine leaves_map (leaves_check_bind sound fun _ _ => leaves_get_bind (leaves_check_bind sound fun plan required =>
      leaves_check_bind sound fun _ _ => leaves_check_bind sound fun _ accepted => leaves_check_bind sound fun next cloned =>
      leaves_modify_bind (leaves_check ?_)))
    obtain ⟨rfl, _⟩ := boundedClone_ok cloned
    have held := sound.required required
    obtain ⟨length, kept⟩ := assertSavedSteps_sound held accepted
    exact sound.with (held.withSteps length (fun i step found => (kept i step found).1) _)
  | reserveExternalExecution =>
    exact leaves_map (leaves_get_bind (leaves_check_bind sound fun current required => leaves_check_bind sound fun _ _ =>
      leaves_check_bind sound fun _ _ => leaves_check_bind sound fun next attached =>
      storeChanged_leaves sound (attachExternalExecutions_sound (sound.required required) attached)))
  | saveExternalExecution =>
    exact leaves_map (leaves_check_bind sound fun _ _ => leaves_get_bind (leaves_check_bind sound fun current required =>
      leaves_check_bind sound fun _ _ => leaves_check_bind sound fun next applied => leaves_check_bind sound fun _ _ =>
      storeChanged_leaves sound (applyExternalObservations_sound (sound.required required) applied)))
  | syncExternalExecutions actor planId =>
    refine leaves_map (leaves_check_bind sound fun _ _ => leaves_check_bind sound fun _ _ => leaves_get_bind ?_)
    split
    · exact leaves_throw sound
    · rename_i current found
      split
      · exact leaves_bind (leaves_throw sound) fun _ _ thrown => by cases thrown
      · exact leaves_check_bind sound fun _ _ => leaves_check_bind sound fun next attached =>
          storeChanged_leaves sound (attachExternalExecutions_sound (sound planId current found) attached)
  | settleSubmission =>
    exact leaves_map (leaves_get_bind (leaves_check_bind sound fun current required => leaves_check_bind sound fun next settled =>
      leaves_modify_bind (leaves_check (sound.with (settle_sound (sound.required required) settled)))))
  | transportClaim => exact leaves_bind (leaves_zoom fun _ => sound) fun _ _ _ kept => leaves_pure kept

/-- Every plan of a reachable store holds its bound steps soundly. -/
theorem run_sound {history : List Event} (run : Runs bytes history s) : s.Sound := by
  refine run.state_invariant (P := Memory.Sound) (fun _ _ found => by cases found) ?_
  intro s event t sound stepped
  have kept : Leaves (perform bytes event.op) s Memory.Sound := perform_leaves sound event.op
  unfold Step at stepped
  split at stepped
  · rename_i ran
    rw [stepped.2]
    exact kept.answered _ _ ran
  · rename_i failed
    rw [stepped.2]
    exact kept.failed _ _ failed

end JBCenter.Transactions
