import JBCenter.Transactions.Observations

/-! What a refresh asks of the store is accepted. The observations of one binding come from distinct steps that are
bound to it, and recording those of one binding leaves the steps of the others as they were read. -/
namespace JBCenter.Transactions
open Rest
variable {service : RefreshService} {bytes : JsonBytes} {replies : Int → Replies} {plan : StoredPlan}

/-- A step's place, its attempt and its binding are not for a refresh of its own transaction to change. -/
structure Unbound (step new : StoredStep) : Prop where
  index : new.index = step.index
  attempt : new.attempt = step.attempt
  external : new.externalExecution = step.externalExecution

variable {answers : Replies} {new step : StoredStep} {bindingId : String}

theorem absentReceipt_unbound {chainId : Int}
    (absent : absentReceipt answers step chainId = .ok new) : Unbound step new := by
  unfold absentReceipt at absent
  split at absent
  · cases absent
    exact ⟨rfl, rfl, rfl⟩
  · obtain ⟨replaced, _, absent⟩ := ok_bind absent
    cases replaced <;> cases absent <;> exact ⟨rfl, rfl, rfl⟩

theorem observedAttempt_unbound {chainId : Int} {receipt : StoredReceipt}
    (observed : observedAttempt service answers step chainId receipt = .ok new) : Unbound step new := by
  unfold observedAttempt at observed
  simp only at observed
  split at observed
  · cases observed
    exact ⟨rfl, rfl, rfl⟩
  obtain ⟨_, _, observed⟩ := ok_bind observed
  split at observed
  · cases observed
    exact ⟨rfl, rfl, rfl⟩
  split at observed
  · cases observed
    exact ⟨rfl, rfl, rfl⟩
  · obtain ⟨_, _, observed⟩ := ok_bind observed
    cases observed
    exact ⟨rfl, rfl, rfl⟩

theorem refreshStep_unbound (answers : Replies) (step : StoredStep) : Unbound step (refreshStep service answers step) := by
  unfold refreshStep
  split
  · exact ⟨rfl, rfl, rfl⟩
  split
  · rename_i refreshed verified
    unfold verifyStep at verified
    obtain ⟨observed, _, verified⟩ := ok_bind verified
    split at verified
    · exact absentReceipt_unbound verified
    · exact observedAttempt_unbound verified
  · exact ⟨rfl, rfl, rfl⟩

theorem refreshedStep_cases {draft : PlanDraft} {i : Nat} (timed : answers.Timed)
    (sound : SoundStep draft i step) :
    (∃ external, step.externalExecution = some external ∧
      Refreshed service answers external step (refreshedStep service answers plan step)) ∨
    (step.externalExecution = none ∧ Unbound step (refreshedStep service answers plan step)) := by
  unfold refreshedStep
  cases bound : step.externalExecution with
  | some external => exact Or.inl ⟨external, rfl, refreshExternalStep_refreshed timed (sound.external external bound) bound⟩
  | none => exact Or.inr ⟨rfl, refreshStep_unbound answers step⟩

theorem refreshedSteps_get {i : Nat} (sound : SoundPlan plan)
    (found : (refreshedSteps service replies plan)[i]? = some new) :
    ∃ old, plan.steps[i]? = some old ∧ new = refreshedStep service (replies i) plan old := by
  rw [refreshedSteps, List.getElem?_map, Option.map_eq_some_iff] at found
  obtain ⟨old, place, same⟩ := found
  rw [(sound.steps i old place).index] at same
  exact ⟨old, place, same.symm⟩

theorem refreshedSteps_index (timed : ∀ i, (replies i).Timed) (sound : SoundPlan plan) {i : Nat}
    (found : (refreshedSteps service replies plan)[i]? = some new) : new.index = i := by
  obtain ⟨old, place, rfl⟩ := refreshedSteps_get sound found
  have held := sound.steps i old place
  obtain ⟨external, _, ⟨hash, carries⟩, _⟩ | ⟨_, unbound⟩ :=
    (refreshedStep_cases (timed i) held : (∃ external, old.externalExecution = some external ∧
      Refreshed service (replies i) external old (refreshedStep service (replies i) plan old)) ∨ _)
  · exact carries.index.trans held.index
  · exact unbound.index.trans held.index

def forBinding (plan : StoredPlan) (bindingId : String) (step : StoredStep) : Option ExternalStepObservation :=
  match step.externalExecution with
  | none => none
  | some external =>
    if external.bindingId = bindingId ∧ at? plan.steps step.index ≠ some step then some (observationOf step external) else none

theorem collect_get (bindings : Bindings) (step : StoredStep) (bindingId : String) :
    ((collect plan bindings step).get bindingId).getD [] =
      (bindings.get bindingId).getD [] ++ (forBinding plan bindingId step).toList := by
  unfold collect forBinding
  cases bound : step.externalExecution with
  | none => simp
  | some external =>
    by_cases unchanged : at? plan.steps step.index = some step
    · simp [unchanged]
    · by_cases equal : bindingId = external.bindingId
      · simp [unchanged, equal]
      · simp [unchanged, equal, Ne.symm equal]

theorem collected (steps : List StoredStep) (bindings : Bindings) (bindingId : String) :
    ((steps.foldl (collect plan) bindings).get bindingId).getD [] =
      (bindings.get bindingId).getD [] ++ steps.filterMap (forBinding plan bindingId) := by
  induction steps generalizing bindings with
  | nil => simp
  | cons step rest ih =>
    rw [List.foldl_cons, ih, collect_get, List.append_assoc, List.filterMap_cons]
    cases forBinding plan bindingId step <;> rfl

theorem collected_nonempty {steps : List StoredStep} {bindings : Bindings} (nonempty : ∀ key, bindings.get key ≠ some [])
    (key : String) : (steps.foldl (collect plan) bindings).get key ≠ some [] := by
  induction steps generalizing bindings with
  | nil => exact nonempty key
  | cons step rest ih =>
    refine ih fun other => ?_
    unfold collect
    split
    · exact nonempty other
    · split
      · exact nonempty other
      · rw [OrderedMap.get_set]
        split
        · simp
        · exact nonempty other

theorem externalUpdates_get {steps : List StoredStep} {updates : List ExternalStepObservation}
    (member : (bindingId, updates) ∈ (externalUpdates plan steps).entries) :
    updates = steps.filterMap (forBinding plan bindingId) ∧ updates ≠ [] := by
  have found := OrderedMap.get_of_mem member
  have held : ((steps.foldl (collect plan) .empty).get bindingId).getD [] = _ := collected steps .empty bindingId
  unfold externalUpdates at found
  rw [found] at held
  refine ⟨by simpa using held, ?_⟩
  rintro rfl
  exact collected_nonempty (by simp) bindingId found

theorem forBinding_some {update : ExternalStepObservation}
    (reported : forBinding plan bindingId step = some update) :
    ∃ external, step.externalExecution = some external ∧ external.bindingId = bindingId ∧
    update = observationOf step external := by
  unfold forBinding at reported
  split at reported
  · cases reported
  · rename_i external bound
    split at reported
    · rename_i both
      cases reported
      exact ⟨external, bound, both.1, rfl⟩
    · cases reported

structure Group (service : RefreshService) (replies : Int → Replies) (plan : StoredPlan) (bindingId : String)
    (updates : List ExternalStepObservation) : Prop where
  nonempty : updates ≠ []
  few : updates.length ≤ maximumSteps
  distinct : (updates.map ExternalStepObservation.index).Nodup
  reports : ∀ update ∈ updates, ∃ i old new external hash, Reports service replies plan bindingId i old new external hash update

theorem filterMap_index {f : StoredStep → Option ExternalStepObservation} (steps : List StoredStep)
    (kept : ∀ step update, f step = some update → update.index = step.index) :
    ((steps.filterMap f).map ExternalStepObservation.index).Sublist (steps.map StoredStep.index) := by
  induction steps with
  | nil => exact .slnil
  | cons step rest ih =>
    rw [List.filterMap_cons]
    cases reported : f step with
    | none => exact ih.cons _
    | some update =>
      simp only [List.map_cons]
      rw [kept step update reported]
      exact ih.cons_cons _

theorem externalUpdates_group (timed : ∀ i, (replies i).Timed) (sound : SoundPlan plan)
    {updates : List ExternalStepObservation}
    (member : (bindingId, updates) ∈ (externalUpdates plan (refreshedSteps service replies plan)).entries) :
    Group service replies plan bindingId updates := by
  obtain ⟨rfl, nonempty⟩ := externalUpdates_get member
  have length : (refreshedSteps service replies plan).length = plan.steps.length := by rw [refreshedSteps, List.length_map]
  have indexed : ∀ step update, forBinding plan bindingId step = some update → update.index = step.index := by
    intro step update reported
    obtain ⟨external, _, _, rfl⟩ := forBinding_some reported
    rfl
  refine ⟨nonempty, ?_, ?_, ?_⟩
  · exact (List.length_filterMap_le _ _).trans (length ▸ sound.few)
  · refine (filterMap_index _ indexed).nodup ?_
    rw [List.nodup_iff_getElem?_ne_getElem?]
    intro i j less bound equal
    rw [List.length_map] at bound
    have first : (refreshedSteps service replies plan)[i]? = some _ := List.getElem?_eq_getElem (less.trans bound)
    have second : (refreshedSteps service replies plan)[j]? = some _ := List.getElem?_eq_getElem bound
    rw [List.getElem?_map, List.getElem?_map, first, second, Option.map_some, Option.map_some,
      refreshedSteps_index timed sound first, refreshedSteps_index timed sound second] at equal
    have same := Option.some.inj equal
    omega
  · intro update listed
    obtain ⟨new, held, reported⟩ := List.mem_filterMap.mp listed
    obtain ⟨i, place⟩ := List.mem_iff_getElem?.mp held
    obtain ⟨old, stored, rfl⟩ := refreshedSteps_get sound place
    obtain ⟨other, bound, binding, rfl⟩ := forBinding_some reported
    obtain ⟨external, external', ⟨hash, carries⟩, settled⟩ | ⟨unbound, kept⟩ :=
      (refreshedStep_cases (timed i) (sound.steps i old stored) : (∃ external, old.externalExecution = some external ∧
        Refreshed service (replies i) external old (refreshedStep service (replies i) plan old)) ∨ _)
    · cases carries.bound.symm.trans bound
      exact ⟨i, old, _, external, hash, stored, external', binding, carries, settled, rfl⟩
    · rw [kept.external, unbound] at bound
      cases bound

theorem foldlM_onlyTooLarge {α β : Type} {f : β → α → Except RestError β} {items : List α}
    (each : ∀ item ∈ items, ∀ progress, OnlyTooLarge (f progress item)) (start : β) : OnlyTooLarge (items.foldlM f start) := by
  induction items generalizing start with
  | nil => exact .ok
  | cons item rest ih =>
    rw [List.foldlM_cons]
    exact .bind (each item List.mem_cons_self start) fun next _ =>
      ih (fun other member => each other (List.mem_cons_of_mem _ member)) next

/-- The plan still holds, at the steps of a binding, what the refresh read. -/
structure Holds (plan saved : StoredPlan) (bindingId : String) : Prop where
  draft : saved.draft = plan.draft
  length : saved.steps.length = plan.steps.length
  steps : ∀ (i : Nat) old external, plan.steps[i]? = some old → old.externalExecution = some external →
    external.bindingId = bindingId → saved.steps[i]? = some old

section Apply
variable {saved : StoredPlan} {bindingId : String} {updates : List ExternalStepObservation}

theorem group_accepted (sound : SoundPlan plan) (group : Group service replies plan bindingId updates)
    (holds : Holds plan saved bindingId) : OnlyTooLarge (applyExternalObservations bytes saved bindingId updates) := by
  have placed : ∀ update ∈ updates, ∃ i old external, plan.steps[i]? = some old ∧ old.externalExecution = some external ∧
      external.bindingId = bindingId ∧ SoundBinding plan.draft i old external ∧ update.index = i ∧ Acceptable update := by
    intro update member
    obtain ⟨i, old, new, external, hash, reports⟩ := group.reports update member
    exact ⟨i, old, external, reports.place, reports.bound, reports.binding,
      (sound.steps i old reports.place).external external reports.bound, reports.index_eq sound, reports.acceptable⟩
  unfold applyExternalObservations
  refine .accepted ?_ (.accepted ?_ (.bind (discard_onlyTooLarge (boundedClone_onlyTooLarge _ _)) fun _ _ =>
    .bind (foldlM_onlyTooLarge ?_ _) fun steps _ => ?_))
  · obtain ⟨update, member⟩ := List.exists_mem_of_ne_nil updates group.nonempty
    obtain ⟨_, _, external, _, _, same, binding, _⟩ := placed update member
    rw [← same]
    exact binding.bindingId
  · have few := group.few
    have some := List.length_pos_iff.mpr group.nonempty
    refine refuse_ok.mpr ?_
    simp only [List.length_map, Bool.or_eq_false_iff, decide_eq_false_iff_not, Nat.not_lt, List.any_eq_false,
      List.mem_map, Bool.not_eq_false', decide_eq_true_eq, forall_exists_index, and_imp]
    refine ⟨⟨⟨some, few⟩, by simpa using group.distinct⟩, ?_⟩
    rintro _ update member rfl
    obtain ⟨i, old, _, place, _, _, _, index, _⟩ := placed update member
    have bound := (List.getElem?_eq_some_iff.mp place).1
    have limit : plan.steps.length ≤ 32 := sound.few
    have safe : isSafeInteger (i : Int) = true := by
      unfold isSafeInteger maxSafeInteger
      simp only [Bool.and_eq_true, decide_eq_true_eq]
      omega
    rw [index, holds.length, safe]
    simp only [Bool.not_true, Bool.false_or, Bool.or_eq_true, decide_eq_true_eq]
    omega
  · intro update member progress
    obtain ⟨i, old, external, place, bound, same, binding, index, acceptable⟩ := placed update member
    refine observeStep_accepts ?_ bound ?_ index same acceptable
    · rw [index, at?_natCast]
      exact holds.steps i old external place bound same
    · rw [holds.draft]
      exact binding
  · split
    · exact .ok
    · exact boundedClone_onlyTooLarge _ _

theorem group_recorded {next : StoredPlan} (sound : SoundPlan plan) (group : Group service replies plan bindingId updates)
    (holds : Holds plan saved bindingId) (applied : applyExternalObservations bytes saved bindingId updates = .ok next) :
    next.draft = saved.draft ∧ next.steps.length = saved.steps.length ∧ ∀ i : Nat, next.steps[i]? = saved.steps[i]? ∨
      ∃ update old new external hash, Reports service replies plan bindingId i old new external hash update ∧
        next.steps[i]? = some (recordedStep bindingId external update) := by
  unfold applyExternalObservations at applied
  iterate 3 obtain ⟨_, _, applied⟩ := ok_bind applied
  obtain ⟨steps, folded, applied⟩ := ok_bind applied
  have progress : steps.length = saved.steps.length ∧ ∀ i : Nat, steps[i]? = saved.steps[i]? ∨
      ∃ update old new external hash, Reports service replies plan bindingId i old new external hash update ∧
        steps[i]? = some (recordedStep bindingId external update) := by
    refine foldlM_ok (P := fun steps => steps.length = saved.steps.length ∧ ∀ i : Nat, steps[i]? = saved.steps[i]? ∨
      ∃ update old new external hash, Reports service replies plan bindingId i old new external hash update ∧
        steps[i]? = some (recordedStep bindingId external update)) folded ⟨rfl, fun _ => Or.inl rfl⟩ ?_
    rintro acc update after member ⟨length, kept⟩ observed
    obtain ⟨i, old, new, external, hash, reports⟩ := group.reports update member
    have index := reports.index_eq sound
    have held := holds.steps i old external reports.place reports.bound reports.binding
    have place : at? saved.steps update.index = some old := by rw [index, at?_natCast, held]
    rw [observeStep_result place reports.bound observed, index, Int.toNat_natCast]
    refine ⟨by rw [List.length_set, length], fun j => ?_⟩
    by_cases same : i = j
    · subst same
      have bound : i < acc.length := by
        rw [length]
        exact (List.getElem?_eq_some_iff.mp held).1
      exact Or.inr ⟨update, old, new, external, hash, reports, List.getElem?_set_self bound⟩
    · rw [List.getElem?_set_ne same]
      exact kept j
  split at applied
  · cases applied
    exact ⟨rfl, rfl, fun _ => Or.inl rfl⟩
  · obtain ⟨rfl, _⟩ := boundedClone_ok applied
    exact ⟨rfl, progress⟩

end Apply

/-- A bound step is as it was read, or was settled, if at all, by proof. -/
def Proved (service : RefreshService) (replies : Int → Replies) (plan saved : StoredPlan) : Prop :=
  ∀ (i : Nat) old external, plan.steps[i]? = some old → old.externalExecution = some external →
    ∃ new, saved.steps[i]? = some new ∧
      (new = old ∨ (new.state = .confirmed ∨ new.state = .reverted → Settled service (replies i) external new))

/-- The bindings are written one after another, each on what the one before left. -/
theorem groups_accepted {groups : List (String × List ExternalStepObservation)} {saved : StoredPlan} (sound : SoundPlan plan)
    (distinct : (groups.map Prod.fst).Nodup) (each : ∀ group ∈ groups, Group service replies plan group.1 group.2)
    (holds : ∀ group ∈ groups, Holds plan saved group.1) (proved : Proved service replies plan saved) :
    OnlyTooLarge (groups.foldlM (fun saved group => applyExternalObservations bytes saved group.1 group.2) saved) ∧
      ∀ final, groups.foldlM (fun saved group => applyExternalObservations bytes saved group.1 group.2) saved = .ok final →
        Proved service replies plan final := by
  induction groups generalizing saved with
  | nil =>
    refine ⟨.ok, ?_⟩
    intro final written
    cases written
    exact proved
  | cons group rest ih =>
    obtain ⟨apart, distinct⟩ := List.nodup_cons.mp distinct
    obtain ⟨first, others⟩ := List.forall_mem_cons.mp each
    obtain ⟨here, later⟩ := List.forall_mem_cons.mp holds
    have onward : ∀ next, applyExternalObservations bytes saved group.1 group.2 = .ok next →
        OnlyTooLarge (rest.foldlM (fun saved group => applyExternalObservations bytes saved group.1 group.2) next) ∧
          ∀ final, rest.foldlM (fun saved group => applyExternalObservations bytes saved group.1 group.2) next = .ok final →
            Proved service replies plan final := by
      intro next applied
      obtain ⟨draft, length, recorded⟩ := group_recorded sound first here applied
      refine ih distinct others ?_ ?_
      · intro other member
        have held := later other member
        refine ⟨draft.trans held.draft, length.trans held.length, ?_⟩
        intro i old external place bound binding
        obtain same | ⟨_, old', _, external', _, reports, _⟩ := recorded i
        · rw [same]
          exact held.steps i old external place bound binding
        · cases reports.place.symm.trans place
          cases reports.bound.symm.trans bound
          refine absurd (List.mem_map_of_mem (f := Prod.fst) member) ?_
          rw [← binding, reports.binding]
          exact apart
      · intro i old external place bound
        obtain same | ⟨update, old', new, external', hash, reports, stored⟩ := recorded i
        · rw [same]
          exact proved i old external place bound
        · cases reports.place.symm.trans place
          cases reports.bound.symm.trans bound
          exact ⟨_, stored, Or.inr fun settled => reports.recorded settled⟩
    refine ⟨?_, ?_⟩
    · rw [List.foldlM_cons]
      exact .bind (group_accepted sound first here) fun next applied => (onward next applied).1
    · intro final written
      rw [List.foldlM_cons] at written
      obtain ⟨next, applied, written⟩ := ok_bind written
      exact (onward next applied).2 final written

theorem directSteps_get {steps : List StoredStep} {i : Nat}
    (found : (directSteps plan steps)[i]? = some step) :
    ∃ old new, plan.steps[i]? = some old ∧ steps[i]? = some new ∧
      step = if new.externalExecution.isSome then old else new := by
  rw [directSteps, List.getElem?_map, Option.map_eq_some_iff] at found
  obtain ⟨⟨old, new⟩, paired, same⟩ := found
  rw [List.getElem?_zip_eq_some] at paired
  exact ⟨old, new, paired.1, paired.2, same.symm⟩

theorem directSteps_saved (timed : ∀ i, (replies i).Timed) (sound : SoundPlan plan) :
    OnlyTooLarge (saveDirect bytes plan (directSteps plan (refreshedSteps service replies plan))) := by
  unfold saveDirect
  split
  · exact .ok
  refine .bind ?_ fun _ _ => boundedClone_onlyTooLarge _ _
  unfold assertSavedSteps
  refine .refuse_bind ?_ (.accepted (forM_ok.mpr ?_) (discard_onlyTooLarge (boundedClone_onlyTooLarge _ _)))
  · simp [directSteps, refreshedSteps]
  · rintro ⟨⟨previous, step⟩, i⟩ member
    rw [List.mk_mem_zipIdx_iff_getElem?, List.getElem?_zip_eq_some] at member
    have place : plan.steps[i]? = some previous := member.1
    have found : (directSteps plan (refreshedSteps service replies plan))[i]? = some step := member.2
    obtain ⟨old, new, stored, refreshed, rfl⟩ := directSteps_get found
    cases stored.symm.trans place
    obtain ⟨old', stored', rfl⟩ := refreshedSteps_get sound refreshed
    cases stored'.symm.trans stored
    have held := sound.steps i _ stored
    have index := refreshedSteps_index timed sound refreshed
    unfold assertSavedStep
    obtain ⟨external, bound, ⟨hash, carries⟩, _⟩ | ⟨unbound, kept⟩ :=
      (refreshedStep_cases (timed i) held : (∃ external, previous.externalExecution = some external ∧
        Refreshed service (replies i) external previous (refreshedStep service (replies i) plan previous)) ∨ _)
    · rw [carries.bound, Option.isSome_some, if_pos rfl]
      simp [refuse, held.index, bind, Except.bind]
    · rw [kept.external, unbound, Option.isSome_none, if_neg Bool.false_ne_true]
      simp [refuse, index, kept.external, kept.attempt, unbound, bind, Except.bind]

theorem saveDirect_holds {direct : List StoredStep} {saved : StoredPlan} (sound : SoundPlan plan)
    (written : saveDirect bytes plan direct = .ok saved) (bindingId : String) : Holds plan saved bindingId := by
  unfold saveDirect at written
  split at written
  · cases written
    exact ⟨rfl, rfl, fun _ _ _ place _ _ => place⟩
  · obtain ⟨_, accepted, written⟩ := ok_bind written
    obtain ⟨rfl, _⟩ := boundedClone_ok written
    obtain ⟨length, kept⟩ := assertSavedSteps_sound sound accepted
    refine ⟨rfl, length, ?_⟩
    intro i old external place bound _
    have inside : i < direct.length := by
      rw [length]
      exact (List.getElem?_eq_some_iff.mp place).1
    have found : direct[i]? = some direct[i] := List.getElem?_eq_getElem inside
    have same := (kept i _ found).2 old place (by rw [bound]; rfl)
    rw [same] at found
    exact found

/-- Of every plan of a reachable store, whatever the chain, the observers and the verifier answer: what the refresh
writes is refused, if at all, for its size; a forwarded step is settled only with its proof; the observations of a binding
are accepted on every plan that still holds the steps of that binding as they were read; and a plan at the revision that
was read is the plan that was read, whatever ran meanwhile. -/
theorem refresh_agrees_with_store {history : List Event} {s : Memory} {id : String} (run : Runs bytes history s)
    (found : s.plans.get id = some plan) (timed : ∀ i, (replies i).Timed) :
    (∀ error, refreshStored bytes service replies plan = .error error → error = storageLimit) ∧
    (∀ final, refreshStored bytes service replies plan = .ok final → Proved service replies plan final) ∧
    (∀ bindingId updates, (bindingId, updates) ∈ (externalUpdates plan (refreshedSteps service replies plan)).entries →
      ∀ saved, Holds plan saved bindingId → ∀ error,
        applyExternalObservations bytes saved bindingId updates = .error error → error = storageLimit) ∧
    ∀ later t current, Run (Step bytes) s later t → t.plans.get id = some current → current.revision = plan.revision →
      current = plan := by
  have sound := run_sound run id plan found
  have unread : Proved service replies plan plan := fun i old external place _ => ⟨old, place, Or.inl rfl⟩
  have groups : ∀ group ∈ (externalUpdates plan (refreshedSteps service replies plan)).entries,
      Group service replies plan group.1 group.2 := fun group member => externalUpdates_group timed sound member
  have written : ∀ saved, saveDirect bytes plan (directSteps plan (refreshedSteps service replies plan)) = .ok saved →
      (∀ bindingId, Holds plan saved bindingId) ∧ Proved service replies plan saved := by
    intro saved direct
    have holds := saveDirect_holds sound direct
    refine ⟨holds, fun i old external place bound => ⟨old, ?_, Or.inl rfl⟩⟩
    exact (holds external.bindingId).steps i old external place bound rfl
  refine ⟨?_, ?_, ?_, ?_⟩
  · intro error failed
    unfold refreshStored at failed
    simp only at failed
    split at failed
    · cases failed
    · obtain refused | ⟨saved, direct, refused⟩ := except_bind_error failed
      · exact directSteps_saved timed sound error refused
      · obtain ⟨holds, proved⟩ := written saved direct
        exact (groups_accepted sound (externalUpdates plan _).distinct groups
          (fun group _ => holds group.1) proved).1 error refused
  · intro final refreshed
    unfold refreshStored at refreshed
    simp only at refreshed
    split at refreshed
    · cases refreshed
      exact unread
    · obtain ⟨saved, direct, refreshed⟩ := ok_bind refreshed
      obtain ⟨holds, proved⟩ := written saved direct
      exact (groups_accepted sound (externalUpdates plan _).distinct groups (fun group _ => holds group.1) proved).2 final
        refreshed
  · intro bindingId updates member saved holds
    exact group_accepted sound (groups _ member) holds
  · intro later t current continued stored revision
    obtain ⟨after, held, _, same⟩ := run_advances (run_bounded run) continued id plan found
    cases held.symm.trans stored
    exact same revision

def sampleService : RefreshService where
  observers := [.erc4337]
  verifier := false
  confirmationPolicy _ := some 2
  canonical _ := ""
  payloadBytes _ := 2
  semanticBytes _ := 21
  logsHash _ := "0xdddddddddddddddddddddddddddddddddddddddddddddddddddddddddddddddd"

def sampleExecution : String := "0xEeeeeeeeeeeeeeeeeeeeeeeeeeeeeeeeeeeeeeeeeeeeeeeeeeeeeeeeeeeeeeee"
def sampleBlock : String := "0xffffffffffffffffffffffffffffffffffffffffffffffffffffffffffffffff"

/-- An execution in block 16 of a chain at block 18, proven by its observer. -/
def sampleReplies : Replies where
  observation := .ok ⟨0, 1, .confirmed, some sampleExecution,
    some ⟨toLowerCase sampleExecution, sampleBlock, "16", .success, 3, true, 900, [], none, none, none⟩, some ⟨.verified, none⟩⟩
  rpc _ _
    | .transactionReceipt hash => .ok (.object [("transactionHash", .text hash), ("blockHash", .text sampleBlock),
        ("status", .text "0x1"), ("logs", .array []), ("blockNumber", .text "0x10")])
    | .chainId => .ok (.text "0x1")
    | .blockByNumber _ => .ok (.object [("hash", .text sampleBlock), ("number", .text "0x10")])
    | .blockNumber => .ok (.text "0x12")
  semantics := .error ()
  now _ := 1000

/-- The plan created, and its only step bound to an execution that is forwarded. -/
def sampleForwarded : List Event × Memory :=
  performAll sampleBytes .empty [sampleCreate, .transportClaim "plan" [0] .erc4337 "operation",
    .syncExternalExecutions samplePlan.actor "plan"]

theorem sample_refreshed : ((sampleForwarded.2.plans.get "plan").bind fun plan =>
      (refreshStored sampleBytes sampleService (fun _ => sampleReplies) plan).toOption.map fun final =>
        (plan.steps.map (fun step => (step.externalExecution, step.state)), final.steps.map StoredStep.state)) =
    some ([(some ⟨.erc4337, "operation", 1, none⟩, .reserved)], [.confirmed]) := by decide +kernel

theorem map_singleton {α β : Type} {f : α → β} {items : List α} {value : β} (mapped : items.map f = [value]) :
    ∃ item, items[0]? = some item ∧ f item = value := by
  obtain ⟨item, rfl, same⟩ := List.map_eq_singleton_iff.mp mapped
  exact ⟨item, rfl, same⟩

theorem refresh_agrees_with_store_sample : ∃ plan final step, sampleForwarded.2.plans.get "plan" = some plan ∧
    refreshStored sampleBytes sampleService (fun _ => sampleReplies) plan = .ok final ∧ final.steps[0]? = some step ∧
    step.state = .confirmed ∧ Settled sampleService sampleReplies ⟨.erc4337, "operation", 1, none⟩ step := by
  obtain ⟨plan, stored, refreshed⟩ := some_bind sample_refreshed
  obtain ⟨final, written, states⟩ := Option.map_eq_some_iff.mp refreshed
  obtain ⟨before, after⟩ := Prod.mk.inj states
  have answer : refreshStored sampleBytes sampleService (fun _ => sampleReplies) plan = .ok final := by
    cases result : refreshStored sampleBytes sampleService (fun _ => sampleReplies) plan with
    | error =>
      rw [result] at written
      cases written
    | ok held =>
      rw [result] at written
      cases written
      rfl
  obtain ⟨old, place, reserved⟩ := map_singleton before
  obtain ⟨new, found, confirmed⟩ := map_singleton after
  obtain ⟨external, state⟩ := Prod.mk.inj reserved
  have proved := (refresh_agrees_with_store (performAll_run _ _) stored
    (fun _ _ => ⟨(by decide : isSafeInteger 1000 = true), (by decide : (0 : Int) ≤ 1000)⟩)).2.1 final answer
  obtain ⟨step, held, kept⟩ := proved 0 old _ place external
  cases held.symm.trans found
  obtain rfl | settled := kept
  · rw [confirmed] at state
    cases state
  · exact ⟨plan, final, _, stored, answer, found, confirmed, settled (Or.inl confirmed)⟩

end JBCenter.Transactions
