import JBCenter.Transactions.Steps

/-! Compare and set. A refused operation changes nothing, an answered one moves a plan by
one revision or not at all, and so a revision names one document for good: a save applies
to exactly the document its caller read, or is refused. -/
namespace JBCenter.Transactions
open Rest
variable {bytes : JsonBytes} {id : String} {s t : Memory}

/-- A later state keeps every plan, and a plan at an unmoved revision is the same plan. -/
def Advances (s t : Memory) : Prop :=
  ∀ id before, s.plans.get id = some before → ∃ after, t.plans.get id = some after ∧
    before.revision ≤ after.revision ∧ (after.revision = before.revision → after = before)

theorem Moved.revision (moved : Moved before after) :
    before.revision ≤ after.revision ∧ (after.revision = before.revision → after = before) := by
  by_cases same : after = before
  · exact ⟨by rw [same], fun _ => same⟩
  · have next := moved.changed same
    exact ⟨by omega, by omega⟩

theorem Advances.refl (s : Memory) : Advances s s :=
  fun _ before found => ⟨before, found, Int.le_refl _, fun _ => rfl⟩

theorem Advances.trans (first : Advances s t) (second : Advances t u) : Advances s u := by
  intro id before found
  obtain ⟨middle, stored, below, same⟩ := first id before found
  obtain ⟨after, final, below', same'⟩ := second id middle stored
  refine ⟨after, final, Int.le_trans below below', ?_⟩
  intro equal
  rw [same' (by omega), same (by omega)]

theorem effect_advances (effect : Effect bytes s op outcome t) : Advances s t := by
  intro id before found
  obtain ⟨after, stored, moved⟩ := effect_plans effect found
  exact ⟨after, stored, moved.revision⟩

theorem run_advances (bounded : s.Bounded bytes) (run : Run (Step bytes) s later t) : Advances s t := by
  refine (run.state_invariant (P := fun t => t.Bounded bytes ∧ Advances s t) ⟨bounded, .refl s⟩ ?_).2
  intro state event next kept stepped
  refine ⟨step_bounded kept.1 stepped, ?_⟩
  obtain ⟨_, _, rfl⟩ | ⟨_, _, effect⟩ := step_cases kept.1 stepped
  · exact kept.2
  · exact kept.2.trans (effect_advances effect)

/-- A successful save replaces the steps of the document at the revision it expected. -/
theorem save_effect (effect : Effect bytes s (.save actor id expected steps) outcome t) :
    ∃ current, s.plans.get id = some current ∧ current.revision = expected ∧
      t.plans.get id = some { current with revision := current.revision + 1, steps } := by
  cases effect with
  | rewritten key _ found _ saved =>
    obtain ⟨rfl, revision, rfl⟩ := saved actor id expected steps rfl
    exact ⟨_, found, revision, OrderedMap.get_set_self _ _ _⟩

/-- A save that went through, with the revision it expected. -/
def Event.saved (event : Event) (id : String) (expected : Int) : Prop :=
  ∃ actor steps outcome, event = ⟨.save actor id expected steps, .ok outcome⟩

theorem saved_step (bounded : s.Bounded bytes) (stepped : Step bytes s event t)
    (saved : event.saved id expected) :
    ∃ before after, s.plans.get id = some before ∧ before.revision = expected ∧
      t.plans.get id = some after ∧ after.revision = expected + 1 := by
  obtain ⟨actor, steps, outcome, rfl⟩ := saved
  obtain ⟨error, answer, _⟩ | ⟨_, _, effect⟩ := step_cases bounded stepped
  · cases answer
  · obtain ⟨current, found, revision, stored⟩ := save_effect effect
    exact ⟨current, _, found, revision, stored, by rw [← revision]⟩

theorem saves_exclude (run : Runs bytes (earlier ++ [first] ++ between ++ [second] ++ later) s)
    (one : first.saved id expected) (two : second.saved id expected) : False := by
  obtain ⟨_, run, _⟩ := Run.split run
  obtain ⟨_, upTo, tail⟩ := Run.split run
  obtain ⟨_, past, passed⟩ := Run.split upTo
  obtain ⟨_, start, head⟩ := Run.split past
  obtain ⟨_, plan, _, _, stored, revision⟩ := saved_step (run_bounded start) head.single one
  obtain ⟨held, found, below, _⟩ := run_advances (run_bounded past) passed id plan stored
  obtain ⟨before, _, again, expected, _⟩ := saved_step (run_bounded upTo) tail.single two
  cases again.symm.trans found
  omega

/-- Of the reachable states: a throw leaves every map as it was; an answer moves each plan
it changed by exactly one revision; two saves that expect one revision never both succeed;
and a save applies to the very document its caller read, whatever ran in between. -/
theorem store_atomic_compare_and_set (run : Runs bytes history s) :
    (∀ op error t, (perform bytes op).run s = .error error t → t = s) ∧
    (∀ op outcome t, (perform bytes op).run s = .ok outcome t →
      ∀ id before, s.plans.get id = some before → ∃ after, t.plans.get id = some after ∧
        (after ≠ before → after.revision = before.revision + 1) ∧
        (after.revision = before.revision → after = before)) ∧
    (∀ earlier first between second later id expected,
      history = earlier ++ [first] ++ between ++ [second] ++ later →
      ¬ (first.saved id expected ∧ second.saved id expected)) ∧
    ∀ later t id seen actor steps outcome u, s.plans.get id = some seen → Run (Step bytes) s later t →
      (perform bytes (.save actor id seen.revision steps)).run t = .ok outcome u →
      t.plans.get id = some seen ∧
        u.plans.get id = some { seen with revision := seen.revision + 1, steps } := by
  have bounded := run_bounded run
  refine ⟨fun op error t => perform_atomic bounded op error t, ?_, ?_, ?_⟩
  · intro op outcome t ran id before found
    obtain ⟨after, stored, moved⟩ := effect_plans (perform_ok ran) found
    exact ⟨after, stored, moved.changed, moved.revision.2⟩
  · rintro earlier first between second later id expected rfl ⟨one, two⟩
    exact saves_exclude run one two
  · intro later t id seen actor steps outcome u read continued saved
    obtain ⟨current, found, revision, stored⟩ := save_effect (perform_ok saved)
    obtain ⟨after, held, _, same⟩ := run_advances bounded continued id seen read
    cases held.symm.trans found
    cases same revision
    exact ⟨found, stored⟩

def refuses (bytes : JsonBytes) (op : Op) (s : Memory) : Bool :=
  match (perform bytes op).run s with
  | .ok _ _ => false
  | .error _ _ => true

theorem refuses_error (refused : refuses bytes op s = true) :
    ∃ error t, (perform bytes op).run s = .error error t := by
  unfold refuses at refused
  split at refused
  · cases refused
  · exact ⟨_, _, by assumption⟩

/-- A save that drops the dispatched step is refused, and leaves the dispatch as it was. -/
theorem store_atomic_compare_and_set_sample :
    ∃ error, (perform sampleBytes (.save samplePlan.actor "plan" 1 [])).run sampleRun.2 =
      .error error sampleRun.2 := by
  have refused : refuses sampleBytes (.save samplePlan.actor "plan" 1 []) sampleRun.2 = true := by
    decide +kernel
  obtain ⟨error, t, failed⟩ := refuses_error refused
  have same : t = sampleRun.2 := (store_atomic_compare_and_set (performAll_run _ _)).1 _ error t failed
  exact ⟨error, failed.trans (congrArg (EStateM.Result.error error) same)⟩

end JBCenter.Transactions
