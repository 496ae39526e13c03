import JBCenter.Sessions.Admission
import JBCenter.Sessions.Budget

/-! What an active record shows, and what ends a record for good: a revocation, a release of
its reservations, or an invalidation that no later observation forgives. -/
namespace JBCenter.Sessions
open Rest
variable {encoding : Encoding} {record next : StoredSession}

structure Evidence (record : StoredSession) : Prop where
  activation : record.activation.isSome = true
  revocation : record.revocation = none
  invalidation : record.invalidation = none
  unreleased : record.reservationsReleased = false
  observed : ∃ observation, record.observation = some observation ∧ observation.installed.enabled = true ∧
    observation.installed.enableNonce = record.compiled.activationEnableNonce

/-- What one operation keeps of a record. -/
structure Carried (record next : StoredSession) : Prop where
  id : next.id = record.id
  compiled : next.compiled = record.compiled
  revocation : record.revocation.isSome = true → next.revocation.isSome = true
  released : record.reservationsReleased = true → next.reservationsReleased = true
  evidence : (record.state = .active → Evidence record) → next.state = .active → Evidence next

theorem Carried.refl (record : StoredSession) : Carried record record :=
  ⟨rfl, rfl, fun held => held, fun held => held, fun held => held⟩

theorem observedState_evidence (active : observedState record o grantActive = .active) :
    record.activation.isSome = true ∧ o.enableNonce = record.compiled.activationEnableNonce := by
  unfold observedState at active
  simp only at active
  split at active
  · cases active
  · split at active
    · cases active
    · split at active
      · cases active
      · split at active
        · rename_i enabled
          simp only [Bool.and_eq_true, decide_eq_true_eq] at enabled
          exact ⟨enabled.1.2, enabled.1.1.2⟩
        · split at active <;> cases active

/-- An observation may release the reservations, but of a retired policy only. -/
theorem observedRecord_released (record : StoredSession) (observation : SessionCanonicalObservation)
    (grantActive : Bool) (now : Int) :
    (observedRecord record observation grantActive now).reservationsReleased =
      (record.reservationsReleased || (observation.finalized && retired record.compiled observation.installed)) := by
  unfold observedRecord
  simp only
  split
  · split <;> rfl
  · rfl

theorem observedRecord_state (active : (observedRecord record observation grantActive now).state = .active) :
    observedState record observation.installed grantActive = .active := by
  unfold observedRecord at active
  simp only at active
  split at active
  · split at active
    · exact active
    · cases active
  · exact active

theorem observedRecord_kept (record : StoredSession) (observation : SessionCanonicalObservation)
    (grantActive : Bool) (now : Int) :
    (observedRecord record observation grantActive now).id = record.id ∧
      (observedRecord record observation grantActive now).activation = record.activation := by
  unfold observedRecord
  simp only
  split
  · split <;> exact ⟨rfl, rfl⟩
  · exact ⟨rfl, rfl⟩

theorem observedRecord_evidence (record : StoredSession) (grantActive : Bool) (now : Int)
    (distinct : (observation.installed.counters.map counterKey).Nodup)
    (final : (record.reservationsReleased && observation.installed.enabled &&
      !expired record.compiled observation.installed) = false)
    (active : (observedRecord record observation grantActive now).state = .active) :
    Evidence (observedRecord record observation grantActive now) := by
  have observed := observedRecord_observed record grantActive now distinct
  obtain ⟨unrevoked, clean, live, enabled⟩ := observed.live active
  obtain ⟨activated, nonce⟩ := observedState_evidence (observedRecord_state active)
  simp only [terminal, Bool.or_eq_false_iff] at live
  refine ⟨?_, unrevoked, clean, ?_, ⟨observation, observed.stored, enabled, ?_⟩⟩
  · rw [(observedRecord_kept record observation grantActive now).2]
    exact activated
  · rw [observedRecord_released, live.1, Bool.and_false, Bool.or_false]
    simpa only [enabled, live.2, Bool.and_true, Bool.not_false] using final
  · rw [nonce, observed.compiled]

/-- The fields of a record that an operation's bookkeeping leaves alone. -/
theorem Evidence.of_same (evidence : Evidence record) (activation : next.activation = record.activation)
    (revocation : next.revocation = record.revocation) (invalidation : next.invalidation = record.invalidation)
    (released : next.reservationsReleased = record.reservationsReleased)
    (observation : next.observation = record.observation) (compiled : next.compiled = record.compiled) :
    Evidence next :=
  ⟨activation ▸ evidence.activation, revocation ▸ evidence.revocation, invalidation ▸ evidence.invalidation,
    released ▸ evidence.unreleased, by rw [observation, compiled]; exact evidence.observed⟩

theorem withoutGrant_kept (observation : SessionCanonicalObservation) (now : Int) (next : StoredSession) :
    (withoutGrant observation now next).id = next.id ∧
      (withoutGrant observation now next).compiled = next.compiled ∧
      (withoutGrant observation now next).activation = next.activation ∧
      (withoutGrant observation now next).revocation = next.revocation ∧
      (withoutGrant observation now next).observation = next.observation ∧
      (withoutGrant observation now next).reservationsReleased = next.reservationsReleased ∧
      (withoutGrant observation now next).state ≠ .active := by
  unfold withoutGrant
  split
  · rename_i ended
    refine ⟨rfl, rfl, rfl, rfl, rfl, rfl, ?_⟩
    intro active
    simp [active] at ended
  · exact ⟨rfl, rfl, rfl, rfl, rfl, rfl, by simp⟩

theorem applySessionObservation_carried
    (applied : applySessionObservation encoding record update grantActive now = .ok (next, changed)) :
    Carried record next := by
  unfold applySessionObservation at applied
  iterate 2 obtain ⟨_, _, applied⟩ := ok_bind applied
  split at applied
  · obtain ⟨_, _, applied⟩ := ok_bind applied
    cases applied
    exact Carried.refl record
  · obtain ⟨_, accepted, applied⟩ := ok_bind applied
    obtain ⟨_, _, applied⟩ := ok_bind applied
    obtain ⟨final, applied⟩ := ok_refuse applied
    iterate 2 obtain ⟨_, _, applied⟩ := ok_bind applied
    cases applied
    obtain ⟨id, _⟩ := observedRecord_kept record update.observation grantActive now
    have released := observedRecord_released record update.observation grantActive now
    have observed := observedRecord_observed record grantActive now (assertObservation_ok accepted)
    have revoked := observed.revocation
    cases grantActive with
    | true =>
      refine ⟨id, observed.compiled, ?_, ?_, ?_⟩
      · intro held
        rwa [← revoked] at held
      · intro held
        exact released.trans (by rw [held, Bool.true_or])
      · intro _ active
        exact (observedRecord_evidence record true now (assertObservation_ok accepted) final active).of_same
          rfl rfl rfl rfl rfl rfl
    | false =>
      obtain ⟨id', compiled', _, revocation', _, released', inactive⟩ := withoutGrant_kept update.observation now
        (observedRecord record update.observation false now)
      refine ⟨id'.trans id, compiled'.trans observed.compiled, ?_, ?_, ?_⟩
      · intro held
        rwa [← revoked, ← revocation'] at held
      · intro held
        exact released'.trans (released.trans (by rw [held, Bool.true_or]))
      · intro _ active
        exact False.elim (inactive active)

theorem applySessionClaim_carried
    (applied : applySessionClaim encoding record claim kind now supersede = .ok (next, changed)) :
    Carried record next ∧ (kind = .revocation → next.revocation.isSome = true) := by
  unfold applySessionClaim at applied
  iterate 4 obtain ⟨_, _, applied⟩ := ok_bind applied
  simp only at applied
  split at applied
  · rename_i bound
    obtain ⟨_, _, applied⟩ := ok_bind applied
    cases applied
    refine ⟨Carried.refl record, ?_⟩
    rintro rfl
    cases held : record.revocation with
    | none => simp [StoredSession.approvalOf, held] at bound
    | some approval => rfl
  · iterate 7 obtain ⟨_, _, applied⟩ := ok_bind applied
    cases applied
    refine ⟨⟨rfl, rfl, ?_, fun held => held, ?_⟩, ?_⟩
    · cases kind <;> simp
    · cases kind <;> simp
    · rintro rfl
      simp

theorem applySessionInvalidation_carried
    (applied : applySessionInvalidation encoding record update now = .ok (next, changed)) : Carried record next := by
  unfold applySessionInvalidation at applied
  iterate 2 obtain ⟨_, _, applied⟩ := ok_bind applied
  split at applied
  · obtain ⟨_, _, applied⟩ := ok_bind applied
    cases applied
    exact Carried.refl record
  · iterate 3 obtain ⟨_, _, applied⟩ := ok_bind applied
    cases applied
    exact ⟨rfl, rfl, fun held => held, fun held => held, by simp⟩

theorem step_carried (stepped : Step encoding record event next) : Carried record next := by
  obtain ⟨changed, applied⟩ := stepped
  cases event with
  | claim => exact (applySessionClaim_carried applied).1
  | observe => exact applySessionObservation_carried applied
  | invalidate => exact applySessionInvalidation_carried applied

theorem run_evidence (run : Run (Step encoding) start history record)
    (initial : start.state = .active → Evidence start) : record.state = .active → Evidence record :=
  run.state_invariant (P := fun record => record.state = .active → Evidence record) initial
    (fun held stepped => (step_carried stepped).evidence held)

/-- A record that was revoked or released stays so, and so never shows what an active one does. -/
theorem run_ended (run : Run (Step encoding) start history record)
    (ended : start.revocation.isSome = true ∨ start.reservationsReleased = true) :
    record.revocation.isSome = true ∨ record.reservationsReleased = true := by
  refine run.state_invariant
    (P := fun record => record.revocation.isSome = true ∨ record.reservationsReleased = true) ended ?_
  intro state event next held stepped
  have carried := step_carried stepped
  rcases held with revoked | released
  · exact Or.inl (carried.revocation revoked)
  · exact Or.inr (carried.released released)

theorem Evidence.not_ended (evidence : Evidence record) :
    ¬ (record.revocation.isSome = true ∨ record.reservationsReleased = true) := by
  rintro (revoked | released)
  · simp [evidence.revocation] at revoked
  · simp [evidence.unreleased] at released

theorem assertSessionUserOperation_ok
    (accepted : assertSessionUserOperation record actor binding accountBindingId chainId sender now = .ok ()) :
    record.state = .active ∧ Evidence record := by
  unfold assertSessionUserOperation at accepted
  iterate 2 obtain ⟨_, _, accepted⟩ := ok_bind accepted
  have checked := refuse_ok.mp accepted
  simp only [Bool.or_eq_false_iff, Bool.not_eq_false', decide_eq_false_iff_not, ne_eq,
    Option.isSome_eq_false_iff, Option.isNone_iff_eq_none, decide_not] at checked
  obtain ⟨⟨⟨⟨⟨⟨⟨⟨_, active⟩, unreleased⟩, valid⟩, activated⟩, unrevoked⟩, _⟩, _⟩, current⟩ := checked
  refine ⟨by simpa using active, by simpa using activated, unrevoked, valid, unreleased, ?_⟩
  cases held : record.observation with
  | none => simp [held] at current
  | some observation =>
    simp only [held, Option.any_some, Bool.and_eq_true, decide_eq_true_eq] at current
    exact ⟨observation, rfl, current.1.2, current.2⟩

/-- From a new record, in every order of claims, observations and invalidations: an active
record was activated, is neither revoked, invalidated nor released, and was last observed
enabled at the nonce its owner approved; after a revocation claim or a release no record is
active again; and a session signs operations only as such a record. -/
theorem active_session_evidence (created : Created start) (run : Run (Step encoding) start history record) :
    (record.state = .active → Evidence record) ∧
    (∀ earlier claim now supersede later, history = earlier ++ [.claim claim .revocation now supersede] ++ later →
      record.state ≠ .active) ∧
    (∀ later final, record.reservationsReleased = true → Run (Step encoding) record later final →
      final.state ≠ .active) ∧
    ∀ actor binding accountBindingId chainId sender now,
      assertSessionUserOperation record actor binding accountBindingId chainId sender now = .ok () →
      record.state = .active ∧ Evidence record := by
  have unused : start.state = .active → Evidence start := by simp [created.state]
  have shown := run_evidence run unused
  refine ⟨shown, ?_, ?_, fun _ _ _ _ _ _ accepted => assertSessionUserOperation_ok accepted⟩
  · rintro earlier claim now supersede later rfl active
    obtain ⟨middle, past, rest⟩ := Run.split run
    obtain ⟨_, _, revoking⟩ := Run.split past
    obtain ⟨changed, applied⟩ := revoking.single
    have revoked := (applySessionClaim_carried applied).2 rfl
    exact (shown active).not_ended (run_ended rest (Or.inl revoked))
  · intro later final released continued active
    exact (run_evidence continued shown active).not_ended (run_ended continued (Or.inr released))

theorem active_session_evidence_sample : Evidence (sampleRecord .active 2 (some sampleApproval) (some unspent)) :=
  (active_session_evidence (⟨rfl, rfl, rfl, rfl⟩ : Created sampleStart)
    ((Run.nil.snoc sample_claimed).snoc sample_unspent)).1 rfl

/-- No later observation goes back behind an earlier one. -/
def Forward (record next : StoredSession) : Prop :=
  ∀ before after, record.observation = some before → next.observation = some after →
    decimalValue before.installed.enableNonce ≤ decimalValue after.installed.enableNonce ∧
    decimalValue before.installed.evidence.timestamp ≤ decimalValue after.installed.evidence.timestamp

/-- The policy was seen expired, or its nonce past the one the owner approved. -/
def Passed (c : CompiledSession) (o : InstalledSessionObservation) : Prop :=
  expired c o = true ∨ decimalValue c.activationEnableNonce < decimalValue o.enableNonce

/-- What keeps a record from being active again. -/
structure Dead (record : StoredSession) : Prop where
  inactive : record.state ≠ .active
  cause : poisoned record = true ∨ record.revocation.isSome = true ∨
    ∃ observation, record.observation = some observation ∧ Passed record.compiled observation.installed

theorem Passed.of_terminal (ended : terminal c o = true) : Passed c o := by
  simp only [terminal, Bool.or_eq_true] at ended
  rcases ended with ended | ended
  · simp only [retired, Bool.and_eq_true, decide_eq_true_eq] at ended
    exact Or.inr ended.2
  · exact Or.inl ended

theorem Passed.later (passed : Passed c o)
    (nonce : decimalValue o.enableNonce ≤ decimalValue o'.enableNonce)
    (timestamp : decimalValue o.evidence.timestamp ≤ decimalValue o'.evidence.timestamp) : Passed c o' := by
  rcases passed with ended | ahead
  · left
    simp only [expired, decide_eq_true_eq] at ended ⊢
    omega
  · right
    omega

theorem Dead.not_evidence (cause : poisoned record = true ∨ record.revocation.isSome = true ∨
      ∃ observation, record.observation = some observation ∧ Passed record.compiled observation.installed)
    (unexpired : ∀ observation, record.observation = some observation → expired record.compiled observation.installed = false)
    (evidence : Evidence record) : False := by
  rcases cause with poison | revoked | ⟨observation, held, ended | ahead⟩
  · simp [poisoned, evidence.invalidation] at poison
  · simp [evidence.revocation] at revoked
  · rw [unexpired observation held] at ended
    cases ended
  · obtain ⟨other, stored, _, nonce⟩ := evidence.observed
    cases held.symm.trans stored
    rw [nonce] at ahead
    exact Nat.lt_irrefl _ ahead

theorem step_dead (dead : Dead record) (stepped : Step encoding record event next) (forward : Forward record next) :
    Dead next := by
  have carried := step_carried stepped
  have shown := carried.evidence (fun active => False.elim (dead.inactive active))
  obtain rfl | withdrawn | ⟨observation, _, observed⟩ := step_cases stepped
  · exact dead
  · refine ⟨withdrawn.unusable, ?_⟩
    rcases dead.cause with poison | revoked | passed
    · exact Or.inl (withdrawn.poison poison)
    · exact Or.inr (Or.inl (withdrawn.revocation revoked))
    · rw [withdrawn.observation, withdrawn.compiled]
      exact Or.inr (Or.inr passed)
  · have cause : poisoned next = true ∨ next.revocation.isSome = true ∨
        ∃ observation, next.observation = some observation ∧ Passed next.compiled observation.installed := by
      rw [observed.compiled]
      rcases observed.fate with ended | revoked | poison | clean
      · exact Or.inr (Or.inr ⟨observation, observed.stored, Passed.of_terminal ended⟩)
      · exact Or.inr (Or.inl (carried.revocation revoked))
      · exact Or.inl poison
      · rcases dead.cause with poison | revoked | ⟨before, held, passed⟩
        · exact False.elim (observedReset_poisoned poison clean)
        · exact Or.inr (Or.inl (carried.revocation revoked))
        · obtain ⟨nonce, timestamp⟩ := forward before observation held observed.stored
          exact Or.inr (Or.inr ⟨observation, observed.stored, passed.later nonce timestamp⟩)
    refine ⟨?_, cause⟩
    intro active
    refine Dead.not_evidence cause ?_ (shown active)
    intro other held
    cases observed.stored.symm.trans held
    have live := (observed.live active).2.2.1
    simp only [terminal, Bool.or_eq_false_iff] at live
    rw [observed.compiled]
    exact live.2

/-- From a new record: once an invalidation is of a kind that is never forgiven, no order of
claims, observations and invalidations makes the record active again, as long as the nonces
and the block times it observes do not decrease. -/
theorem poisoned_never_active (created : Created start) (run : Run (Step encoding) start history record)
    (poison : poisoned record = true)
    (later : Run (fun record event next => Step encoding record event next ∧ Forward record next) record events final) :
    final.state ≠ .active := by
  have inactive : record.state ≠ .active := by
    intro active
    have evidence := run_evidence run (by simp [created.state]) active
    simp [poisoned, evidence.invalidation] at poison
  exact (later.state_invariant (P := Dead) ⟨inactive, Or.inl poison⟩
    (fun dead stepped => step_dead dead stepped.1 stepped.2)).inactive

/-- The sample record, made stale. -/
def sampleStale (revision : Int) (reason : InvalidationReason) : StoredSession :=
  { sampleRecord .stale revision (some sampleApproval) (some unspent) with
    invalidation := some ⟨reason, some sampleHash, 1000⟩ }

def sampleInvalidate (revision : Int) (reason : InvalidationReason) : Event :=
  .invalidate ⟨sampleActor, "session", revision, reason⟩ 1000

theorem sample_reorganized : Step sampleEncoding (sampleRecord .active 2 (some sampleApproval) (some unspent))
    (sampleInvalidate 2 .reorg) (sampleStale 3 .reorg) := by
  refine ⟨true, ?_⟩
  change applySessionInvalidation sampleEncoding _ _ 1000 = _
  simp [applySessionInvalidation, assertSessionActor, canReadSession, sampleRecord, sampleCompiled, sampleActor,
    refuse, revision, isSafeInteger, maxSafeInteger, isTime, cloneSession, sampleEncoding, optionally, poisoned,
    sampleStale, unspent, sampleObservation, bind, Except.bind, discard, Functor.mapConst, Except.map, pure,
    Except.pure]

theorem sample_unlinked : Step sampleEncoding (sampleStale 3 .reorg) (sampleInvalidate 3 .bindingUnlinked)
    (sampleStale 4 .reorg) := by
  refine ⟨true, ?_⟩
  change applySessionInvalidation sampleEncoding _ _ 1000 = _
  simp [applySessionInvalidation, assertSessionActor, canReadSession, sampleRecord, sampleCompiled, sampleActor,
    refuse, revision, isSafeInteger, maxSafeInteger, isTime, cloneSession, sampleEncoding, optionally, poisoned,
    sampleStale, Option.filter, InvalidationReason.permanent, bind, Except.bind, discard, Functor.mapConst, Except.map, pure,
    Except.pure]

theorem poisoned_never_active_sample : (sampleStale 4 .reorg).state ≠ .active := by
  refine poisoned_never_active (⟨rfl, rfl, rfl, rfl⟩ : Created sampleStart)
    (((Run.nil.snoc sample_claimed).snoc sample_unspent).snoc sample_reorganized) rfl
    (Run.nil.snoc ⟨sample_unlinked, ?_⟩)
  rintro before after ⟨⟩ ⟨⟩
  exact ⟨Nat.le_refl _, Nat.le_refl _⟩

end JBCenter.Sessions
