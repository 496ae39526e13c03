import JBCenter.Base.Runs
import JBCenter.Sessions.Store
import Mathlib.Data.List.Perm.Subperm

/-! One accepted operation on a session record: a claim or an invalidation withdraws the
record from use and keeps what was observed; an observation replaces it, after comparing the
counters with those of the enabled observation it replaces, if there is one. -/
namespace JBCenter.Sessions
open Rest
variable {encoding : Encoding} {record next : StoredSession}

inductive Event where
  | claim (claim : SessionClaim) (kind : LifecycleKind) (now : Int) (allowSupersession : Bool)
  | observe (update : SessionObservationUpdate) (grantActive : Bool) (now : Int)
  | invalidate (update : SessionInvalidationUpdate) (now : Int)

def apply (encoding : Encoding) (record : StoredSession) : Event → Except RestError (StoredSession × Bool)
  | .claim claim kind now allowSupersession => applySessionClaim encoding record claim kind now allowSupersession
  | .observe update grantActive now => applySessionObservation encoding record update grantActive now
  | .invalidate update now => applySessionInvalidation encoding record update now

/-- An accepted operation; a refused one leaves the record alone. -/
def Step (encoding : Encoding) (record : StoredSession) (event : Event) (next : StoredSession) : Prop :=
  ∃ changed, apply encoding record event = .ok (next, changed)

/-- The lifecycle fields every new record has. -/
structure Created (record : StoredSession) : Prop where
  state : record.state = .prepared
  revocation : record.revocation = none
  observation : record.observation = none
  invalidation : record.invalidation = none

/-- The policy shows as retired or expired: nothing is compared with such an observation. -/
def terminal (c : CompiledSession) (o : InstalledSessionObservation) : Bool := retired c o || expired c o

/-- The later observation keeps the configuration and every counter, and gives nothing back. -/
structure Spends (earlier later : InstalledSessionObservation) : Prop where
  configuration : same earlier.configurationHash later.configurationHash = true
  length : earlier.counters.length = later.counters.length
  counters : ∀ counter ∈ later.counters, ∃ prior ∈ earlier.counters, counterKey prior = counterKey counter ∧
    prior.limit = counter.limit ∧ decimalValue prior.used ≤ decimalValue counter.used

theorem Spends.refl (o : InstalledSessionObservation) : Spends o o :=
  ⟨by simp [same], rfl, fun counter member => ⟨counter, member, rfl, rfl, Nat.le_refl _⟩⟩

theorem Spends.trans (first : Spends a b) (second : Spends b c) : Spends a c := by
  refine ⟨?_, first.length.trans second.length, ?_⟩
  · have one := first.configuration
    have two := second.configuration
    simp only [same, decide_eq_true_eq] at one two ⊢
    exact one.trans two
  · intro counter member
    obtain ⟨middle, present, key, limit, used⟩ := second.counters counter member
    obtain ⟨prior, found, key', limit', used'⟩ := first.counters middle present
    exact ⟨prior, found, key'.trans key, limit'.trans limit, Nat.le_trans used' used⟩

/-- With distinct keys on both sides no counter of the earlier observation is missing. -/
theorem Spends.covers (spends : Spends earlier later) (distinct : (later.counters.map counterKey).Nodup)
    (distinct' : (earlier.counters.map counterKey).Nodup) :
    ∀ prior ∈ earlier.counters, ∃ counter ∈ later.counters, counterKey prior = counterKey counter ∧
      prior.limit = counter.limit ∧ decimalValue prior.used ≤ decimalValue counter.used := by
  have subset : later.counters.map counterKey ⊆ earlier.counters.map counterKey := by
    intro key member
    obtain ⟨counter, present, rfl⟩ := List.mem_map.mp member
    obtain ⟨prior, found, key, _⟩ := spends.counters counter present
    exact List.mem_map.mpr ⟨prior, found, key⟩
  have perm := (distinct.subperm subset).perm_of_length_le (by simp [spends.length])
  intro prior found
  obtain ⟨counter, present, key⟩ := List.mem_map.mp (perm.symm.subset (List.mem_map_of_mem found))
  obtain ⟨other, held, otherKey, limit, used⟩ := spends.counters counter present
  have same : other = prior :=
    List.inj_on_of_nodup_map distinct' held found (otherKey.trans key)
  exact ⟨counter, present, key.symm, same ▸ limit, same ▸ used⟩

theorem cloneSession_ok (cloned : cloneSession size value = .ok copy) : value = copy := by
  unfold cloneSession at cloned
  obtain ⟨_, cloned⟩ := ok_refuse cloned
  cases cloned
  rfl

theorem assertCounters_ok (accepted : assertCounters keys counters = .ok ()) :
    (counters.map counterKey).Nodup ∧ ∀ counter ∈ counters, counterKey counter ∉ keys := by
  induction counters generalizing keys with
  | nil => exact ⟨List.nodup_nil, by simp⟩
  | cons counter rest ih =>
    obtain ⟨_, _, accepted⟩ := ok_bind accepted
    obtain ⟨fresh, accepted⟩ := ok_refuse accepted
    obtain ⟨distinct, later⟩ := ih accepted
    refine ⟨?_, ?_⟩
    · rw [List.map_cons, List.nodup_cons]
      refine ⟨?_, distinct⟩
      intro member
      obtain ⟨other, present, key⟩ := List.mem_map.mp member
      exact later other present (key ▸ List.mem_cons_self)
    · intro other member
      rcases List.mem_cons.mp member with rfl | member
      · simpa using fresh
      · exact fun held => later other member (List.mem_cons_of_mem _ held)

theorem assertObservation_ok (accepted : assertObservation encoding record observation now = .ok ()) :
    (observation.installed.counters.map counterKey).Nodup := by
  unfold assertObservation at accepted
  iterate 2 obtain ⟨_, accepted⟩ := ok_refuse accepted
  obtain ⟨_, counters, _⟩ := ok_bind accepted
  exact (assertCounters_ok counters).1

theorem poisoned_reason (poison : poisoned record = true) :
    ∃ invalidation, record.invalidation = some invalidation ∧ invalidation.reason.permanent = true := by
  unfold poisoned at poison
  cases held : record.invalidation with
  | none => simp [held] at poison
  | some invalidation => exact ⟨invalidation, rfl, by simpa [held] using poison⟩

/-- Whatever an observation finds wrong is never forgiven. -/
theorem observedReset_permanent (found : observedReset record o = some reason) : reason.permanent = true := by
  unfold observedReset at found
  simp only at found
  split at found
  · rename_i poison
    obtain ⟨invalidation, held, permanent⟩ := poisoned_reason poison
    simp only [held, Option.map_some, Option.some.injEq] at found
    exact found ▸ permanent
  · split at found
    · cases found
      rfl
    · split at found
      · cases found
        rfl
      · cases found

theorem observedReset_poisoned (poison : poisoned record = true) : observedReset record o ≠ none := by
  obtain ⟨invalidation, held, _⟩ := poisoned_reason poison
  unfold observedReset
  simp [poison, held]

theorem counterChanged_false (kept : counterChanged previous counter = false) :
    ∃ prior ∈ previous.counters, counterKey prior = counterKey counter ∧ prior.limit = counter.limit ∧
      decimalValue prior.used ≤ decimalValue counter.used := by
  unfold counterChanged priorCounter at kept
  split at kept
  · cases kept
  · rename_i prior found
    simp only [ne_eq, decide_not, Bool.or_eq_false_iff, Bool.not_eq_false', decide_eq_true_eq,
      decide_eq_false_iff_not, Nat.not_lt] at kept
    refine ⟨prior, List.mem_reverse.mp (List.mem_of_find?_eq_some found), ?_, kept.1, kept.2⟩
    simpa using List.find?_some found

/-- An observation that finds nothing wrong spends from the enabled one it replaces. -/
theorem observedReset_none (clean : observedReset record o = none)
    (held : record.observation = some observation) (was : observation.installed.enabled = true) :
    o.enabled = true ∧ Spends observation.installed o := by
  have unpoisoned : poisoned record = false := by
    by_contra poison
    exact observedReset_poisoned (by simpa using poison) clean
  unfold observedReset at clean
  simp only [held, Option.map_some, Option.filter, was, if_true, Option.any_some, unpoisoned,
    Bool.false_eq_true, if_false] at clean
  split at clean
  · cases clean
  · rename_i counters
    split at clean
    · cases clean
    · rename_i configuration
      simp only [Bool.or_eq_true, not_or, Bool.not_eq_true] at counters configuration
      have changed := counters.1
      simp only [countersChanged, ne_eq, decide_not, Bool.or_eq_false_iff, Bool.not_eq_false',
        decide_eq_true_eq, List.any_eq_false, Bool.not_eq_true] at changed
      have configuration := configuration.2
      simp only [Bool.not_eq_false'] at configuration
      exact ⟨configuration.1, configuration.2, changed.1,
        fun counter member => counterChanged_false (changed.2 counter member)⟩

/-- What an accepted observation leaves of the record. -/
structure Observed (record : StoredSession) (observation : SessionCanonicalObservation) (next : StoredSession) :
    Prop where
  compiled : next.compiled = record.compiled
  revocation : next.revocation = record.revocation
  stored : next.observation = some observation
  distinct : (observation.installed.counters.map counterKey).Nodup
  fate : terminal record.compiled observation.installed = true ∨ record.revocation.isSome = true ∨
    poisoned next = true ∨ observedReset record observation.installed = none
  live : next.state = .active → next.revocation = none ∧ next.invalidation = none ∧
    terminal record.compiled observation.installed = false ∧ observation.installed.enabled = true

theorem observedState_active (active : observedState record o grantActive = .active) :
    record.revocation = none ∧ terminal record.compiled o = false ∧ o.enabled = true := by
  unfold observedState at active
  simp only at active
  split at active
  · cases active
  · split at active
    · cases active
    · split at active
      · cases active
      · split at active
        · rename_i live unexpired unrevoked enabled
          simp only [Bool.and_eq_true] at enabled
          exact ⟨by simpa using unrevoked, by simp [terminal, live, unexpired], enabled.1.1.1⟩
        · split at active <;> cases active

theorem observedRecord_observed (record : StoredSession) (grantActive : Bool) (now : Int)
    (distinct : (observation.installed.counters.map counterKey).Nodup) :
    Observed record observation (observedRecord record observation grantActive now) := by
  unfold observedRecord
  simp only
  split
  · rename_i checked
    simp only [Bool.and_eq_true, Bool.not_eq_true'] at checked
    split
    · rename_i clean
      refine ⟨rfl, rfl, rfl, distinct, Or.inr (Or.inr (Or.inr clean)), ?_⟩
      intro active
      obtain ⟨unrevoked, live, enabled⟩ := observedState_active active
      exact ⟨unrevoked, rfl, live, enabled⟩
    · rename_i reason found
      refine ⟨rfl, rfl, rfl, distinct, Or.inr (Or.inr (Or.inl ?_)), by simp⟩
      simpa [poisoned] using observedReset_permanent found
  · rename_i checked
    simp only [Bool.and_eq_true, Bool.not_eq_true', not_and, Bool.not_eq_false] at checked
    refine ⟨rfl, rfl, rfl, distinct, ?_, ?_⟩
    · by_cases ended : terminal record.compiled observation.installed = true
      · exact Or.inl ended
      · simp only [terminal, Bool.or_eq_true, not_or, Bool.not_eq_true] at ended
        have awaiting := checked ended
        simp only [awaitingNonceRevocation, Bool.and_eq_true] at awaiting
        exact Or.inr (Or.inl awaiting.2)
    · intro active
      obtain ⟨unrevoked, live, enabled⟩ := observedState_active active
      exact ⟨unrevoked, rfl, live, enabled⟩

theorem Observed.withoutGrant (observed : Observed record observation next)
    (other : SessionCanonicalObservation) (now : Int) :
    Observed record observation (withoutGrant other now next) := by
  unfold Sessions.withoutGrant
  split
  · exact observed
  · refine ⟨observed.compiled, observed.revocation, observed.stored, observed.distinct, ?_, by simp⟩
    rcases observed.fate with ended | revoked | poison | clean
    · exact Or.inl ended
    · exact Or.inr (Or.inl revoked)
    · obtain ⟨invalidation, held, permanent⟩ := poisoned_reason poison
      exact Or.inr (Or.inr (Or.inl (by simp [poisoned, held, permanent])))
    · exact Or.inr (Or.inr (Or.inr clean))

theorem applySessionObservation_ok
    (applied : applySessionObservation encoding record update grantActive now = .ok (next, changed)) :
    next = record ∨ Observed record update.observation next := by
  unfold applySessionObservation at applied
  iterate 2 obtain ⟨_, _, applied⟩ := ok_bind applied
  split at applied
  · obtain ⟨_, _, applied⟩ := ok_bind applied
    cases applied
    exact Or.inl rfl
  · obtain ⟨_, accepted, applied⟩ := ok_bind applied
    iterate 4 obtain ⟨_, _, applied⟩ := ok_bind applied
    cases applied
    have observed := observedRecord_observed record grantActive now (assertObservation_ok accepted)
    right
    cases grantActive with
    | true => exact ⟨observed.compiled, observed.revocation, observed.stored, observed.distinct, observed.fate,
        observed.live⟩
    | false =>
      have observed := observed.withoutGrant update.observation now
      exact ⟨observed.compiled, observed.revocation, observed.stored, observed.distinct, observed.fate,
        observed.live⟩

/-- What a claim or an invalidation leaves: the observed policy, and a record that is not usable. -/
structure Withdrawn (record next : StoredSession) : Prop where
  compiled : next.compiled = record.compiled
  observation : next.observation = record.observation
  poison : poisoned record = true → poisoned next = true
  revocation : record.revocation.isSome = true → next.revocation.isSome = true
  unusable : next.state ≠ .active

theorem applySessionClaim_ok
    (applied : applySessionClaim encoding record claim kind now supersede = .ok (next, changed)) :
    next = record ∨ Withdrawn record next := by
  unfold applySessionClaim at applied
  iterate 4 obtain ⟨_, _, applied⟩ := ok_bind applied
  simp only at applied
  split at applied
  · obtain ⟨_, _, applied⟩ := ok_bind applied
    cases applied
    exact Or.inl rfl
  · iterate 7 obtain ⟨_, _, applied⟩ := ok_bind applied
    cases applied
    refine Or.inr ⟨rfl, rfl, id, ?_, ?_⟩
    · cases kind <;> simp
    · cases kind <;> simp

theorem applySessionInvalidation_ok
    (applied : applySessionInvalidation encoding record update now = .ok (next, changed)) :
    next = record ∨ Withdrawn record next := by
  unfold applySessionInvalidation at applied
  iterate 2 obtain ⟨_, _, applied⟩ := ok_bind applied
  split at applied
  · obtain ⟨_, _, applied⟩ := ok_bind applied
    cases applied
    exact Or.inl rfl
  · iterate 3 obtain ⟨_, _, applied⟩ := ok_bind applied
    cases applied
    refine Or.inr ⟨rfl, rfl, ?_, id, by simp⟩
    intro poison
    obtain ⟨invalidation, held, permanent⟩ := poisoned_reason poison
    simp [poisoned, held, permanent]

/-- The observation an operation carries, if it is one. -/
def Event.observation : Event → Option SessionCanonicalObservation
  | .observe update _ _ => some update.observation
  | _ => none

/-- One accepted operation: nothing, a withdrawal, or the observation it carries. -/
theorem step_cases (stepped : Step encoding record event next) :
    next = record ∨ Withdrawn record next ∨
      ∃ observation, event.observation = some observation ∧ Observed record observation next := by
  obtain ⟨changed, applied⟩ := stepped
  cases event with
  | claim claim kind now supersede =>
    rcases applySessionClaim_ok applied with unchanged | withdrawn
    · exact Or.inl unchanged
    · exact Or.inr (Or.inl withdrawn)
  | observe update grantActive now =>
    rcases applySessionObservation_ok applied with unchanged | observed
    · exact Or.inl unchanged
    · exact Or.inr (Or.inr ⟨update.observation, rfl, observed⟩)
  | invalidate update now =>
    rcases applySessionInvalidation_ok applied with unchanged | withdrawn
    · exact Or.inl unchanged
    · exact Or.inr (Or.inl withdrawn)

end JBCenter.Sessions
