import JBCenter.Transactions.Steps

/-! A step is executed through one transport. Its signed attempt or its external execution
is backed by the permanent reservation of that transport, and a signed nonce by its binding
to the step, in every state the store can reach. -/
namespace JBCenter.Transactions
open Rest
variable {bytes : JsonBytes} {id : String} {i : Nat} {s t : Memory}

theorem Claimed.unbound (claimable : Claimable plan claim old) (how : Claimed plan claim old new dispatch) :
    new.externalExecution = none := by
  cases how with
  | recorded => rfl
  | dispatched => exact claimable.unbound

theorem Claimed.signed (claimable : Claimable plan claim old) (how : Claimed plan claim old new dispatch) :
    ∃ attempt, new.attempt = some attempt ∧ attemptIdentity attempt = attemptIdentity claim.attempt := by
  cases how with
  | recorded => exact ⟨_, rfl, rfl⟩
  | dispatched =>
    refine ⟨_, rfl, ?_⟩
    cases held : old.attempt with
    | none => rfl
    | some attempt => exact claimable.same attempt held

theorem nonceKey_of_identity (same : attemptIdentity a = attemptIdentity b) : nonceKey a = nonceKey b := by
  have chainId := congrArg AttemptIdentity.chainId same
  have sender := congrArg AttemptIdentity.sender same
  have nonce := congrArg AttemptIdentity.nonce same
  simp only [attemptIdentity] at chainId sender nonce
  simp only [nonceKey, chainId, sender, nonce]

theorem hash_of_identity (same : attemptIdentity a = attemptIdentity b) :
    toLowerCase a.hash = toLowerCase b.hash :=
  congrArg AttemptIdentity.hash same

theorem nonceKey_of_core {a b : SignedAttempt} (same : a.core = b.core) : nonceKey a = nonceKey b :=
  (congrArg nonceKey same : nonceKey a.core = nonceKey b.core)

theorem hash_of_core {a b : SignedAttempt} (same : a.core = b.core) : a.hash = b.hash :=
  (congrArg SignedAttempt.hash same : a.core.hash = b.core.hash)

/-- What backs the execution of one step. -/
structure Backed (s : Memory) (id : String) (i : Nat) (step : StoredStep) : Prop where
  exclusive : step.attempt = none ∨ step.externalExecution = none
  direct : ∀ attempt, step.attempt = some attempt →
    s.transports.reservation id i = some ⟨.direct, toLowerCase attempt.hash⟩
  forwarded : ∀ external, step.externalExecution = some external →
    s.transports.reservation id i = some ⟨external.transport, external.bindingId⟩
  nonce : ∀ attempt, step.attempt = some attempt → s.nonces.get (nonceKey attempt) = some ⟨id, i⟩

def Memory.Backed (s : Memory) : Prop :=
  ∀ id i step, s.stepAt id i = some step → Transactions.Backed s id i step

/-- What backs a step survives every operation. -/
theorem Backed.later (backed : Backed s id i step) (effect : Effect bytes s op outcome t) :
    Backed t id i step where
  exclusive := backed.exclusive
  direct := fun attempt held => effect_transports effect _ _ _ (backed.direct attempt held)
  forwarded := fun external held => effect_transports effect _ _ _ (backed.forwarded external held)
  nonce := fun attempt held => effect_nonces effect (backed.nonce attempt held)

theorem Backed.kept (backed : Backed s id i old) (kept : Kept old new) : Backed s id i new := by
  have signed : ∀ attempt, new.attempt = some attempt →
      ∃ held, old.attempt = some held ∧ held.core = attempt.core := by
    intro attempt present
    have same := kept.attempt
    rw [present, Option.map_some, eq_comm, Option.map_eq_some_iff] at same
    exact same
  have bound : ∀ external, new.externalExecution = some external →
      ∃ held, old.externalExecution = some held ∧ held.binding = external.binding := by
    intro external present
    have same := kept.external
    rw [present, Option.map_some, eq_comm, Option.map_eq_some_iff] at same
    exact same
  refine ⟨?_, ?_, ?_, ?_⟩
  · rcases backed.exclusive with empty | empty
    · have same := kept.attempt
      rw [empty, Option.map_none, Option.map_eq_none_iff] at same
      exact Or.inl same
    · have same := kept.external
      rw [empty, Option.map_none, Option.map_eq_none_iff] at same
      exact Or.inr same
  · intro attempt present
    obtain ⟨held, holding, same⟩ := signed attempt present
    rw [← hash_of_core same]
    exact backed.direct held holding
  · intro external present
    obtain ⟨held, holding, same⟩ := bound external present
    exact (backed.forwarded held holding).trans (congrArg some same)
  · intro attempt present
    obtain ⟨held, holding, same⟩ := signed attempt present
    rw [← nonceKey_of_core same]
    exact backed.nonce held holding

theorem Attached.backed (attached : Attached (s.transports.reservation id i) old new) :
    Backed s id i new := by
  obtain ⟨external, present, reserved⟩ := attached.bound
  refine ⟨Or.inl attached.still, ?_, ?_, ?_⟩
  · intro attempt held
    rw [attached.still] at held
    contradiction
  · intro other held
    cases held.symm.trans present
    exact reserved
  · intro attempt held
    rw [attached.still] at held
    contradiction

/-- A claim reserves the step for its transaction and binds its nonce. -/
theorem effect_claims (effect : Effect bytes s op outcome t) (asked : op.submission = some (claim, waited)) :
    t.transports.reservation claim.planId claim.stepIndex =
        some ⟨.direct, toLowerCase claim.attempt.hash⟩ ∧
      t.nonces.get (nonceKey claim.attempt) = some ⟨claim.planId, claim.stepIndex⟩ := by
  cases effect with
  | created => cases asked
  | rewritten _ other =>
    rw [other] at asked
    contradiction
  | claimed _ _ _ _ reserved =>
    cases asked
    refine ⟨?_, OrderedMap.get_set_self _ _ _⟩
    rw [(Transports.claim_ok reserved).2]
    simp
  | reserved => cases asked

theorem effect_backed (backed : s.Backed) (effect : Effect bytes s op outcome t) : t.Backed := by
  intro id i step found
  have change := effect_step effect id i
  rw [found] at change
  generalize before : s.stepAt id i = earlier at change
  cases change with
  | fresh _ unsigned unbound =>
    exact ⟨Or.inl unsigned, by simp [unsigned], by simp [unbound], by simp [unsigned]⟩
  | evolved _ how =>
    rcases how with kept | attached
    · exact ((backed id i _ before).kept kept).later effect
    · exact attached.backed.later effect
  | claimed asked target index claimable how =>
    obtain ⟨attempt, present, same⟩ := how.signed claimable
    obtain ⟨reserved, bound⟩ := effect_claims effect asked
    subst target
    rw [index] at reserved bound
    have empty := how.unbound claimable
    refine ⟨Or.inr empty, ?_, by simp [empty], ?_⟩
    · intro held holding
      cases holding.symm.trans present
      rw [hash_of_identity same]
      exact reserved
    · intro held holding
      cases holding.symm.trans present
      rw [nonceKey_of_identity same]
      exact bound

theorem run_backed (run : Runs bytes history s) : s.Backed := by
  refine run_invariant (P := fun _ s => s.Backed) run ?_ id effect_backed
  intro id i step found
  cases found

theorem run_extends (bounded : s.Bounded bytes) (run : Run (Step bytes) s later t) :
    t.Bounded bytes ∧ s.transports.Extends t.transports := by
  refine run.state_invariant (P := fun t => t.Bounded bytes ∧ s.transports.Extends t.transports)
    ⟨bounded, fun _ _ _ found => found⟩ ?_
  intro state event next kept stepped
  refine ⟨step_bounded kept.1 stepped, ?_⟩
  obtain ⟨_, _, rfl⟩ | ⟨_, _, effect⟩ := step_cases kept.1 stepped
  · exact kept.2
  · exact fun id index binding found => effect_transports effect _ _ _ (kept.2 id index binding found)

/-- In every reachable state each step runs through at most one transport, the one its
reservation names, and no later operation changes or removes a reservation. -/
theorem transport_exclusive_and_permanent (run : Runs bytes history s) :
    (∀ id plan (i : Nat) step, s.plans.get id = some plan → plan.steps[i]? = some step →
      (step.attempt = none ∨ step.externalExecution = none) ∧
      (∀ attempt, step.attempt = some attempt →
        s.transports.reservation id i = some ⟨.direct, toLowerCase attempt.hash⟩) ∧
      ∀ external, step.externalExecution = some external →
        s.transports.reservation id i = some ⟨external.transport, external.bindingId⟩) ∧
    ∀ later t, Run (Step bytes) s later t → s.transports.Extends t.transports := by
  refine ⟨?_, fun later t continued => (run_extends (run_bounded run) continued).2⟩
  intro id plan i step stored place
  have backed := run_backed run id i step (by rw [stepAt_of_get stored, place])
  exact ⟨backed.exclusive, backed.direct, backed.forwarded⟩

theorem transport_exclusive_and_permanent_sample : ∃ attempt : SignedAttempt,
    sampleRun.2.transports.reservation "plan" 0 = some ⟨.direct, toLowerCase attempt.hash⟩ := by
  obtain ⟨plan, step, attempt, stored, place, present, _⟩ := sampleRun_signed
  have backed := (transport_exclusive_and_permanent (performAll_run _ _)).1 "plan" plan 0 step stored place
  exact ⟨attempt, backed.2.1 attempt present⟩

/-- An attempt the step already held, whatever a settlement noted on it since. -/
def Memory.Signed (s : Memory) (id : String) (i : Nat) (attempt : SignedAttempt) : Prop :=
  ∃ step held, s.stepAt id i = some step ∧ step.attempt = some held ∧ held.core = attempt.core

theorem effect_unsigned (effect : Effect bytes s op outcome t) (other : op.submission = none) :
    t.nonces = s.nonces ∧ ∀ id i step attempt, t.stepAt id i = some step → step.attempt = some attempt →
      s.Signed id i attempt := by
  constructor
  · cases effect with
    | claimed => cases other
    | _ => rfl
  · intro id i step attempt found present
    have change := effect_step effect id i
    rw [found] at change
    generalize before : s.stepAt id i = earlier at change
    cases change with
    | fresh _ unsigned =>
      rw [unsigned] at present
      contradiction
    | evolved _ how =>
      rcases how with kept | attached
      · have same := kept.attempt
        rw [present, Option.map_some, eq_comm, Option.map_eq_some_iff] at same
        obtain ⟨held, holding, same⟩ := same
        exact ⟨_, held, before, holding, same⟩
      · rw [attached.still] at present
        contradiction
    | claimed asked =>
      rw [show (Event.mk op (.ok outcome)).op.submission = none from other] at asked
      contradiction

/-- Two attempts with one chain, sender and nonce are attempts of one step, and only a
submission claim adds an attempt or binds a nonce. -/
theorem signed_nonce_unique (run : Runs bytes history s) :
    (∀ id plan (i : Nat) step attempt id' plan' (j : Nat) step' attempt',
      s.plans.get id = some plan → plan.steps[i]? = some step → step.attempt = some attempt →
      s.plans.get id' = some plan' → plan'.steps[j]? = some step' → step'.attempt = some attempt' →
      nonceKey attempt = nonceKey attempt' → id = id' ∧ i = j) ∧
    ∀ event t, Step bytes s event t → event.op.submission = none →
      t.nonces = s.nonces ∧ ∀ id plan (i : Nat) step attempt, t.plans.get id = some plan →
        plan.steps[i]? = some step → step.attempt = some attempt → s.Signed id i attempt := by
  constructor
  · intro id plan i step attempt id' plan' j step' attempt' stored place present stored' place' present' same
    have first := (run_backed run id i step (by rw [stepAt_of_get stored, place])).nonce attempt present
    have second := (run_backed run id' j step' (by rw [stepAt_of_get stored', place'])).nonce attempt' present'
    rw [← same, first, Option.some.injEq, NonceBinding.mk.injEq] at second
    exact ⟨second.1, by omega⟩
  · intro event t stepped other
    obtain ⟨_, _, rfl⟩ | ⟨_, _, effect⟩ := step_cases (run_bounded run) stepped
    · refine ⟨rfl, ?_⟩
      intro id plan i step attempt stored place present
      exact ⟨step, attempt, by rw [stepAt_of_get stored, place], present, rfl⟩
    · obtain ⟨nonces, attempts⟩ := effect_unsigned effect other
      refine ⟨nonces, ?_⟩
      intro id plan i step attempt stored place present
      exact attempts id i step attempt (by rw [stepAt_of_get stored, place]) present

theorem signed_nonce_unique_sample : ∃ attempt : SignedAttempt,
    ∀ id plan (i : Nat) step other, sampleRun.2.plans.get id = some plan → plan.steps[i]? = some step →
      step.attempt = some other → nonceKey other = nonceKey attempt → id = "plan" ∧ i = 0 := by
  obtain ⟨plan', step', attempt, stored', place', present', _⟩ := sampleRun_signed
  refine ⟨attempt, ?_⟩
  intro id plan i step other stored place present key
  exact (signed_nonce_unique (performAll_run _ _)).1 id plan i step other "plan" plan' 0 step' attempt
    stored place present stored' place' present' key

end JBCenter.Transactions
