import JBCenter.Wallet.Policy

/-! A generation determines what an application is admitted with. An activation that changes the
admission takes the next generation, removals and returns included, and the rows always say what
the active configuration lists. -/
namespace JBCenter.Wallet.Policy
open Rest

variable {η : Type} {rules : PolicyRules η} {configuration validated : WalletPolicyConfiguration} {origin : String}
  {apps next : OrderedMap String WalletPolicyApplicationState} {app : WalletPolicyApplicationState}
  {entry : FirstPartyApplication}

theorem textLe_trans (a b c : String) (first : decide (a ≤ b) = true) (second : decide (b ≤ c) = true) :
    decide (a ≤ c) = true := by
  rw [decide_eq_true_eq] at first second ⊢
  exact first.trans second

theorem textLe_total (a b : String) : (decide (a ≤ b) || decide (b ≤ a)) = true := by
  rw [Bool.or_eq_true, decide_eq_true_eq, decide_eq_true_eq]
  exact le_total a b

theorem originLe_trans (a b c : FirstPartyApplication) (first : decide (a.origin ≤ b.origin) = true)
    (second : decide (b.origin ≤ c.origin) = true) : decide (a.origin ≤ c.origin) = true :=
  textLe_trans _ _ _ first second

theorem originLe_total (a b : FirstPartyApplication) : (decide (a.origin ≤ b.origin) || decide (b.origin ≤ a.origin)) = true :=
  textLe_total _ _

theorem applicationOf_ok {result : FirstPartyApplication} (ran : applicationOf rules entry = .ok result) :
    result = { entry with walletCallbacks := entry.walletCallbacks.mergeSort (fun a b => a ≤ b) } ∧
    applicationOf rules result = .ok result := by
  obtain ⟨trusted, ran⟩ := ok_refuse ran
  obtain ⟨lifetime, ran⟩ := ok_refuse ran
  obtain ⟨short, ran⟩ := ok_refuse ran
  obtain ⟨called, ran⟩ := ok_refuse ran
  obtain ⟨distinct, ran⟩ := ok_refuse ran
  cases ran
  refine ⟨rfl, ?_⟩
  have sorted := List.mergeSort_of_pairwise (List.pairwise_mergeSort textLe_trans textLe_total entry.walletCallbacks)
  have same := List.mergeSort_perm entry.walletCallbacks (fun a b => decide (a ≤ b))
  refine bind_run (refuse_ok.mpr trusted) (bind_run (refuse_ok.mpr lifetime) ?_)
  refine bind_run (refuse_ok.mpr (by rw [same.length_eq]; exact short)) (bind_run (refuse_ok.mpr ?_) ?_)
  · rw [List.any_eq_false] at called ⊢
    exact fun callback member => called callback (same.mem_iff.mp member)
  · refine bind_run (refuse_ok.mpr ?_) ?_
    · rw [decide_eq_false_iff_not, not_not] at distinct ⊢
      exact same.nodup_iff.mpr distinct
    · change Except.ok { entry with walletCallbacks := List.mergeSort (List.mergeSort _ _) _ } = _
      rw [sorted]

theorem applications_ok {entries applications : List FirstPartyApplication}
    (mapped : List.Forall₂ (fun entry result => applicationOf rules entry = .ok result) entries applications) :
    applications.map (·.origin) = entries.map (·.origin) ∧
    ∀ application ∈ applications, applicationOf rules application = .ok application := by
  induction mapped with
  | nil => exact ⟨rfl, by simp⟩
  | cons computed _ ih =>
    obtain ⟨same, again⟩ := applicationOf_ok computed
    refine ⟨by rw [List.map_cons, List.map_cons, ih.1, same], ?_⟩
    rw [List.forall_mem_cons]
    exact ⟨again, ih.2⟩

theorem validate_ok (ran : validateWalletPolicyConfiguration rules configuration = .ok validated) :
    validateWalletPolicyConfiguration rules validated = .ok validated ∧ (validated.applications.map (·.origin)).Nodup := by
  obtain ⟨short, ran⟩ := ok_refuse ran
  obtain ⟨distinct, ran⟩ := ok_refuse ran
  obtain ⟨applications, mapped, ran⟩ := ok_bind ran
  obtain ⟨within, ran⟩ := ok_refuse ran
  cases ran
  have same := List.mergeSort_perm applications (fun a b => decide (a.origin ≤ b.origin))
  have sorted := List.mergeSort_of_pairwise (List.pairwise_mergeSort originLe_trans originLe_total applications)
  obtain ⟨origins, fixed⟩ := applications_ok (mapM_ok mapped)
  have once : ((applications.mergeSort (fun a b => a.origin ≤ b.origin)).map (·.origin)).Nodup := by
    rw [(same.map (·.origin)).nodup_iff, origins]
    simpa using distinct
  refine ⟨bind_run (refuse_ok.mpr ?_) (bind_run (refuse_ok.mpr (by simpa using once))
    (bind_run (mapM_id fun application member => fixed application (same.mem_iff.mp member)) ?_)), once⟩
  · have length := congrArg List.length origins
    rw [List.length_map, List.length_map] at length
    rw [same.length_eq, length]
    exact short
  · rw [sorted]
    exact bind_run (refuse_ok.mpr within) rfl

theorem hash_ok {hash : η} (valid : validateWalletPolicyConfiguration rules validated = .ok validated)
    (hashed : walletPolicyConfigurationHash rules validated = .ok hash) : hash = rules.configurationHash validated := by
  obtain ⟨again, revalidated, ran⟩ := ok_bind hashed
  cases valid.symm.trans revalidated
  cases ran
  rfl

/-- What an activation makes of a row: it says what the configuration lists, and within a generation
it says the same as before. -/
structure Activated (old : Option WalletPolicyApplicationState) (desired : Option FirstPartyApplication)
    (app : WalletPolicyApplicationState) : Prop where
  enabled : app.enabled = desired.isSome
  callbacks : app.walletCallbacks = desired.elim [] (·.walletCallbacks)
  rises : ∀ before, old = some before → before.generation ≤ app.generation
  steady : ∀ before, old = some before → app.generation = before.generation →
    app.enabled = before.enabled ∧ app.walletCallbacks = before.walletCallbacks

theorem activatedApp_ok {old : Option WalletPolicyApplicationState} {desired : Option FirstPartyApplication}
    (known : old.isSome = true ∨ desired.isSome = true) (ran : activatedApp origin old desired = .ok app) :
    Activated old desired app := by
  cases old with
  | none =>
    cases ran
    refine ⟨?_, rfl, nofun, nofun⟩
    simpa using known.symm
  | some before =>
    unfold activatedApp at ran
    dsimp only at ran
    split at ran
    · rename_i same
      cases ran
      refine ⟨same.1, same.2, ?_, ?_⟩ <;> rintro _ ⟨⟩
      · exact le_rfl
      · exact fun _ => ⟨rfl, rfl⟩
    · split at ran
      · cases ran
      · cases ran
        refine ⟨rfl, rfl, ?_, ?_⟩ <;> rintro _ ⟨⟩
        · exact Nat.le_succ _
        · exact fun impossible => absurd impossible (Nat.succ_ne_self _)

theorem activateApps_ok {items : List String} (distinct : items.Nodup)
    (ran : items.foldlM (activateApp configuration) apps = .ok next) :
    (∀ origin ∈ items, ∃ app, activatedApp origin (apps.get origin) (configuration.application origin) = .ok app ∧
      next.get origin = some app) ∧ ∀ origin ∉ items, next.get origin = apps.get origin := by
  induction items generalizing apps with
  | nil =>
    cases ran
    exact ⟨by simp, fun _ _ => rfl⟩
  | cons first rest ih =>
    rw [List.foldlM_cons] at ran
    obtain ⟨middle, activated, ran⟩ := ok_bind ran
    obtain ⟨app, computed, set⟩ := ok_bind activated
    cases set
    obtain ⟨absent, distinct⟩ := List.nodup_cons.mp distinct
    obtain ⟨every, others⟩ := ih distinct ran
    refine ⟨?_, ?_⟩
    · intro origin member
      obtain rfl | member := List.mem_cons.mp member
      · refine ⟨app, computed, ?_⟩
        rw [others origin absent, OrderedMap.get_set_self]
      · have differ : origin ≠ first := fun same => absent (same ▸ member)
        obtain ⟨other, activated, held⟩ := every origin member
        rw [OrderedMap.get_set_ne _ _ differ] at activated
        exact ⟨other, activated, held⟩
    · intro origin outside
      rw [List.mem_cons, not_or] at outside
      obtain ⟨differ, outside⟩ := outside
      rw [others origin outside, OrderedMap.get_set_ne _ _ differ]

theorem mem_origins : origin ∈ origins apps configuration ↔
    (apps.get origin).isSome = true ∨ (configuration.application origin).isSome = true := by
  rw [origins, (List.mergeSort_perm _ _).mem_iff, List.mem_dedup, List.mem_append]
  refine or_congr ?_ ?_
  · rw [List.mem_map, Option.isSome_iff_exists]
    constructor
    · rintro ⟨⟨key, app⟩, member, rfl⟩
      exact ⟨app, OrderedMap.get_of_mem member⟩
    · rintro ⟨app, held⟩
      exact ⟨(origin, app), OrderedMap.mem_of_get held, rfl⟩
  · rw [WalletPolicyConfiguration.application, List.find?_isSome]
    simp

theorem origins_nodup : (origins apps configuration).Nodup :=
  (List.mergeSort_perm _ _).nodup_iff.mpr (List.nodup_dedup _)

structure Activation where
  request : WalletPolicyActivation
  nowMs : Int

def revisionOf (state : PolicyState η) : Nat := state.policy.elim 0 (·.revision)

def admittedCallbacks (state : PolicyState η) (origin : String) : Option (List String) :=
  ((state.apps.get origin).filter (·.enabled)).map (·.walletCallbacks)

def listedCallbacks (state : PolicyState η) (origin : String) : Option (List String) :=
  state.policy.bind (fun row => (row.configuration.application origin).map (·.walletCallbacks))

/-- What every policy keeps: its configuration is a valid one under its own hash, and the rows say
what it lists. -/
structure Policed (rules : PolicyRules η) (state : PolicyState η) : Prop where
  valid : ∀ row, state.policy = some row → validateWalletPolicyConfiguration rules row.configuration = .ok row.configuration
  hashed : ∀ row, state.policy = some row → row.configurationHash = rules.configurationHash row.configuration
  listed : ∀ origin, admittedCallbacks state origin = listedCallbacks state origin

variable {state after start first last : PolicyState η} {maxHistoricalApplications : Nat}

structure Repeats (rules : PolicyRules η) (request : WalletPolicyActivation) (configuration : WalletPolicyConfiguration)
    (state after : PolicyState η) : Prop where
  unchanged : after = state
  active : ∃ row, state.policy = some row ∧ (row.revision : Int) = request.nextRevision ∧
    row.configurationHash = rules.configurationHash configuration

structure Commits (rules : PolicyRules η) (request : WalletPolicyActivation) (configuration : WalletPolicyConfiguration)
    (state after : PolicyState η) : Prop where
  expected : (revisionOf state : Int) = request.expectedRevision
  active : ∃ row, after.policy = some row ∧ (row.revision : Int) = request.nextRevision ∧ row.configuration = configuration ∧
    row.configurationHash = rules.configurationHash configuration
  rows : ∀ origin, (∃ app, after.apps.get origin = some app ∧
    Activated (state.apps.get origin) (configuration.application origin) app) ∨
    state.apps.get origin = none ∧ configuration.application origin = none ∧ after.apps.get origin = none

theorem Activated.listed {old : Option WalletPolicyApplicationState} {desired : Option FirstPartyApplication}
    (activated : Activated old desired app) :
    ((some app).filter (·.enabled)).map (·.walletCallbacks) = desired.map (·.walletCallbacks) := by
  have enabled := activated.enabled
  have callbacks := activated.callbacks
  cases desired with
  | none => simp [Option.filter, enabled]
  | some entry => simpa [Option.filter, enabled] using callbacks

theorem Commits.policed {request : WalletPolicyActivation}
    (valid : validateWalletPolicyConfiguration rules configuration = .ok configuration)
    (commits : Commits rules request configuration state after) : Policed rules after := by
  obtain ⟨row, held, _, isConfiguration, hashed⟩ := commits.active
  refine ⟨?_, ?_, ?_⟩
  · intro other isOther
    cases held.symm.trans isOther
    rw [isConfiguration]
    exact valid
  · intro other isOther
    cases held.symm.trans isOther
    rw [isConfiguration]
    exact hashed
  · intro origin
    rw [admittedCallbacks, listedCallbacks, held, Option.bind_some, isConfiguration]
    obtain ⟨app, is, activated⟩ | ⟨_, unlisted, absent⟩ := commits.rows origin
    · rw [is]
      exact activated.listed
    · rw [absent, unlisted]
      rfl

/-- A row stays, its generation does not fall, and within a generation it says the same. -/
def Keeps (origin : String) (state after : PolicyState η) : Prop :=
  ∀ app, state.apps.get origin = some app → ∃ next, after.apps.get origin = some next ∧ app.generation ≤ next.generation ∧
    (next.generation = app.generation → next.enabled = app.enabled ∧ next.walletCallbacks = app.walletCallbacks)

theorem keeps_refl : Keeps origin state state := fun app held => ⟨app, held, le_rfl, fun _ => ⟨rfl, rfl⟩⟩

theorem Keeps.trans {middle : PolicyState η} (first : Keeps origin state middle) (second : Keeps origin middle after) :
    Keeps origin state after := by
  intro app held
  obtain ⟨between, heldBetween, rises, steady⟩ := first app held
  obtain ⟨next, heldNext, rises', steady'⟩ := second between heldBetween
  refine ⟨next, heldNext, rises.trans rises', ?_⟩
  intro same
  have still : between.generation = app.generation := by omega
  obtain ⟨enabled, callbacks⟩ := steady' (same.trans still.symm)
  exact ⟨enabled.trans (steady still).1, callbacks.trans (steady still).2⟩

abbrev PolicyAnswer (η : Type) := Answer Activation RestError (Option (WalletPolicySnapshot η))

/-- What an accepted activation knows of the policy: its revision was reached, and while it stands
its configuration is the active one. -/
structure Reached (rules : PolicyRules η) (request : WalletPolicyActivation) (state : PolicyState η) : Prop where
  successive : request.nextRevision = request.expectedRevision + 1
  revision : request.nextRevision ≤ revisionOf state
  active : request.nextRevision = revisionOf state → ∃ row, state.policy = some row ∧
    validateWalletPolicyConfiguration rules request.configuration = .ok row.configuration

/-- The accepted activations of a history that expected one revision asked for one configuration. -/
structure Agreed (rules : PolicyRules η) (history : List (PolicyAnswer η)) (state : PolicyState η) : Prop where
  reached : ∀ answer ∈ history, ∀ result, answer.result = .ok result → Reached rules answer.op.request state
  one : ∀ a ∈ history, ∀ b ∈ history, ∀ r s, a.result = .ok r → b.result = .ok s →
    a.op.request.expectedRevision = b.op.request.expectedRevision →
    validateWalletPolicyConfiguration rules a.op.request.configuration =
      validateWalletPolicyConfiguration rules b.op.request.configuration

theorem revisionOf_some {row : PolicyRow η} (held : state.policy = some row) : revisionOf state = row.revision := by
  rw [revisionOf, held]
  rfl

theorem Reached.one {a b : WalletPolicyActivation} (first : Reached rules a state) (second : Reached rules b state)
    (current : b.nextRevision = revisionOf state) (same : a.expectedRevision = b.expectedRevision) :
    validateWalletPolicyConfiguration rules a.configuration = validateWalletPolicyConfiguration rules b.configuration := by
  have currentToo : a.nextRevision = revisionOf state := by
    have := first.successive
    have := second.successive
    omega
  obtain ⟨row, held, validated⟩ := first.active currentToo
  obtain ⟨_, held', validated'⟩ := second.active current
  cases held.symm.trans held'
  exact validated.trans validated'.symm

theorem policed_start (unset : start.policy = none) : Policed rules start := by
  refine ⟨fun row held => ?_, fun row held => ?_, fun origin => ?_⟩
  · cases unset.symm.trans held
  · cases unset.symm.trans held
  · rw [admittedCallbacks, listedCallbacks, unset, OrderedMap.get, start.owned unset]
    rfl

variable [DecidableEq η]

def activation (rules : PolicyRules η) (maxHistoricalApplications : Nat) (op : Activation) :
    Fallible RestError (PolicyState η) (Option (WalletPolicySnapshot η)) :=
  transaction (activate rules maxHistoricalApplications op.request op.nowMs)

theorem readSnapshot_ok {prior : Option (WalletPolicySnapshot η)} (read : readSnapshot rules state = .ok prior) :
    prior.elim 0 (·.revision) = revisionOf state ∧
    ∀ snapshot, prior = some snapshot → ∃ row, state.policy = some row ∧ row.revision = snapshot.revision ∧
      row.configurationHash = snapshot.configurationHash := by
  unfold readSnapshot at read
  cases held : state.policy with
  | none =>
    rw [held] at read
    cases read
    exact ⟨by simp [revisionOf, held], nofun⟩
  | some row =>
    rw [held] at read
    obtain ⟨snapshot, taken, same⟩ := ok_bind
      (show (snapshotOf rules row _ >>= fun snapshot => .ok (some snapshot)) = _ from read)
    cases same
    iterate 4 obtain ⟨_, _, taken⟩ := ok_bind taken
    cases taken
    refine ⟨by simp [revisionOf, held], ?_⟩
    rintro _ ⟨⟩
    exact ⟨row, rfl, rfl, rfl⟩

theorem activate_ok {request : WalletPolicyActivation} {nowMs : Int} {result : Option (WalletPolicySnapshot η)}
    (ran : activate rules maxHistoricalApplications request nowMs state = .ok (result, after)) :
    request.nextRevision = request.expectedRevision + 1 ∧ ∃ configuration,
      validateWalletPolicyConfiguration rules request.configuration = .ok configuration ∧
      (Repeats rules request configuration state after ∨ Commits rules request configuration state after) := by
  obtain ⟨asked, ran⟩ := ok_refuse ran
  obtain ⟨configuration, validated, ran⟩ := ok_bind ran
  obtain ⟨hash, hashed, ran⟩ := ok_bind ran
  obtain ⟨_, ran⟩ := ok_refuse ran
  obtain ⟨prior, read, ran⟩ := ok_bind ran
  simp only [Bool.or_eq_false_iff, decide_eq_false_iff_not, not_not, Bool.not_eq_false', positive, Bool.and_eq_true,
    decide_eq_true_eq] at asked
  obtain ⟨⟨_, nextPositive⟩, successive⟩ := asked
  refine ⟨successive, configuration, validated, ?_⟩
  obtain ⟨revision, rowOf⟩ := readSnapshot_ok read
  have isHash := hash_ok (validate_ok validated).1 hashed
  dsimp only at ran
  split at ran
  · rename_i again
    cases ran
    obtain ⟨sameRevision, sameHash⟩ := again
    obtain ⟨snapshot, rfl, isSame⟩ := Option.any_eq_true _ _ |>.mp sameHash
    obtain ⟨row, held, rowRevision, rowHash⟩ := rowOf snapshot rfl
    refine Or.inl ⟨rfl, row, held, ?_, ?_⟩
    · rw [rowRevision]
      exact sameRevision
    · rw [rowHash, of_decide_eq_true isSame, isHash]
  · obtain ⟨expected, ran⟩ := ok_refuse ran
    obtain ⟨_, ran⟩ := ok_refuse ran
    obtain ⟨apps, looped, ran⟩ := ok_bind ran
    obtain ⟨_, _, ran⟩ := ok_bind ran
    cases ran
    rw [decide_eq_false_iff_not, not_not, revision] at expected
    obtain ⟨every, others⟩ := activateApps_ok origins_nodup looped
    refine Or.inr ⟨expected, ⟨_, rfl, Int.toNat_of_nonneg nextPositive.2.le, rfl, isHash⟩, ?_⟩
    intro origin
    by_cases member : origin ∈ origins state.apps configuration
    · obtain ⟨app, computed, held⟩ := every origin member
      exact Or.inl ⟨app, held, activatedApp_ok (mem_origins.mp member) computed⟩
    · have outside := member
      rw [mem_origins, not_or, Option.not_isSome_iff_eq_none, Option.not_isSome_iff_eq_none] at outside
      exact Or.inr ⟨outside.1, outside.2, (others origin member).trans outside.1⟩

abbrev PolicyRuns (rules : PolicyRules η) (maxHistoricalApplications : Nat) :=
  Run (Performs (activation rules maxHistoricalApplications))

theorem performs_cases {answer : PolicyAnswer η}
    (performed : Performs (activation rules maxHistoricalApplications) state answer after) :
    (∃ configuration, validateWalletPolicyConfiguration rules answer.op.request.configuration = .ok configuration ∧
      answer.op.request.nextRevision = answer.op.request.expectedRevision + 1 ∧
      (Repeats rules answer.op.request configuration state after ∨ Commits rules answer.op.request configuration state after)) ∨
    after = state ∧ ∀ result, answer.result ≠ .ok result := by
  let run (op : Activation) := activate rules maxHistoricalApplications op.request op.nowMs
  have performed : Performs (fun op => transaction (run op)) state answer after := performed
  obtain ⟨result, _, ran⟩ | ⟨same, error, refused, _⟩ := performed.transaction_cases
  · obtain ⟨successive, configuration, validated, outcome⟩ := activate_ok ran
    exact Or.inl ⟨configuration, validated, successive, outcome⟩
  · refine Or.inr ⟨same, ?_⟩
    intro result answered
    cases refused.symm.trans answered

theorem policed_step {answer : PolicyAnswer η} (policed : Policed rules state)
    (performed : Performs (activation rules maxHistoricalApplications) state answer after) : Policed rules after := by
  obtain ⟨configuration, validated, _, repeats | commits⟩ | ⟨rfl, _⟩ := performs_cases performed
  · rw [repeats.unchanged]
    exact policed
  · exact commits.policed (validate_ok validated).1
  · exact policed

theorem keeps_step {answer : PolicyAnswer η}
    (performed : Performs (activation rules maxHistoricalApplications) state answer after) :
    Keeps origin state after := by
  obtain ⟨configuration, _, _, repeats | commits⟩ | ⟨rfl, _⟩ := performs_cases performed
  · rw [repeats.unchanged]
    exact keeps_refl
  · intro app held
    obtain ⟨next, heldNext, activated⟩ | ⟨absent, _⟩ := commits.rows origin
    · exact ⟨next, heldNext, activated.rises app held, activated.steady app held⟩
    · cases absent.symm.trans held
  · exact keeps_refl

theorem agreed_step {history : List (PolicyAnswer η)} {answer : PolicyAnswer η}
    (distinct : ∀ c d, rules.configurationHash c = rules.configurationHash d → c = d) (policed : Policed rules state)
    (agreed : Agreed rules history state)
    (performed : Performs (activation rules maxHistoricalApplications) state answer after) :
    Agreed rules (history ++ [answer]) after := by
  obtain ⟨configuration, validated, successive, outcome⟩ | ⟨rfl, refused⟩ := performs_cases performed
  · -- The accepted activation reached the revision that is now the active one.
    have now : Reached rules answer.op.request after ∧ answer.op.request.nextRevision = revisionOf after := by
      obtain repeats | commits := outcome
      · obtain ⟨row, held, isRevision, isHash⟩ := repeats.active
        have same := distinct _ _ ((policed.hashed row held).symm.trans isHash)
        rw [← repeats.unchanged] at held
        have reached : answer.op.request.nextRevision = revisionOf after := by rw [revisionOf_some held, isRevision]
        exact ⟨⟨successive, reached.le, fun _ => ⟨row, held, same ▸ validated⟩⟩, reached⟩
      · obtain ⟨row, held, isRevision, isConfiguration, _⟩ := commits.active
        have reached : answer.op.request.nextRevision = revisionOf after := by rw [revisionOf_some held, isRevision]
        exact ⟨⟨successive, reached.le, fun _ => ⟨row, held, isConfiguration ▸ validated⟩⟩, reached⟩
    have before : ∀ other ∈ history, ∀ result, other.result = .ok result → Reached rules other.op.request after ∧
        (other.op.request.expectedRevision = answer.op.request.expectedRevision →
          validateWalletPolicyConfiguration rules other.op.request.configuration =
            validateWalletPolicyConfiguration rules answer.op.request.configuration) := by
      intro other member result accepted
      have reached := agreed.reached other member result accepted
      obtain repeats | commits := outcome
      · rw [repeats.unchanged] at now ⊢
        exact ⟨reached, reached.one now.1 now.2⟩
      · have past := reached.revision
        have moved := commits.expected
        have current := now.2
        refine ⟨⟨reached.successive, by omega, fun same => by omega⟩, ?_⟩
        have := reached.successive
        intro same
        omega
    refine ⟨?_, ?_⟩
    · intro other member result accepted
      obtain member | last := List.mem_append.mp member
      · exact (before other member result accepted).1
      · cases List.mem_singleton.mp last
        exact now.1
    · intro a memberA b memberB r s acceptedA acceptedB same
      obtain memberA | lastA := List.mem_append.mp memberA <;> obtain memberB | lastB := List.mem_append.mp memberB
      · exact agreed.one a memberA b memberB r s acceptedA acceptedB same
      · cases List.mem_singleton.mp lastB
        exact (before a memberA r acceptedA).2 same
      · cases List.mem_singleton.mp lastA
        exact ((before b memberB s acceptedB).2 same.symm).symm
      · cases List.mem_singleton.mp lastA
        cases List.mem_singleton.mp lastB
        rfl
  · have old : ∀ other ∈ history ++ [answer], ∀ result, other.result = .ok result → other ∈ history := by
      intro other member result accepted
      obtain member | last := List.mem_append.mp member
      · exact member
      · cases List.mem_singleton.mp last
        exact absurd accepted (refused result)
    exact ⟨fun other member result accepted => agreed.reached other (old other member result accepted) result accepted,
      fun a memberA b memberB r s acceptedA acceptedB =>
      agreed.one a (old a memberA r acceptedA) b (old b memberB s acceptedB) r s
        acceptedA acceptedB⟩

/-- A generation stands for what an application was admitted with, through every activation; the
rows say what the active configuration lists; and one configuration at most takes a revision. -/
theorem generation_determines_admission {η : Type} [DecidableEq η] {rules : PolicyRules η} {maxHistoricalApplications : Nat}
    {start first last : PolicyState η} {earlier later : List (PolicyAnswer η)}
    (distinct : ∀ c d, rules.configurationHash c = rules.configurationHash d → c = d) (unset : start.policy = none)
    (begun : PolicyRuns rules maxHistoricalApplications start earlier first)
    (ended : PolicyRuns rules maxHistoricalApplications first later last) :
    (∀ origin, Keeps origin first last) ∧ (∀ origin, admittedCallbacks last origin = listedCallbacks last origin) ∧
    ∀ a ∈ earlier ++ later, ∀ b ∈ earlier ++ later, ∀ r s, a.result = .ok r → b.result = .ok s →
      a.op.request.expectedRevision = b.op.request.expectedRevision →
      ∃ configuration, validateWalletPolicyConfiguration rules a.op.request.configuration = .ok configuration ∧
        validateWalletPolicyConfiguration rules b.op.request.configuration = .ok configuration := by
  have whole := begun.append ended
  have policed : ∀ {history state}, PolicyRuns rules maxHistoricalApplications start history state → Policed rules state :=
    fun run => run.state_invariant (policed_start unset) policed_step
  refine ⟨fun origin => ended.relates (R := Keeps origin) (fun _ => keeps_refl) Keeps.trans keeps_step,
    (policed whole).listed, ?_⟩
  have agreed : Agreed rules (earlier ++ later) last := by
    refine Run.invariant (P := Agreed rules) whole ⟨by simp, by simp⟩ ?_
    intro history state answer next past agreed taken
    exact agreed_step distinct (policed past) agreed taken
  intro a memberA b memberB r s acceptedA acceptedB same
  obtain ⟨_, _, state, _, _, next, performed⟩ := whole.before memberA
  obtain ⟨configuration, validated, _⟩ | ⟨_, refused⟩ := performs_cases performed
  · exact ⟨configuration, validated, (agreed.one a memberA b memberB r s acceptedA acceptedB same).symm.trans validated⟩
  · exact absurd acceptedA (refused r)

/-- An application that is listed, removed and listed again. -/
def sampleRules : PolicyRules WalletPolicyConfiguration where
  origin _ := true
  callback _ _ := true
  configurationHash := id
  canonicalOctets _ := 100
  encodedOctets _ := 100

def sampleUnset : PolicyState WalletPolicyConfiguration := ⟨none, .empty, fun _ => rfl⟩

def sampleActivation (revision : Int) (applications : List FirstPartyApplication) : Activation :=
  ⟨⟨revision, revision + 1, ⟨applications⟩⟩, 1000⟩

def sampleListing : FirstPartyApplication := ⟨"https://app", ["https://app/return"], none⟩

def sampleFirst : List (PolicyAnswer WalletPolicyConfiguration) × PolicyState WalletPolicyConfiguration :=
  performAll (activation sampleRules 512) sampleUnset [sampleActivation 0 [sampleListing]]

def sampleLater : List (PolicyAnswer WalletPolicyConfiguration) × PolicyState WalletPolicyConfiguration :=
  performAll (activation sampleRules 512) sampleFirst.2 [sampleActivation 1 [], sampleActivation 2 [sampleListing]]

theorem sample_generations : (sampleFirst.2.apps.get "https://app").map (·.generation) = some 1 ∧
    (sampleLater.2.apps.get "https://app").map (·.generation) = some 3 := by decide +kernel

theorem generation_determines_admission_sample : Keeps "https://app" sampleFirst.2 sampleLater.2 ∧
    (∀ origin, admittedCallbacks sampleLater.2 origin = listedCallbacks sampleLater.2 origin) ∧
    (sampleFirst.2.apps.get "https://app").map (·.generation) = some 1 ∧
    (sampleLater.2.apps.get "https://app").map (·.generation) = some 3 := by
  obtain ⟨keeps, listed, _⟩ := generation_determines_admission (fun _ _ => id) rfl (performAll_run _ sampleUnset)
    (performAll_run _ sampleFirst.2)
  exact ⟨keeps _, listed, sample_generations⟩

end JBCenter.Wallet.Policy
