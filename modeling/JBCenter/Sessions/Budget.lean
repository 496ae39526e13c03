import JBCenter.Sessions.Lifecycle

/-! A session's budget along every sequence of accepted operations on its record. While an
enabled observation is replaced by an enabled one the counters are compared, and a reset
poisons the record. An observation that shows the policy retired or expired is stored
without any comparison; what follows one is therefore excluded by hypothesis, and the run at
the end shows that it has to be. -/
namespace JBCenter.Sessions
open Rest
variable {encoding : Encoding} {record next : StoredSession}

/-- An active record rests on a stored observation of a live, enabled policy. -/
structure Live (record : StoredSession) : Prop where
  distinct : ∀ observation, record.observation = some observation →
    (observation.installed.counters.map counterKey).Nodup
  active : record.state = .active → record.revocation = none ∧ record.invalidation = none ∧
    ∃ observation, record.observation = some observation ∧
      terminal record.compiled observation.installed = false ∧ observation.installed.enabled = true

theorem Live.created (created : Created record) : Live record :=
  ⟨by simp [created.observation], by simp [created.state]⟩

theorem Live.step (live : Live record) (stepped : Step encoding record event next) : Live next := by
  obtain rfl | withdrawn | ⟨observation, _, observed⟩ := step_cases stepped
  · exact live
  · exact ⟨by rw [withdrawn.observation]; exact live.distinct,
      fun active => False.elim (withdrawn.unusable active)⟩
  · refine ⟨?_, ?_⟩
    · intro other stored
      cases observed.stored.symm.trans stored
      exact observed.distinct
    · intro active
      obtain ⟨revocation, invalidation, unended, enabled⟩ := observed.live active
      exact ⟨revocation, invalidation, observation, observed.stored, observed.compiled ▸ unended, enabled⟩

/-- An observation that keeps what the stored one shows: once it shows the policy retired or
expired, so does every later one. -/
def Keeps (record : StoredSession) (event : Event) : Prop :=
  ∀ stored observation, record.observation = some stored → event.observation = some observation →
    terminal record.compiled stored.installed = true → terminal record.compiled observation.installed = true

/-- A record that can only return to use by spending from the budget it once showed. -/
def Bound (start : InstalledSessionObservation) (record : StoredSession) : Prop :=
  record.revocation.isSome = true ∨ poisoned record = true ∨
    ∃ observation, record.observation = some observation ∧
      (terminal record.compiled observation.installed = true ∨
        (observation.installed.enabled = true ∧ Spends start observation.installed))

theorem Bound.step (bound : Bound start record) (stepped : Step encoding record event next)
    (keeps : Keeps record event) : Bound start next := by
  obtain rfl | withdrawn | ⟨observation, carried, observed⟩ := step_cases stepped
  · exact bound
  · rcases bound with revoked | poison | ⟨observation, held, shown⟩
    · exact Or.inl (withdrawn.revocation revoked)
    · exact Or.inr (Or.inl (withdrawn.poison poison))
    · exact Or.inr (Or.inr ⟨observation, by rw [withdrawn.observation, held], withdrawn.compiled ▸ shown⟩)
  · -- what the new observation shows decides, unless it is compared with the stored one
    rcases observed.fate with ended | revoked | poison | clean
    · exact Or.inr (Or.inr ⟨observation, observed.stored, Or.inl (observed.compiled ▸ ended)⟩)
    · exact Or.inl (by rw [observed.revocation]; exact revoked)
    · exact Or.inr (Or.inl poison)
    · rcases bound with revoked | poison | ⟨stored, held, ended | ⟨enabled, spends⟩⟩
      · exact Or.inl (by rw [observed.revocation]; exact revoked)
      · exact False.elim (observedReset_poisoned poison clean)
      · have ended := keeps stored observation held carried ended
        exact Or.inr (Or.inr ⟨observation, observed.stored, Or.inl (observed.compiled ▸ ended)⟩)
      · obtain ⟨still, spent⟩ := observedReset_none clean held enabled
        exact Or.inr (Or.inr ⟨observation, observed.stored, Or.inr ⟨still, spends.trans spent⟩⟩)

/-- The budget two records show: one configuration, the same counters with the same limits,
and no amount used given back. -/
def BudgetKept (earlier later : StoredSession) : Prop :=
  ∃ before after, earlier.observation = some before ∧ later.observation = some after ∧
    same before.installed.configurationHash after.installed.configurationHash = true ∧
    (∀ counter ∈ after.installed.counters, ∃ prior ∈ before.installed.counters,
      counterKey prior = counterKey counter ∧ prior.limit = counter.limit ∧
        decimalValue prior.used ≤ decimalValue counter.used) ∧
    ∀ prior ∈ before.installed.counters, ∃ counter ∈ after.installed.counters,
      counterKey prior = counterKey counter ∧ prior.limit = counter.limit ∧
        decimalValue prior.used ≤ decimalValue counter.used

/-- A step of a run in which no observation contradicts a stored retirement or expiry. -/
def KeepingStep (encoding : Encoding) (record : StoredSession) (event : Event) (next : StoredSession) : Prop :=
  Step encoding record event next ∧ Keeps record event

theorem session_budget_kept (created : Created start)
    (past : Run (KeepingStep encoding) start earlier record)
    (rest : Run (KeepingStep encoding) record later next)
    (first : record.state = .active) (second : next.state = .active) : BudgetKept record next := by
  have live : Live record := past.state_invariant (.created created) (fun live taken => live.step taken.1)
  have still : Live next := rest.state_invariant live (fun live taken => live.step taken.1)
  obtain ⟨_, _, before, held, _, enabled⟩ := live.active first
  have bound : Bound before.installed next :=
    rest.state_invariant (Or.inr (Or.inr ⟨before, held, Or.inr ⟨enabled, Spends.refl _⟩⟩))
      (fun bound taken => bound.step taken.1 taken.2)
  obtain ⟨unrevoked, valid, after, stored, unended, _⟩ := still.active second
  rcases bound with revoked | poison | ⟨observation, same, ended | ⟨_, spends⟩⟩
  · simp [unrevoked] at revoked
  · simp [poisoned, valid] at poison
  · cases same.symm.trans stored
    rw [unended] at ended
    contradiction
  · cases same.symm.trans stored
    exact ⟨before, after, held, stored, spends.configuration, spends.counters,
      spends.covers (still.distinct after stored) (live.distinct before held)⟩

theorem same_self (a : String) : same a a = true := by simp [same]

/-- When an observation is accepted, what is stored. -/
theorem applySessionObservation_accepted (actor : assertSessionActor record update.actor = .ok ())
    (number : revision update.expectedRevision = .ok ()) (current : record.revision = update.expectedRevision)
    (hash : record.observation.map SessionCanonicalObservation.proofHash = update.expectedObservationHash)
    (accepted : assertObservation encoding record update.observation now = .ok ())
    (unreleased : record.reservationsReleased = false) (room : ∀ record, encoding.record record ≤ maximumBytes)
    (room' : encoding.observation update.observation ≤ maximumBytes) :
    applySessionObservation encoding record update true now =
      .ok ({ observedRecord record update.observation true now with
        revision := (observedRecord record update.observation true now).revision + 1
        updatedAt := now }, true) := by
  unfold applySessionObservation
  rw [actor, number, accepted]
  simp [bind, Except.bind, current, hash, unreleased, refuse, cloneSession, Nat.not_lt.mpr (room _),
    Nat.not_lt.mpr room', discard, Functor.mapConst, Except.map, pure, Except.pure]

def sampleHash : String := "0x1111111111111111111111111111111111111111111111111111111111111111"
def sampleAddress : String := "0x1111111111111111111111111111111111111111"

theorem sample_texts : isHex 64 sampleHash = true ∧ isAddress sampleAddress = true ∧
    isUuid "11111111-1111-1111-8111-111111111111" = true ∧ assertSessionIdempotency ⟨"activate", "request"⟩ = .ok () := by
  decide +kernel

theorem sampleHash_isHex : isHex 64 sampleHash = true := sample_texts.1
theorem sampleAddress_isAddress : isAddress sampleAddress = true := sample_texts.2.1

def sampleEncoding : Encoding where
  record := fun _ => 0
  approval := fun _ => 0
  observation := fun _ => 0
  invalidation := fun _ => 0
  idempotency := fun _ => 0
  claim := fun _ => 0
  observationUpdate := fun _ => 0
  invalidationUpdate := fun _ => 0
  result := fun _ => 0
  fingerprint := fun _ _ _ => sampleHash
  compiledHash := fun _ => sampleHash
  policyHash := fun _ => sampleHash
  groupsHash := fun _ => sampleHash

def samplePolicy : ReviewedPolicy where
  ownerAccountId := "account"
  bindingId := sampleHash
  grantId := "grant"
  sessionKey := sampleAddress
  chainId := 1
  wallet := sampleAddress
  generation := "1"
  nonce := sampleHash
  validAfter := 0
  validUntil := 1000
  salt := sampleHash
  allocations := []

def sampleCompiled : CompiledSession where
  schemaVersion := 1
  stack := "legacy-f24dddf-safe7579-f22a194"
  ownerAccountId := "account"
  bindingId := sampleHash
  grantId := "grant"
  sessionKey := sampleAddress
  chainId := 1
  wallet := sampleAddress
  generation := "1"
  nonce := sampleHash
  validAfter := 0
  validUntil := 1000
  salt := sampleHash
  policyHash := sampleHash
  compiledHash := sampleHash
  permissionId := sampleHash
  manifestRevision := sampleHash
  activationEnableNonce := "0"
  reviewedPolicy := samplePolicy

def sampleActor : RestActor := ⟨"account", "owner:" ++ "account"⟩

def sampleApproval : SessionOwnerApproval where
  kind := .activation
  accountId := "account"
  sessionId := "session"
  policyHash := sampleHash
  compiledHash := sampleHash
  planId := "11111111-1111-1111-8111-111111111111"
  planCommitment := sampleHash
  digest := sampleHash
  issuedAt := 1
  expiresAt := 100

def sampleObservation (enabled : Bool) (enableNonce used blockNumber : String) : SessionCanonicalObservation where
  installed := {
    permissionId := sampleHash
    compiledHash := sampleHash
    account := sampleAddress
    chainId := 1
    enabled
    enableNonce
    configurationHash := sampleHash
    evidence := ⟨"onchain", 1, blockNumber, sampleHash, "1"⟩
    counters := [⟨sampleAddress, sampleHash, "spend", used, "9"⟩]
    administration := some ⟨"1", sampleHash, some ⟨"1", [sampleHash]⟩⟩ }
  observedAt := 1
  finalized := false
  proofHash := sampleHash

def sampleRecord (state : SessionState) (revision : Int) (activation : Option SessionOwnerApproval)
    (observation : Option SessionCanonicalObservation) : StoredSession where
  id := "session"
  actor := sampleActor
  compiled := sampleCompiled
  preparedEpoch := "0"
  preparedHash := sampleHash
  allocationGroups := []
  allocationManifestHash := sampleHash
  createdAt := 1000
  updatedAt := 1000
  revision
  state
  activation
  revocation := none
  supersededApprovals := []
  observation
  invalidation := none
  reservationsReleased := false

def sampleClaim : Event :=
  .claim ⟨sampleActor, "session", 0, sampleApproval, ⟨"activate", "request"⟩⟩ .activation 1000 false

def sampleObserve (revision : Int) (stored : Option SessionCanonicalObservation)
    (observation : SessionCanonicalObservation) : Event :=
  .observe ⟨sampleActor, "session", revision, stored.map SessionCanonicalObservation.proofHash, observation⟩ true 1000

theorem sample_assertObservation (hn : isUint256 nonce = true) (hu : isUint256 used = true)
    (hl : decimalValue used ≤ 9) (hb : isUint256 block = true)
    (fresh : ∀ o, stored = some o → blockConflicts (sampleObservation enabled nonce used block).installed.evidence
      o.installed.evidence = false) :
    assertObservation sampleEncoding (sampleRecord state number activation stored)
      (sampleObservation enabled nonce used block) 1000 = .ok () := by
  have nine : isUint256 "9" = true := by decide
  have one : isUint256 "1" = true := by decide
  have value : decimalValue "9" = 9 := by decide
  have short : utf16Length "spend" = 5 := by decide
  have later : (stored.any fun previous => blockConflicts ⟨"onchain", 1, block, sampleHash, "1"⟩
      previous.installed.evidence) = false := by
    cases stored with
    | none => rfl
    | some o => exact fresh o rfl
  unfold assertObservation
  simp [sampleRecord, sampleObservation, sampleCompiled, sampleEncoding, sampleHash_isHex,
    sampleAddress_isAddress, same_self, hn, hu, hb, one, nine, isTime, isSafeInteger, maxSafeInteger,
    assertAdministration, assertCounters, assertCounter, refuse, value, short, later]
  simp [bind, Except.bind, Nat.not_lt.mpr hl]

/-- A sampled observation is accepted, whatever the record showed before, at a later block. -/
theorem sample_observed (number : Int) (enabled : Bool) (nonce used block : String) (after : SessionState)
    (hr : revision number = .ok ()) (hn : isUint256 nonce = true) (hu : isUint256 used = true)
    (hl : decimalValue used ≤ 9) (hb : isUint256 block = true)
    (fresh : ∀ o, stored = some o → blockConflicts (sampleObservation enabled nonce used block).installed.evidence
      o.installed.evidence = false)
    (result : observedRecord (sampleRecord state number activation stored)
      (sampleObservation enabled nonce used block) true 1000 =
        sampleRecord after number activation (some (sampleObservation enabled nonce used block))) :
    Step sampleEncoding (sampleRecord state number activation stored)
      (sampleObserve number stored (sampleObservation enabled nonce used block))
      (sampleRecord after (number + 1) activation (some (sampleObservation enabled nonce used block))) := by
  refine ⟨true, ?_⟩
  change applySessionObservation sampleEncoding _ _ true 1000 = _
  rw [applySessionObservation_accepted]
  · simp only [result]
    rfl
  · simp [assertSessionActor, canReadSession, sampleRecord, sampleCompiled, sampleActor, refuse]
  · exact hr
  · rfl
  · rfl
  · exact sample_assertObservation hn hu hl hb fresh
  · rfl
  · exact fun _ => Nat.zero_le _
  · exact Nat.zero_le _

def sampleStart : StoredSession := sampleRecord .prepared 0 none none
def unspent : SessionCanonicalObservation := sampleObservation true "0" "0" "1"
def spent : SessionCanonicalObservation := sampleObservation true "0" "5" "2"
def withdrawn : SessionCanonicalObservation := sampleObservation false "1" "5" "3"
def refreshed : SessionCanonicalObservation := sampleObservation true "0" "0" "4"

theorem sample_claimed :
    Step sampleEncoding sampleStart sampleClaim (sampleRecord .installing 1 (some sampleApproval) none) := by
  obtain ⟨hash, _, uuid, idempotency⟩ := sample_texts
  have actor : assertSessionActor sampleStart sampleActor = .ok () := by
    simp [assertSessionActor, canReadSession, sampleStart, sampleRecord, sampleCompiled, sampleActor, refuse]
  refine ⟨true, ?_⟩
  change applySessionClaim sampleEncoding sampleStart _ .activation 1000 false = _
  refine bind_run actor (bind_run idempotency (bind_run rfl (bind_run (refuse_ok.mpr ?_) ?_)))
  · simp [sampleApproval, sampleStart, sampleRecord, sampleCompiled, same_self, hash, uuid]
  · rfl

/-- What a counter counted is no part of its key. -/
theorem counterKey_used (policy configId name limit used later : String) :
    counterKey ⟨policy, configId, name, used, limit⟩ = counterKey ⟨policy, configId, name, later, limit⟩ := by
  simp only [counterKey]

/-- The one counter of an observation is compared with the one of the same key. -/
theorem counterChanged_single {previous : InstalledSessionObservation} {policy configId name limit used : String}
    (only : previous.counters = [⟨policy, configId, name, used, limit⟩]) (later : String) :
    counterChanged previous ⟨policy, configId, name, later, limit⟩ = decide (decimalValue later < decimalValue used) := by
  have found : priorCounter previous ⟨policy, configId, name, later, limit⟩ = some ⟨policy, configId, name, used, limit⟩ := by
    unfold priorCounter
    rw [only]
    exact List.find?_cons_of_pos (decide_eq_true (counterKey_used ..))
  simp [counterChanged, found]

theorem sample_unspent : Step sampleEncoding (sampleRecord .installing 1 (some sampleApproval) none)
    (sampleObserve 1 none unspent) (sampleRecord .active 2 (some sampleApproval) (some unspent)) := by
  have zero : decimalValue "0" = 0 := by decide
  have one : decimalValue "1" = 1 := by decide
  refine sample_observed 1 true "0" "0" "1" .active (by decide) (by decide) (by decide) (by decide) (by decide) (by simp) ?_
  simp [observedRecord, sampleRecord, sampleObservation, sampleCompiled, retired, expired,
    awaitingNonceRevocation, observedState, observedReset, poisoned, initialAdministrationInvalid, same_self,
    zero, one]

theorem sample_spent : Step sampleEncoding (sampleRecord .active 2 (some sampleApproval) (some unspent))
    (sampleObserve 2 (some unspent) spent) (sampleRecord .active 3 (some sampleApproval) (some spent)) := by
  have zero : decimalValue "0" = 0 := by decide
  have one : decimalValue "1" = 1 := by decide
  have five : decimalValue "5" = 5 := by decide
  have counter : counterChanged unspent.installed ⟨sampleAddress, sampleHash, "spend", "5", "9"⟩ = false := by
    rw [counterChanged_single rfl, zero, five]
    rfl
  have unchanged : countersChanged unspent.installed spent.installed = false := by
    simp only [countersChanged, spent, sampleObservation, List.any_cons, counter]
    rfl
  have kept : observedReset (sampleRecord .active 2 (some sampleApproval) (some unspent)) spent.installed = none := by
    have administered : administrationIdentity unspent.installed = administrationIdentity spent.installed := rfl
    have configured : unspent.installed.configurationHash = spent.installed.configurationHash := rfl
    have initialized : initialAdministrationInvalid (sampleRecord .active 2 (some sampleApproval) (some unspent))
        spent.installed = false := by
      simp [initialAdministrationInvalid, sampleRecord, sampleCompiled, spent, sampleObservation, same_self, zero, one]
    have enabled : unspent.installed.enabled = true ∧ spent.installed.enabled = true := ⟨rfl, rfl⟩
    unfold observedReset
    rw [initialized]
    simp [sampleRecord, poisoned, Option.filter, unchanged, administered, configured, enabled, same_self]
  refine sample_observed 2 true "0" "5" "2" .active (by decide) (by decide) (by decide) (by decide) (by decide) ?_ ?_
  · rintro o ⟨⟩
    simp [unspent, sampleObservation, blockConflicts, decimalValue]
  · change observedRecord _ spent true 1000 = _
    simp only [observedRecord, kept]
    simp [spent, sampleRecord, sampleObservation, sampleCompiled, retired, expired, awaitingNonceRevocation,
      observedState, zero, one]

theorem sample_withdrawn : Step sampleEncoding (sampleRecord .active 3 (some sampleApproval) (some spent))
    (sampleObserve 3 (some spent) withdrawn) (sampleRecord .revoked 4 (some sampleApproval) (some withdrawn)) := by
  have zero : decimalValue "0" = 0 := by decide
  have one : decimalValue "1" = 1 := by decide
  refine sample_observed 3 false "1" "5" "3" .revoked (by decide) (by decide) (by decide) (by decide) (by decide) ?_ ?_
  · rintro o ⟨⟩
    simp [spent, sampleObservation, blockConflicts, decimalValue]
  · simp [observedRecord, sampleRecord, sampleObservation, sampleCompiled, retired, observedState, zero, one]

theorem sample_refreshed : Step sampleEncoding (sampleRecord .revoked 4 (some sampleApproval) (some withdrawn))
    (sampleObserve 4 (some withdrawn) refreshed) (sampleRecord .active 5 (some sampleApproval) (some refreshed)) := by
  have zero : decimalValue "0" = 0 := by decide
  have one : decimalValue "1" = 1 := by decide
  refine sample_observed 4 true "0" "0" "4" .active (by decide) (by decide) (by decide) (by decide) (by decide) ?_ ?_
  · rintro o ⟨⟩
    simp [withdrawn, sampleObservation, blockConflicts, decimalValue]
  · simp [withdrawn, observedRecord, sampleRecord, sampleObservation, sampleCompiled, retired, expired,
      awaitingNonceRevocation, observedState, observedReset, poisoned, initialAdministrationInvalid, same_self,
      zero, one, Option.filter]

theorem session_budget_kept_sample : BudgetKept (sampleRecord .active 2 (some sampleApproval) (some unspent))
    (sampleRecord .active 3 (some sampleApproval) (some spent)) := by
  have ended : ∀ {state number}, Keeps (sampleRecord state number (some sampleApproval) (some unspent))
      (sampleObserve number (some unspent) spent) := by
    rintro _ _ _ _ ⟨⟩ ⟨⟩ impossible
    simp [terminal, retired, expired, unspent, sampleObservation, sampleRecord, sampleCompiled, decimalValue]
      at impossible
  refine session_budget_kept (⟨rfl, rfl, rfl, rfl⟩ : Created sampleStart)
    ((Run.nil.snoc ⟨sample_claimed, ?_⟩).snoc ⟨sample_unspent, ?_⟩) (Run.nil.snoc ⟨sample_spent, ended⟩) rfl rfl
  · rintro _ _ ⟨⟩
  · rintro _ _ ⟨⟩

/-- The policy is used, observed as retired before finality, and observed enabled again at
its activation nonce: the record is active with its whole budget. -/
theorem session_budget_refreshed :
    Run (Step sampleEncoding) sampleStart [sampleClaim, sampleObserve 1 none unspent,
      sampleObserve 2 (some unspent) spent] (sampleRecord .active 3 (some sampleApproval) (some spent)) ∧
    Run (Step sampleEncoding) (sampleRecord .active 3 (some sampleApproval) (some spent))
      [sampleObserve 3 (some spent) withdrawn, sampleObserve 4 (some withdrawn) refreshed]
      (sampleRecord .active 5 (some sampleApproval) (some refreshed)) ∧
    ¬ BudgetKept (sampleRecord .active 3 (some sampleApproval) (some spent))
      (sampleRecord .active 5 (some sampleApproval) (some refreshed)) := by
  refine ⟨((Run.nil.snoc sample_claimed).snoc sample_unspent).snoc sample_spent,
    (Run.nil.snoc sample_withdrawn).snoc sample_refreshed, ?_⟩
  rintro ⟨before, after, ⟨⟩, ⟨⟩, _, counters, _⟩
  obtain ⟨prior, member, _, _, used⟩ := counters _ List.mem_cons_self
  cases List.mem_singleton.mp member
  revert used
  decide

end JBCenter.Sessions
