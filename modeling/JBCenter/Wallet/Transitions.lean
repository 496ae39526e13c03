import JBCenter.Wallet.Authority

/-! What the reducer does, said once: the checks an admitted observation has passed, and the five
things it can make of the snapshot before it. -/
namespace JBCenter.Wallet
open Rest
open Deployments (Word Address RestBlockEvidence wellFormedBlock isReason maximumQuantity positiveTime)

structure Admitted (rules : Rules) (context : WalletAuthorityContext) (o : WalletAuthorityObservation) (nowMs : Int) :
    Prop where
  valid : contextShape rules context = true
  shape : observationShape o = true
  accountId : o.accountId = context.accountId
  expected : o.priorAnchor.expected = walletAuthorityExpectedAnchor context
  now : positiveTime nowMs = true
  observedAt : o.observedAtMs ≤ nowMs
  updated : ∀ prior, context.prior = some prior → prior.updatedAtMs ≤ nowMs
  timely : outlived o nowMs = false

/-- Both epochs advance together: when the chain moved, or the identity did. -/
def epochAfter (prior : WalletAuthoritySnapshot) (o : WalletAuthorityObservation) (epoch : Nat) : Nat :=
  if newFence prior o || changedIdentity prior o then epoch + 1 else epoch

def headed (prior : WalletAuthoritySnapshot) (o : WalletAuthorityObservation) (nowMs : Int) (head : RestBlockEvidence) :
    WalletAuthoritySnapshot :=
  { prior with
    revision := prior.revision + 1
    latestObservation := some o
    updatedAtMs := nowMs
    validUntilMs := none
    highestObservedBlock := some head.blockNumber
    authorityEpoch := epochAfter prior o prior.authorityEpoch
    sessionEpoch := epochAfter prior o prior.sessionEpoch
    identity := o.identity.or prior.identity }

/-- The fence that stands after an observation: a new one, or the one before with its anchor moved. -/
inductive Standing (rules : Rules) (prior : WalletAuthoritySnapshot) (o : WalletAuthorityObservation)
    (head : RestBlockEvidence) : WalletAuthorityFence → Prop where
  | opened {abandoned replacement : RestBlockEvidence} (opens : newFence prior o = true)
      (expected : o.priorAnchor.expected = some abandoned) (observed : o.priorAnchor.observed = some replacement) :
      Standing rules prior o head ⟨rules.observationDigest o, epochAfter prior o prior.authorityEpoch,
        epochAfter prior o prior.sessionEpoch, o.observedAtMs, abandoned, replacement, o.identity.map (fun _ => head)⟩
  | held {fence : WalletAuthorityFence} (old : newFence prior o = false) (stood : prior.activeFence = some fence) :
      Standing rules prior o head { fence with recoveryAnchor := movedAnchor prior o head fence }

/-- What an observation makes of a snapshot that was verified once. -/
inductive Observed (rules : Rules) (prior : WalletAuthoritySnapshot) (o : WalletAuthorityObservation) (nowMs : Int) :
    WalletAuthoritySnapshot → Prop where
  | unseen (unseen : o.head = none) : Observed rules prior o nowMs { prior with
      revision := prior.revision + 1
      latestObservation := some o
      updatedAtMs := nowMs
      validUntilMs := none
      readiness := if prior.activeFence.isSome then .fenced else .unknown }
  | settled {head : RestBlockEvidence} {identity : WalletAuthorityIdentity} (seen : o.head = some head)
      (rises : ∀ highest, prior.highestObservedBlock = some highest → highest ≤ head.blockNumber)
      (shown : o.identity = some identity) (old : newFence prior o = false) (unfenced : prior.activeFence = none) :
      Observed rules prior o nowMs (decided (headed prior o nowMs head) o head)
  | recovered {head anchor : RestBlockEvidence} {identity : WalletAuthorityIdentity} {fence : WalletAuthorityFence}
      (seen : o.head = some head)
      (rises : ∀ highest, prior.highestObservedBlock = some highest → highest ≤ head.blockNumber)
      (shown : o.identity = some identity) (stood : prior.activeFence = some fence)
      (anchored : fence.recoveryAnchor = some anchor) (same : o.priorAnchor.status = .same)
      (matched : o.eligibility = some .matched) (unchanged : prior.identity = some identity) :
      Observed rules prior o nowMs
        (decided { headed prior o nowMs head with lastClosedFence := some fence, activeFence := none } o head)
  | fenced {head : RestBlockEvidence} {fence : WalletAuthorityFence} (seen : o.head = some head)
      (rises : ∀ highest, prior.highestObservedBlock = some highest → highest ≤ head.blockNumber)
      (standing : Standing rules prior o head fence) :
      Observed rules prior o nowMs { headed prior o nowMs head with activeFence := some fence, readiness := .fenced }

/-- What an observation makes of no snapshot, of one that was never verified, and of any other. -/
inductive Reconciled (rules : Rules) (accountId : Address) (o : WalletAuthorityObservation) (nowMs : Int) :
    Option WalletAuthoritySnapshot → WalletAuthoritySnapshot → Prop where
  | bootstrapped {prior : Option WalletAuthoritySnapshot} {head : RestBlockEvidence} {identity : WalletAuthorityIdentity}
      (unready : ∀ before, prior = some before → before.bootstrapRequired = true) (seen : o.head = some head)
      (shown : o.identity = some identity) (matched : o.eligibility = some .matched)
      (first : o.priorAnchor.status = .none) :
      Reconciled rules accountId o nowMs prior {
        accountId
        revision := prior.elim 0 (·.revision) + 1
        authorityEpoch := prior.elim 0 (·.authorityEpoch) + 1
        sessionEpoch := prior.elim 0 (·.sessionEpoch) + 1
        bootstrapRequired := false
        readiness := .verified
        identity := some identity
        historicalVerifiedIdentity := some identity
        acceptedAnchor := some head
        highestObservedBlock := some head.blockNumber
        activeFence := none
        lastClosedFence := none
        latestObservation := some o
        validUntilMs := o.validUntilMs
        updatedAtMs := nowMs }
  | observed {prior next : WalletAuthoritySnapshot} (ready : prior.bootstrapRequired = false)
      (observed : Observed rules prior o nowMs next) : Reconciled rules accountId o nowMs (some prior) next

variable {rules : Rules} {context : WalletAuthorityContext} {prior next : WalletAuthoritySnapshot} {nowMs : Int}
  {o : WalletAuthorityObservation} {head : RestBlockEvidence} {value result : Nat} {error : RestError}

theorem advance_ok (advanced : advance value = .ok result) : result = value + 1 ∧ value < walletAuthorityMaximumEpoch := by
  obtain ⟨within, rest⟩ := ok_refuse advanced
  cases rest
  exact ⟨rfl, Nat.lt_of_succ_le (Nat.le_of_not_lt (of_decide_eq_false within))⟩

theorem advance_error (failed : advance value = .error error) : error = conflict := by
  unfold advance refuse at failed
  split at failed
  · cases failed
    rfl
  · cases failed

theorem advanceWhen_ok (advanced : advanceWhen (newFence prior o || changedIdentity prior o) value = .ok result) :
    result = epochAfter prior o value := by
  unfold advanceWhen at advanced
  unfold epochAfter
  split at advanced
  · rename_i advances
    rw [if_pos advances]
    exact (advance_ok advanced).1
  · rename_i stays
    cases advanced
    rw [if_neg stays]

theorem le_epochAfter : value ≤ epochAfter prior o value := by
  unfold epochAfter
  split <;> omega

theorem settled_ok (ran : settled prior o head = .ok next) :
    ∃ identity, o.identity = some identity ∧ next = decided prior o head := by
  obtain ⟨shown, rest⟩ := ok_refuse ran
  cases rest
  cases found : o.identity with
  | none => simp [found] at shown
  | some identity => exact ⟨identity, rfl, rfl⟩

theorem recovering_iff : recovering prior o = true ↔ newFence prior o = false ∧
    (∃ fence anchor, prior.activeFence = some fence ∧ fence.recoveryAnchor = some anchor) ∧
    o.priorAnchor.status = .same ∧ o.eligibility = some .matched ∧
    ∃ identity, o.identity = some identity ∧ prior.identity = some identity := by
  simp only [recovering, changedIdentity, Bool.and_eq_true, Bool.not_eq_true', decide_eq_true_eq, Option.isSome_iff_exists,
    Option.bind_eq_some_iff, Bool.and_eq_false_iff, decide_eq_false_iff_not, not_not]
  constructor
  · rintro ⟨⟨⟨⟨⟨old, anchor, fence, stood, anchored⟩, same⟩, identity, shown⟩, matched⟩, unchanged⟩
    obtain hidden | unchanged := unchanged
    · simp [shown] at hidden
    · exact ⟨old, ⟨fence, anchor, stood, anchored⟩, same, matched, identity, shown, unchanged.trans shown⟩
  · rintro ⟨old, ⟨fence, anchor, stood, anchored⟩, same, matched, identity, shown, unchanged⟩
    exact ⟨⟨⟨⟨⟨old, anchor, fence, stood, anchored⟩, same⟩, identity, shown⟩, matched⟩, Or.inr (unchanged.trans shown.symm)⟩

theorem movedAnchor_opened (opens : newFence prior o = true) (fence : WalletAuthorityFence)
    (fresh : fence.recoveryAnchor = o.identity.map (fun _ => head)) :
    movedAnchor prior o head fence = o.identity.map (fun _ => head) := by
  unfold movedAnchor
  rw [opens, fresh]
  cases o.identity <;> rfl

theorem observedHead_ok (seen : o.head = some head)
    (ran : observedHead rules prior { prior with
      revision := prior.revision + 1
      latestObservation := some o
      updatedAtMs := nowMs
      validUntilMs := none } o head = .ok next) : Observed rules prior o nowMs next := by
  obtain ⟨below, ran⟩ := ok_refuse ran
  have rises : ∀ highest, prior.highestObservedBlock = some highest → highest ≤ head.blockNumber := by
    intro highest isHighest
    rw [isHighest, Option.any_some, decide_eq_false_iff_not] at below
    exact Nat.le_of_not_lt below
  obtain ⟨authorityEpoch, advanced, ran⟩ := ok_bind ran
  cases advanceWhen_ok advanced
  obtain ⟨sessionEpoch, advanced, ran⟩ := ok_bind ran
  cases advanceWhen_ok advanced
  obtain ⟨standing, stands, ran⟩ := ok_bind ran
  unfold standingFence at stands
  split at stands
  · rename_i opens
    split at stands
    · rename_i abandoned replacement expected observed
      cases stands
      have unrecovered : recovering prior o = false := by
        rw [Bool.eq_false_iff, Ne, recovering_iff, opens]
        rintro ⟨impossible, _⟩
        cases impossible
      dsimp only at ran
      rw [unrecovered, movedAnchor_opened opens _ rfl] at ran
      cases ran
      exact .fenced seen rises (.opened opens expected observed)
    · cases stands
  · rename_i opens
    have old : newFence prior o = false := Bool.eq_false_iff.mpr opens
    have stood : prior.activeFence = standing := Except.ok.inj stands
    cases standing with
    | none =>
      obtain ⟨identity, shown, rfl⟩ := settled_ok ran
      exact .settled seen rises shown old stood
    | some fence =>
      dsimp only at ran
      split at ran
      · rename_i recovers
        obtain ⟨_, ⟨other, anchor, stood', anchored⟩, same, matched, identity, shown, unchanged⟩ := recovering_iff.mp recovers
        cases stood.symm.trans stood'
        obtain ⟨_, _, rfl⟩ := settled_ok ran
        exact .recovered seen rises shown stood anchored same matched unchanged
      · cases ran
        exact .fenced seen rises (.held old stood)

theorem observed_ok (ran : observed rules prior o nowMs = .ok next) : Observed rules prior o nowMs next := by
  obtain ⟨revision, advanced, ran⟩ := ok_bind ran
  obtain ⟨rfl, _⟩ := advance_ok advanced
  dsimp only at ran
  split at ran
  · rename_i unseen
    cases ran
    exact .unseen unseen
  · rename_i head seen
    exact observedHead_ok seen ran

theorem bootstrapped_ok {accountId : Address} {prior : Option WalletAuthoritySnapshot} (shape : observationShape o = true)
    (unready : ∀ before, prior = some before → before.bootstrapRequired = true)
    (ran : bootstrapped accountId prior o nowMs = .ok next) : Reconciled rules accountId o nowMs prior next := by
  obtain ⟨fits, ran⟩ := ok_refuse ran
  obtain ⟨revision, advanced, ran⟩ := ok_bind ran
  obtain ⟨rfl, _⟩ := advance_ok advanced
  obtain ⟨authorityEpoch, authority, ran⟩ := ok_bind ran
  obtain ⟨sessionEpoch, session, ran⟩ := ok_bind ran
  have authorityEpoch_eq : authorityEpoch = prior.elim 0 (·.authorityEpoch) + 1 := by
    cases prior with
    | none =>
      cases authority
      rfl
    | some before => exact (advance_ok authority).1
  have sessionEpoch_eq : sessionEpoch = prior.elim 0 (·.sessionEpoch) + 1 := by
    cases prior with
    | none =>
      cases session
      rfl
    | some before => exact (advance_ok session).1
  simp only [Bool.or_eq_false_iff, decide_eq_false_iff_not, not_not] at fits
  obtain ⟨⟨shown, matched⟩, first⟩ := fits
  obtain ⟨identity, shown⟩ := Option.isSome_iff_exists.mp (Option.isNone_eq_false_iff.mp shown)
  cases seen : o.head with
  | none => simp [observationShape, seen, shown] at shape
  | some head =>
    cases ran
    rw [shown, seen, authorityEpoch_eq, sessionEpoch_eq]
    exact .bootstrapped unready seen shown matched first

theorem candidate_ok (shape : observationShape o = true) (ran : candidate rules context o nowMs = .ok next) :
    Reconciled rules context.accountId o nowMs context.prior next := by
  unfold candidate at ran
  split at ran
  · rename_i unready
    refine bootstrapped_ok shape ?_ ran
    intro before isPrior
    rw [isPrior] at unready
    simpa [Option.filter] using unready
  · rename_i prior ready
    obtain ⟨isPrior, ready⟩ := Option.filter_eq_some_iff.mp ready
    rw [isPrior]
    exact .observed (by simpa using ready) (observed_ok ran)

theorem observation_ok {value : WalletAuthorityObservation}
    (ran : validateWalletAuthorityObservation rules value context = .ok o) : o = value ∧ observationShape o = true ∧
    o.accountId = context.accountId ∧ o.contextDigest = rules.contextDigest context ∧
    o.priorAnchor.expected = walletAuthorityExpectedAnchor context := by
  obtain ⟨_, ran⟩ := ok_refuse ran
  obtain ⟨shape, ran⟩ := ok_refuse ran
  obtain ⟨captured, ran⟩ := ok_refuse ran
  obtain ⟨_, _, ran⟩ := ok_bind ran
  cases ran
  simp only [Bool.or_eq_false_iff, decide_eq_false_iff_not, not_not] at captured
  obtain ⟨⟨accountId, digest⟩, expected⟩ := captured
  exact ⟨rfl, Bool.not_eq_false' .. ▸ shape, accountId, digest, expected⟩

/-- An accepted observation was admitted, and its result is well formed. -/
theorem reconcile_ok (ran : reconcileWalletAuthority rules context o nowMs = .ok next) :
    Admitted rules context o nowMs ∧ Reconciled rules context.accountId o nowMs context.prior next ∧
    snapshotShape next = true := by
  obtain ⟨valid, checked⟩ := ok_refuse ran
  obtain ⟨observation, validated, rest⟩ := ok_bind checked
  obtain ⟨rfl, shape, accountId, _, expected⟩ := observation_ok validated
  obtain ⟨now, ran⟩ := ok_refuse rest
  obtain ⟨ordered, ran⟩ := ok_refuse ran
  obtain ⟨timely, ran⟩ := ok_refuse ran
  obtain ⟨result, computed, ran⟩ := ok_bind ran
  obtain ⟨wellFormed, ran⟩ := ok_refuse ran
  cases ran
  rw [Bool.or_eq_false_iff, decide_eq_false_iff_not] at ordered
  refine ⟨⟨?_, shape, accountId, expected, ?_, Int.not_lt.mp ordered.1, ?_, timely⟩, candidate_ok shape computed, ?_⟩
  · simpa using valid
  · simpa using now
  · intro prior isPrior
    have both := ordered.2
    rw [isPrior, Option.any_some, Bool.or_eq_false_iff, decide_eq_false_iff_not] at both
    exact Int.not_lt.mp both.1
  · simpa using wellFormed

end JBCenter.Wallet
