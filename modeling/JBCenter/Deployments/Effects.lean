import JBCenter.Deployments.Methods

/-! What each method of the deployment store can do, said once. -/
namespace JBCenter.Deployments
open Rest

variable {rules : Rules} {s t : Store} {outcome : Outcome}

/-- The pool as any method reads it. -/
def Store.view (s : Store) : WalletDeploymentPool := { s.pool with reservedWei := s.reservedWei }

variable {accounting : WalletDeploymentAccounting} {operation : WalletDeploymentOperation}
variable {pool : WalletDeploymentPool} {template : WalletDeploymentTemplate} {enrollment : WalletEnrollment}

theorem poolRecord_ok {poolId : String} (read : s.poolRecord poolId = .ok pool) :
    pool = s.view ∧ poolId = s.pool.configuration.id ∧ ∀ accounting, s.pool.accounting = some accounting →
      assertWalletDeploymentAccounting accounting s.pool.configuration = .ok () := by
  unfold Store.poolRecord at read
  obtain ⟨named, read⟩ := ok_refuse read
  unfold poolOf at read
  iterate 2 obtain ⟨_, read⟩ := ok_refuse read
  obtain ⟨_, asserted, read⟩ := ok_bind read
  cases read
  refine ⟨rfl, by simpa using named, ?_⟩
  intro accounting held
  rw [held] at asserted
  exact asserted

theorem required_ok {id : String} (found : s.required id = .ok operation) :
    s.operations.get id = some operation := by
  unfold Store.required at found
  split at found
  · cases found
  · cases found
    assumption

theorem loadContext_ok {id : String}
    (loaded : loadContext rules s id enrollment = .ok (pool, operation)) :
    pool = s.view ∧ s.operations.get id = some operation ∧ s.poolRecord operation.poolId = .ok s.view := by
  obtain ⟨found, stored, loaded⟩ := ok_bind loaded
  obtain ⟨read, reading, loaded⟩ := ok_bind loaded
  obtain ⟨_, _, loaded⟩ := ok_bind loaded
  cases loaded
  obtain ⟨rfl, _⟩ := poolRecord_ok reading
  exact ⟨rfl, required_ok stored, reading⟩

theorem writeAccounting_ok {result : WalletDeploymentPool} {release : Bool}
    (wrote : writeAccounting s pool accounting release = .ok (result, t)) : t = s.putAccounting accounting release ∧
      assertWalletDeploymentAccounting accounting pool.configuration = .ok () := by
  obtain ⟨_, asserted, wrote⟩ := ok_bind wrote
  iterate 2 obtain ⟨_, _, wrote⟩ := ok_bind wrote
  cases wrote
  exact ⟨rfl, asserted⟩

theorem admissionTemplate_ok
    {admission : WalletDeploymentAdmission}
    (templated : admissionTemplate rules enrollment operation pool admission = .ok template) :
    template.nonce = admission.confirmedNonce ∧ 0 < template.gas * template.maxFeePerGas := by
  obtain ⟨_, templated⟩ := ok_refuse templated
  unfold prepareWalletDeploymentTemplate at templated
  obtain ⟨_, templated⟩ := ok_refuse templated
  obtain ⟨positive, templated⟩ := ok_refuse templated
  obtain ⟨_, templated⟩ := ok_refuse templated
  cases templated
  simp only [Bool.not_eq_false', Bool.and_eq_true, decide_eq_true_eq] at positive
  obtain ⟨⟨⟨⟨⟨_, gas⟩, _⟩, fee⟩, _⟩, _⟩ := positive
  exact ⟨rfl, Nat.mul_pos gas fee⟩

theorem signedDeployment_cost {approval : WalletDeploymentApproval}
    {rawTransaction : String} {policy : PoolPolicy} {validated : SignedDeployment}
    (valid : validateSignedWalletDeployment rules enrollment approval template rawTransaction policy = .ok validated) :
    validated.maximumExecutionCost = template.gas * template.maxFeePerGas := by
  iterate 2 obtain ⟨_, _, valid⟩ := ok_bind valid
  split at valid
  · cases valid
  · obtain ⟨same, valid⟩ := ok_refuse valid
    cases valid
    simp only [Bool.not_eq_false', Bool.and_eq_true, decide_eq_true_eq] at same
    obtain ⟨⟨⟨⟨⟨⟨_, gas⟩, fee⟩, _⟩, value⟩, _⟩, _⟩ := same
    simp only [gas, fee, value, Nat.zero_add]

theorem checkFunding_ok {request : ClaimRequest}
    {now : Int} (checked : checkFunding pool request template now = .ok ())
    (held : pool.accounting = some accounting) : request.admission.confirmedNonce = accounting.nextNonce ∧
      template.gas * template.maxFeePerGas ≤ walletDeploymentRemainingWei pool := by
  unfold checkFunding at checked
  rw [held] at checked
  split at checked
  · contradiction
  · contradiction
  · cases checked
  · rename_i same _
    cases same
    obtain ⟨_, _, checked⟩ := ok_bind checked
    have fits := refuse_ok.mp checked
    simp only [Bool.or_eq_false_iff, bne_eq_false_iff_eq, decide_eq_false_iff_not, not_lt, gt_iff_lt] at fits
    exact ⟨fits.1.1.1.2, fits.2⟩

theorem takeLane_ok {request : ClaimRequest} {current : WalletDeploymentOperation} {proof : String}
    (ran : takeLane request s s.view current proof template = .ok (outcome, t)) :
    outcome = .operation (claimedAs request current proof template) false ∧
      t = (s.putOperation (claimedAs request current proof template)).putLane current.id ∧
      s.pool.activeOperationId = none ∧ s.pool.accounting.bind (·.fence) = none ∧
      checkFunding s.view request template request.fundedAt = .ok () := by
  unfold takeLane at ran
  iterate 2 obtain ⟨_, ran⟩ := ok_refuse ran
  obtain ⟨open_, ran⟩ := ok_refuse ran
  iterate 2 obtain ⟨_, _, ran⟩ := ok_bind ran
  obtain ⟨_, funded, ran⟩ := ok_bind ran
  iterate 6 obtain ⟨_, _, ran⟩ := ok_bind ran
  cases ran
  simp only [Bool.or_eq_false_iff, Option.isSome_eq_false_iff, Option.isNone_iff_eq_none] at open_
  exact ⟨rfl, rfl, open_.1.2, open_.2, funded⟩

/-- Rows are stored under their own ids. -/
structure Keyed (s : Store) : Prop where
  operations : ∀ id operation, s.operations.get id = some operation → operation.id = id
  dispatches : ∀ id journal, s.dispatches.get id = some journal → journal.operationId = id

/-- The accounting of an unfenced pool. -/
structure Accounts (s : Store) (accounting : WalletDeploymentAccounting) : Prop where
  held : s.pool.accounting = some accounting
  unfenced : accounting.fence = none

structure InLane (s : Store) (operation : WalletDeploymentOperation) : Prop where
  stored : s.operations.get operation.id = some operation
  active : s.pool.activeOperationId = some operation.id

structure Settles (s : Store) (request : SettleRequest) (accounting : WalletDeploymentAccounting)
    (operation : WalletDeploymentOperation) (template : WalletDeploymentTemplate) : Prop extends Accounts s accounting where
  stored : s.operations.get operation.id = some operation
  context : request.context.operation = operation
  released : operation.releasedAt.isSome = true
  unsettled : operation.settlementId = none
  signed : operation.state = .signed
  templated : operation.template = some template
  lowest : template.nonce = accounting.initialNonce + accounting.sequence
  unrecorded : s.settlements.get operation.id = none
  /-- The evidence is of a finalized inclusion, with the receipt of a retained one. -/
  finalized : settledObservation request.evidence operation = true

structure Releases (s : Store) (request : ReleaseRequest) (accounting : WalletDeploymentAccounting)
    (operation : WalletDeploymentOperation)
    (template : WalletDeploymentTemplate) (signed : SignedDeployment) (observation : WalletDeploymentObservation) :
    Prop extends Accounts s accounting, InLane s operation where
  named : operation.id = request.operationId
  state : operation.state = .signed
  unreleased : operation.releasedAt = none
  unsettled : operation.settlementId = none
  templated : operation.template = some template
  bytes : operation.signed = some signed
  observed : operation.observation = some observation
  canonical : canonicalObservation observation = true
  next : template.nonce = accounting.nextNonce
  room : walletDeploymentReleasedCount accounting < maximumUnsettled

structure Claims (s : Store) (request : ClaimRequest) (operation : WalletDeploymentOperation)
    (template : WalletDeploymentTemplate) : Prop where
  named : operation.id = request.operationId
  stored : s.operations.get operation.id = some operation
  prepared : operation.state = .prepared
  free : s.pool.activeOperationId = none
  costs : 0 < template.gas * template.maxFeePerGas
  funded : ∀ accounting, s.pool.accounting = some accounting → accounting.fence = none ∧
    template.nonce = accounting.nextNonce ∧ template.gas * template.maxFeePerGas ≤ walletDeploymentRemainingWei s.view

structure LeasesSigning (s : Store) (request : LeaseSigningRequest) (operation : WalletDeploymentOperation) :
    Prop extends InLane s operation where
  named : operation.id = request.operationId
  claimed : operation.state = .claimed
  unfenced : s.pool.accounting.bind (·.fence) = none
  free : ∀ lease, operation.signingLease = some lease → lease.expires ≤ request.now
  lasts : 1 ≤ request.durationMs

structure Signs (s : Store) (request : PersistSignedRequest) (operation : WalletDeploymentOperation)
    (template : WalletDeploymentTemplate) (validated : SignedDeployment) : Prop extends InLane s operation where
  named : operation.id = request.operationId
  claimed : operation.state = .claimed
  unsigned : operation.signed = none
  unfenced : s.pool.accounting.bind (·.fence) = none
  templated : operation.template = some template
  cost : validated.maximumExecutionCost = template.gas * template.maxFeePerGas

structure Observes (s : Store) (request : SaveObservationRequest) (operation : WalletDeploymentOperation)
    (historical : Option WalletDeploymentObservation) (highestHead : Option Nat) : Prop where
  stored : s.operations.get operation.id = some operation
  named : operation.id = request.operationId
  signed : operation.state = .signed
  unsettled : operation.settlementId = none
  asserted : assertWalletDeploymentObservation request.observation = .ok ()
  advanced : advanceObservation operation request.observation = .ok (historical, highestHead)

structure LeasesDispatch (s : Store) (request : LeaseDispatchRequest) (operation : WalletDeploymentOperation)
    (template : WalletDeploymentTemplate) (leaseUntil : Int) : Prop extends InLane s operation where
  named : operation.id = request.operationId
  admitted : admissible request.admission s.view operation request.now = true
  committed : operation.templateCommitment = some template
  due : ∀ prior, s.dispatches.get operation.id = some prior →
    prior.nextAttemptAt ≤ request.now ∧ prior.attempts < maximumAttempts
  lasts : request.now < leaseUntil

structure SettlesDispatch (s : Store) (request : SettleDispatchRequest) (prior : WalletDeploymentDispatchJournal) : Prop where
  stored : s.dispatches.get request.operationId = some prior
  flying : prior.status = .inFlight

/-- The methods that set a fence, with what they answer then. -/
inductive Fences : Op → Outcome → Prop where
  | asked (request : FenceRequest) (pool : WalletDeploymentPool) : Fences (.fenceAccounting request) (.pool pool)
  | settling (request : SettleRequest) (pool : WalletDeploymentPool) : Fences (.settle request) (.settlement none pool false)
  | releasing (request : ReleaseRequest) {operation : WalletDeploymentOperation} (pool : WalletDeploymentPool)
      (unreleased : operation.releasedAt = none) : Fences (.release request) (.released operation pool false)

/-- The answer says that something was done now, not before. -/
def Outcome.fresh : Outcome → Bool
  | .operation _ replayed => !replayed
  | .released _ _ replayed => !replayed
  | .settlement _ _ replayed => !replayed
  | .signing _ lease => lease.isSome
  | .dispatch _ replayed => !replayed
  | .pool _ => false
  | .cleaned => false

/-- What a method can make of the store. -/
inductive Effect (s : Store) : Op → Outcome → Store → Prop where
  /-- Nothing is written: a replay, or a pool that is fenced already. -/
  | replayed {op : Op} {outcome : Outcome} (again : outcome.fresh = false) : Effect s op outcome s
  | initialized (request : InitializeRequest) (pool : WalletDeploymentPool) (unaccounted : s.pool.accounting = none)
      (free : s.pool.activeOperationId = none) :
      Effect s (.initializeAccounting request) (.pool pool) (s.putAccounting (initialAccounting request) false)
  | fenced {op : Op} {outcome : Outcome} {accounting : WalletDeploymentAccounting} {reason : FenceReason} {now : Int}
      (accounts : Accounts s accounting) (within : reason ≠ .allocationExceeded) (fences : Fences op outcome) :
      Effect s op outcome (s.putAccounting { accounting with fence := some ⟨reason, now⟩ } false)
  | settled {request : SettleRequest} {pool : WalletDeploymentPool} {accounting : WalletDeploymentAccounting}
      {operation : WalletDeploymentOperation} {template : WalletDeploymentTemplate}
      (settles : Settles s request accounting operation template) : Effect s (.settle request)
        (.settlement (some (settlementReceipt s.view accounting operation request.evidence template.nonce request.now))
          pool false)
        ((s.putSettlement operation
          (settlementReceipt s.view accounting operation request.evidence template.nonce request.now)).putAccounting
          (debited s.view accounting operation request.evidence request.now) false)
  | released {request : ReleaseRequest} {pool : WalletDeploymentPool} {accounting : WalletDeploymentAccounting}
      {operation : WalletDeploymentOperation} {template : WalletDeploymentTemplate} {signed : SignedDeployment}
      {observation : WalletDeploymentObservation}
      (releases : Releases s request accounting operation template signed observation) :
      Effect s (.release request) (.released (releasedAs request operation (admittedCost s operation signed)) pool false)
        ((s.putOperation (releasedAs request operation (admittedCost s operation signed))).putAccounting
          { accounting with nextNonce := template.nonce + 1 } true)
  | prepared {request : PrepareRequest} {createdAt : Int} (absent : s.operations.get request.approval.id = none) :
      Effect s (.prepare request) (.operation (preparedOperation s.view request.approval createdAt) false)
        ((s.sweep request.swept request.sweptAt).putOperation (preparedOperation s.view request.approval createdAt))
  | cleaned {request : CleanupRequest} : Effect s (.cleanup request) .cleaned (s.sweep request.swept request.now)
  | claimed {request : ClaimRequest} {operation : WalletDeploymentOperation}
      {template : WalletDeploymentTemplate} {proof : String}
      (claims : Claims s request operation template) : Effect s (.claim request)
        (.operation (claimedAs request operation proof template) false)
        ((s.putOperation (claimedAs request operation proof template)).putLane operation.id)
  | signing {request : LeaseSigningRequest} {operation : WalletDeploymentOperation} (leases : LeasesSigning s request operation) :
      Effect s (.leaseSigning request) (.signing (signingAs request operation) (some request.lease))
        (s.putOperation (signingAs request operation))
  | signed {request : PersistSignedRequest} {operation : WalletDeploymentOperation} {template : WalletDeploymentTemplate}
      {validated : SignedDeployment} (signs : Signs s request operation template validated) :
      Effect s (.persistSigned request) (.operation (signedAs operation validated) false)
        (s.putOperation (signedAs operation validated))
  | observed {request : SaveObservationRequest} {operation : WalletDeploymentOperation}
      {historical : Option WalletDeploymentObservation} {highestHead : Option Nat}
      (observes : Observes s request operation historical highestHead) : Effect s (.saveObservation request)
        (.operation (observedAs request operation historical highestHead) false)
        (s.putOperation (observedAs request operation historical highestHead))
  | dispatched {request : LeaseDispatchRequest} {operation : WalletDeploymentOperation} {template : WalletDeploymentTemplate}
      {leaseUntil : Int} (leases : LeasesDispatch s request operation template leaseUntil) :
      Effect s (.leaseDispatch request)
        (.dispatch (leasedJournal (s.dispatches.get operation.id) operation template request leaseUntil) false)
        (s.putDispatch (leasedJournal (s.dispatches.get operation.id) operation template request leaseUntil))
  | dispatchSettled {request : SettleDispatchRequest} {prior : WalletDeploymentDispatchJournal}
      (settles : SettlesDispatch s request prior) : Effect s (.settleDispatch request)
        (.dispatch (settledJournal request prior) false) (s.putDispatch (settledJournal request prior))

section Methods
variable (keyed : Keyed s)
include keyed

theorem release_effect {request : ReleaseRequest} (ran : release rules request s = .ok (outcome, t)) :
    Effect s (.release request) outcome t := by
  unfold release at ran
  obtain ⟨_, ran⟩ := ok_refuse ran
  obtain ⟨⟨pool, current⟩, loaded, ran⟩ := ok_bind ran
  obtain ⟨rfl, stored, _⟩ := loadContext_ok loaded
  have named := keyed.operations _ _ stored
  rw [← named] at stored
  dsimp only at ran
  split at ran
  · cases ran
    exact .replayed rfl
  · rename_i unreleased
    have unreleased : current.releasedAt = none := by simpa using unreleased
    split at ran
    · rename_i accounting template signed observation held templated bytes observed
      obtain ⟨fits, ran⟩ := ok_refuse ran
      obtain ⟨inclusion, ran⟩ := ok_refuse ran
      obtain ⟨_, ran⟩ := ok_refuse ran
      simp only [releasable, Bool.not_eq_false', Bool.and_eq_true, decide_eq_true_eq, Option.isNone_iff_eq_none] at fits
      obtain ⟨⟨⟨⟨⟨⟨_, state⟩, unsettled⟩, unfenced⟩, _⟩, active⟩, next⟩ := fits
      simp only [included, Bool.not_eq_false', Bool.and_eq_true] at inclusion
      split at ran
      · obtain ⟨⟨fenced, u⟩, wrote, ran⟩ := ok_bind ran
        cases ran
        obtain ⟨rfl, _⟩ := writeAccounting_ok wrote
        exact .fenced ⟨held, unfenced⟩ (by decide) (.releasing request _ unreleased)
      · obtain ⟨room, ran⟩ := ok_refuse ran
        obtain ⟨⟨released, u⟩, wrote, ran⟩ := ok_bind ran
        cases ran
        obtain ⟨rfl, _⟩ := writeAccounting_ok wrote
        refine .released ⟨⟨held, unfenced⟩, ⟨stored, active⟩, named, state, unreleased, unsettled, templated, bytes, observed,
          inclusion.1.1.1, next, ?_⟩
        simpa using room
    · cases ran

theorem settle_effect {request : SettleRequest} (ran : settle request s = .ok (outcome, t)) :
    Effect s (.settle request) outcome t := by
  unfold settle at ran
  obtain ⟨_, _, ran⟩ := ok_bind ran
  obtain ⟨pool, read, ran⟩ := ok_bind ran
  obtain ⟨rfl, _⟩ := poolRecord_ok read
  obtain ⟨operation, found, ran⟩ := ok_bind ran
  have stored := required_ok found
  rw [← keyed.operations _ _ stored] at stored
  split at ran
  · obtain ⟨_, ran⟩ := ok_refuse ran
    cases ran
    exact .replayed rfl
  · rename_i unrecorded
    obtain ⟨last, _, ran⟩ := ok_bind ran
    obtain ⟨same, ran⟩ := ok_refuse ran
    obtain ⟨_, asserted, ran⟩ := ok_bind ran
    obtain ⟨_, ran⟩ := ok_refuse ran
    split at ran
    · rename_i accounting template held templated
      have context : request.context.operation = operation := by
        rw [← bne_eq_false_iff_eq.mp same]
      obtain ⟨settling, observed, _⟩ := settlementEvidence_ok asserted
      obtain ⟨unfenced, lowest, released, unsettled, state⟩ := settles_ok settling held templated
      dsimp only at ran
      split at ran
      · rename_i reason conflicts
        obtain ⟨⟨fenced, u⟩, wrote, ran⟩ := ok_bind ran
        obtain ⟨_, _, ran⟩ := ok_bind ran
        cases ran
        obtain ⟨rfl, _⟩ := writeAccounting_ok wrote
        refine .fenced ⟨held, unfenced⟩ ?_ (.settling request _)
        obtain funding | ⟨_, nonces⟩ := Option.or_eq_some_iff.mp conflicts
        · exact fundingConflict_within funding
        · exact settlementNonceConflict_within nonces
      · obtain ⟨⟨result, u⟩, wrote, ran⟩ := ok_bind ran
        obtain ⟨_, _, ran⟩ := ok_bind ran
        cases ran
        obtain ⟨rfl, _⟩ := writeAccounting_ok wrote
        exact .settled ⟨⟨held, unfenced⟩, stored, context, released, unsettled, state, templated, lowest, unrecorded, observed⟩
    · cases ran

theorem persistSigned_effect {request : PersistSignedRequest} (ran : persistSigned rules request s = .ok (outcome, t)) :
    Effect s (.persistSigned request) outcome t := by
  unfold persistSigned at ran
  iterate 2 obtain ⟨_, ran⟩ := ok_refuse ran
  obtain ⟨before, found, ran⟩ := ok_bind ran
  obtain ⟨beforePool, _, ran⟩ := ok_bind ran
  split at ran
  · cases ran
  · rename_i template templated
    obtain ⟨_, ran⟩ := ok_refuse ran
    obtain ⟨validated, valid, ran⟩ := ok_bind ran
    obtain ⟨⟨pool, current⟩, loaded, ran⟩ := ok_bind ran
    obtain ⟨rfl, stored, _⟩ := loadContext_ok loaded
    cases Option.some.inj ((required_ok found).symm.trans stored)
    have named := keyed.operations _ _ stored
    rw [← named] at stored
    obtain ⟨open_, ran⟩ := ok_refuse ran
    simp only [Bool.or_eq_false_iff, bne_eq_false_iff_eq, Option.isSome_eq_false_iff, Option.isNone_iff_eq_none] at open_
    obtain ⟨⟨unfenced, active⟩, _⟩ := open_
    split at ran
    · obtain ⟨_, ran⟩ := ok_refuse ran
      cases ran
      exact .replayed rfl
    · rename_i unsigned
      obtain ⟨_, ran⟩ := ok_refuse ran
      obtain ⟨leased, ran⟩ := ok_refuse ran
      obtain ⟨_, ran⟩ := ok_refuse ran
      cases ran
      simp only [Bool.not_eq_false', Bool.and_eq_true, decide_eq_true_eq] at leased
      exact .signed ⟨⟨stored, active⟩, named, leased.1.1, unsigned, unfenced, templated, signedDeployment_cost valid⟩

theorem leaseSigning_effect {request : LeaseSigningRequest} (ran : leaseSigning rules request s = .ok (outcome, t)) :
    Effect s (.leaseSigning request) outcome t := by
  unfold leaseSigning at ran
  obtain ⟨lasts, ran⟩ := ok_refuse ran
  obtain ⟨⟨pool, current⟩, loaded, ran⟩ := ok_bind ran
  obtain ⟨rfl, stored, _⟩ := loadContext_ok loaded
  have named := keyed.operations _ _ stored
  rw [← named] at stored
  obtain ⟨claimed, ran⟩ := ok_refuse ran
  simp only [Bool.or_eq_false_iff, bne_eq_false_iff_eq, decide_eq_false_iff_not] at claimed
  obtain ⟨unprepared, active⟩ := claimed
  split at ran
  · cases ran
    exact .replayed rfl
  · rename_i unsigned
    obtain ⟨open_, ran⟩ := ok_refuse ran
    obtain ⟨free, ran⟩ := ok_refuse ran
    cases ran
    have state : current.state = .claimed := by
      cases held : current.state with
      | prepared => exact absurd held unprepared
      | claimed => rfl
      | signed => exact absurd held unsigned
    simp only [Bool.or_eq_false_iff, Option.isSome_eq_false_iff, Option.isNone_iff_eq_none] at open_
    simp only [Bool.not_eq_false', Bool.and_eq_true, decide_eq_true_eq] at lasts
    refine .signing ⟨⟨stored, active⟩, named, state, open_.2, ?_, lasts.1.2⟩
    intro lease held
    simpa [held] using free

theorem saveObservation_effect {request : SaveObservationRequest} (ran : saveObservation rules request s = .ok (outcome, t)) :
    Effect s (.saveObservation request) outcome t := by
  unfold saveObservation at ran
  obtain ⟨_, ran⟩ := ok_refuse ran
  obtain ⟨_, asserted, ran⟩ := ok_bind ran
  obtain ⟨_, ran⟩ := ok_refuse ran
  obtain ⟨before, _, ran⟩ := ok_bind ran
  obtain ⟨_, ran⟩ := ok_refuse ran
  obtain ⟨⟨pool, current⟩, loaded, ran⟩ := ok_bind ran
  obtain ⟨rfl, stored, _⟩ := loadContext_ok loaded
  have named := keyed.operations _ _ stored
  rw [← named] at stored
  obtain ⟨fits, ran⟩ := ok_refuse ran
  simp only [observable, Bool.not_eq_false', Bool.and_eq_true, decide_eq_true_eq, Option.isNone_iff_eq_none] at fits
  obtain ⟨⟨⟨⟨⟨⟨⟨state, _⟩, unsettled⟩, _⟩, _⟩, _⟩, _⟩, _⟩ := fits
  split at ran
  · cases ran
    exact .replayed rfl
  · iterate 2 obtain ⟨_, ran⟩ := ok_refuse ran
    obtain ⟨⟨historical, highestHead⟩, advanced, ran⟩ := ok_bind ran
    cases ran
    exact .observed ⟨stored, named, state, unsettled, asserted, advanced⟩

theorem leaseDispatch_effect {request : LeaseDispatchRequest} (ran : leaseDispatch rules request s = .ok (outcome, t)) :
    Effect s (.leaseDispatch request) outcome t := by
  unfold leaseDispatch at ran
  obtain ⟨bounds, ran⟩ := ok_refuse ran
  simp only [Bool.not_eq_false', Bool.and_eq_true, decide_eq_true_eq] at bounds
  obtain ⟨⟨_, least⟩, _⟩ := bounds
  obtain ⟨⟨pool, operation⟩, loaded, ran⟩ := ok_bind ran
  obtain ⟨rfl, stored, _⟩ := loadContext_ok loaded
  have named := keyed.operations _ _ stored
  rw [← named] at stored
  obtain ⟨_, ran⟩ := ok_refuse ran
  obtain ⟨_, admitted, ran⟩ := ok_bind ran
  have admitted : admissible request.admission s.view operation request.now = true := by simpa using refuse_ok.mp admitted
  obtain ⟨due, ran⟩ := ok_refuse ran
  iterate 2 obtain ⟨_, _, ran⟩ := ok_bind ran
  split at ran
  · cases ran
  · rename_i template committed
    cases ran
    refine .dispatched ⟨⟨stored, (admissible_active admitted).2.1⟩, named, admitted, committed, ?_, ?_⟩
    · intro prior journaled
      simpa [journaled] using due
    · have unexpired := admissible_unexpired admitted
      omega

theorem settleDispatch_effect {request : SettleDispatchRequest} (ran : settleDispatch rules request s = .ok (outcome, t)) :
    Effect s (.settleDispatch request) outcome t := by
  unfold settleDispatch at ran
  obtain ⟨_, ran⟩ := ok_refuse ran
  obtain ⟨⟨pool, operation⟩, loaded, ran⟩ := ok_bind ran
  obtain ⟨rfl, stored, _⟩ := loadContext_ok loaded
  have named := keyed.operations _ _ stored
  obtain ⟨_, ran⟩ := ok_refuse ran
  split at ran
  · cases ran
  · rename_i prior journaled
    obtain ⟨_, ran⟩ := ok_refuse ran
    split at ran
    · obtain ⟨_, ran⟩ := ok_refuse ran
      cases ran
      exact .replayed rfl
    · rename_i flying
      iterate 2 obtain ⟨_, ran⟩ := ok_refuse ran
      cases ran
      rw [named] at journaled
      exact .dispatchSettled ⟨journaled, by simpa using flying⟩

theorem claim_effect {request : ClaimRequest} (ran : claim rules request s = .ok (outcome, t)) :
    Effect s (.claim request) outcome t := by
  unfold claim at ran
  obtain ⟨_, _, ran⟩ := ok_bind ran
  obtain ⟨before, found, ran⟩ := ok_bind ran
  obtain ⟨beforePool, _, ran⟩ := ok_bind ran
  obtain ⟨proof, _, ran⟩ := ok_bind ran
  split at ran
  · obtain ⟨⟨pool, current⟩, _, ran⟩ := ok_bind ran
    unfold replayClaim at ran
    iterate 2 obtain ⟨_, _, ran⟩ := ok_bind ran
    cases ran
    exact .replayed rfl
  · rename_i prepared
    obtain ⟨template, templated, ran⟩ := ok_bind ran
    obtain ⟨⟨pool, current⟩, loaded, ran⟩ := ok_bind ran
    obtain ⟨rfl, stored, _⟩ := loadContext_ok loaded
    cases Option.some.inj ((required_ok found).symm.trans stored)
    have named := keyed.operations _ _ stored
    rw [← named] at stored
    obtain ⟨rfl, rfl, free, unfenced, funded⟩ := takeLane_ok ran
    obtain ⟨nonce, costs⟩ := admissionTemplate_ok templated
    refine .claimed ⟨named, stored, by simpa using prepared, free, costs, ?_⟩
    intro accounting held
    obtain ⟨next, affordable⟩ := checkFunding_ok funded held
    refine ⟨?_, nonce.trans next, affordable⟩
    rwa [show s.pool.accounting = _ from held] at unfenced

end Methods

theorem initializeAccounting_effect {request : InitializeRequest} (ran : initializeAccounting request s = .ok (outcome, t)) :
    Effect s (.initializeAccounting request) outcome t := by
  unfold initializeAccounting at ran
  obtain ⟨_, ran⟩ := ok_refuse ran
  obtain ⟨pool, read, ran⟩ := ok_bind ran
  obtain ⟨rfl, _⟩ := poolRecord_ok read
  obtain ⟨fresh, ran⟩ := ok_refuse ran
  iterate 2 obtain ⟨_, _, ran⟩ := ok_bind ran
  obtain ⟨⟨result, u⟩, wrote, ran⟩ := ok_bind ran
  obtain ⟨_, _, ran⟩ := ok_bind ran
  cases ran
  obtain ⟨rfl, _⟩ := writeAccounting_ok wrote
  simp only [Bool.or_eq_false_iff, Option.isSome_eq_false_iff, Option.isNone_iff_eq_none] at fresh
  obtain ⟨⟨⟨⟨_, unaccounted⟩, free⟩, _⟩, _⟩ := fresh
  exact .initialized request _ unaccounted free

theorem fenceReason_within {request : FenceRequest}
    {reason : FenceReason} (found : fenceReason s pool accounting request = .ok reason) : reason ≠ .allocationExceeded := by
  unfold fenceReason at found
  split at found
  · iterate 2 obtain ⟨_, _, found⟩ := ok_bind found
    cases found
    decide
  · cases found
    decide
  · iterate 2 obtain ⟨_, _, found⟩ := ok_bind found
    dsimp only at found
    split at found
    · cases found
    · rename_i conflicts
      cases found
      split at conflicts
      · exact fundingConflict_within conflicts
      · exact fundingConflict_within conflicts

theorem fenceAccounting_effect {request : FenceRequest} (ran : fenceAccounting request s = .ok (outcome, t)) :
    Effect s (.fenceAccounting request) outcome t := by
  unfold fenceAccounting at ran
  obtain ⟨pool, read, ran⟩ := ok_bind ran
  obtain ⟨rfl, _⟩ := poolRecord_ok read
  obtain ⟨_, ran⟩ := ok_refuse ran
  split at ran
  · cases ran
  · rename_i accounting held
    split at ran
    · cases ran
      exact .replayed rfl
    · rename_i unfenced
      obtain ⟨reason, found, ran⟩ := ok_bind ran
      obtain ⟨⟨result, u⟩, wrote, ran⟩ := ok_bind ran
      obtain ⟨_, _, ran⟩ := ok_bind ran
      cases ran
      obtain ⟨rfl, _⟩ := writeAccounting_ok wrote
      exact .fenced ⟨held, by simpa using unfenced⟩ (fenceReason_within found) (.asked request _)

theorem prepare_effect {request : PrepareRequest} (ran : prepare rules request s = .ok (outcome, t)) :
    Effect s (.prepare request) outcome t := by
  unfold prepare at ran
  obtain ⟨_, ran⟩ := ok_refuse ran
  obtain ⟨pool, read, ran⟩ := ok_bind ran
  obtain ⟨rfl, _⟩ := poolRecord_ok read
  split at ran
  · iterate 2 obtain ⟨_, ran⟩ := ok_refuse ran
    cases ran
    exact .replayed rfl
  · rename_i absent
    obtain ⟨_, ran⟩ := ok_refuse ran
    obtain ⟨createdAt, _, ran⟩ := ok_bind ran
    obtain ⟨_, _, ran⟩ := ok_bind ran
    cases ran
    exact .prepared absent

theorem cleanup_effect {request : CleanupRequest} (ran : cleanup request s = .ok (outcome, t)) :
    Effect s (.cleanup request) outcome t := by
  obtain ⟨_, ran⟩ := ok_refuse ran
  cases ran
  exact .cleaned

theorem run_effect {op : Op} (keyed : Keyed s) (ran : run rules op s = .ok (outcome, t)) : Effect s op outcome t := by
  cases op with
  | initializeAccounting request => exact initializeAccounting_effect ran
  | fenceAccounting request => exact fenceAccounting_effect ran
  | settle request => exact settle_effect keyed ran
  | release request => exact release_effect keyed ran
  | prepare request => exact prepare_effect ran
  | cleanup request => exact cleanup_effect ran
  | claim request => exact claim_effect keyed ran
  | leaseSigning request => exact leaseSigning_effect keyed ran
  | persistSigned request => exact persistSigned_effect keyed ran
  | saveObservation request => exact saveObservation_effect keyed ran
  | leaseDispatch request => exact leaseDispatch_effect keyed ran
  | settleDispatch request => exact settleDispatch_effect keyed ran

/-- What a method can make of the row of an operation that was claimed. -/
inductive Rewrite (s : Store) (op : Op) (prior : WalletDeploymentOperation) : WalletDeploymentOperation → Prop where
  | same : Rewrite s op prior prior
  | signing {request : LeaseSigningRequest} (asked : op = .leaseSigning request) (leases : LeasesSigning s request prior) :
      Rewrite s op prior (signingAs request prior)
  | signed {request : PersistSignedRequest} {template : WalletDeploymentTemplate} {validated : SignedDeployment}
      (asked : op = .persistSigned request) (signs : Signs s request prior template validated) :
      Rewrite s op prior (signedAs prior validated)
  | observed {request : SaveObservationRequest} {historical : Option WalletDeploymentObservation} {highestHead : Option Nat}
      (asked : op = .saveObservation request) (observes : Observes s request prior historical highestHead) :
      Rewrite s op prior (observedAs request prior historical highestHead)
  | released {request : ReleaseRequest} {accounting : WalletDeploymentAccounting} {template : WalletDeploymentTemplate}
      {signed : SignedDeployment} {observation : WalletDeploymentObservation} (asked : op = .release request)
      (releases : Releases s request accounting prior template signed observation) :
      Rewrite s op prior (releasedAs request prior (admittedCost s prior signed))
  | settled {request : SettleRequest} {accounting : WalletDeploymentAccounting} {template : WalletDeploymentTemplate}
      (asked : op = .settle request) (settles : Settles s request accounting prior template) :
      Rewrite s op prior (settledAs prior)

theorem Rewrite.put {op : Op} {id : String} {prior other next : WalletDeploymentOperation}
    (stored : s.operations.get other.id = some other) (held : s.operations.get id = some prior)
    (rewrites : Rewrite s op other next) (same : next.id = other.id) :
    ∃ row, (s.putOperation next).operations.get id = some row ∧ Rewrite s op prior row := by
  rw [Store.get_putOperation]
  split
  · rename_i this
    rw [this, same] at held
    cases Option.some.inj (stored.symm.trans held)
    exact ⟨next, rfl, rewrites⟩
  · exact ⟨prior, held, .same⟩

/-- A row that was claimed is never lost, and is written again in these ways only. -/
theorem Effect.rewrites {op : Op} {id : String} {prior : WalletDeploymentOperation} (effect : Effect s op outcome t)
    (held : s.operations.get id = some prior) (claimed : prior.state ≠ .prepared) :
    ∃ next, t.operations.get id = some next ∧ Rewrite s op prior next := by
  cases effect with
  | replayed => exact ⟨prior, held, .same⟩
  | initialized => exact ⟨prior, held, .same⟩
  | fenced => exact ⟨prior, held, .same⟩
  | settled settles => exact Rewrite.put settles.stored held (.settled rfl settles) rfl
  | released releases => exact Rewrite.put releases.stored held (.released rfl releases) rfl
  | @prepared request createdAt absent =>
    have differ : id ≠ request.approval.id := by
      rintro rfl
      exact nomatch absent.symm.trans held
    exact ⟨prior, (Store.get_putOperation ..).trans ((if_neg differ).trans (Store.sweep_kept held claimed)), .same⟩
  | cleaned => exact ⟨prior, Store.sweep_kept held claimed, .same⟩
  | @claimed request operation template proof claims =>
    have differ : id ≠ operation.id := by
      rintro rfl
      cases Option.some.inj (claims.stored.symm.trans held)
      exact claimed claims.prepared
    exact ⟨prior, (Store.get_putOperation ..).trans ((if_neg differ).trans held), .same⟩
  | signing leases => exact Rewrite.put leases.stored held (.signing rfl leases) rfl
  | signed signs => exact Rewrite.put signs.stored held (.signed rfl signs) rfl
  | observed observes => exact Rewrite.put observes.stored held (.observed rfl observes) rfl
  | dispatched => exact ⟨prior, held, .same⟩
  | dispatchSettled => exact ⟨prior, held, .same⟩

end JBCenter.Deployments
