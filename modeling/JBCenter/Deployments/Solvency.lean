import JBCenter.Deployments.Treasury

/-! What the treasury has spent, what the queue reserves and what the active operation may cost stay
within the allocation, but for what settled fees took above their reservations. -/
namespace JBCenter.Deployments
open Rest
open WalletDeploymentOperation (queued)

variable {rules : Rules} {config : WalletDeploymentPoolConfiguration} {configuredAt : Int} {s t : Store} {op : Op}
  {outcome : Outcome} {lane : Lane String} {accounting : WalletDeploymentAccounting} {history : History}
  {operation prior : WalletDeploymentOperation} {id : String} {template : WalletDeploymentTemplate}

/-- What the active operation was admitted for when it was dispatched last. -/
def Store.admittedWei (s : Store) : Nat :=
  (s.pool.activeOperationId.bind s.dispatches.get).elim 0 (fun journal =>
    max journal.admission.maximumExecutionCost (journal.admission.reservation.elim 0 (·.totalWei)))

/-- How far the fees of a settlement went above what its operation had reserved. -/
def Store.overrun (s : Store) (receipt : WalletDeploymentSettlementReceipt) : Nat :=
  receipt.evidence.fees.totalWei - ((s.operations.get receipt.operationId).bind (·.reservedWei)).getD 0

def WalletDeploymentTemplate.cost (template : WalletDeploymentTemplate) : Nat := template.gas * template.maxFeePerGas

def Store.costOf (s : Store) (operation : WalletDeploymentOperation) : Nat :=
  max (operation.template.elim 0 (·.cost)) (((s.dispatches.get operation.id).bind (·.admission.reservation)).elim 0 (·.totalWei))

def Store.committedWei (s : Store) : Nat := (s.pool.activeOperationId.bind s.operations.get).elim 0 s.costOf

/-- The ceilings that were signed and admitted are those of the templates. -/
structure Priced (s : Store) : Prop where
  signed : ∀ id operation signed, s.operations.get id = some operation → operation.signed = some signed →
    operation.state = .signed ∧ ∃ template, operation.template = some template ∧ signed.maximumExecutionCost = template.cost
  dispatched : ∀ id journal, s.dispatches.get id = some journal → ∃ operation template, s.operations.get id = some operation ∧
    operation.state = .signed ∧ operation.template = some template ∧ journal.admission.maximumExecutionCost = template.cost

namespace Priced

theorem configured : Priced (Store.configured config configuredAt) := by
  constructor
  · intro id operation signed stored
    cases stored
  · intro id journal journaled
    cases journaled

theorem putOperation (priced : Priced s) (stored : s.operations.get operation.id = some prior)
    (kept : prior.state = .signed → operation.state = .signed ∧ operation.template = prior.template)
    (price : ∀ signed, operation.signed = some signed → operation.state = .signed ∧
      ∃ template, operation.template = some template ∧ signed.maximumExecutionCost = template.cost) :
    Priced (s.putOperation operation) := by
  constructor
  · intro id other signature held bytes
    rw [Store.get_putOperation] at held
    split at held
    · cases held
      exact price signature bytes
    · exact priced.signed id other signature held bytes
  · intro id journal journaled
    obtain ⟨other, same, held, signed, templated, cost⟩ := priced.dispatched id journal journaled
    rw [Store.get_putOperation]
    split
    · rename_i this
      subst this
      cases Option.some.inj (stored.symm.trans held)
      exact ⟨operation, same, rfl, (kept signed).1, (kept signed).2.trans templated, cost⟩
    · exact ⟨other, same, held, signed, templated, cost⟩

theorem rewritten (priced : Priced s) (stored : s.operations.get operation.id = some prior)
    (template : operation.template = prior.template) (signed : operation.signed = prior.signed)
    (state : operation.state = prior.state) : Priced (s.putOperation operation) := by
  refine priced.putOperation stored (fun isSigned => ⟨state.trans isSigned, template⟩) ?_
  intro signature bytes
  rw [state, template]
  exact priced.signed _ prior signature stored (signed.symm.trans bytes)

theorem sweep {swept : List String} {now : Int} (priced : Priced s) : Priced (s.sweep swept now) := by
  constructor
  · intro id operation signed left
    exact priced.signed id operation signed (Store.sweep_some left)
  · intro id journal journaled
    obtain ⟨operation, template, held, signed, rest⟩ := priced.dispatched id journal journaled
    exact ⟨operation, template, Store.sweep_kept held (by simp [signed]), signed, rest⟩

theorem putUnsigned (priced : Priced s) (absent : s.operations.get operation.id = none) (unsigned : operation.signed = none) :
    Priced (s.putOperation operation) := by
  constructor
  · intro id other signature held bytes
    rw [Store.get_putOperation] at held
    split at held
    · cases held
      cases unsigned.symm.trans bytes
    · exact priced.signed id other signature held bytes
  · intro id journal journaled
    obtain ⟨other, same, held, rest⟩ := priced.dispatched id journal journaled
    rw [Store.get_putOperation]
    split
    · rename_i this
      subst this
      cases absent.symm.trans held
    · exact ⟨other, same, held, rest⟩

theorem putDispatch {journal : WalletDeploymentDispatchJournal} (priced : Priced s)
    (stored : s.operations.get journal.operationId = some operation) (signed : operation.state = .signed)
    (templated : operation.template = some template) (cost : journal.admission.maximumExecutionCost = template.cost) :
    Priced (s.putDispatch journal) := by
  refine ⟨priced.signed, ?_⟩
  intro id other journaled
  rw [Store.get_putDispatch] at journaled
  split at journaled
  · rename_i this
    cases journaled
    subst this
    exact ⟨operation, template, stored, signed, templated, cost⟩
  · exact priced.dispatched id other journaled

theorem kept (priced : Priced s) (keyed : Keyed s) (effect : Effect s op outcome t) : Priced t := by
  cases effect with
  | replayed => exact priced
  | initialized => exact ⟨priced.signed, priced.dispatched⟩
  | fenced => exact ⟨priced.signed, priced.dispatched⟩
  | @settled request pool accounting operation template settles =>
    have put : Priced (s.putOperation (settledAs operation)) := priced.rewritten settles.stored rfl rfl rfl
    exact ⟨put.signed, put.dispatched⟩
  | @released request pool accounting operation template signed observation releases =>
    have put : Priced (s.putOperation (releasedAs request operation (admittedCost s operation signed))) :=
      priced.rewritten releases.stored
      rfl rfl rfl
    exact ⟨put.signed, put.dispatched⟩
  | prepared absent => exact priced.sweep.putUnsigned (Store.sweep_none absent) rfl
  | cleaned => exact priced.sweep
  | @claimed request operation template proof claims =>
    have put : Priced (s.putOperation (claimedAs request operation proof template)) := priced.putOperation claims.stored
      (fun signed => nomatch claims.prepared.symm.trans signed)
      (fun signed bytes => nomatch claims.prepared.symm.trans (priced.signed _ operation signed claims.stored bytes).1)
    exact ⟨put.signed, put.dispatched⟩
  | signing leases => exact priced.rewritten leases.stored rfl rfl rfl
  | @signed request operation template validated signs =>
    refine priced.putOperation signs.stored (fun _ => ⟨rfl, rfl⟩) ?_
    intro signed bytes
    cases bytes
    exact ⟨rfl, template, signs.templated, signs.cost⟩
  | observed observes => exact priced.rewritten observes.stored rfl rfl rfl
  | dispatched leases =>
    obtain ⟨signed, _, templated⟩ := admissible_active leases.admitted
    obtain ⟨template, templated⟩ := Option.isSome_iff_exists.mp templated
    exact priced.putDispatch leases.stored signed templated (admissible_affords leases.admitted templated).1
  | @dispatchSettled request prior settles =>
    obtain ⟨operation, template, stored, signed, templated, cost⟩ := priced.dispatched _ prior settles.stored
    rw [← keyed.dispatches _ _ settles.stored] at stored
    exact priced.putDispatch stored signed templated cost

end Priced
theorem committedWei_of_active (active : s.pool.activeOperationId = some id) (stored : s.operations.get id = some operation) :
    s.committedWei = s.costOf operation := by
  simp only [Store.committedWei, active, stored, Option.bind_some, Option.elim_some]

theorem committedWei_putLane (stored : s.operations.get id = some operation) :
    (s.putLane id).committedWei = s.costOf operation :=
  committedWei_of_active (s := s.putLane id) rfl stored

theorem overrun_of_stored (receipt : WalletDeploymentSettlementReceipt)
    (stored : s.operations.get receipt.operationId = some operation) :
    s.overrun receipt = receipt.evidence.fees.totalWei - operation.reservedWei.getD 0 := by
  simp only [Store.overrun, stored, Option.bind_some]

theorem remainingWei_view (held : s.pool.accounting = some accounting) : walletDeploymentRemainingWei s.view =
    s.pool.configuration.allocationWei - (accounting.spentWei + s.reservedWei) := by
  change s.pool.configuration.allocationWei - ((s.pool.accounting.map (·.spentWei)).getD 0 + s.reservedWei) = _
  rw [held]
  rfl

theorem Represents.active_stands (represents : Represents lane s) (active : s.pool.activeOperationId = some id) :
    ∃ operation, s.operations.get id = some operation ∧ operation.state ≠ .prepared ∧ operation.releasedAt = none ∧
      operation.settlementId = none := by
  have place := represents.active.symm.trans active
  obtain ⟨operation, stored, stands⟩ := represents.claimed _ id place
  refine ⟨operation, stored, stands.claimed, ?_, ?_⟩
  · have unreleased := (not_congr stands.released).mpr (lt_irrefl _)
    simpa using unreleased
  · have unsettled := (not_congr stands.settled).mpr (Nat.not_lt.mpr lane.ordered)
    simpa using unsettled

theorem Represents.settled_kept (represents : Represents lane s) (effect : Effect s op outcome t)
    (stored : s.operations.get id = some operation) (settled : operation.settlementId ≠ none) :
    t.operations.get id = some operation := by
  have past_lane (inLane : InLane s operation) : False := by
    obtain ⟨same, held, _, _, unsettled⟩ := represents.active_stands inLane.active
    cases Option.some.inj (inLane.stored.symm.trans held)
    exact settled unsettled
  have claimed : operation.state ≠ .prepared := fun prepared => settled (represents.prepared stored prepared).unsettled
  obtain ⟨next, held, rewrite⟩ := effect.rewrites stored claimed
  cases rewrite with
  | same => exact held
  | signing _ leases => exact (past_lane leases.toInLane).elim
  | signed _ signs => exact (past_lane signs.toInLane).elim
  | observed _ observes => exact absurd observes.unsettled settled
  | released _ releases => exact absurd releases.unsettled settled
  | settled _ settles => exact absurd settles.unsettled settled

theorem Represents.committedWei_eq (represents : Represents lane s)
    (active : t.pool.activeOperationId = s.pool.activeOperationId) (dispatches : t.dispatches = s.dispatches)
    (kept : ∀ id operation, s.operations.get id = some operation → operation.state ≠ .prepared →
      ∃ next, t.operations.get id = some next ∧ next.template = operation.template ∧ next.id = operation.id) :
    t.committedWei = s.committedWei := by
  unfold Store.committedWei
  rw [active]
  cases held : s.pool.activeOperationId with
  | none => rfl
  | some id =>
    obtain ⟨operation, stored, claimed, _⟩ := represents.active_stands held
    obtain ⟨next, stays, template, same⟩ := kept id operation stored claimed
    simp only [Option.bind_some, stored, stays, Option.elim_some, Store.costOf, template, same, dispatches]

theorem Represents.committedWei_put (represents : Represents lane s) (stored : s.operations.get operation.id = some prior)
    (template : operation.template = prior.template) (same : prior.id = operation.id) :
    (s.putOperation operation).committedWei = s.committedWei := by
  refine represents.committedWei_eq rfl rfl ?_
  intro id other held _
  rw [Store.get_putOperation]
  split
  · rename_i this
    subst this
    cases Option.some.inj (stored.symm.trans held)
    exact ⟨operation, rfl, template, same.symm⟩
  · exact ⟨other, held, rfl, rfl⟩

theorem Represents.reservedWei_free (represents : Represents lane s) (released : lane.released = 0) : s.reservedWei = 0 := by
  have queue := represents.queue
  refine s.operations.total_eq_zero ?_ (show s.releasedCount = 0 by omega)
  intro operation unqueued
  cases queued : operation.queued with
  | true => simp [queued] at unqueued
  | false => simp

/-- The bound, by how much settlements went above their reservations. -/
structure Solvent (overrun : Nat) (s : Store) : Prop where
  bound : ∀ accounting, s.pool.accounting = some accounting →
    accounting.spentWei + s.reservedWei + s.committedWei ≤ s.pool.configuration.allocationWei + overrun
  exceeded : ∀ accounting fence, s.pool.accounting = some accounting → accounting.fence = some fence →
    fence.reason = .allocationExceeded → s.pool.configuration.allocationWei < accounting.spentWei

namespace Solvent

variable {overrun : Nat}

theorem still (solvent : Solvent overrun s) (pool : t.pool = s.pool) (reserved : t.reservedWei = s.reservedWei)
    (committed : t.committedWei = s.committedWei) : Solvent overrun t := by
  constructor
  · rw [pool, reserved, committed]
    exact solvent.bound
  · rw [pool]
    exact solvent.exceeded

theorem rewritten (solvent : Solvent overrun s) (represents : Represents lane s)
    (stored : s.operations.get operation.id = some prior) (template : operation.template = prior.template)
    (same : prior.id = operation.id) (queued : operation.queued = prior.queued)
    (reservedWei : operation.reservedWei = prior.reservedWei) : Solvent overrun (s.putOperation operation) := by
  have reserved := Store.reservedWei_put operation stored
  rw [queued, reservedWei] at reserved
  exact solvent.still rfl (Nat.add_right_cancel reserved) (represents.committedWei_put stored template same)

theorem swept {swept : List String} {now : Int} (solvent : Solvent overrun s) (represents : Represents lane s) :
    Solvent overrun (s.sweep swept now) := by
  refine solvent.still rfl ?_ ?_
  · exact represents.total_sweep fun operation unqueued => by simp [unqueued]
  · refine represents.committedWei_eq rfl rfl ?_
    intro id operation stored unprepared
    exact ⟨operation, Store.sweep_kept stored unprepared, rfl, rfl⟩

theorem putUnclaimed (solvent : Solvent overrun s) (represents : Represents lane s)
    (absent : s.operations.get operation.id = none) (unclaimed : Unclaimed operation) :
    Solvent overrun (s.putOperation operation) := by
  refine solvent.still rfl ?_ ?_
  · have moved := s.operations.total_set (fun operation => if operation.queued then operation.reservedWei.getD 0 else 0)
      operation.id operation
    have unqueued : operation.queued = false := by simp [queued, unclaimed.unreleased]
    simp only [absent, unqueued, Option.elim_none, Bool.false_eq_true, if_false, Nat.add_zero] at moved
    exact moved
  · refine represents.committedWei_eq rfl rfl ?_
    intro id other stored _
    have differ : id ≠ operation.id := by
      rintro rfl
      cases absent.symm.trans stored
    exact ⟨other, (Store.get_putOperation ..).trans ((if_neg differ).trans stored), rfl, rfl⟩

theorem fenced {fence : WalletDeploymentAccountingFence} (solvent : Solvent overrun s)
    (held : s.pool.accounting = some accounting) (within : fence.reason ≠ .allocationExceeded) :
    Solvent overrun (s.putAccounting { accounting with fence := some fence } false) := by
  constructor
  · intro next isNext
    cases isNext
    exact solvent.bound accounting held
  · intro next other isNext isFence exceeded
    cases isNext
    cases isFence
    exact absurd exceeded within

theorem initialized {request : InitializeRequest} (represents : Represents lane s)
    (unaccounted : s.pool.accounting = none) (free : s.pool.activeOperationId = none) :
    Solvent overrun (s.putAccounting (initialAccounting request) false) := by
  have reserved := represents.reservedWei_free (represents.unaccounted unaccounted)
  constructor
  · intro accounting isNext
    cases isNext
    have uncommitted : s.committedWei = 0 := by simp [Store.committedWei, free]
    change 0 + s.reservedWei + s.committedWei ≤ _
    omega
  · intro accounting fence isNext isFence
    cases isNext
    cases isFence

theorem claimed {request : ClaimRequest} {proof : String} (solvent : Solvent overrun s) (priced : Priced s)
    (claims : Claims s request operation template) :
    Solvent overrun ((s.putOperation (claimedAs request operation proof template)).putLane operation.id) := by
  have undispatched : s.dispatches.get operation.id = none := by
    cases found : s.dispatches.get operation.id with
    | none => rfl
    | some journal =>
      obtain ⟨same, _, stored, signed, _⟩ := priced.dispatched _ _ found
      cases Option.some.inj (claims.stored.symm.trans stored)
      exact nomatch claims.prepared.symm.trans signed
  have committed : ((s.putOperation (claimedAs request operation proof template)).putLane operation.id).committedWei =
      template.cost := by
    have stored := (Store.get_putOperation (s := s) (claimedAs request operation proof template) operation.id).trans (if_pos rfl)
    rw [committedWei_putLane stored]
    change max template.cost (((s.dispatches.get operation.id).bind (·.admission.reservation)).elim 0 (·.totalWei)) = _
    rw [undispatched]
    exact Nat.max_zero _
  have reserved := Store.reservedWei_put (claimedAs request operation proof template) claims.stored
  have reserved := Nat.add_right_cancel reserved
  refine ⟨?_, solvent.exceeded⟩
  intro accounting held
  have held : s.pool.accounting = some accounting := held
  obtain ⟨_, _, affordable⟩ := claims.funded accounting held
  have costs := claims.costs
  rw [committed]
  change accounting.spentWei + (s.putOperation (claimedAs request operation proof template)).reservedWei + _ ≤ _
  rw [reserved]
  rw [remainingWei_view held] at affordable
  simp only [WalletDeploymentTemplate.cost]
  change _ ≤ s.pool.configuration.allocationWei + overrun
  omega

/-- An admission is within what the pool has left. -/
theorem dispatched {request : LeaseDispatchRequest} {leaseUntil : Int} (solvent : Solvent overrun s)
    (leases : LeasesDispatch s request operation template leaseUntil) : Solvent overrun
      (s.putDispatch (leasedJournal (s.dispatches.get operation.id) operation template request leaseUntil)) := by
  refine ⟨?_, solvent.exceeded⟩
  intro accounting held
  have held : s.pool.accounting = some accounting := held
  have before := solvent.bound accounting held
  obtain ⟨_, _, templated⟩ := admissible_active leases.admitted
  obtain ⟨own, templated⟩ := Option.isSome_iff_exists.mp templated
  obtain ⟨cost, affordable, reserved⟩ := admissible_affords leases.admitted templated
  have reserved := reserved (by rw [show s.view.accounting = _ from held]; rfl)
  have committed :
      (s.putDispatch (leasedJournal (s.dispatches.get operation.id) operation template request leaseUntil)).committedWei =
      max own.cost (request.admission.reservation.elim 0 (·.totalWei)) := by
    refine (committedWei_of_active (s := s.putDispatch _) leases.active leases.stored).trans ?_
    simp only [Store.costOf, templated, Option.elim_some, Store.get_putDispatch, leasedJournal, if_true, Option.bind_some]
  rw [committed]
  rw [remainingWei_view held] at affordable reserved
  have own : own.cost = request.admission.maximumExecutionCost := cost.symm
  change accounting.spentWei + s.reservedWei + _ ≤ s.pool.configuration.allocationWei + overrun
  omega

theorem dispatchSettled {request : SettleDispatchRequest} {prior : WalletDeploymentDispatchJournal}
    (solvent : Solvent overrun s) (keyed : Keyed s) (settles : SettlesDispatch s request prior) :
    Solvent overrun (s.putDispatch (settledJournal request prior)) := by
  refine solvent.still rfl rfl ?_
  have stored := settles.stored
  rw [← keyed.dispatches _ _ stored] at stored
  have same (id : String) : ((s.putDispatch (settledJournal request prior)).dispatches.get id).bind (·.admission.reservation) =
      (s.dispatches.get id).bind (·.admission.reservation) := by
    rw [Store.get_putDispatch]
    split
    · rename_i this
      rw [this, show s.dispatches.get (settledJournal request prior).operationId = _ from stored]
      rfl
    · rfl
  unfold Store.committedWei Store.costOf
  simp only [same]
  rfl

theorem released {request : ReleaseRequest} {signed : SignedDeployment} {observation : WalletDeploymentObservation}
    (solvent : Solvent overrun s) (priced : Priced s)
    (releases : Releases s request accounting operation template signed observation) : Solvent overrun
      ((s.putOperation (releasedAs request operation (admittedCost s operation signed))).putAccounting
        { accounting with nextNonce := template.nonce + 1 } true) := by
  obtain ⟨_, own, templated, cost⟩ := priced.signed _ operation signed releases.stored releases.bytes
  have committed : s.committedWei = admittedCost s operation signed := by
    rw [committedWei_of_active releases.active releases.stored, Store.costOf, templated, admittedCost, cost]
    rfl
  have reserved := Store.reservedWei_put (releasedAs request operation (admittedCost s operation signed)) releases.stored
  have before : operation.queued = false := by simp [queued, releases.unreleased]
  have after : (releasedAs request operation (admittedCost s operation signed)).queued = true := by
    simp [queued, releasedAs, releases.unsettled]
  simp only [before, after, Bool.false_eq_true, if_false, if_true, Nat.add_zero] at reserved
  constructor
  · intro next isNext
    cases isNext
    have bound := solvent.bound accounting releases.held
    rw [committed] at bound
    change accounting.spentWei +
      (s.putOperation (releasedAs request operation (admittedCost s operation signed))).reservedWei + 0 ≤
      s.pool.configuration.allocationWei + overrun
    rw [reserved]
    change accounting.spentWei + (s.reservedWei + admittedCost s operation signed) + 0 ≤ _
    omega
  · intro next fence isNext isFence
    cases isNext
    cases releases.unfenced.symm.trans isFence

theorem settled {request : SettleRequest} (receipt : WalletDeploymentSettlementReceipt)
    (solvent : Solvent overrun s) (represents : Represents lane s)
    (settles : Settles s request accounting operation template) (evidence : receipt.evidence = request.evidence) :
    Solvent (overrun + (receipt.evidence.fees.totalWei - operation.reservedWei.getD 0))
      ((s.putSettlement operation receipt).putAccounting
        (debited s.view accounting operation request.evidence request.now) false) := by
  have reserved := Store.reservedWei_put (settledAs operation) settles.stored
  have before : operation.queued = true := by simp [queued, settles.released, settles.unsettled]
  have after : (settledAs operation).queued = false := by simp [queued, settledAs]
  simp only [before, after, Bool.false_eq_true, if_false, if_true, Nat.add_zero] at reserved
  have committed : (s.putOperation (settledAs operation)).committedWei = s.committedWei :=
    represents.committedWei_put settles.stored rfl rfl
  constructor
  · intro next isNext
    cases isNext
    have bound := solvent.bound accounting settles.held
    change accounting.spentWei + request.evidence.fees.totalWei + (s.putOperation (settledAs operation)).reservedWei +
      (s.putOperation (settledAs operation)).committedWei ≤ s.pool.configuration.allocationWei + _
    rw [committed, evidence]
    omega
  · intro next fence isNext isFence exceeded
    cases isNext
    simp only [debited] at isFence
    split at isFence
    · assumption
    · cases isFence

end Solvent
theorem Solvent.step (solvent : Solvent overrun s) (keyed : Keyed s) (priced : Priced s)
    (represents : Represents lane s) (effect : Effect s op outcome t) : Solvent (overrun +
      ((newSettlement ⟨op, .ok outcome⟩).toList.map t.overrun).sum) t := by
  cases effect with
  | replayed again =>
    rw [newSettlement_again again]
    exact solvent
  | initialized request pool unaccounted free => exact .initialized represents unaccounted free
  | fenced accounts within fences =>
    rw [newSettlement_fences fences]
    exact solvent.fenced accounts.held within
  | @settled request pool accounting operation template settles =>
    have settled := Solvent.settled (settlementReceipt s.view accounting operation request.evidence template.nonce request.now)
      solvent represents settles rfl
    have stored := (Store.get_putSettlement (s := s) operation (settlementReceipt s.view accounting operation request.evidence
      template.nonce request.now) operation.id).trans (if_pos rfl)
    have overrun_eq := overrun_of_stored
      (settlementReceipt s.view accounting operation request.evidence template.nonce request.now)
      stored
    simp only [newSettlement, Option.toList_some, List.map_cons, List.map_nil, List.sum_cons, List.sum_nil, Nat.add_zero]
    exact overrun_eq ▸ settled
  | released releases => exact solvent.released priced releases
  | prepared absent => exact (solvent.swept represents).putUnclaimed represents.sweep (Store.sweep_none absent) ⟨rfl, rfl, rfl⟩
  | cleaned => exact solvent.swept represents
  | @claimed request operation template proof claims => exact solvent.claimed priced claims
  | signing leases => exact solvent.rewritten represents leases.stored rfl rfl rfl rfl
  | signed signs => exact solvent.rewritten represents signs.stored rfl rfl rfl rfl
  | observed observes => exact solvent.rewritten represents observes.stored rfl rfl rfl rfl
  | dispatched leases => exact solvent.dispatched leases
  | dispatchSettled settles => exact solvent.dispatchSettled keyed settles

theorem Recorded.settled_stored {receipt : WalletDeploymentSettlementReceipt} (recorded : Recorded history lane s)
    (member : receipt ∈ history.settlements) :
    ∃ operation, s.operations.get receipt.operationId = some operation ∧ operation.settlementId ≠ none := by
  have settled : receipt.operationId ∈ lane.settlements := by
    rw [recorded.settlements]
    exact List.mem_map_of_mem member
  obtain ⟨place, within, found⟩ := List.mem_take_iff_getElem.mp settled
  obtain ⟨operation, stored, stands⟩ := recorded.represents.claimed place _ (List.getElem?_eq_some_iff.mpr ⟨_, found⟩)
  have isSettled := stands.settled.mpr (lt_of_lt_of_le within (min_le_left ..))
  exact ⟨operation, stored, Option.isSome_iff_ne_none.mp isSettled⟩

/-- What settlements took above their reservations is not changed by later steps. -/
theorem Recorded.overrun_kept (recorded : Recorded history lane s) (effect : Effect s op outcome t) :
    history.settlements.map t.overrun = history.settlements.map s.overrun := by
  refine List.map_congr_left ?_
  intro receipt member
  obtain ⟨operation, stored, settled⟩ := recorded.settled_stored member
  rw [overrun_of_stored _ stored, overrun_of_stored _ (recorded.represents.settled_kept effect stored settled)]

theorem priced_run (run : StoreRuns rules config configuredAt history s) : Priced s := by
  refine run.invariant (P := fun _ s => Priced s) .configured ?_
  intro history s answer t past priced performed
  obtain ⟨outcome, _, effect⟩ | ⟨rfl, _⟩ := performs_effect (keyed_run past) performed
  · exact priced.kept (keyed_run past) effect
  · exact priced

theorem configuration_run (run : StoreRuns rules config configuredAt history s) : s.pool.configuration = config := by
  refine run.invariant (P := fun _ s => s.pool.configuration = config) rfl ?_
  intro history s answer t past same performed
  obtain ⟨op, result⟩ := answer
  obtain ⟨outcome, rfl, effect⟩ | ⟨rfl, _⟩ := performs_effect (keyed_run past) performed
  · cases effect <;> exact same
  · exact same

theorem solvent_run (run : StoreRuns rules config configuredAt history s) :
    Solvent (history.settlements.map s.overrun).sum s := by
  refine run.invariant (P := fun history s => Solvent (History.settlements history |>.map s.overrun).sum s) ?_ ?_
  · constructor
    · intro accounting held
      cases held
    · intro accounting fence held
      cases held
  · intro history s answer t past solvent performed
    obtain ⟨op, result⟩ := answer
    obtain ⟨lane, recorded⟩ := run_recorded past
    rw [History.settlements, filterMap_snoc]
    obtain ⟨outcome, rfl, effect⟩ | ⟨rfl, error, rfl⟩ := performs_effect (keyed_run past) performed
    · have step := solvent.step (keyed_run past) (priced_run past) recorded.represents effect
      rw [← recorded.overrun_kept effect, ← List.sum_append, ← List.map_append] at step
      exact step
    · have quiet : newSettlement ⟨op, .error error⟩ = none := by
        cases op <;> rfl
      rw [quiet, Option.toList_none, List.append_nil]
      exact solvent

theorem admittedWei_le (keyed : Keyed s) (priced : Priced s) : s.admittedWei ≤ s.committedWei := by
  unfold Store.admittedWei
  cases active : s.pool.activeOperationId with
  | none => exact Nat.zero_le _
  | some id =>
    rw [Option.bind_some]
    cases journaled : s.dispatches.get id with
    | none => exact Nat.zero_le _
    | some journal =>
      obtain ⟨operation, template, stored, _, templated, cost⟩ := priced.dispatched id journal journaled
      have named := keyed.operations id operation stored
      rw [committedWei_of_active active stored, Store.costOf, templated, named, journaled, Option.elim_some, cost]
      exact le_rfl

/-- What is spent, reserved and admitted is within the allocation but for what settled fees took above
their reservations. Where none did, it is within, and the pool is not fenced for exceeding it. -/
theorem treasury_solvent (run : StoreRuns rules config configuredAt history s) (held : s.pool.accounting = some accounting) :
    accounting.spentWei + s.reservedWei + s.admittedWei ≤
      config.allocationWei + (history.settlements.map s.overrun).sum ∧
    ((∀ receipt ∈ history.settlements, ∀ operation, s.operations.get receipt.operationId = some operation →
        receipt.evidence.fees.totalWei ≤ operation.reservedWei.getD 0) →
      accounting.spentWei + s.reservedWei + s.admittedWei ≤ config.allocationWei ∧
      ∀ fence, accounting.fence = some fence → fence.reason ≠ .allocationExceeded) := by
  obtain ⟨bound, exceeded⟩ := solvent_run run
  have bound := bound accounting held
  have exceeded := exceeded accounting
  rw [configuration_run run] at bound exceeded
  have admitted := admittedWei_le (keyed_run run) (priced_run run)
  refine ⟨by omega, ?_⟩
  intro within
  have none_over : (history.settlements.map s.overrun).sum = 0 := by
    rw [List.sum_eq_zero_iff]
    intro over_ member
    obtain ⟨receipt, settled, rfl⟩ := List.mem_map.mp member
    obtain ⟨lane, recorded⟩ := run_recorded run
    obtain ⟨operation, stored, _⟩ := recorded.settled_stored settled
    rw [overrun_of_stored _ stored]
    exact Nat.sub_eq_zero_of_le (within receipt settled operation stored)
  refine ⟨by omega, ?_⟩
  intro fence isFence isExceeded
  have past := exceeded fence held isFence isExceeded
  omega

theorem treasury_solvent_sample : ∃ accounting, sampleRun.2.pool.accounting = some accounting ∧
    accounting.spentWei + sampleRun.2.reservedWei + sampleRun.2.admittedWei ≤
      sampleConfiguration.allocationWei + ((History.settlements sampleRun.1).map sampleRun.2.overrun).sum :=
  ⟨_, (Option.some_get sampleRun_accounted).symm, (treasury_solvent sampleRun_runs (Option.some_get sampleRun_accounted).symm).1⟩

/-- A settled fee above its reservation leaves less than the active operation was admitted for. -/
theorem treasury_bound_exceeded : ¬ ∀ (rules : Rules) (config : WalletDeploymentPoolConfiguration) (configuredAt : Int)
    (history : History) (s : Store) (accounting : WalletDeploymentAccounting), StoreRuns rules config configuredAt history s →
      s.pool.accounting = some accounting → accounting.fence = none →
        accounting.spentWei + s.reservedWei + s.admittedWei ≤ config.allocationWei := by
  intro bounded
  have held := (Option.some_get sampleRun_accounted).symm
  have bound := bounded _ _ _ _ _ _ sampleRun_runs held (by decide +kernel)
  revert bound
  decide +kernel

end JBCenter.Deployments
