import JBCenter.Base.Lanes
import JBCenter.Deployments.Effects

/-! The treasury lane: one operation at a time goes from its claim to its inclusion, and the included
ones settle in the order of their nonces. -/
namespace JBCenter.Deployments
open Rest
open WalletDeploymentOperation (queued)

variable {rules : Rules} {config : WalletDeploymentPoolConfiguration} {configuredAt : Int} {s t : Store} {op : Op}
  {outcome : Outcome} {lane : Lane String} {operation prior : WalletDeploymentOperation} {id : String}

theorem keyed_configured : Keyed (Store.configured config configuredAt) := by
  constructor
  · intro id operation stored
    cases stored
  · intro id journal stored
    cases stored

theorem Keyed.putOperation (keyed : Keyed s) (operation : WalletDeploymentOperation) : Keyed (s.putOperation operation) := by
  refine ⟨?_, keyed.dispatches⟩
  intro id other stored
  rw [Store.get_putOperation] at stored
  split at stored
  · rename_i same
    cases stored
    exact same.symm
  · exact keyed.operations _ _ stored

theorem Keyed.putDispatch {journal : WalletDeploymentDispatchJournal} (keyed : Keyed s) : Keyed (s.putDispatch journal) := by
  refine ⟨keyed.operations, ?_⟩
  intro id other stored
  rw [Store.get_putDispatch] at stored
  split at stored
  · rename_i same
    cases stored
    exact same.symm
  · exact keyed.dispatches _ _ stored

theorem Keyed.sweep {swept : List String} {now : Int} (keyed : Keyed s) : Keyed (s.sweep swept now) :=
  ⟨fun _ _ left => keyed.operations _ _ (Store.sweep_some left), keyed.dispatches⟩

theorem Keyed.kept (keyed : Keyed s) (effect : Effect s op outcome t) : Keyed t := by
  cases effect with
  | replayed => exact keyed
  | initialized => exact ⟨keyed.operations, keyed.dispatches⟩
  | fenced => exact ⟨keyed.operations, keyed.dispatches⟩
  | @settled request pool accounting operation template settles =>
    have put := keyed.putOperation (settledAs operation)
    exact ⟨put.operations, put.dispatches⟩
  | @released request pool accounting operation template signed observation releases =>
    have put := keyed.putOperation (releasedAs request operation (admittedCost s operation signed))
    exact ⟨put.operations, put.dispatches⟩
  | prepared => exact keyed.sweep.putOperation _
  | cleaned => exact keyed.sweep
  | @claimed request operation template proof claims =>
    have put := keyed.putOperation (claimedAs request operation proof template)
    exact ⟨put.operations, put.dispatches⟩
  | signing => exact keyed.putOperation _
  | signed => exact keyed.putOperation _
  | observed => exact keyed.putOperation _
  | dispatched => exact keyed.putDispatch
  | dispatchSettled => exact keyed.putDispatch

/-- An operation nobody claimed. -/
structure Unclaimed (operation : WalletDeploymentOperation) : Prop where
  prepared : operation.state = .prepared
  unreleased : operation.releasedAt = none
  unsettled : operation.settlementId = none

/-- Two versions of an operation that stand at one place of the lane. -/
structure SamePlace (operation prior : WalletDeploymentOperation) : Prop where
  prepared : operation.state = .prepared ↔ prior.state = .prepared
  template : operation.template = prior.template
  releasedAt : operation.releasedAt = prior.releasedAt
  settlementId : operation.settlementId = prior.settlementId

structure Stands (lane : Lane String) (s : Store) (place : Nat) (operation : WalletDeploymentOperation) : Prop where
  claimed : operation.state ≠ .prepared
  nonce : ∃ template, operation.template = some template ∧
    ∀ accounting, s.pool.accounting = some accounting → template.nonce = accounting.initialNonce + place
  released : operation.releasedAt.isSome = true ↔ place < lane.released
  settled : operation.settlementId.isSome = true ↔ place < lane.settled

/-- The store's pool, operations and settlements are those of the lane. -/
structure Represents (lane : Lane String) (s : Store) : Prop where
  active : s.pool.activeOperationId = lane.active
  claimed : ∀ place id, lane.claimed[place]? = some id →
    ∃ operation, s.operations.get id = some operation ∧ Stands lane s place operation
  others : ∀ id operation, s.operations.get id = some operation → id ∉ lane.claimed → Unclaimed operation
  queue : s.releasedCount + lane.settled = lane.released
  recorded : ∀ id, (s.settlements.get id).isSome = true → id ∈ lane.claimed
  spent : (s.pool.accounting.elim 0 (·.spentWei)) = s.settlements.total (·.evidence.fees.totalWei)
  unaccounted : s.pool.accounting = none → lane.released = 0
  accounted : ∀ accounting, s.pool.accounting = some accounting → accounting.sequence = lane.settled ∧
    accounting.nextNonce = accounting.initialNonce + lane.released ∧ lane.released ≤ lane.settled + maximumUnsettled

namespace Represents

theorem configured : Represents .empty (Store.configured config configuredAt) where
  active := rfl
  claimed := by
    intro place id claimed
    cases claimed
  others := by
    intro id operation stored
    cases stored
  queue := rfl
  recorded := by
    intro id recorded
    cases recorded
  spent := rfl
  unaccounted := fun _ => rfl
  accounted := by
    intro accounting held
    cases held

theorem stands (represents : Represents lane s) (stored : s.operations.get id = some operation)
    (claimed : ¬ Unclaimed operation) : ∃ place, lane.claimed[place]? = some id ∧ Stands lane s place operation := by
  have member : id ∈ lane.claimed := by
    by_contra absent
    exact claimed (represents.others id operation stored absent)
  obtain ⟨place, found⟩ := List.mem_iff_getElem?.mp member
  obtain ⟨same, held, stands⟩ := represents.claimed place id found
  cases Option.some.inj (stored.symm.trans held)
  exact ⟨place, found, stands⟩

theorem prepared (represents : Represents lane s) (stored : s.operations.get id = some operation)
    (prepared : operation.state = .prepared) : Unclaimed operation := by
  by_contra claimed
  obtain ⟨place, _, stands⟩ := represents.stands stored claimed
  exact stands.claimed prepared

theorem kept (represents : Represents lane s) (pool : t.pool = s.pool) (settlements : t.settlements = s.settlements)
    (queue : t.releasedCount = s.releasedCount)
    (claimed : ∀ id operation, s.operations.get id = some operation → operation.state ≠ .prepared →
      ∃ next, t.operations.get id = some next ∧ SamePlace next operation)
    (others : ∀ id next, t.operations.get id = some next → Unclaimed next ∨
      ∃ operation, s.operations.get id = some operation ∧ SamePlace next operation) : Represents lane t where
  active := by rw [pool, represents.active]
  claimed := by
    intro place id found
    obtain ⟨operation, stored, stands⟩ := represents.claimed place id found
    obtain ⟨next, held, same⟩ := claimed id operation stored stands.claimed
    refine ⟨next, held, fun prepared => stands.claimed (same.prepared.mp prepared), ?_, ?_, ?_⟩
    · rw [same.template, pool]
      exact stands.nonce
    · rw [same.releasedAt]
      exact stands.released
    · rw [same.settlementId]
      exact stands.settled
  others := by
    intro id next stored absent
    obtain unclaimed | ⟨operation, held, same⟩ := others id next stored
    · exact unclaimed
    · obtain ⟨prepared, unreleased, unsettled⟩ := represents.others id operation held absent
      exact ⟨same.prepared.mpr prepared, same.releasedAt.trans unreleased, same.settlementId.trans unsettled⟩
  queue := by rw [queue, represents.queue]
  recorded := by
    rw [settlements]
    exact represents.recorded
  spent := by rw [pool, settlements, represents.spent]
  unaccounted := by
    rw [pool]
    exact represents.unaccounted
  accounted := by
    rw [pool]
    exact represents.accounted

theorem putOperation (represents : Represents lane s) (stored : s.operations.get operation.id = some prior)
    (same : SamePlace operation prior) : Represents lane (s.putOperation operation) := by
  have queue := Store.releasedCount_put operation stored
  have still : operation.queued = prior.queued := by
    simp only [queued, same.releasedAt, same.settlementId]
  rw [still] at queue
  refine represents.kept rfl rfl (Nat.add_right_cancel queue) ?_ ?_
  · intro id other held _
    rw [Store.get_putOperation]
    split
    · rename_i this
      subst this
      cases Option.some.inj (stored.symm.trans held)
      exact ⟨operation, rfl, same⟩
    · exact ⟨other, held, Iff.rfl, rfl, rfl, rfl⟩
  · intro id next held
    rw [Store.get_putOperation] at held
    split at held
    · rename_i this
      subst this
      cases held
      exact Or.inr ⟨prior, stored, same⟩
    · exact Or.inr ⟨next, held, Iff.rfl, rfl, rfl, rfl⟩

theorem putDispatch {journal : WalletDeploymentDispatchJournal} (represents : Represents lane s) :
    Represents lane (s.putDispatch journal) := by
  refine represents.kept rfl rfl rfl ?_ ?_
  · intro id operation held _
    exact ⟨operation, held, Iff.rfl, rfl, rfl, rfl⟩
  · intro id next held
    exact Or.inr ⟨next, held, Iff.rfl, rfl, rfl, rfl⟩

theorem total_sweep {swept : List String} {now : Int} {weight : WalletDeploymentOperation → Nat}
    (represents : Represents lane s) (weightless : ∀ operation, operation.queued = false → weight operation = 0) :
    (s.sweep swept now).operations.total weight = s.operations.total weight := by
  refine s.operations.total_filter ?_
  intro id operation member dropped
  have ⟨⟨_, isPrepared⟩, _⟩ : (id ∈ swept ∧ operation.state = .prepared) ∧ operation.retainUntil ≤ now := by simpa using dropped
  have unclaimed := represents.prepared (OrderedMap.get_of_mem member) isPrepared
  refine weightless operation ?_
  simp [queued, unclaimed.unreleased]

theorem sweep {swept : List String} {now : Int} (represents : Represents lane s) : Represents lane (s.sweep swept now) := by
  have queue : (s.sweep swept now).releasedCount = s.releasedCount :=
    represents.total_sweep fun operation unqueued => by simp [unqueued]
  refine represents.kept rfl rfl queue ?_ ?_
  · intro id operation held unprepared
    exact ⟨operation, Store.sweep_kept held unprepared, Iff.rfl, rfl, rfl, rfl⟩
  · intro id next left
    exact Or.inr ⟨next, Store.sweep_some left, Iff.rfl, rfl, rfl, rfl⟩

theorem putUnclaimed (represents : Represents lane s) (absent : s.operations.get operation.id = none)
    (unclaimed : Unclaimed operation) : Represents lane (s.putOperation operation) := by
  have queue : (s.putOperation operation).releasedCount = s.releasedCount := by
    have moved := s.operations.total_set (fun operation => if operation.queued then 1 else 0) operation.id operation
    have unqueued : operation.queued = false := by simp [queued, unclaimed.unreleased]
    simp only [absent, unqueued, Option.elim_none, Bool.false_eq_true, if_false, Nat.add_zero] at moved
    exact moved
  refine represents.kept rfl rfl queue ?_ ?_
  · intro id other held _
    have differ : id ≠ operation.id := by
      rintro rfl
      cases absent.symm.trans held
    rw [Store.get_putOperation, if_neg differ]
    exact ⟨other, held, Iff.rfl, rfl, rfl, rfl⟩
  · intro id next held
    rw [Store.get_putOperation] at held
    split at held
    · cases held
      exact Or.inl unclaimed
    · exact Or.inr ⟨next, held, Iff.rfl, rfl, rfl, rfl⟩

variable {accounting : WalletDeploymentAccounting} {template : WalletDeploymentTemplate}

theorem putAccounting {next : WalletDeploymentAccounting} (represents : Represents lane s)
    (held : s.pool.accounting = some accounting) (initial : next.initialNonce = accounting.initialNonce)
    (nonce : next.nextNonce = accounting.nextNonce) (sequence : next.sequence = accounting.sequence)
    (spent : next.spentWei = accounting.spentWei) : Represents lane (s.putAccounting next false) where
  active := represents.active
  claimed := by
    intro place id found
    obtain ⟨operation, stored, stands⟩ := represents.claimed place id found
    refine ⟨operation, stored, stands.claimed, ?_, stands.released, stands.settled⟩
    obtain ⟨template, templated, placed⟩ := stands.nonce
    refine ⟨template, templated, ?_⟩
    intro other same
    cases same
    rw [initial]
    exact placed accounting held
  others := represents.others
  queue := represents.queue
  recorded := represents.recorded
  spent := by
    have before := represents.spent
    rw [held] at before
    exact spent.trans before
  unaccounted := by
    intro absent
    cases absent
  accounted := by
    intro other same
    cases same
    rw [initial, nonce, sequence]
    exact represents.accounted accounting held

theorem initialized {request : InitializeRequest} (represents : Represents lane s) (unaccounted : s.pool.accounting = none)
    (free : s.pool.activeOperationId = none) : Represents lane (s.putAccounting (initialAccounting request) false) := by
  have released := represents.unaccounted unaccounted
  have empty : lane.claimed = [] := by
    have length := lane.length_of_free (represents.active.symm.trans free)
    exact List.eq_nil_of_length_eq_zero (length.trans released)
  refine ⟨represents.active, ?_, represents.others, represents.queue, represents.recorded, ?_, ?_, ?_⟩
  · intro place id found
    rw [empty] at found
    cases found
  · have before := represents.spent
    rw [unaccounted] at before
    exact before
  · intro absent
    cases absent
  · intro accounting same
    cases same
    have ordered := lane.ordered
    refine ⟨?_, ?_, ?_⟩
    · change 0 = lane.settled
      omega
    · change request.expectedNonce = request.expectedNonce + lane.released
      omega
    · omega

theorem claim {request : ClaimRequest}
    {proof : String} (represents : Represents lane s) (claims : Claims s request operation template) :
    ∃ (fresh : operation.id ∉ lane.claimed) (free : lane.active = none), Represents (lane.claim operation.id fresh free)
      ((s.putOperation (claimedAs request operation proof template)).putLane operation.id) := by
  have free := represents.active.symm.trans claims.free
  have unclaimed := represents.prepared claims.stored claims.prepared
  have fresh : operation.id ∉ lane.claimed := by
    intro member
    obtain ⟨place, found⟩ := List.mem_iff_getElem?.mp member
    obtain ⟨same, stored, stands⟩ := represents.claimed place _ found
    cases Option.some.inj (claims.stored.symm.trans stored)
    exact stands.claimed claims.prepared
  refine ⟨fresh, free, (lane.claim_active fresh free).symm, ?_, ?_, ?_, ?_, represents.spent, represents.unaccounted,
    represents.accounted⟩
  · intro place id found
    obtain earlier | ⟨rfl, rfl⟩ := lane.claim_place fresh free found
    · obtain ⟨other, stored, stands⟩ := represents.claimed place id earlier
      have differ : id ≠ operation.id := by
        rintro rfl
        exact fresh (List.mem_of_getElem? earlier)
      refine ⟨other, ?_, stands.claimed, stands.nonce, stands.released, stands.settled⟩
      exact (Store.get_putOperation ..).trans ((if_neg differ).trans stored)
    · refine ⟨claimedAs request operation proof template, ?_, (by simp [claimedAs]), ⟨template, rfl, ?_⟩, ?_, ?_⟩
      · exact (Store.get_putOperation ..).trans (if_pos rfl)
      · intro accounting held
        rw [(claims.funded accounting held).2.1, (represents.accounted accounting held).2.1]
      · simp [claimedAs, unclaimed.unreleased, Lane.claim]
      · have ordered := lane.ordered
        simp only [claimedAs, unclaimed.unsettled, Lane.claim, Option.isSome_none, Bool.false_eq_true, false_iff, not_lt]
        exact ordered
  · intro id other stored absent
    have stored := (Store.get_putOperation ..).symm.trans stored
    split at stored
    · rename_i this
      subst this
      exact absurd (List.mem_append_right _ List.mem_cons_self) absent
    · exact represents.others id other stored fun member => absent (List.mem_append_left _ member)
  · have moved := Store.releasedCount_put (claimedAs request operation proof template) claims.stored
    exact (congrArg (· + lane.settled) (Nat.add_right_cancel moved)).trans represents.queue
  · intro id recorded
    exact List.mem_append_left _ (represents.recorded id recorded)

theorem release {signed : SignedDeployment}
    {observation : WalletDeploymentObservation} {request : ReleaseRequest} {reservedWei : Nat} (represents : Represents lane s)
    (releases : Releases s request accounting operation template signed observation) :
    ∃ held : lane.active = some operation.id, Represents (lane.release held)
      ((s.putOperation (releasedAs request operation reservedWei)).putAccounting
      { accounting with nextNonce := template.nonce + 1 } true) := by
  have held := represents.active.symm.trans releases.active
  obtain ⟨sequence, next, _⟩ := represents.accounted accounting releases.held
  refine ⟨held, (lane.release_active held).symm, ?_, ?_, ?_, represents.recorded, ?_, ?_, ?_⟩
  · intro place id found
    obtain ⟨other, stored, stands⟩ := represents.claimed place id found
    by_cases this : id = operation.id
    · subst this
      cases Option.some.inj (releases.stored.symm.trans stored)
      obtain rfl := lane.place_unique found held
      refine ⟨releasedAs request operation reservedWei, ?_, stands.claimed, ?_, ?_, ?_⟩
      · exact (Store.get_putOperation ..).trans (if_pos rfl)
      · obtain ⟨same, templated, placed⟩ := stands.nonce
        refine ⟨same, templated, ?_⟩
        intro next isNext
        cases isNext
        exact placed accounting releases.held
      · simp [releasedAs, Lane.release]
      · exact stands.settled
    · refine ⟨other, (Store.get_putOperation ..).trans ((if_neg this).trans stored), stands.claimed, ?_, ?_, stands.settled⟩
      · obtain ⟨same, templated, placed⟩ := stands.nonce
        refine ⟨same, templated, ?_⟩
        intro next isNext
        cases isNext
        exact placed accounting releases.held
      · have differ : place ≠ lane.released := by
          rintro rfl
          exact this (Option.some.inj (found.symm.trans held))
        rw [stands.released]
        change place < lane.released ↔ place < lane.released + 1
        omega
  · intro id other stored absent
    have stored := (Store.get_putOperation ..).symm.trans stored
    split at stored
    · rename_i this
      subst this
      exact absurd (List.mem_of_getElem? held) absent
    · exact represents.others id other stored absent
  · have moved := Store.releasedCount_put (releasedAs request operation reservedWei) releases.stored
    have before : operation.queued = false := by simp [queued, releases.unreleased]
    have after : (releasedAs request operation reservedWei).queued = true := by
      simp [queued, releasedAs, releases.unsettled]
    have queue := represents.queue
    simp only [before, after, Bool.false_eq_true, if_false, if_true] at moved
    change (s.putOperation (releasedAs request operation reservedWei)).releasedCount + lane.settled = lane.released + 1
    omega
  · have before := represents.spent
    rw [releases.held] at before
    exact before
  · intro absent
    cases absent
  · intro other same
    cases same
    have room := releases.room
    simp only [walletDeploymentReleasedCount] at room
    refine ⟨sequence, ?_, ?_⟩
    · change template.nonce + 1 = accounting.initialNonce + (lane.released + 1)
      rw [releases.next, next]
      omega
    · change lane.released + 1 ≤ lane.settled + maximumUnsettled
      omega

theorem settle {request : SettleRequest}
    (represents : Represents lane s) (receipt : WalletDeploymentSettlementReceipt) (next : WalletDeploymentAccounting)
    (settles : Settles s request accounting operation template)
    (initial : next.initialNonce = accounting.initialNonce) (nonce : next.nextNonce = accounting.nextNonce)
    (sequence : next.sequence = accounting.sequence + 1)
    (spent : next.spentWei = accounting.spentWei + receipt.evidence.fees.totalWei) :
    ∃ waiting : lane.settled < lane.released, lane.claimed[lane.settled]? = some operation.id ∧
      Represents (lane.settle waiting) ((s.putSettlement operation receipt).putAccounting next false) := by
  obtain ⟨counted, following, bounded⟩ := represents.accounted accounting settles.held
  have claimed : ¬ Unclaimed operation := by
    intro unclaimed
    have released := settles.released
    rw [unclaimed.unreleased] at released
    cases released
  obtain ⟨place, found, stands⟩ := represents.stands settles.stored claimed
  have lowest : place = lane.settled := by
    obtain ⟨same, templated, placed⟩ := stands.nonce
    cases Option.some.inj (settles.templated.symm.trans templated)
    have at_ := placed accounting settles.held
    have lowest := settles.lowest
    omega
  subst lowest
  have waiting := stands.released.mp settles.released
  refine ⟨waiting, found, represents.active, ?_, ?_, ?_, ?_, ?_, ?_, ?_⟩
  · intro place id isPlace
    obtain ⟨other, stored, stands⟩ := represents.claimed place id isPlace
    obtain ⟨same, templated, placed⟩ := stands.nonce
    have placed : ∀ other, some next = some other → same.nonce = other.initialNonce + place := by
      intro other isNext
      cases isNext
      rw [initial]
      exact placed accounting settles.held
    by_cases this : id = operation.id
    · subst this
      cases Option.some.inj (settles.stored.symm.trans stored)
      obtain rfl := lane.place_unique isPlace found
      refine ⟨settledAs operation, (Store.get_putSettlement operation receipt _).trans (if_pos rfl), stands.claimed,
        ⟨same, templated, placed⟩, stands.released, ?_⟩
      simp [settledAs, Lane.settle]
    · refine ⟨other, (Store.get_putSettlement operation receipt _).trans ((if_neg this).trans stored), stands.claimed,
        ⟨same, templated, placed⟩, stands.released, ?_⟩
      have differ : place ≠ lane.settled := by
        rintro rfl
        exact this (Option.some.inj (isPlace.symm.trans found))
      rw [stands.settled]
      change place < lane.settled ↔ place < lane.settled + 1
      omega
  · intro id other stored absent
    have stored := (Store.get_putSettlement operation receipt _).symm.trans stored
    split at stored
    · rename_i this
      subst this
      exact absurd (List.mem_of_getElem? found) absent
    · exact represents.others id other stored absent
  · have moved := Store.releasedCount_put (settledAs operation) settles.stored
    have before : operation.queued = true := by simp [queued, settles.released, settles.unsettled]
    have after : (settledAs operation).queued = false := by simp [queued, settledAs]
    have queue := represents.queue
    simp only [before, after, Bool.false_eq_true, if_false, if_true] at moved
    change (s.putOperation (settledAs operation)).releasedCount + (lane.settled + 1) = lane.released
    omega
  · intro id recorded
    have recorded := (congrArg Option.isSome (Store.settlements_putSettlement operation receipt id)).symm.trans recorded
    split at recorded
    · rename_i this
      exact this ▸ List.mem_of_getElem? found
    · exact represents.recorded id recorded
  · have before := represents.spent
    have added := s.settlements.total_set (·.evidence.fees.totalWei) operation.id receipt
    rw [settles.held] at before
    rw [settles.unrecorded, Option.elim_none, Nat.add_zero] at added
    exact spent.trans ((congrArg (· + _) before).trans added.symm)
  · intro absent
    cases absent
  · intro other same
    cases same
    refine ⟨by rw [sequence, counted]; rfl, by rw [nonce, initial, following]; rfl, ?_⟩
    change lane.released ≤ lane.settled + 1 + maximumUnsettled
    omega

end Represents
end JBCenter.Deployments
