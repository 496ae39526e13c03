import JBCenter.Deployments.Lane

/-! The treasury of a wallet deployment pool over whole runs. -/
namespace JBCenter.Deployments
open Rest

variable {rules : Rules} {config : WalletDeploymentPoolConfiguration} {configuredAt : Int} {s t : Store} {op : Op}
  {outcome : Outcome} {lane : Lane String} {accounting : WalletDeploymentAccounting}

abbrev History := List (Answer Op RestError Outcome)

variable {history : History}

def newClaim (answer : Answer Op RestError Outcome) : Option String :=
  match answer.op, answer.result with
  | .claim request, .ok (.operation _ false) => some request.operationId
  | _, _ => none

def newSettlement (answer : Answer Op RestError Outcome) : Option WalletDeploymentSettlementReceipt :=
  match answer.op, answer.result with
  | .settle _, .ok (.settlement (some receipt) _ false) => some receipt
  | _, _ => none

/-- The answer claimed, leased, signed, released or settled something now. -/
def advances (answer : Answer Op RestError Outcome) : Bool :=
  match answer.op, answer.result with
  | .claim _, .ok (.operation _ replayed) => !replayed
  | .leaseSigning _, .ok (.signing _ lease) => lease.isSome
  | .persistSigned _, .ok (.operation _ replayed) => !replayed
  | .leaseDispatch _, .ok (.dispatch _ replayed) => !replayed
  | .release _, .ok (.released operation _ replayed) => !replayed && operation.releasedAt.isSome
  | .settle _, .ok (.settlement settlement _ replayed) => !replayed && settlement.isSome
  | _, _ => false

def History.claims (history : History) : List String := history.filterMap newClaim

def History.settlements (history : History) : List WalletDeploymentSettlementReceipt := history.filterMap newSettlement

theorem newClaim_again (again : outcome.fresh = false) : newClaim ⟨op, .ok outcome⟩ = none := by
  unfold newClaim
  split
  · rename_i same
    cases same
    cases again
  · rfl

theorem newSettlement_again (again : outcome.fresh = false) : newSettlement ⟨op, .ok outcome⟩ = none := by
  unfold newSettlement
  split
  · rename_i same
    cases same
    cases again
  · rfl

theorem advances_again (again : outcome.fresh = false) : advances ⟨op, .ok outcome⟩ = false := by
  unfold advances
  split <;> rename_i same <;> first | rfl | (cases same; simp_all [Outcome.fresh])

theorem newClaim_fences (fences : Fences op outcome) : newClaim ⟨op, .ok outcome⟩ = none := by
  cases fences <;> rfl

theorem newSettlement_fences (fences : Fences op outcome) : newSettlement ⟨op, .ok outcome⟩ = none := by
  cases fences <;> rfl

theorem Represents.step (represents : Represents lane s) (effect : Effect s op outcome t) : ∃ next : Lane String,
    Represents next t ∧ next.claimed = lane.claimed ++ (newClaim ⟨op, .ok outcome⟩).toList ∧
      next.settlements = lane.settlements ++ (newSettlement ⟨op, .ok outcome⟩).toList.map (·.operationId) ∧
      t.settlements.total (·.evidence.fees.totalWei) = s.settlements.total (·.evidence.fees.totalWei) +
        ((newSettlement ⟨op, .ok outcome⟩).toList.map (·.evidence.fees.totalWei)).sum := by
  cases effect with
  | replayed again =>
    rw [newClaim_again again, newSettlement_again again]
    exact ⟨lane, represents, by simp, by simp, by simp⟩
  | initialized request pool unaccounted free =>
    exact ⟨lane, represents.initialized unaccounted free, by simp [newClaim],
      by simp [newSettlement], by simp [newSettlement, Store.putAccounting]⟩
  | fenced accounts within fences =>
    rw [newClaim_fences fences, newSettlement_fences fences]
    exact ⟨lane, represents.putAccounting accounts.held rfl rfl rfl rfl, by simp, by simp, by simp [Store.putAccounting]⟩
  | @settled request pool accounting operation template settles =>
    obtain ⟨waiting, place, settled⟩ := represents.settle (settlementReceipt s.view accounting operation request.evidence
      template.nonce request.now) (debited s.view accounting operation request.evidence request.now) settles rfl rfl rfl rfl
    refine ⟨lane.settle waiting, settled, by simp [newClaim, Lane.settle], ?_, ?_⟩
    · exact lane.settle_settlements waiting place
    · have added := s.settlements.total_set (·.evidence.fees.totalWei) operation.id (settlementReceipt s.view accounting operation
        request.evidence template.nonce request.now)
      rw [settles.unrecorded, Option.elim_none, Nat.add_zero] at added
      exact added
  | released releases =>
    obtain ⟨held, released⟩ := represents.release releases
    exact ⟨lane.release held, released, by simp [newClaim, Lane.release], by simp [newSettlement, Lane.release, Lane.settlements],
      by simp [newSettlement, Store.putAccounting, Store.putOperation]⟩
  | @prepared request createdAt absent =>
    exact ⟨lane, represents.sweep.putUnclaimed (Store.sweep_none absent) ⟨rfl, rfl, rfl⟩,
      by simp [newClaim], by simp [newSettlement],
      by simp [newSettlement, Store.putOperation, Store.sweep]⟩
  | cleaned => exact ⟨lane, represents.sweep, by simp [newClaim], by simp [newSettlement], by simp [newSettlement, Store.sweep]⟩
  | claimed claims =>
    obtain ⟨fresh, free, claimed⟩ := represents.claim claims
    refine ⟨_, claimed, ?_, ?_, by simp [newSettlement, Store.putLane, Store.putOperation]⟩
    · simp [newClaim, Lane.claim, claims.named]
    · simp [newSettlement, lane.claim_settlements fresh free]
  | signing leases =>
    exact ⟨lane, represents.putOperation leases.stored ⟨Iff.rfl, rfl, rfl, rfl⟩, by simp [newClaim], by simp [newSettlement],
      by simp [newSettlement, Store.putOperation]⟩
  | signed signs =>
    refine ⟨lane, represents.putOperation signs.stored ⟨?_, rfl, rfl, rfl⟩, by simp [newClaim], by simp [newSettlement],
      by simp [newSettlement, Store.putOperation]⟩
    simp [signedAs, signs.claimed]
  | observed observes =>
    exact ⟨lane, represents.putOperation observes.stored ⟨Iff.rfl, rfl, rfl, rfl⟩, by simp [newClaim], by simp [newSettlement],
      by simp [newSettlement, Store.putOperation]⟩
  | dispatched => exact ⟨lane, represents.putDispatch, by simp [newClaim], by simp [newSettlement],
      by simp [newSettlement, Store.putDispatch]⟩
  | dispatchSettled => exact ⟨lane, represents.putDispatch, by simp [newClaim], by simp [newSettlement],
      by simp [newSettlement, Store.putDispatch]⟩

theorem Effect.fenced_stays (effect : Effect s op outcome t) (held : s.pool.accounting = some accounting)
    (fenced : accounting.fence ≠ none) : t.pool.accounting = some accounting ∧ advances ⟨op, .ok outcome⟩ = false := by
  have shut : ∀ other, Accounts s other → False := by
    intro other accounts
    cases Option.some.inj (held.symm.trans accounts.held)
    exact fenced accounts.unfenced
  cases effect with
  | replayed again => exact ⟨held, advances_again again⟩
  | initialized request pool unaccounted => exact nomatch held.symm.trans unaccounted
  | fenced accounts => exact (shut _ accounts).elim
  | settled settles => exact (shut _ settles.toAccounts).elim
  | released releases => exact (shut _ releases.toAccounts).elim
  | prepared => exact ⟨held, rfl⟩
  | cleaned => exact ⟨held, rfl⟩
  | claimed claims => exact absurd (claims.funded accounting held).1 fenced
  | signing leases =>
    have unfenced := leases.unfenced
    rw [held] at unfenced
    exact absurd unfenced fenced
  | signed signs =>
    have unfenced := signs.unfenced
    rw [held] at unfenced
    exact absurd unfenced fenced
  | observed => exact ⟨held, rfl⟩
  | dispatched leases => exact absurd (admissible_unfenced leases.admitted held) fenced
  | dispatchSettled => exact ⟨held, rfl⟩

/-- Every answer of a run refused and left the store, or did what its method can do. -/
theorem performs_effect {answer : Answer Op RestError Outcome} (keyed : Keyed s)
    (performed : Performs (perform rules) s answer t) :
    (∃ outcome, answer.result = .ok outcome ∧ Effect s answer.op outcome t) ∨
      t = s ∧ ∃ error, answer.result = .error error := by
  obtain ⟨outcome, answered, ran⟩ | ⟨same, error, answered, _⟩ := performed.transaction_cases
  · exact Or.inl ⟨outcome, answered, run_effect keyed ran⟩
  · exact Or.inr ⟨same, error, answered⟩

theorem keyed_run (run : StoreRuns rules config configuredAt history s) : Keyed s := by
  refine run.state_invariant keyed_configured ?_
  intro s answer t keyed performed
  obtain ⟨outcome, _, effect⟩ | ⟨rfl, _⟩ := performs_effect keyed performed
  · exact keyed.kept effect
  · exact keyed

/-- The claims and the settlements of a run are those of a lane its store is of. -/
structure Recorded (history : History) (lane : Lane String) (s : Store) : Prop where
  represents : Represents lane s
  claims : lane.claimed = history.claims
  settlements : lane.settlements = history.settlements.map (·.operationId)
  debit : s.settlements.total (·.evidence.fees.totalWei) = (history.settlements.map (·.evidence.fees.totalWei)).sum

theorem run_recorded (run : StoreRuns rules config configuredAt history s) : ∃ lane, Recorded history lane s := by
  refine run.invariant (P := fun history s => ∃ lane, Recorded history lane s) ⟨.empty, .configured, rfl, rfl, rfl⟩ ?_
  intro history s answer t past ⟨lane, represents, claims, settlements, debit⟩ performed
  simp only [History.claims, History.settlements] at claims settlements debit
  obtain ⟨op, result⟩ := answer
  obtain ⟨outcome, rfl, effect⟩ | ⟨rfl, error, rfl⟩ := performs_effect (keyed_run past) performed
  · obtain ⟨next, after, claimed, settled, debited⟩ := represents.step effect
    refine ⟨next, after, ?_, ?_, ?_⟩ <;> simp only [History.claims, History.settlements]
    · rw [claimed, claims, filterMap_snoc]
    · rw [settled, settlements, filterMap_snoc, List.map_append]
    · rw [debited, debit, filterMap_snoc, List.map_append, List.sum_append]
  · have quiet : newClaim ⟨op, .error error⟩ = none ∧ newSettlement ⟨op, .error error⟩ = none := by
      cases op <;> exact ⟨rfl, rfl⟩
    refine ⟨lane, represents, ?_, ?_, ?_⟩ <;> simp only [History.claims, History.settlements]
    · rw [claims, filterMap_snoc, quiet.1, Option.toList_none, List.append_nil]
    · rw [settlements, filterMap_snoc, quiet.2, Option.toList_none, List.append_nil]
    · rw [debit, filterMap_snoc, quiet.2, Option.toList_none, List.append_nil]

/-- What holds of an accounted pool in every state of every run. -/
structure TreasuryLane (history : History) (s : Store) (accounting : WalletDeploymentAccounting) : Prop where
  /-- What is claimed and not released is the one active operation. -/
  active : ∀ id operation, s.operations.get id = some operation → operation.state ≠ .prepared →
    operation.releasedAt = none → s.pool.activeOperationId = some id
  claimedOnce : history.claims.Nodup
  claimed : ∀ id operation, s.operations.get id = some operation → operation.state ≠ .prepared → id ∈ history.claims
  /-- The nonces count up from the initial one in the order of the claims. -/
  nonces : ∀ place id, history.claims[place]? = some id → ∃ operation template, s.operations.get id = some operation ∧
    operation.state ≠ .prepared ∧ operation.template = some template ∧ template.nonce = accounting.initialNonce + place
  nextNonce : accounting.nextNonce = accounting.initialNonce + accounting.sequence + s.releasedCount
  queue : s.releasedCount ≤ 8
  settledOnce : (history.settlements.map (·.operationId)).Nodup
  /-- The settlements are the first claims, in the same order. -/
  settlements : history.settlements.map (·.operationId) = history.claims.take accounting.sequence
  sequence : accounting.sequence = history.settlements.length
  spentWei : accounting.spentWei = (history.settlements.map (·.evidence.fees.totalWei)).sum

theorem Recorded.treasury (recorded : Recorded history lane s) (held : s.pool.accounting = some accounting) :
    TreasuryLane history s accounting := by
  obtain ⟨represents, claims, settlements, debit⟩ := recorded
  obtain ⟨sequence, next, bounded⟩ := represents.accounted accounting held
  have queue := represents.queue
  have within := lane.ordered.trans lane.behind
  constructor
  case active =>
    intro id operation stored claimed unreleased
    obtain ⟨place, found, stands⟩ := represents.stands stored fun unclaimed => claimed unclaimed.prepared
    have past : ¬ place < lane.released := by
      rw [← stands.released, unreleased]
      exact Bool.false_ne_true
    obtain ⟨inside, _⟩ := List.getElem?_eq_some_iff.mp found
    have single := lane.single
    have last : place = lane.released := by omega
    rw [represents.active, ← found, last]
    rfl
  case claimedOnce => exact claims ▸ lane.distinct
  case claimed =>
    intro id operation stored claimed
    obtain ⟨place, found, _⟩ := represents.stands stored fun unclaimed => claimed unclaimed.prepared
    exact claims ▸ List.mem_of_getElem? found
  case nonces =>
    intro place id found
    obtain ⟨operation, stored, stands⟩ := represents.claimed place id (claims ▸ found)
    obtain ⟨template, templated, placed⟩ := stands.nonce
    exact ⟨operation, template, stored, stands.claimed, templated, placed accounting held⟩
  case nextNonce => omega
  case queue =>
    simp only [maximumUnsettled] at bounded
    omega
  case settledOnce =>
    rw [← settlements]
    exact lane.distinct.sublist (List.take_sublist ..)
  case settlements => rw [← settlements, ← claims, sequence, Lane.settlements]
  case sequence =>
    have length := congrArg List.length settlements
    rw [Lane.settlements, List.length_take_of_le within, List.length_map] at length
    exact sequence.trans length
  case spentWei =>
    have spent := represents.spent
    rw [held] at spent
    exact spent.trans debit

/-- The treasury lane, over every order of the methods and all evidence they accept. A fence that is
set stays, and after it nothing is claimed, leased, signed, released or settled. -/
theorem treasury_lane (run : StoreRuns rules config configuredAt history s) (held : s.pool.accounting = some accounting) :
    TreasuryLane history s accounting ∧ (accounting.fence ≠ none → ∀ later t, Run (Performs (perform rules)) s later t →
      t.pool.accounting = some accounting ∧ ∀ answer ∈ later, advances answer = false) := by
  obtain ⟨lane, recorded⟩ := run_recorded run
  refine ⟨recorded.treasury held, ?_⟩
  intro fenced later t after
  have keyed := keyed_run run
  suffices Keyed t ∧ t.pool.accounting = some accounting ∧ ∀ answer ∈ later, advances answer = false from this.2
  refine after.invariant (P := fun later t => Keyed t ∧ t.pool.accounting = some accounting ∧
    ∀ answer ∈ later, advances answer = false) ⟨keyed, held, by simp⟩ ?_
  intro earlier s answer t _ ⟨keyed, held, quiet⟩ performed
  obtain ⟨op, result⟩ := answer
  obtain ⟨outcome, rfl, effect⟩ | ⟨rfl, error, rfl⟩ := performs_effect keyed performed
  · obtain ⟨still, last⟩ := effect.fenced_stays held fenced
    refine ⟨keyed.kept effect, still, ?_⟩
    intro answer member
    obtain before | rfl := List.mem_append.mp member |>.imp_right List.mem_singleton.mp
    · exact quiet answer before
    · exact last
  · refine ⟨keyed, held, ?_⟩
    intro answer member
    obtain before | rfl := List.mem_append.mp member |>.imp_right List.mem_singleton.mp
    · exact quiet answer before
    · cases op <;> rfl

def sampleRules : Rules where
  document := fun _ _ => true
  verifyProof := fun _ _ _ _ => some "proof"
  call := fun _ => default
  commitments := fun _ _ => default
  recover := fun raw =>
    if raw = "0x01" then some ⟨0, 10, 1, 1, 0, 2, default, 101⟩
    else if raw = "0x02" then some ⟨1, 90, 1, 1, 0, 2, default, 102⟩ else none

def sampleConfiguration : WalletDeploymentPoolConfiguration :=
  ⟨"pool", 2, 100, 100, ⟨100, 100, 100, 100, 60000⟩⟩

def sampleEnrollment : WalletEnrollment := ⟨"enrollment", true, 10, 11, 12, 13, default⟩

def sampleApproval (id : String) : WalletDeploymentApproval := ⟨id, "enrollment", 13, 999000, 2000000, default⟩

def sampleHead : RestBlockEvidence := ⟨7, 70, 1000⟩

def sampleFunding (now : Int) (s : Store) : WalletDeploymentFundingEvidence where
  poolId := "pool"
  configurationDigest := sampleConfiguration
  poolRevision := s.pool.revision
  accountingDigest := s.pool.accounting
  environment := .baseMainnet 1
  head := sampleHead
  observedAt := now
  expiresAt := now + 10000
  confirmedNonce := (s.pool.accounting.map (·.nextNonce)).getD 0
  pendingNonce := (s.pool.accounting.map (·.nextNonce)).getD 0
  balanceWei := 100
  previousAnchor := none

def sampleTemplate (nonce gas : Nat) : WalletDeploymentTemplate := ⟨2, 10, 11, nonce, gas, 1, 1, default, default⟩

def sampleInitialize (s : Store) : Op :=
  .initializeAccounting ⟨⟨s.view, none⟩, sampleFunding 1000000 s, 0, 1000000, 1000001⟩

def samplePrepare (id : String) (_ : Store) : Op :=
  .prepare ⟨"pool", sampleApproval id, sampleEnrollment, [], .ok 999500, 1000000, 1000000⟩

def sampleClaim (id : String) (nonce gas : Nat) (s : Store) : Op :=
  .claim ⟨id, default, some (sampleFunding 1000000 s), ⟨2, 7, 70, nonce, nonce, 1000000, 13, 12, 11, gas, 1, 1⟩,
    sampleEnrollment, true, .ok false, 1000001, 1000001, 1000001, 1000001, 1000001, 1000001⟩

def sampleLease (id : String) (_ : Store) : Op := .leaseSigning ⟨id, 15000, sampleEnrollment, "token", 1000002⟩

def samplePersist (id raw : String) (_ : Store) : Op :=
  .persistSigned ⟨id, "token", 2, raw, sampleEnrollment, 1000003, 1000003, 1000003⟩

def sampleUnobserved (id : String) (hash : Word) (nonce gas : Nat) : WalletDeploymentObservation where
  operationId := id
  templateCommitment := sampleTemplate nonce gas
  transactionHash := hash
  observedAt := 1000004
  head := some sampleHead
  transaction := ⟨.notObserved, none, none, none, some ⟨nonce, nonce⟩⟩
  finality := ⟨.unknown, none⟩
  wallet := ⟨.undeployed, 10, 11, none, some sampleHead, none, none⟩
  executionWei := none

def sampleObserve (id : String) (hash : Word) (nonce gas : Nat) (_ : Store) : Op :=
  .saveObservation ⟨id, 3, hash, sampleUnobserved id hash nonce gas, sampleEnrollment, 1000005⟩

/-- The first operation as it was included. -/
def sampleInclusion (finality : Finality) (observedAt : Int) : WalletDeploymentObservation where
  operationId := "first"
  templateCommitment := sampleTemplate 0 10
  transactionHash := 101
  observedAt
  head := some sampleHead
  transaction := ⟨.canonicalSuccess, none, some ⟨⟨6, 60, 990⟩, 0, .success, 10, 1, 0, 1⟩, none, some ⟨1, 1⟩⟩
  finality
  wallet := ⟨.unknown, 10, 11, none, none, none, some "unread"⟩
  executionWei := some 10

def sampleInclude (finality : Finality) (revision : Int) (observedAt : Int) (_ : Store) : Op :=
  .saveObservation ⟨"first", revision, 101, sampleInclusion finality observedAt, sampleEnrollment, observedAt⟩

def sampleAdmission (id : String) (hash : Word) (nonce gas : Nat) (s : Store) : WalletDeploymentDispatchAdmission where
  version := .baseV1
  operationId := id
  poolConfigurationDigest := sampleConfiguration
  templateCommitment := sampleTemplate nonce gas
  transactionHash := hash
  operationRevision := 4
  observationDigest := sampleUnobserved id hash nonce gas
  environmentKind := .baseMainnet
  genesisHash := 1
  head := sampleHead
  observedAt := 1000005
  expiresAt := 1020000
  balanceWei := 100
  maximumExecutionCost := gas
  feeScope := .baseExecutionL1OperatorReserved
  baseTotalAffordability := .reserved
  accounting := s.pool.accounting.map (fun accounting => ⟨accounting, walletDeploymentRemainingWei s.view, accounting.nextNonce⟩)
  reservation := some ⟨1, 0, 0, gas⟩

def sampleDispatch (id : String) (hash : Word) (nonce gas : Nat) (s : Store) : Op :=
  .leaseDispatch ⟨id, 4, hash, sampleAdmission id hash nonce gas s, some 1000, sampleEnrollment, "dispatch", 1000006, 1000006⟩

def sampleAccepted (_ : Store) : Op :=
  .settleDispatch ⟨"first", 1, "dispatch", 101, true, sampleEnrollment, 1000007, 1000007, 1000007⟩

def sampleRelease (_ : Store) : Op := .release ⟨"first", 5, sampleEnrollment, 1000008⟩

def sampleFinality : Finality := ⟨.finalized, some ⟨7, 70, 1000⟩⟩

/-- A settlement of the first operation whose fees are above what it reserved. -/
def sampleSettle (s : Store) : Op :=
  match s.operations.get "first" with
  | none => .cleanup ⟨0, [], 0⟩
  | some operation => .settle ⟨⟨⟨s.view, sampleEnrollment, operation⟩, s.dispatches.get "first", none⟩,
      ⟨sampleFunding 1010000 s, "first", operation.revision, 101, sampleTemplate 0 10, sampleInclusion sampleFinality 1010000, 1,
        .base 10 10 0 20⟩, sampleEnrollment, 1010000, 1010001⟩

def sampleScript : List (Store → Op) :=
  [sampleInitialize, samplePrepare "first", samplePrepare "second", sampleClaim "first" 0 10, sampleLease "first",
    samplePersist "first" "0x01", sampleObserve "first" 101 0 10, sampleDispatch "first" 101 0 10, sampleAccepted,
    sampleInclude ⟨.unknown, none⟩ 4 1000007, sampleRelease, sampleClaim "second" 1 90, sampleLease "second",
    samplePersist "second" "0x02", sampleObserve "second" 102 1 90, sampleDispatch "second" 102 1 90,
    sampleInclude sampleFinality 5 1000008, sampleSettle]

def sampleRun : History × Store := performScript (perform sampleRules) (Store.configured sampleConfiguration 999000) sampleScript

theorem sampleRun_runs : StoreRuns sampleRules sampleConfiguration 999000 sampleRun.1 sampleRun.2 :=
  performScript_run sampleScript _

theorem sampleRun_accounted : sampleRun.2.pool.accounting.isSome = true := by
  decide +kernel

/-- A restore fences the pool. -/
def sampleFence (s : Store) : Op := .fenceAccounting ⟨⟨s.view, none⟩, .restoreRequired, 1010002, 1010003⟩

def sampleFenced : History × Store :=
  performScript (perform sampleRules) (Store.configured sampleConfiguration 999000) (sampleScript ++ [sampleFence])

theorem sampleFenced_fence : sampleFenced.2.pool.accounting.any (fun accounting => accounting.fence.isSome) = true := by
  decide +kernel

theorem treasury_lane_sample :
    TreasuryLane sampleRun.1 sampleRun.2 (sampleRun.2.pool.accounting.get sampleRun_accounted) ∧
      History.claims sampleRun.1 = ["first", "second"] ∧ (History.settlements sampleRun.1).length = 1 ∧
      ∀ answer ∈ (performScript (perform sampleRules) sampleFenced.2 [sampleRelease, sampleLease "second"]).1,
        advances answer = false := by
  refine ⟨(treasury_lane sampleRun_runs (Option.some_get _).symm).1, by decide +kernel, by decide +kernel, ?_⟩
  obtain ⟨accounting, held, fenced⟩ := (Option.any_eq_true _ _).mp sampleFenced_fence
  have fenced : accounting.fence ≠ none := Option.isSome_iff_ne_none.mp fenced
  exact ((treasury_lane (performScript_run (sampleScript ++ [sampleFence]) _) held).2 fenced _ _ (performScript_run _ _)).2

end JBCenter.Deployments
