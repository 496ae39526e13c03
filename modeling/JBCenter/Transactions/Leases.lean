import JBCenter.Transactions.Steps
import Mathlib.Data.List.Chain

/-! Dispatch leases. The clock of a claim is the one the store reads: the caller's, moved
on by the whole milliseconds the claim waited for the account authority. The store compares
a renewed lease with the one it renews, so tokens differ between neighbours only. -/
namespace JBCenter.Transactions
open Rest
variable {bytes : JsonBytes} {id : String} {i : Nat} {s t : Memory}

/-- The claims that let their caller dispatch one step, in the order they were answered. -/
def dispatches (history : List Event) (id : String) (i : Nat) : List SubmissionClaim :=
  history.filterMap (Event.dispatched id i)

theorem dispatches_snoc (history : List Event) (event : Event) :
    dispatches (history ++ [event]) id i = dispatches history id i ++ (event.dispatched id i).toList := by
  cases answer : event.dispatched id i <;> simp [dispatches, answer]

/-- The signed transaction of an attempt, as it was first written. -/
def SignedAttempt.identity (attempt : SignedAttempt) : AttemptIdentity where
  hash := attempt.hash
  rawTransaction := attempt.rawTransaction
  sender := attempt.sender
  chainId := attempt.chainId
  nonce := attempt.nonce
  type := attempt.type
  gas := attempt.gas
  maximumFeePerGas := attempt.maximumFeePerGas
  maximumCost := attempt.maximumCost

/-- The lease a step holds, against every dispatch answered for it. -/
structure Leased (attempt : SignedAttempt) (claims : List SubmissionClaim) : Prop where
  count : attempt.dispatchCount = claims.length
  token : ∀ last ∈ claims.getLast?, attempt.leaseToken = last.attempt.leaseToken
  latest : ∀ claim ∈ claims, claim.attempt.leaseUntil ≤ attempt.leaseUntil
  lapsed : claims.Pairwise (fun earlier later => earlier.attempt.leaseUntil ≤ later.now)
  renewed : claims.IsChain (fun earlier later => earlier.attempt.leaseToken ≠ later.attempt.leaseToken)

def StepLeased (step : Option StoredStep) (claims : List SubmissionClaim) : Prop :=
  match step.bind StoredStep.attempt with
  | none => claims = []
  | some attempt => Leased attempt claims

theorem Leased.of_core (leased : Leased held claims) (same : held.core = attempt.core) :
    Leased attempt claims := by
  have count : held.dispatchCount = attempt.dispatchCount :=
    (congrArg SignedAttempt.dispatchCount same : held.core.dispatchCount = attempt.core.dispatchCount)
  have token : held.leaseToken = attempt.leaseToken :=
    (congrArg SignedAttempt.leaseToken same : held.core.leaseToken = attempt.core.leaseToken)
  have lease : held.leaseUntil = attempt.leaseUntil :=
    (congrArg SignedAttempt.leaseUntil same : held.core.leaseUntil = attempt.core.leaseUntil)
  exact ⟨count ▸ leased.count, token ▸ leased.token, lease ▸ leased.latest, leased.lapsed, leased.renewed⟩

theorem Leased.first (claim : SubmissionClaim) : Leased (dispatchedAttempt none claim.attempt) [claim] where
  count := rfl
  token := by simp [dispatchedAttempt]
  latest := by simp [dispatchedAttempt]
  lapsed := List.pairwise_singleton _ _
  renewed := List.isChain_singleton _

theorem Leased.renew (leased : Leased held claims) (current : claim.now < claim.attempt.leaseUntil)
    (ended : held.leaseUntil ≤ claim.now) (fresh : held.leaseToken ≠ claim.attempt.leaseToken) :
    Leased (dispatchedAttempt (some held) claim.attempt) (claims ++ [claim]) := by
  have earlier : ∀ other ∈ claims, other.attempt.leaseUntil ≤ claim.now :=
    fun other member => Int.le_trans (leased.latest other member) ended
  refine ⟨?_, by simp [dispatchedAttempt], ?_, ?_, ?_⟩
  · simp only [dispatchedAttempt, leased.count, List.length_append, List.length_singleton]
    omega
  · intro other member
    change _ ≤ claim.attempt.leaseUntil
    rcases List.mem_append.mp member with member | member
    · have bound := earlier other member
      omega
    · rw [List.mem_singleton.mp member]
  · rw [List.pairwise_append]
    refine ⟨leased.lapsed, List.pairwise_singleton _ _, ?_⟩
    intro other member last final
    rw [List.mem_singleton.mp final]
    exact earlier other member
  · rw [List.isChain_append]
    refine ⟨leased.renewed, List.isChain_singleton _, ?_⟩
    intro last final next head
    cases head
    rw [← leased.token last final]
    exact fresh

theorem recorded_leased (attempt : SignedAttempt) : Leased (recordedAttempt attempt) [] :=
  ⟨rfl, by simp, by simp, List.Pairwise.nil, List.IsChain.nil⟩

theorem claimed_leased (how : Claimed plan claim old new dispatch) (before : StepLeased (some old) claims) :
    StepLeased (some new) (claims ++ (if dispatch then some claim else none).toList) := by
  unfold StepLeased at before
  cases how with
  | recorded unsigned =>
    simp only [Option.bind_some, unsigned] at before
    rw [before]
    exact recorded_leased claim.attempt
  | dispatched lapsed current =>
    cases held : old.attempt with
    | none =>
      simp only [Option.bind_some, held] at before
      simp only [StepLeased, Option.bind_some, before, if_true, Option.toList_some, List.nil_append]
      exact Leased.first claim
    | some attempt =>
      simp only [Option.bind_some, held] at before
      simp only [StepLeased, Option.bind_some, if_true, Option.toList_some]
      exact before.renew current (lapsed attempt held).1 (lapsed attempt held).2

theorem evolved_leased (how : Evolved reserved i old new) (before : StepLeased (some old) claims) :
    StepLeased (some new) claims := by
  unfold StepLeased at before ⊢
  simp only [Option.bind_some] at before ⊢
  rcases how with kept | attached
  · have same := kept.attempt
    cases held : old.attempt with
    | none =>
      rw [held, Option.map_none, Option.map_eq_none_iff] at same
      rw [held] at before
      rw [same]
      exact before
    | some attempt =>
      rw [held, Option.map_some, Option.map_eq_some_iff] at same
      obtain ⟨later, present, same⟩ := same
      rw [held] at before
      rw [present]
      exact before.of_core same.symm
  · rw [attached.unsigned] at before
    rw [attached.still]
    exact before

theorem change_leased (change : StepChange s event id i before after) (leased : StepLeased before claims) :
    StepLeased after (claims ++ (event.dispatched id i).toList) := by
  cases change with
  | absent quiet => simpa only [quiet, Option.toList_none, List.append_nil] using leased
  | fresh quiet unsigned unbound =>
    have none : claims = [] := leased
    simp only [quiet, none, StepLeased, Option.bind_some, unsigned, Option.toList_none, List.append_nil]
  | evolved quiet how _ =>
    rw [quiet, Option.toList_none, List.append_nil]
    exact evolved_leased how leased
  | claimed _ _ _ _ how answer =>
    rw [answer]
    exact claimed_leased how leased

theorem run_leased (run : Runs bytes history s) (id : String) (i : Nat) :
    StepLeased (s.stepAt id i) (dispatches history id i) := by
  refine run_invariant (P := fun history s => StepLeased (s.stepAt id i) (dispatches history id i)) run rfl ?_ ?_
  · intro history s op error leased
    rw [dispatches_snoc]
    cases op <;> simpa only [Event.dispatched, Option.toList_none, List.append_nil] using leased
  · intro history s op outcome t leased effect
    rw [dispatches_snoc]
    exact change_leased (effect_step effect id i) leased

/-- The step still holds the signed transaction it once held. -/
def HoldsIdentity (identity : AttemptIdentity) (step : Option StoredStep) : Prop :=
  ∃ attempt, step.bind StoredStep.attempt = some attempt ∧ attempt.identity = identity

theorem change_identity (change : StepChange s event id i before after)
    (holds : HoldsIdentity identity before) : HoldsIdentity identity after := by
  obtain ⟨held, present, same⟩ := holds
  cases change with
  | absent => cases present
  | fresh => cases present
  | evolved _ how =>
    rcases how with kept | attached
    · have kept := kept.attempt
      rw [Option.bind_some] at present
      rw [present, Option.map_some, Option.map_eq_some_iff] at kept
      obtain ⟨later, stored, core⟩ := kept
      have identity : later.identity = held.identity :=
        (congrArg SignedAttempt.identity core : later.core.identity = held.core.identity)
      exact ⟨later, stored, identity.trans same⟩
    · rw [Option.bind_some, attached.unsigned] at present
      contradiction
  | claimed _ _ _ _ how =>
    rw [Option.bind_some] at present
    cases how with
    | recorded unsigned =>
      rw [unsigned] at present
      contradiction
    | dispatched =>
      refine ⟨_, rfl, ?_⟩
      rw [present]
      exact same

theorem run_identity (bounded : s.Bounded bytes) (run : Run (Step bytes) s later t)
    (holds : HoldsIdentity identity (s.stepAt id i)) : HoldsIdentity identity (t.stepAt id i) := by
  refine (run.state_invariant
    (P := fun t => t.Bounded bytes ∧ HoldsIdentity identity (t.stepAt id i)) ⟨bounded, holds⟩ ?_).2
  intro state event next kept stepped
  refine ⟨step_bounded kept.1 stepped, ?_⟩
  obtain ⟨_, _, rfl⟩ | ⟨_, _, effect⟩ := step_cases kept.1 stepped
  · exact kept.2
  · exact change_identity (effect_step effect id i) kept.2

/-- Two dispatches of one step, as a fully fresh lease token would have them. -/
def FullyExclusive (claims : List SubmissionClaim) : Prop :=
  claims.Pairwise (fun earlier later => earlier.attempt.leaseToken ≠ later.attempt.leaseToken ∧
    earlier.attempt.leaseUntil ≤ later.now)

/-- Every dispatch of a step waits for all earlier leases of it, and a renewal changes the
token of the lease it renews; the signed transaction never changes, and the count of the
step is the number of dispatches answered. -/
theorem dispatch_leases (run : Runs bytes history s) (id : String) (i : Nat) :
    (dispatches history id i).Pairwise (fun earlier later => earlier.attempt.leaseUntil ≤ later.now) ∧
    (dispatches history id i).IsChain
      (fun earlier later => earlier.attempt.leaseToken ≠ later.attempt.leaseToken) ∧
    ((s.stepAt id i).bind StoredStep.attempt = none → dispatches history id i = []) ∧
    ∀ attempt, (s.stepAt id i).bind StoredStep.attempt = some attempt →
      attempt.dispatchCount = (dispatches history id i).length ∧
      ∀ later t, Run (Step bytes) s later t →
        ∃ attempt', (t.stepAt id i).bind StoredStep.attempt = some attempt' ∧
          attempt'.identity = attempt.identity := by
  have leased := run_leased run id i
  unfold StepLeased at leased
  split at leased
  · rename_i unsigned
    rw [leased]
    exact ⟨List.Pairwise.nil, List.IsChain.nil, fun _ => rfl, by simp [unsigned]⟩
  · rename_i attempt signed
    refine ⟨leased.lapsed, leased.renewed, by simp [signed], ?_⟩
    intro held present
    cases present.symm.trans signed
    exact ⟨leased.count, fun later t continued =>
      run_identity (run_bounded run) continued ⟨_, present, rfl⟩⟩

/-- Three dispatches at a rising clock, the third with the token of the first. -/
def tokenReuse : List Op :=
  [sampleCreate, .claimSubmission (sampleClaim 0 "first" 0) 0 (.ok ()),
    .claimSubmission (sampleClaim 10 "second" 1) 0 (.ok ()),
    .claimSubmission (sampleClaim 20 "first" 2) 0 (.ok ())]

theorem tokenReuse_tokens : (dispatches (performAll sampleBytes .empty tokenReuse).1 "plan" 0).map
    (fun claim => claim.attempt.leaseToken) = ["first", "second", "first"] ∧
    (((performAll sampleBytes .empty tokenReuse).2.stepAt "plan" 0).bind StoredStep.attempt).isSome = true := by
  decide +kernel

theorem dispatch_leases_sample : ∃ attempt,
    ((performAll sampleBytes .empty tokenReuse).2.stepAt "plan" 0).bind StoredStep.attempt = some attempt ∧
    attempt.dispatchCount = 3 ∧
    (dispatches (performAll sampleBytes .empty tokenReuse).1 "plan" 0).Pairwise
      (fun earlier later => earlier.attempt.leaseUntil ≤ later.now) := by
  obtain ⟨lapsed, _, _, held⟩ := dispatch_leases (performAll_run tokenReuse .empty) "plan" 0
  obtain ⟨attempt, found⟩ := Option.isSome_iff_exists.mp tokenReuse_tokens.2
  have three := congrArg List.length tokenReuse_tokens.1
  rw [List.length_map] at three
  refine ⟨attempt, found, ?_, lapsed⟩
  rw [(held attempt found).1, three]
  rfl

theorem dispatch_token_reused :
    Runs sampleBytes (performAll sampleBytes .empty tokenReuse).1 (performAll sampleBytes .empty tokenReuse).2 ∧
    ¬ FullyExclusive (dispatches (performAll sampleBytes .empty tokenReuse).1 "plan" 0) := by
  refine ⟨performAll_run tokenReuse .empty, ?_⟩
  intro exclusive
  have differ := List.pairwise_map.mpr (exclusive.imp fun pair => pair.1)
  rw [tokenReuse_tokens.1] at differ
  simp at differ

end JBCenter.Transactions
