import JBCenter.Deployments.Solvency

/-! What was observed of a deployment: times and heads go forward, and a finalized inclusion stays. -/
namespace JBCenter.Deployments
open Rest

variable {rules : Rules} {config : WalletDeploymentPoolConfiguration} {configuredAt : Int} {s t : Store} {op : Op}
  {outcome : Outcome} {history : History} {id : String} {prior next operation : WalletDeploymentOperation}
  {historical : Option WalletDeploymentObservation} {observation : WalletDeploymentObservation}

/-- A finalized observation keeps its receipt, and the block its finality rests on only moves up. -/
structure Confirms (retained later : WalletDeploymentObservation) : Prop where
  finalized : later.finality.state = .finalized
  receipt : later.transaction.receipt = retained.transaction.receipt
  evidence : ∃ prior next, retained.finality.evidence = some prior ∧ later.finality.evidence = some next ∧
    prior.blockNumber ≤ next.blockNumber ∧ (prior.blockNumber = next.blockNumber → next = prior)

theorem Confirms.trans {first second third : WalletDeploymentObservation} (earlier : Confirms first second)
    (later : Confirms second third) : Confirms first third := by
  obtain ⟨a, b, hasA, hasB, rises, same⟩ := earlier.evidence
  obtain ⟨b', c, hasB', hasC, rises', same'⟩ := later.evidence
  cases Option.some.inj (hasB.symm.trans hasB')
  refine ⟨later.finalized, later.receipt.trans earlier.receipt, a, c, hasA, hasC, rises.trans rises', ?_⟩
  intro level
  have first := same (by omega)
  have second := same' (by omega)
  exact second.trans first

/-- The history of an operation is of asserted inclusions, and a canonical last observation is of the same. -/
structure Retains (operation : WalletDeploymentOperation) : Prop where
  evidence : ∀ retained, operation.historicalCanonicalObservation = some retained → retained.finality.state = .finalized →
    ∃ block, retained.finality.evidence = some block
  agrees : ∀ last retained, operation.observation = some last → canonicalObservation last = true →
    operation.historicalCanonicalObservation = some retained → last.transaction.receipt = retained.transaction.receipt

/-- What a later version of an operation keeps of an earlier one. -/
structure Advances (prior next : WalletDeploymentOperation) : Prop where
  observedAt : ∀ earlier, prior.observation = some earlier → ∃ last, next.observation = some last ∧
    earlier.observedAt ≤ last.observedAt
  highestHead : ∀ earlier, prior.highestObservedHead = some earlier → ∃ highest, next.highestObservedHead = some highest ∧
    earlier ≤ highest
  finalized : ∀ retained, prior.historicalCanonicalObservation = some retained → retained.finality.state = .finalized →
    ∃ later, next.historicalCanonicalObservation = some later ∧ Confirms retained later

theorem Advances.trans {first second third : WalletDeploymentOperation} (earlier : Advances first second)
    (later : Advances second third) : Advances first third := by
  constructor
  · intro observed held
    obtain ⟨middle, has, before⟩ := earlier.observedAt observed held
    obtain ⟨last, holds, after⟩ := later.observedAt middle has
    exact ⟨last, holds, before.trans after⟩
  · intro head held
    obtain ⟨middle, has, before⟩ := earlier.highestHead head held
    obtain ⟨highest, holds, after⟩ := later.highestHead middle has
    exact ⟨highest, holds, before.trans after⟩
  · intro retained held finalized
    obtain ⟨middle, has, before⟩ := earlier.finalized retained held finalized
    obtain ⟨last, holds, after⟩ := later.finalized middle has before.finalized
    exact ⟨last, holds, before.trans after⟩

theorem Retains.advances (retains : Retains prior) (observed : next.observation = prior.observation)
    (highest : next.highestObservedHead = prior.highestObservedHead)
    (history : next.historicalCanonicalObservation = prior.historicalCanonicalObservation) : Advances prior next := by
  constructor
  · intro earlier held
    exact ⟨earlier, observed.trans held, le_rfl⟩
  · intro earlier held
    exact ⟨earlier, highest.trans held, le_rfl⟩
  · intro retained held finalized
    obtain ⟨block, evidence⟩ := retains.evidence retained held finalized
    exact ⟨retained, history.trans held, finalized, rfl, block, block, evidence, evidence, le_rfl, fun _ => rfl⟩

theorem finalized_evidence (asserted : assertWalletDeploymentObservation observation = .ok ())
    (finalized : observation.finality.state = .finalized) : ∃ block, observation.finality.evidence = some block := by
  have holds := refuse_ok.mp asserted
  simp only [Bool.not_eq_false', Bool.and_eq_true] at holds
  obtain ⟨⟨⟨⟨_, finality⟩, _⟩, _⟩, _⟩ := holds
  simp only [coherentFinality, finalized] at finality
  split at finality
  · exact ⟨_, by assumption⟩
  · cases finality

theorem Confirms.self {block : RestBlockEvidence} (finalized : observation.finality.state = .finalized)
    (evidence : observation.finality.evidence = some block) : Confirms observation observation :=
  ⟨finalized, rfl, block, block, evidence, evidence, le_rfl, fun _ => rfl⟩

structure HistoryAdvances (historical : Option WalletDeploymentObservation) (observation : WalletDeploymentObservation)
    (result : Option WalletDeploymentObservation) : Prop where
  still : canonicalObservation observation = false → result = historical
  agrees : canonicalObservation observation = true → ∃ retained, result = some retained ∧
    observation.transaction.receipt = retained.transaction.receipt ∧ (retained = observation ∨ historical = some retained)
  confirms : ∀ retained block, historical = some retained → retained.finality.state = .finalized →
    retained.finality.evidence = some block → ∃ later, result = some later ∧ Confirms retained later

theorem advanceHistory_ok {result : Option WalletDeploymentObservation}
    (advanced : advanceHistory historical observation = .ok result) :
    HistoryAdvances historical observation result := by
  unfold advanceHistory at advanced
  split at advanced
  · rename_i uncanonical
    cases advanced
    refine ⟨fun _ => rfl, ?_, fun retained block held finalized evidence => ⟨retained, held, .self finalized evidence⟩⟩
    intro canonical
    simp [canonical] at uncanonical
  · rename_i canonical
    have canonical : canonicalObservation observation = true := by simpa using canonical
    have uncanonical {holds : Prop} : canonicalObservation observation = false → holds :=
      fun uncanonical => nomatch canonical.symm.trans uncanonical
    split at advanced
    · cases advanced
      refine ⟨uncanonical, fun _ => ⟨observation, rfl, rfl, Or.inl rfl⟩, ?_⟩
      intro retained block held
      cases held
    · rename_i retained
      split at advanced
      · rename_i unfinalized
        cases advanced
        refine ⟨uncanonical, fun _ => ⟨observation, rfl, rfl, Or.inl rfl⟩, ?_⟩
        intro other block held finalized
        cases held
        simp [finalized] at unfinalized
      · obtain ⟨same, advanced⟩ := ok_refuse advanced
        simp only [Bool.or_eq_false_iff, bne_eq_false_iff_eq] at same
        split at advanced
        · cases advanced
          refine ⟨uncanonical, fun _ => ⟨retained, rfl, same.1, Or.inr rfl⟩, ?_⟩
          intro other block held finalized evidence
          cases held
          exact ⟨retained, rfl, .self finalized evidence⟩
        · rename_i finalized
          have finalized : observation.finality.state = .finalized := by simpa using finalized
          split at advanced
          · rename_i later earlier hasLater hasEarlier
            obtain ⟨rises, advanced⟩ := ok_refuse advanced
            cases advanced
            simp only [Bool.or_eq_false_iff, decide_eq_false_iff_not, not_lt, Bool.and_eq_false_iff, bne_eq_false_iff_eq] at rises
            refine ⟨uncanonical, fun _ => ⟨observation, rfl, rfl, Or.inl rfl⟩, ?_⟩
            intro other block held _ _
            cases held
            refine ⟨observation, rfl, finalized, same.1, earlier, later, hasEarlier, hasLater, rises.1, ?_⟩
            intro level
            exact rises.2.resolve_left fun differ => differ level.symm
          · cases advanced

theorem Observes.advances {request : SaveObservationRequest} {highestHead : Option Nat} (retains : Retains prior)
    (observes : Observes s request prior historical highestHead) :
    Retains (observedAs request prior historical highestHead) ∧ Advances prior (observedAs request prior historical highestHead) ∧
      ∀ retained, prior.historicalCanonicalObservation = some retained → retained.finality.state = .finalized →
        request.observation.transaction.state ≠ .nonceConflict := by
  have advanced := observes.advanced
  unfold advanceObservation at advanced
  obtain ⟨forward, advanced⟩ := ok_refuse advanced
  obtain ⟨_, advanced⟩ := ok_refuse advanced
  obtain ⟨unconflicted, advanced⟩ := ok_refuse advanced
  obtain ⟨result, history, advanced⟩ := ok_bind advanced
  cases advanced
  have history := advanceHistory_ok history
  refine ⟨?_, ?_, ?_⟩
  · constructor
    · intro retained held finalized
      cases canonical : canonicalObservation request.observation with
      | false =>
        rw [show historical = _ from history.still canonical] at held
        exact retains.evidence retained held finalized
      | true =>
        obtain ⟨own, isOwn, _, origin⟩ := history.agrees canonical
        cases Option.some.inj (isOwn.symm.trans held)
        obtain rfl | before := origin
        · exact finalized_evidence observes.asserted finalized
        · exact retains.evidence _ before finalized
    · intro last retained isLast canonical held
      cases isLast
      obtain ⟨own, isOwn, same, _⟩ := history.agrees canonical
      cases Option.some.inj (isOwn.symm.trans held)
      exact same
  · constructor
    · intro earlier held
      refine ⟨request.observation, rfl, ?_⟩
      simpa [held] using forward
    · intro earlier held
      simp only [observedAs, advanceHead, held]
      cases request.observation.head with
      | none => exact ⟨earlier, rfl, le_rfl⟩
      | some head =>
        refine ⟨_, rfl, ?_⟩
        split
        · omega
        · exact le_rfl
    · intro retained held finalized
      obtain ⟨block, evidence⟩ := retains.evidence retained held finalized
      exact history.confirms retained block held finalized evidence
  · intro retained held finalized conflicted
    simp [held, finalized, conflicted] at unconflicted

theorem Rewrite.advances (rewrites : Rewrite s op prior next) (retains : Retains prior) : Retains next ∧ Advances prior next := by
  cases rewrites with
  | same => exact ⟨retains, retains.advances rfl rfl rfl⟩
  | signing => exact ⟨⟨retains.evidence, retains.agrees⟩, retains.advances rfl rfl rfl⟩
  | signed => exact ⟨⟨retains.evidence, retains.agrees⟩, retains.advances rfl rfl rfl⟩
  | observed _ observes =>
    obtain ⟨still, advances, _⟩ := observes.advances retains
    exact ⟨still, advances⟩
  | released => exact ⟨⟨retains.evidence, retains.agrees⟩, retains.advances rfl rfl rfl⟩
  | settled => exact ⟨⟨retains.evidence, retains.agrees⟩, retains.advances rfl rfl rfl⟩

def Retained (s : Store) : Prop := ∀ id operation, s.operations.get id = some operation → Retains operation

theorem Retained.put (retained : Retained s) (retains : Retains operation) : Retained (s.putOperation operation) := by
  intro id other stored
  rw [Store.get_putOperation] at stored
  split at stored
  · cases stored
    exact retains
  · exact retained id other stored

theorem Retained.kept (retained : Retained s) (effect : Effect s op outcome t) : Retained t := by
  cases effect with
  | replayed => exact retained
  | initialized => exact retained
  | fenced => exact retained
  | settled settles => exact retained.put ((Rewrite.settled rfl settles).advances (retained _ _ settles.stored)).1
  | released releases => exact retained.put ((Rewrite.released rfl releases).advances (retained _ _ releases.stored)).1
  | prepared =>
    refine Retained.put (fun id operation left => retained id operation (Store.sweep_some left)) ⟨?_, ?_⟩
    · intro retained held
      cases held
    · intro last retained held
      cases held
  | cleaned => exact fun id operation left => retained id operation (Store.sweep_some left)
  | @claimed request operation template proof claims =>
    have retains := retained _ _ claims.stored
    have claimed : Retains (claimedAs request operation proof template) := ⟨retains.evidence, retains.agrees⟩
    exact retained.put claimed
  | signing leases => exact retained.put ((Rewrite.signing rfl leases).advances (retained _ _ leases.stored)).1
  | signed signs => exact retained.put ((Rewrite.signed rfl signs).advances (retained _ _ signs.stored)).1
  | observed observes => exact retained.put ((Rewrite.observed rfl observes).advances (retained _ _ observes.stored)).1
  | dispatched => exact retained
  | dispatchSettled => exact retained

def newObservation (id : String) (answer : Answer Op RestError Outcome) : Option WalletDeploymentObservation :=
  match answer.op, answer.result with
  | .saveObservation request, .ok (.operation _ false) => if request.operationId = id then some request.observation else none
  | _, _ => none

/-- The receipt a release or a settlement of an operation acted on. -/
def actsOn (id : String) (answer : Answer Op RestError Outcome) : Option (Option Receipt) :=
  match answer.op, answer.result with
  | .release request, .ok (.released operation _ false) =>
    if request.operationId = id ∧ operation.releasedAt.isSome = true then
      some (operation.observation.bind (·.transaction.receipt)) else none
  | .settle _, .ok (.settlement (some receipt) _ false) =>
    if receipt.operationId = id then some receipt.evidence.observation.transaction.receipt else none
  | _, _ => none

section Finalized
variable {retained : WalletDeploymentObservation} (effect : Effect s op outcome t) (stored : s.operations.get id = some prior)
  (retains : Retains prior) (held : prior.historicalCanonicalObservation = some retained)
  (finalized : retained.finality.state = .finalized)
include effect stored held finalized

theorem Effect.unconflicted (retains : Retains prior) (given : newObservation id ⟨op, .ok outcome⟩ = some observation) :
    observation.transaction.state ≠ .nonceConflict := by
  unfold newObservation at given
  split at given
  · rename_i request operation isOp isOutcome
    cases isOp
    cases isOutcome
    split at given
    · rename_i named
      cases given
      cases effect with
      | replayed again => cases again
      | fenced _ _ fences => cases fences
      | @observed _ current historical highestHead observes =>
        rw [← named, ← observes.named] at stored
        cases Option.some.inj (observes.stored.symm.trans stored)
        exact (observes.advances retains).2.2 retained held finalized
    · cases given
  · cases given

theorem Effect.acts_on_retained (retains : Retains prior) {receipt : Option Receipt}
    (given : actsOn id ⟨op, .ok outcome⟩ = some receipt) : receipt = retained.transaction.receipt := by
  unfold actsOn at given
  split at given
  · rename_i request operation pool isOp isOutcome
    cases isOp
    cases isOutcome
    split at given
    · rename_i acts
      cases given
      cases effect with
      | replayed again => cases again
      | fenced _ _ fences =>
        cases fences with
        | releasing _ _ unreleased =>
          rw [unreleased] at acts
          cases acts.2
      | @released _ _ accounting current template signed observation releases =>
        rw [← acts.1, ← releases.named] at stored
        cases Option.some.inj (releases.stored.symm.trans stored)
        change prior.observation.bind (·.transaction.receipt) = _
        rw [releases.observed]
        exact retains.agrees observation retained releases.observed releases.canonical held
    · cases given
  · rename_i request settlement pool isOp isOutcome
    cases isOp
    cases isOutcome
    split at given
    · rename_i named
      cases given
      cases effect with
      | replayed again => cases again
      | fenced _ _ fences => cases fences
      | @settled _ _ accounting current template settles =>
        subst named
        cases Option.some.inj (settles.stored.symm.trans stored)
        have agrees := settles.finalized
        simp only [settledObservation, held, finalized, Bool.and_eq_true, Option.all_some, Bool.or_eq_true, Bool.not_eq_true',
          decide_eq_false_iff_not, decide_eq_true_eq, not_true_eq_false, false_or] at agrees
        exact agrees.2.symm
    · cases given
  · cases given

end Finalized
/-- What a run from a claimed operation has of it so far. -/
structure Followed (id : String) (prior : WalletDeploymentOperation) (later : History) (t : Store) : Prop where
  keyed : Keyed t
  retained : Retained t
  row : ∃ next, t.operations.get id = some next ∧ next.state ≠ .prepared ∧ Advances prior next
  permanent : ∀ retained, prior.historicalCanonicalObservation = some retained → retained.finality.state = .finalized →
    ∀ answer ∈ later, (∀ observation, newObservation id answer = some observation →
        observation.transaction.state ≠ .nonceConflict) ∧
      ∀ receipt, actsOn id answer = some receipt → receipt = retained.transaction.receipt

theorem Followed.step {later : History} (followed : Followed id prior later s) (effect : Effect s op outcome t) :
    Followed id prior (later ++ [⟨op, .ok outcome⟩]) t := by
  obtain ⟨keyed, retained, ⟨row, stored, claimed, advances⟩, permanent⟩ := followed
  have retains := retained id row stored
  obtain ⟨next, held, rewrite⟩ := effect.rewrites stored claimed
  refine ⟨keyed.kept effect, retained.kept effect, ⟨next, held, ?_, advances.trans (rewrite.advances retains).2⟩, ?_⟩
  · cases rewrite with
    | signed => simp [signedAs]
    | same => exact claimed
    | signing => exact claimed
    | observed => exact claimed
    | released => exact claimed
    | settled => exact claimed
  · intro earlier isEarlier finalized answer member
    obtain before | same := List.mem_append.mp member
    · exact permanent earlier isEarlier finalized answer before
    · rw [List.mem_singleton.mp same]
      obtain ⟨middle, isMiddle, confirms⟩ := advances.finalized earlier isEarlier finalized
      constructor
      · intro observation given
        exact effect.unconflicted stored isMiddle confirms.finalized retains given
      · intro receipt given
        exact (effect.acts_on_retained stored isMiddle confirms.finalized retains given).trans confirms.receipt

theorem retained_run (run : StoreRuns rules config configuredAt history s) : Retained s := by
  refine run.invariant (P := fun _ s => Retained s) (fun id operation stored => nomatch stored) ?_
  intro history s answer t past retained performed
  obtain ⟨outcome, _, effect⟩ | ⟨rfl, _⟩ := performs_effect (keyed_run past) performed
  · exact retained.kept effect
  · exact retained

/-- Observations of a signed deployment are monotone. A finalized inclusion stays with its receipt, no
conflict of the nonce is accepted after it, and releases and settlements act on that receipt. -/
theorem observations_monotone {later : History} (run : StoreRuns rules config configuredAt history s)
    (stored : s.operations.get id = some prior) (signed : prior.state = .signed)
    (after : Run (Performs (perform rules)) s later t) :
    ∃ next, t.operations.get id = some next ∧ Advances prior next ∧
      ∀ retained, prior.historicalCanonicalObservation = some retained → retained.finality.state = .finalized →
        ∀ answer ∈ later, (∀ observation, newObservation id answer = some observation →
            observation.transaction.state ≠ .nonceConflict) ∧
          ∀ receipt, actsOn id answer = some receipt → receipt = retained.transaction.receipt := by
  have start : Followed id prior [] s := by
    refine ⟨keyed_run run, retained_run run, ⟨prior, stored, by simp [signed], ?_⟩, by simp⟩
    exact (retained_run run id prior stored).advances rfl rfl rfl
  have followed : Followed id prior later t := by
    refine after.invariant (P := fun later t => Followed id prior later t) start ?_
    intro earlier s answer t _ followed performed
    obtain ⟨op, result⟩ := answer
    obtain ⟨outcome, rfl, effect⟩ | ⟨rfl, error, rfl⟩ := performs_effect followed.keyed performed
    · exact followed.step effect
    · refine ⟨followed.keyed, followed.retained, followed.row, ?_⟩
      intro retained held finalized answer member
      obtain before | same := List.mem_append.mp member
      · exact followed.permanent retained held finalized answer before
      · rw [List.mem_singleton.mp same]
        constructor
        · intro observation given
          cases op <;> cases given
        · intro receipt given
          cases op <;> cases given
  obtain ⟨next, held, _, advances⟩ := followed.row
  exact ⟨next, held, advances, followed.permanent⟩

/-- The sample run until the first operation is observed as finalized, and its settlement after that. -/
def sampleObserved : History × Store :=
  performScript (perform sampleRules) (Store.configured sampleConfiguration 999000) (sampleScript.take 17)

def sampleSettlement : History × Store := performScript (perform sampleRules) sampleObserved.2 [sampleSettle]

theorem sampleObserved_signed : (sampleObserved.2.operations.get "first").isSome = true ∧
    ((sampleObserved.2.operations.get "first").map (·.state)) = some .signed := by
  decide +kernel

theorem observations_monotone_sample : (∃ next, sampleSettlement.2.operations.get "first" = some next ∧
    Advances ((sampleObserved.2.operations.get "first").get sampleObserved_signed.1) next) ∧
    sampleSettlement.1.map (actsOn "first") = [some (sampleInclusion sampleFinality 1000008).transaction.receipt] := by
  have stored := (Option.some_get sampleObserved_signed.1).symm
  have signed := sampleObserved_signed.2
  rw [stored, Option.map_some, Option.some.injEq] at signed
  obtain ⟨next, held, advances, _⟩ := observations_monotone (performScript_run (sampleScript.take 17) _) stored signed
    (performScript_run [sampleSettle] sampleObserved.2)
  exact ⟨⟨next, held, advances⟩, by decide +kernel⟩

end JBCenter.Deployments
