import JBCenter.Sponsor.LaneRules
import JBCenter.Sponsor.Worker

/-! Rules for a claim. Apart from its lane call a claim only reads, closes rows of its own and gives them back, so
whatever these operations keep is kept by the claim. -/
namespace JBCenter.Sponsor
open JBCenter.Action (safe_bind safe_each safe_imp safe_modify safe_mono safe_pure safe_read)

/-- Row updates that write no bundle and no charge and open no row. -/
def DeployPatch.mild (patch : DeployPatch) : Bool :=
  patch.bundleUuid.isNone && patch.spentWei.isNone &&
    (patch.status = none || patch.status = some .failed || patch.status = some .confirmed)

/-- Operations that leave the store as it is, and the points of the code that nothing hangs on. -/
def Op.idle : Op → Bool
  | .query (.selectIntent _) => true
  | .query (.selectDeployments _) => true
  | .query (.selectDeploys _) => true
  | .query _ => false
  | .external request => request.reads
  | .mark (.deploy _ _) => false
  | .mark (.resume _ _ _) => false
  | .mark _ => true

/-- What a claim does beside its lane call, and with the outcomes the lane reports. -/
def Op.easy (intentId : String) (chainIds : List Nat) : Op → Prop
  | .query (.updateDeploy owner _ patch _) => owner = intentId ∧ patch.mild = true
  | .query (.recordDeployment owner _ _) => owner = intentId
  | .query (.releaseClaim owner chains) => owner = intentId ∧ chains = chainIds
  | op => op.idle = true

section
variable {W : Type} {S : Setting Op Failure Op.Result W} {known : W → Prop} {intent : Intent} {chainIds : List Nat}
variable {options : LaneOptions} {chainId : Nat} {l : Locals} {w : W} {err : Failure → Locals → W → Prop}

/-- What is known survives the operation, whatever is answered. -/
def Survives (S : Setting Op Failure Op.Result W) (known : W → Prop) (op : Op) : Prop :=
  ∀ {l : Locals} {w : W}, known w → (Action.request op : Act op.Result).safe S l
    (fun _ l' w' => l' = l ∧ known w') (fun _ l' w' => l' = l ∧ known w') w

def Eased (S : Setting Op Failure Op.Result W) (intentId : String) (chainIds : List Nat) (known : W → Prop) : Prop :=
  ∀ op : Op, op.easy intentId chainIds → Survives S known op

theorem safe_unlessDone {ok : Unit → Locals → W → Prop} {action : Act Unit} (skipped : chainId ∈ l.done → ok () l w)
    (safely : chainId ∉ l.done → action.safe S l ok err w) : (unlessDone chainId action).safe S l ok err w := by
  refine safe_bind (safe_read ?_)
  split
  · next done => exact safe_pure (skipped (by simpa using done))
  · next missing => exact safely (by simpa using missing)

namespace Eased
variable (easy : Eased S intent.id chainIds known)
include easy

theorem update {patch : DeployPatch} (mild : patch.mild = true) (now : known w) :
    (updateDeploy intent.id chainId patch).safe S l (fun _ l' w' => l' = l ∧ known w') (fun _ l' w' => l' = l ∧ known w') w :=
  safe_bind (safe_read (easy (.query (.updateDeploy ..)) ⟨rfl, mild⟩ now))

theorem fail {message : String} (now : known w) : (fail intent.id chainId message).safe S l
    (fun _ l' w' => l' = { l with done := l.done ++ [chainId] } ∧ known w') (fun _ l' w' => l' = l ∧ known w') w := by
  refine safe_bind (safe_imp (easy.update rfl now) ?_)
  rintro _ l' w ⟨rfl, now⟩
  exact safe_modify ⟨rfl, now⟩

theorem record {hash projectId : String} (now : known w) : (Report.record intent chainId hash projectId).safe S l
    (fun _ l' w' => l'.done = l.done ++ [chainId] ∧ known w') (fun _ l' w' => l' = l ∧ known w') w := by
  refine safe_bind (safe_imp (easy (.external (.verify ..)) rfl now) ?_)
  rintro _ l' w ⟨rfl, now⟩
  refine safe_bind (safe_imp (easy (.query (.recordDeployment ..)) rfl now) ?_)
  rintro _ l' w ⟨rfl, now⟩
  refine safe_bind (safe_imp (easy.update rfl now) ?_)
  rintro _ l' w ⟨rfl, now⟩
  exact safe_modify ⟨rfl, now⟩

theorem confirmed {hash projectId : String} (now : known w) : (Report.confirmed intent chainId hash projectId).safe S l
    (fun _ l' w' => l'.done = l.done ++ [chainId] ∧ known w') (fun _ _ => known) w := by
  refine safe_catching (easy.record now) ?_
  rintro error l₁ w ⟨rfl, now⟩
  refine safe_mono (easy (.mark (.caught ..)) rfl now) ?_ (fun _ _ _ => And.right)
  rintro _ l' w ⟨rfl, now⟩
  refine safe_bind (safe_mono (easy.update rfl now) ?_ (fun _ _ _ => And.right))
  rintro _ l' w ⟨rfl, now⟩
  exact safe_modify ⟨rfl, now⟩

theorem failAll {message : String} (now : known w) :
    (Action.each (fun chainId => unlessDone chainId (Sponsor.fail intent.id chainId message)) chainIds).safe S l
      (fun _ _ => known) (fun _ _ => known) w :=
  safe_each (fun _ _ => known) now fun _ _ _ _ now => safe_unlessDone (fun _ => now)
    fun _ => safe_mono (easy.fail now) (fun _ _ _ => And.right) (fun _ _ _ => And.right)

theorem laneFailed {error : Failure} (now : known w) :
    (laneFailed intent chainIds error).safe S l (fun _ _ => known) (fun _ _ => known) w := by
  refine safe_bind (safe_read ?_)
  split
  · exact easy.failAll now
  · refine safe_bind (safe_imp (safe_each (fun _ _ => known) now fun _ _ _ _ now => ?_) ?_)
    · exact safe_unlessDone (fun _ => now) fun _ =>
        safe_mono (easy.update rfl now) (fun _ _ _ => And.right) (fun _ _ _ => And.right)
    · exact fun _ _ _ now => safe_modify now

theorem closeClaim (now : known w) :
    (closeClaim intent chainIds).safe S l (fun _ _ => known) (fun _ _ => known) w := by
  refine safe_bind (safe_read ?_)
  split
  · exact safe_mono (easy (.query (.releaseClaim ..)) ⟨rfl, rfl⟩ now) (fun _ _ _ => And.right) (fun _ _ _ => And.right)
  · exact easy.failAll now

/-- A claim keeps what its lane call leaves, returned or thrown. -/
theorem runChains {view : ClaimView} {carried : Option String}
    (called : (callLane options view intent chainIds carried).safe S l (fun _ _ => known) (fun _ _ => known) w) :
    (runChains options view intent chainIds carried).safe S l (fun _ _ => known) (fun _ _ => known) w := by
  refine safe_bind (safe_imp (safe_catching called ?_) fun _ _ _ => easy.closeClaim)
  intro error l w now
  exact safe_mono (easy (.mark (.caught ..)) rfl now) (fun _ l' w post => easy.laneFailed post.2) (fun _ _ _ => And.right)

end Eased

/-- Before and after a bundle the lane only asks; the outcomes it reports are easy. -/
theorem Eased.reportRules {phase : Phase → Locals → W → Prop} (throws : ∀ {p error l w}, phase p l w → err error l w)
    (locals : ∀ {p l l' w}, phase p l w → phase p l' w) (asks : ∀ {p l} (op : Op), op.idle = true → Survives S (phase p l) op)
    (closing : ∀ {l message}, Eased S intent.id chainIds (phase (.closing message) l))
    (settling : ∀ {l bundleUuid}, Eased S intent.id chainIds (phase (.settling bundleUuid) l))
    (close : ∀ {p l w message}, p.allows message → phase p l w → phase (.closing message) l w) :
    ReportRules S (report intent chainIds) chainIds phase err where
  throws := throws
  settled _ := locals
  ask reads now := asks (.external _) reads now
  stall now := safe_mono (asks (.mark .stall) rfl now) (fun _ _ _ => id) (fun _ _ _ post => throws (locals post.2))
  close := close
  closed _ now := by
    refine safe_mono (closing.fail now) ?_ (fun _ _ _ post => throws (locals post.2))
    rintro _ l' w ⟨rfl, now⟩
    exact ⟨rfl, rfl, locals now⟩
  reverted _ _ now := by
    refine safe_mono (settling.fail now) ?_ (fun _ _ _ post => throws (locals post.2))
    rintro _ l' w ⟨rfl, now⟩
    exact ⟨rfl, rfl, locals now⟩
  confirmed _ now := safe_mono (settling.confirmed now) (fun _ _ _ post => ⟨post.1, locals post.2⟩)
    (fun _ _ _ now => throws (locals now))

variable {ended : W → Prop}

/-- A claim from what it read of its rows on. `rows` knows which rows are still to be failed as already deployed, `lane`
what the lane call leaves. -/
theorem safe_runIntent {claimed : List Nat} (rows : List Nat → W → Prop) (lane : W → Prop)
    (easy : Eased S intent.id (claimed.filter (fun chainId => !(intent.deployments.map Prod.fst).contains chainId)) lane)
    (ends : ∀ {rest w}, rows rest w → ended w) (closes : ∀ {w}, lane w → ended w)
    (fails : ∀ {chainId patch l w}, patch.mild = true → ended w →
      (updateDeploy intent.id chainId patch).safe S l (fun _ _ => ended) (fun _ _ => ended) w)
    (write : ∀ {chainId rest patch l w}, patch.mild = true → patch.status = some .failed → rows (chainId :: rest) w →
      (updateDeploy intent.id chainId patch).safe S l (fun _ l' w' => l' = l ∧ rows rest w') (fun _ _ => ended) w)
    (call : ∀ {recorded l w}, recorded = intent.deployments.map Prod.fst → rows [] w → l.settled = [] →
      claimed.filter (fun chainId => !recorded.contains chainId) ≠ [] →
      (callLane options ⟨intent.id, claimed, recorded⟩ intent (claimed.filter (fun chainId => !recorded.contains chainId))
        (carriedBundle intent claimed)).safe S l (fun _ _ => lane) (fun _ _ => lane) w)
    (now : rows (claimed.filter (intent.deployments.map Prod.fst).contains) w) :
    (runIntent options intent claimed).safe S l (fun _ _ => ended) (fun _ _ => ended) w := by
  refine safe_bind (safe_modify ?_)
  split
  · exact safe_each (fun _ _ => ended) (ends now) fun _ _ _ _ now => fails rfl now
  · refine safe_bind (safe_imp (safe_each (fun rest l w => l.settled = [] ∧ rows rest w)
      ⟨rfl, now⟩ ?_) ?_)
    · rintro chainId rest l w ⟨fresh, now⟩
      refine safe_imp (write rfl rfl now) ?_
      rintro _ l' w ⟨rfl, now⟩
      exact ⟨fresh, now⟩
    · rintro _ l w ⟨fresh, now⟩
      dsimp only
      split
      · exact safe_pure (ends now)
      · next left =>
        exact safe_mono (easy.runChains (call rfl now fresh (by simpa using left))) (fun _ _ _ => closes)
          (fun _ _ _ => closes)

theorem safe_runClaim {intentId : String} {claimed : List Nat} (before : W → Prop)
    (asks : ∀ op : Op, op.idle = true → Survives S before op) (ends : ∀ {w}, before w → ended w)
    (read : ∀ {l w}, before w → (store (.selectDeploys intentId)).safe S l
      (fun (deploys : List (Nat × IntentDeployRow)) _ w => ended w ∧ ∀ envelope deployments l,
        (runIntent options ⟨intentId, envelope, deployments, deploys⟩ claimed).safe S l (fun _ _ => ended)
          (fun _ _ => ended) w) (fun _ _ => ended) w) (now : before w) :
    (runClaim options intentId claimed).safe S l (fun _ _ => ended) (fun _ _ => ended) w := by
  refine safe_bind ?_
  refine safe_bind (safe_mono (asks (.query (.selectIntent _)) rfl now) ?_ (fun _ _ _ post => ends post.2))
  rintro envelope l' w ⟨rfl, now⟩
  refine safe_bind (safe_mono (asks (.query (.selectDeployments _)) rfl now) ?_
    (fun _ _ _ post => ends post.2))
  rintro deployments l' w ⟨rfl, now⟩
  refine safe_bind (safe_imp (read now) fun deploys l w post => ?_)
  refine safe_pure ?_
  cases envelope with
  | none => exact safe_pure post.1
  | some envelope => exact post.2 envelope deployments l

/-- A pass, from what its claims leave to each other. -/
theorem safe_runOnce {leaseSeconds : Nat} (before : W → Prop) (left : List (String × List Nat) → W → Prop)
    (retires : ∀ statement ∈ [Query.retireExhausted, .retireWaiting, .retireUnpaidForWallet], ∀ {l w}, before w →
      (Action.request (Op.query statement) : Act (Op.query statement).Result).safe S l (fun _ _ => before) (fun _ _ => ended) w)
    (leases : ∀ {l w}, before w → (store (.leaseQueued leaseSeconds 5)).safe S l
      (fun (claims : List (String × List Nat)) _ => left claims) (fun _ _ => ended) w)
    (claim : ∀ {intentId claimed rest l w}, left ((intentId, claimed) :: rest) w →
      (runClaim options intentId claimed).safe S l (fun _ _ => left rest) (fun _ _ => left rest) w)
    (asks : ∀ {rest} (op : Op), op.idle = true → Survives S (left rest) op) (ends : ∀ {rest w}, left rest w → ended w)
    (now : before w) : (runOnce options leaseSeconds).safe S l (fun _ _ => ended) (fun _ _ => ended) w := by
  refine safe_bind ?_
  refine safe_bind (safe_imp (retires _ (by simp) now) fun _ l w now => ?_)
  refine safe_bind (safe_imp (retires _ (by simp) now) fun _ l w now => ?_)
  refine safe_bind (safe_imp (retires _ (by simp) now) fun _ l w now => ?_)
  refine safe_imp (leases now) fun claims l w now => ?_
  refine safe_imp (safe_each (fun rest _ => left rest) now ?_) (fun _ _ _ => ends)
  rintro ⟨intentId, claimed⟩ rest l w now
  refine Action.safe_tryCatch (safe_mono (claim now) (fun _ _ _ => id) fun error l w now => ?_)
  exact safe_mono (asks (.mark (.escaped ..)) rfl now) (fun _ _ _ => And.right) (fun _ _ _ post => ends post.2)

end

end JBCenter.Sponsor
