import JBCenter.Sponsor.Bundles

/-! Running claims on the ledger. From what a claim read of its intent's rows, `deploy` is called
on rows without a bundle, and `resume` with a bundle that one of them carries. -/
namespace JBCenter.Sponsor

variable {relayr : Relayr} {options : LaneOptions} {intent : Intent} {claimed chainIds : List Nat}
variable {l : Locals} {w : World}

/-- The rows that were read agree with the bundles the rows carry now. -/
structure Seen (intent : Intent) (w : World) : Prop where
  read : ∀ {chainId row}, (chainId, row) ∈ intent.deploys → w.db.bundleOf intent.id chainId = row.bundleUuid
  all : ∀ {chainId bundleUuid}, w.db.bundleOf intent.id chainId = some bundleUuid →
    ∃ row, (chainId, row) ∈ intent.deploys ∧ row.bundleUuid = some bundleUuid

theorem Seen.stable {a b : World} (same : SameLedger a b) (seen : Seen intent a) : Seen intent b where
  read member := (same.bundles _ _).trans (seen.read member)
  all carried := seen.all ((same.bundles _ _).symm.trans carried)

/-- Nothing carried means that no claimed row carries a bundle. -/
theorem carriedBundle_none (seen : Seen intent w) (nonempty : ∀ intentId chainId, w.db.bundleOf intentId chainId ≠ some "")
    (clear : carriedBundle intent claimed = none) : Unbundled intent.id claimed w := by
  intro chainId member
  by_contra carries
  obtain ⟨bundleUuid, carried⟩ := Option.ne_none_iff_exists'.mp carries
  obtain ⟨row, listed, held⟩ := seen.all carried
  have truthy : bundleUuid ≠ "" := fun empty => nonempty intent.id chainId (empty ▸ carried)
  unfold carriedBundle at clear
  rw [Option.bind_eq_none_iff] at clear
  generalize found : intent.deploys.find? _ = sought at clear
  cases sought with
  | none =>
    have absent := List.find?_eq_none.mp found _ listed
    simp [member, held, truthy] at absent
  | some first =>
    have held := List.find?_some found
    have empty := clear first rfl
    simp only [empty, Option.any_none, Bool.and_false, Bool.false_eq_true] at held

/-- The bundle carried is on the row of a claimed chain. -/
theorem carriedBundle_some {bundleUuid : String} (seen : Seen intent w)
    (carries : carriedBundle intent claimed = some bundleUuid) :
    ∃ first ∈ claimed, w.db.bundleOf intent.id first = some bundleUuid := by
  obtain ⟨⟨first, row⟩, found, held⟩ := some_bind carries
  have matched := List.find?_some found
  simp only [Bool.and_eq_true, List.contains_eq_mem, decide_eq_true_eq] at matched
  exact ⟨first, matched.1, (seen.read (List.mem_of_find?_eq_some found)).trans held⟩

theorem safe_mark {point : Mark} {P : World → Prop} (now : P w) (stable : ∀ {a b}, SameLedger a b → P a → P b)
    (due : ∀ {w}, P w → LedgerHolds relayr w → Due relayr (.mark point) w) :
    (mark point).safe (ledger relayr) l (fun _ l' w' => l' = l ∧ P w' ∧ LedgerHolds relayr w') (fun _ _ _ => True) w := by
  refine Action.safe_request P now (fun _ _ step => stable step)
    fun w known holds => ⟨due known holds, fun reply _ => ⟨?_, fun _ _ _ => trivial⟩⟩
  intro value w' performed
  cases performed
  exact ⟨rfl, known, holds⟩

theorem carried_phase {bundleUuid : String} (seen : Seen intent w) (holds : LedgerHolds relayr w)
    (carries : carriedBundle intent claimed = some bundleUuid) :
    resumePhase relayr intent.id bundleUuid w.paid (.polling bundleUuid) l w := by
  obtain ⟨first, -, carried⟩ := carriedBundle_some seen carries
  refine ⟨rfl, fun empty => holds.nonempty intent.id first (empty ▸ carried), rfl, fun reliable => ?_⟩
  obtain ⟨bundle, quoted, named, owner, -⟩ := (holds.consistent reliable).known carried
  exact ⟨bundle, quoted, named, owner⟩

theorem safe_callLane {recorded : List Nat} (left : claimed.filter (fun chainId => !recorded.contains chainId) ≠ [])
    (seen : Seen intent w) (fresh : l.settled = []) :
    (callLane options ⟨intent.id, claimed, recorded⟩ intent (claimed.filter (fun chainId => !recorded.contains chainId))
      (carriedBundle intent claimed)).safe (ledger relayr) l (fun _ _ _ => True) (fun _ _ _ => True) w := by
  unfold callLane
  cases carries : carriedBundle intent claimed with
  | some bundleUuid =>
    refine Action.safe_bind (Action.safe_imp (safe_mark seen Seen.stable (fun _ _ => trivial)) ?_)
    rintro _ l' w ⟨rfl, seen, holds⟩
    exact Action.safe_imp (resumeRules.settle (carried_phase seen holds carries)) (fun _ _ _ _ => trivial)
  | none =>
    refine Action.safe_bind (Action.safe_imp (safe_mark seen Seen.stable (fun seen holds => ?_)) ?_)
    · intro chainId member
      exact carriedBundle_none seen holds.nonempty carries chainId (List.mem_filter.mp member).1
    · rintro _ l' w ⟨rfl, seen, holds⟩
      refine Action.safe_imp ((deployRules left).deploy rfl (by simp [fresh]) ?_) (fun _ _ _ _ => trivial)
      intro chainId member
      exact carriedBundle_none seen holds.nonempty carries chainId (List.mem_filter.mp member).1

variable {intentId : String}

/-- The rows are read in one statement, whatever is written before and after it. -/
theorem seen_selectDeploys {envelope : IntentEnvelope} {deployments : List (Nat × Deployment)} :
    Seen ⟨intentId, envelope, deployments, w.db.selectDeploys intentId⟩ w where
  read member := by rw [Database.bundleOf, Database.mem_selectDeploys.mp member, Option.bind_some]
  all carried := by
    obtain ⟨row, found, held⟩ := some_bind carried
    exact ⟨row, Database.mem_selectDeploys.mpr found, held⟩

theorem safe_selectDeploys :
    (store (.selectDeploys intentId)).safe (ledger relayr) l (fun (deploys : List (Nat × IntentDeployRow)) _ w =>
      ∀ envelope deployments, Seen ⟨intentId, envelope, deployments, deploys⟩ w) (fun _ _ _ => True) w := by
  refine Action.safe_request (fun _ => True) trivial (fun _ _ _ => id)
    fun w _ _ => ⟨trivial, fun reply _ => ⟨?_, fun _ _ _ => trivial⟩⟩
  intro deploys w' performed envelope deployments
  obtain ⟨next, ran, rfl⟩ := query_ok performed
  cases ran
  exact seen_selectDeploys

theorem ledger_runClaim :
    (runClaim options intentId claimed).safe (ledger relayr) l (fun _ _ _ => True) (fun _ _ _ => True) w := by
  refine safe_runClaim (fun _ => True) (fun _ idle _ _ _ => safe_plain (idle_plain idle) (fun _ => id) trivial)
    (fun _ => trivial) (fun _ => ?_) trivial
  refine Action.safe_imp safe_selectDeploys fun deploys l w seen => ⟨trivial, fun envelope deployments l => ?_⟩
  have eased : Eased (ledger relayr) intentId [] (fun _ => True) := ledger_eased fun _ => id
  have kept : Eased (ledger relayr) intentId [] (Seen ⟨intentId, envelope, deployments, deploys⟩) := ledger_eased Seen.stable
  refine safe_runIntent (fun _ => Seen ⟨intentId, envelope, deployments, deploys⟩) (fun _ => True) (ledger_eased fun _ => id)
    (fun _ => trivial) (fun _ => trivial) (fun mild _ => ?_) (fun mild _ seen => ?_)
    (fun _ seen fresh left => safe_callLane left seen fresh) (seen _ _)
  · exact Action.safe_mono (eased.update mild trivial) (fun _ _ _ => And.right) (fun _ _ _ => And.right)
  exact Action.safe_mono (kept.update mild seen) (fun _ _ _ => id) (fun _ _ _ _ => trivial)

/-- A whole pass of the worker meets everything that is due for bundles. -/
theorem ledger_runOnce {leaseSeconds : Nat} :
    (runOnce options leaseSeconds).safe (ledger relayr) l (fun _ _ _ => True) (fun _ _ _ => True) w := by
  have free : ∀ {op : Op}, op.plain = true → ∀ {l w}, (Action.request op : Act op.Result).safe (ledger relayr) l
      (fun _ _ _ => True) (fun _ _ _ => True) w := fun plain _ _ => Action.safe_mono
    (safe_plain (P := fun _ => True) plain (fun _ => id) trivial) (fun _ _ _ _ => trivial) (fun _ _ _ _ => trivial)
  refine safe_runOnce (fun _ => True) (fun _ _ => True) ?_ (fun _ => free rfl)
    (fun _ => ledger_runClaim) (fun _ idle _ _ _ => safe_plain (idle_plain idle) (fun _ => id) trivial)
    (fun _ => trivial) trivial
  intro statement listed l w _
  simp only [List.mem_cons, List.not_mem_nil, or_false] at listed
  rcases listed with rfl | rfl | rfl
  · exact free rfl
  · exact free rfl
  · exact free rfl

end JBCenter.Sponsor
