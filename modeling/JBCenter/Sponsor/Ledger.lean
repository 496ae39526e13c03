import JBCenter.Sponsor.ClaimRules

/-! Bundles on the rows of the deploy queue. What the worker may assume of Relayr, what holds of every row
that carries a bundle, and what is due before a bundle is recorded, prepaid or resumed. -/
namespace JBCenter.Sponsor

/-- The answers Relayr may give after the bundles it quoted and the prepayments it was sent. -/
abbrev Relayr := World → (request : External) → Except Failure request.Result → Prop

/-- Every quote comes with a bundle id of its own. -/
def FreshBundles (relayr : Relayr) : Prop :=
  ∀ {w intentId chainIds entries document}, relayr w (.create intentId chainIds entries) (.ok document) →
    ∀ quoted ∈ w.quotes, quoted.bundleUuid ≠ document.bundleUuid

/-- Execution follows payment: a status names a transaction on a chain only for a prepaid bundle
that holds an entry for that chain. -/
def ExecutionFollowsPayment (relayr : Relayr) : Prop :=
  ∀ {w bundleUuid document transactions item chainId}, relayr w (.status bundleUuid) (.ok (some document)) →
    document.transactions = some transactions → some item ∈ transactions → item.chain = some chainId →
    item.hash.isSome → ∃ bundle ∈ w.paid, bundle.bundleUuid = bundleUuid ∧ chainId ∈ bundle.chainIds

structure Reliable (relayr : Relayr) : Prop where
  fresh : FreshBundles relayr
  follows : ExecutionFollowsPayment relayr

def External.toRelayr : External → Bool
  | .create _ _ _ => true
  | .status _ => true
  | _ => false

def Admitted (relayr : Relayr) : (op : Op) → op.Reply → World → Prop
  | .external request, answer, w => request.toRelayr = true → relayr w request answer
  | _, _, _ => True

/-- Every bundle id is quoted once; a prepaid bundle is on the row of each of its chains; a row
carries only a bundle that was quoted for it. -/
structure Consistent (w : World) : Prop where
  distinct : ∀ a ∈ w.quotes, ∀ b ∈ w.quotes, a.bundleUuid = b.bundleUuid → a = b
  quoted : ∀ bundle ∈ w.paid, bundle ∈ w.quotes
  carried : ∀ bundle ∈ w.paid, ∀ chainId ∈ bundle.chainIds,
    w.db.bundleOf bundle.intentId chainId = some bundle.bundleUuid
  known : ∀ {intentId chainId bundleUuid}, w.db.bundleOf intentId chainId = some bundleUuid →
    ∃ bundle ∈ w.quotes, bundle.bundleUuid = bundleUuid ∧ bundle.intentId = intentId ∧ chainId ∈ bundle.chainIds

/-- What is due when a bundle is written to a row. -/
structure BundleDue (relayr : Relayr) (w : World) (intentId : String) (chainId : Nat) (bundleUuid : String) :
    Prop where
  nonempty : bundleUuid ≠ ""
  unchanged : Reliable relayr →
    w.db.bundleOf intentId chainId = none ∨ w.db.bundleOf intentId chainId = some bundleUuid
  quoted : Reliable relayr → ∃ bundle ∈ w.quotes, bundle.bundleUuid = bundleUuid ∧
    bundle.intentId = intentId ∧ chainId ∈ bundle.chainIds

def Due (relayr : Relayr) : Op → World → Prop
  | .query (.updateDeploy intentId chainId patch _), w =>
    (∀ bundleUuid, patch.bundleUuid = some bundleUuid → BundleDue relayr w intentId chainId bundleUuid) ∧
      (patch.spentWei.isSome → (w.db.bundleOf intentId chainId).isSome)
  | .external (.sendPayment bundle _ _), w => bundle ∈ w.quotes ∧
    ∀ chainId ∈ bundle.chainIds, w.db.bundleOf bundle.intentId chainId = some bundle.bundleUuid
  | .mark (.deploy view chainIds), w => ∀ chainId ∈ chainIds, w.db.bundleOf view.intentId chainId = none
  | _, _ => True

/-- Nothing about quotes, prepayments and the bundles of rows changed. -/
structure SameLedger (w w' : World) : Prop where
  quotes : w'.quotes = w.quotes
  paid : w'.paid = w.paid
  bundles : ∀ intentId chainId, w'.db.bundleOf intentId chainId = w.db.bundleOf intentId chainId

theorem SameLedger.refl (w : World) : SameLedger w w := ⟨rfl, rfl, fun _ _ => rfl⟩

theorem SameLedger.trans {a b c : World} (first : SameLedger a b) (second : SameLedger b c) : SameLedger a c :=
  ⟨second.quotes.trans first.quotes, second.paid.trans first.paid,
    fun i c => (second.bundles i c).trans (first.bundles i c)⟩

structure LedgerHolds (relayr : Relayr) (w : World) : Prop where
  nonempty : ∀ intentId chainId, w.db.bundleOf intentId chainId ≠ some ""
  consistent : Reliable relayr → Consistent w

def ledger (relayr : Relayr) : Setting Op Failure Op.Result World where
  Reply := Op.Reply
  perform := Op.perform
  rely _ := SameLedger
  holds := LedgerHolds relayr
  admits := Admitted relayr
  due := Due relayr

/-- The bundle an operation writes, and where. -/
def Op.writesBundle : Op → Option (String × Nat × String)
  | .query (.updateDeploy intentId chainId patch _) => patch.bundleUuid.map (fun bundle => (intentId, chainId, bundle))
  | _ => none

/-- Operations that leave quotes, prepayments and bundles alone. -/
def Op.still : Op → Bool
  | .external request => request.reads
  | op => op.writesBundle.isNone

/-- Still operations for which nothing is due. -/
def Op.plain : Op → Bool
  | .mark (.deploy _ _) => false
  | .query (.updateDeploy _ _ patch _) => patch.bundleUuid.isNone && patch.spentWei.isNone
  | op => op.still

theorem Query.perform_cases (statement : Query) (fate : Fate) (db : Database) :
    (statement.perform fate db).2 = db ∨
      ∃ value, statement.run db = .ok (value, (statement.perform fate db).2) := by
  unfold Query.perform
  cases fate with
  | served =>
    cases ran : statement.run db with
    | ok result => exact .inr ⟨result.1, rfl⟩
    | error error => exact .inl rfl
  | lost name =>
    cases ran : statement.run db with
    | ok result => exact .inr ⟨result.1, rfl⟩
    | error error => exact .inl rfl
  | refused name => exact .inl rfl

/-- A statement commits or leaves the world as it is, whatever is answered. -/
theorem query_cases (statement : Query) (fate : Fate) (w : World) :
    (Op.perform (.query statement) fate w).2 = w ∨
      ∃ value next, statement.run w.db = .ok (value, next) ∧
        (Op.perform (.query statement) fate w).2 = { w with db := next } := by
  rcases statement.perform_cases fate w.db with same | ⟨value, ran⟩
  · left
    change { w with db := (statement.perform fate w.db).2 } = w
    rw [same]
  · exact .inr ⟨value, _, ran, rfl⟩

variable {intentId : String}

variable {db : Database} {statement : Query}

theorem Query.run_updateDeploy {chainId : Nat} {patch : DeployPatch} {cause : Option Failure}
    {next : Database} {value : Unit}
    (ran : (Query.updateDeploy intentId chainId patch cause).run db = .ok (value, next)) :
    db.updateDeploy intentId chainId patch = .ok next := by
  simp only [Query.run] at ran
  cases updated : db.updateDeploy intentId chainId patch with
  | error error => simp [updated, Except.map] at ran
  | ok after =>
    simp only [updated, Except.map, Except.ok.injEq] at ran
    cases ran
    rfl

theorem Query.run_recordDeployment {chainId : Nat} {deployment : Deployment}
    {next : Database} {value : Unit}
    (ran : (Query.recordDeployment intentId chainId deployment).run db = .ok (value, next)) :
    db.recordDeployment intentId chainId deployment = .ok next := by
  simp only [Query.run] at ran
  cases recorded : db.recordDeployment intentId chainId deployment with
  | error error => simp [recorded, Except.map] at ran
  | ok after =>
    simp only [recorded, Except.map, Except.ok.injEq] at ran
    cases ran
    rfl

theorem Query.run_bundles {next : Database} {value : statement.Result}
    (plain : (Op.query statement).writesBundle = none) (ran : statement.run db = .ok (value, next))
    (intentId : String) (chainId : Nat) : next.bundleOf intentId chainId = db.bundleOf intentId chainId := by
  cases statement with
  | retireExhausted | retireWaiting | retireUnpaidForWallet | leaseQueued =>
    cases ran
    exact Database.bundleOf_mapValues fun _ row => by split <;> rfl
  | selectIntent | selectDeployments | selectDeploys => cases ran; rfl
  | updateDeploy other chain patch cause =>
    have unbundled : patch.bundleUuid = none := by simpa [Op.writesBundle] using plain
    rw [Database.bundleOf_updateDeploy (Query.run_updateDeploy ran)]
    split
    · next same => cases same; rw [unbundled, Option.none_or]
    · rfl
  | recordDeployment other chain deployment =>
    exact Database.bundleOf_recordDeployment (Query.run_recordDeployment ran) intentId chainId
  | releaseClaim =>
    cases ran
    exact Database.bundleOf_mapValues fun _ row => by split <;> rfl

theorem External.perform_reads {request : External} (reads : request.reads = true)
    (answer : Except Failure request.Result) (w : World) : request.perform answer w = w := by
  cases request <;> first | rfl | cases reads

theorem still_same (op : Op) (still : op.still = true) (reply : op.Reply) (w : World) :
    SameLedger w (op.perform reply w).2 := by
  cases op with
  | query statement =>
    rcases query_cases statement reply w with same | ⟨value, next, ran, made⟩
    · rw [same]
      exact .refl w
    · rw [made]
      exact ⟨rfl, rfl, Query.run_bundles (by simpa [Op.still] using still) ran⟩
  | external request =>
    have same : (Op.perform (.external request) reply w).2 = w := External.perform_reads still reply w
    rw [same]
    exact .refl w
  | mark point => exact .refl w

theorem plain_still {op : Op} (plain : op.plain = true) : op.still = true := by
  cases op with
  | query statement =>
    cases statement with
    | updateDeploy intentId chainId patch cause =>
      simp only [Op.plain, Bool.and_eq_true, Option.isNone_iff_eq_none] at plain
      simp [Op.still, Op.writesBundle, plain.1]
    | _ => exact plain
  | external request => exact plain
  | mark point => rfl

theorem plain_due {relayr : Relayr} {op : Op} (plain : op.plain = true) (w : World) : Due relayr op w := by
  cases op with
  | query statement =>
    cases statement with
    | updateDeploy intentId chainId patch cause =>
      simp only [Op.plain, Bool.and_eq_true, Option.isNone_iff_eq_none] at plain
      exact ⟨fun bundleUuid written => by simp [plain.1] at written, fun spent => by simp [plain.2] at spent⟩
    | _ => trivial
  | external request =>
    cases request with
    | sendPayment bundle payment raw => cases plain
    | _ => trivial
  | mark point =>
    cases point with
    | deploy view chainIds => cases plain
    | _ => trivial

theorem idle_plain {op : Op} (idle : op.idle = true) : op.plain = true := by
  cases op with
  | query statement =>
    cases statement with
    | selectIntent | selectDeployments | selectDeploys => rfl
    | _ => cases idle
  | external request => exact idle
  | mark point =>
    cases point with
    | deploy view chainIds => cases idle
    | _ => rfl

theorem easy_plain {op : Op} {chainIds : List Nat} (easy : op.easy intentId chainIds) :
    op.plain = true := by
  cases op with
  | query statement =>
    cases statement with
    | updateDeploy owner chainId patch cause =>
      simp only [Op.easy, DeployPatch.mild, Bool.and_eq_true] at easy
      simpa [Op.plain] using easy.2.1
    | recordDeployment | releaseClaim => rfl
    | _ => exact idle_plain easy
  | _ => exact idle_plain easy

/-- A statement that was answered ran. -/
theorem Query.perform_ok {fate : Fate} {value : statement.Result}
    (answered : (statement.perform fate db).1 = .ok value) :
    statement.run db = .ok (value, (statement.perform fate db).2) := by
  unfold Query.perform at answered ⊢
  cases ran : statement.run db with
  | error error =>
    rw [ran] at answered
    cases fate <;> cases answered
  | ok result =>
    rw [ran] at answered
    cases fate with
    | served =>
      cases answered
      rfl
    | lost name => cases answered
    | refused name => cases answered

theorem query_ok {fate : Fate} {w w' : World} {value : statement.Result}
    (performed : Op.perform (.query statement) fate w = (.ok value, w')) :
    ∃ next, statement.run w.db = .ok (value, next) ∧ w' = { w with db := next } :=
  ⟨_, Query.perform_ok (congrArg Prod.fst performed), (congrArg Prod.snd performed).symm⟩

/-- A write of a bundle that was answered puts it on the row it names and changes no other. -/
theorem updateDeploy_bundle {chainId : Nat} {patch : DeployPatch} {cause : Option Failure}
    {fate : Fate} {w w' : World} {value : Unit} {bundleUuid : String} (written : patch.bundleUuid = some bundleUuid)
    (performed : Op.perform (.query (.updateDeploy intentId chainId patch cause)) fate w = (.ok value, w')) :
    w'.quotes = w.quotes ∧ w'.paid = w.paid ∧ ∀ other chain, w'.db.bundleOf other chain =
      if (other, chain) = (intentId, chainId) then some bundleUuid else w.db.bundleOf other chain := by
  obtain ⟨next, ran, rfl⟩ := query_ok performed
  refine ⟨rfl, rfl, fun other chain => ?_⟩
  rw [Database.bundleOf_updateDeploy (Query.run_updateDeploy ran), written, Option.some_or]

section
variable {relayr : Relayr} {P : World → Prop} {l : Locals} {w : World}

/-- A plain operation keeps whatever depends on the ledger alone. -/
theorem safe_plain {op : Op} (plain : op.plain = true) (stable : ∀ {a b}, SameLedger a b → P a → P b) (now : P w) :
    (Action.request op : Act op.Result).safe (ledger relayr) l (fun _ l' w' => l' = l ∧ P w')
      (fun _ l' w' => l' = l ∧ P w') w := by
  refine Action.safe_request P now (fun _ _ step => stable step) fun w known _ => ⟨plain_due plain w, fun reply _ => ?_⟩
  have same := still_same op (plain_still plain) reply w
  refine ⟨fun value w' performed => ⟨rfl, stable ?_ known⟩, fun error w' performed => ⟨rfl, stable ?_ known⟩⟩
  · rwa [show (op.perform reply w).2 = w' from congrArg Prod.snd performed] at same
  · rwa [show (op.perform reply w).2 = w' from congrArg Prod.snd performed] at same

/-- A claim keeps whatever depends on the ledger alone, up to its lane call. -/
theorem ledger_eased {chainIds : List Nat} (stable : ∀ {a b}, SameLedger a b → P a → P b) :
    Eased (ledger relayr) intentId chainIds P :=
  fun _ easy _ _ now => safe_plain (easy_plain easy) stable now

end
end JBCenter.Sponsor
