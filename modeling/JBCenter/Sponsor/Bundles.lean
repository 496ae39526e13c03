import Mathlib.Data.List.ReduceOption
import JBCenter.Sponsor.Ledger

/-! One claim and the ledger. The lane rules are met for a bundle the claim submits itself and for one it
resumes, and from what the claim read of its rows both lane calls are made on the right ones. -/
namespace JBCenter.Sponsor

variable {relayr : Relayr} {intent : Intent} {chainIds : List Nat} {l : Locals} {w : World}

/-- No row of the chains carries a bundle. -/
def Unbundled (intentId : String) (chainIds : List Nat) (w : World) : Prop :=
  ∀ chainId ∈ chainIds, w.db.bundleOf intentId chainId = none

/-- Every row of the chains carries the bundle, which was quoted for exactly these chains. -/
def Bundled (intentId : String) (chainIds : List Nat) (bundleUuid : String) (w : World) : Prop :=
  bundleUuid ≠ "" ∧ ⟨bundleUuid, intentId, chainIds⟩ ∈ w.quotes ∧
    ∀ chainId ∈ chainIds, w.db.bundleOf intentId chainId = some bundleUuid

/-- The phases of a bundle that the claim submits itself. -/
def deployPhase (intentId : String) (chainIds : List Nat) : Phase → Locals → World → Prop
  | .building, _, w => Unbundled intentId chainIds w
  | .quoted bundleUuid, _, w => Unbundled intentId chainIds w ∧ ⟨bundleUuid, intentId, chainIds⟩ ∈ w.quotes
  | .recorded bundleUuid, _, w => Bundled intentId chainIds bundleUuid w
  | .polling bundleUuid, _, w => Bundled intentId chainIds bundleUuid w
  | .settling bundleUuid, _, w => Bundled intentId chainIds bundleUuid w
  | .closing _, _, _ => True

variable {chainId : Nat} {bundleUuid intentId : String}

theorem unbundled_stable {a b : World} (same : SameLedger a b)
    (now : Unbundled intentId chainIds a) : Unbundled intentId chainIds b := fun chainId member =>
  (same.bundles intentId chainId).trans (now chainId member)

theorem bundled_stable {a b : World} (same : SameLedger a b)
    (now : Bundled intentId chainIds bundleUuid a) : Bundled intentId chainIds bundleUuid b :=
  ⟨now.1, same.quotes ▸ now.2.1, fun chainId member => (same.bundles intentId chainId).trans (now.2.2 chainId member)⟩

theorem deployPhase_stable {p : Phase} {a b : World} (same : SameLedger a b)
    (now : deployPhase intentId chainIds p l a) : deployPhase intentId chainIds p l b := by
  cases p with
  | building => exact unbundled_stable same now
  | quoted bundleUuid => exact ⟨unbundled_stable same now.1, same.quotes ▸ now.2⟩
  | recorded bundleUuid => exact bundled_stable same now
  | polling bundleUuid => exact bundled_stable same now
  | settling bundleUuid => exact bundled_stable same now
  | closing message => trivial

theorem deployPhase_locals {p : Phase} {l l' : Locals}
    (now : deployPhase intentId chainIds p l w) : deployPhase intentId chainIds p l' w := by
  cases p <;> exact now

theorem uuid_nonempty {text : String} (canonical : uuid text = true) : text ≠ "" := by
  rintro rfl
  revert canonical
  decide

/-- A write of a bundle, answered with the bundle on the row. -/
theorem safe_writeBundle {patch : DeployPatch} {P Q : World → Prop}
    (written : patch.bundleUuid = some bundleUuid) (unspent : patch.spentWei = none)
    (now : P w) (stable : ∀ {a b}, SameLedger a b → P a → P b)
    (due : ∀ {w}, P w → LedgerHolds relayr w → BundleDue relayr w intentId chainId bundleUuid)
    (after : ∀ {w w' : World}, P w → w'.quotes = w.quotes → w'.paid = w.paid → (∀ other chain,
      w'.db.bundleOf other chain = if (other, chain) = (intentId, chainId) then some bundleUuid
        else w.db.bundleOf other chain) → Q w') :
    (updateDeploy intentId chainId patch).safe (ledger relayr) l (fun _ l' w' => l' = l ∧ Q w')
      (fun _ _ _ => True) w := by
  refine Action.safe_bind (Action.safe_read ?_)
  refine Action.safe_request P now (fun _ _ step => stable step) fun w known holds => ⟨?_, fun reply _ => ⟨?_, ?_⟩⟩
  · refine ⟨fun other same => ?_, fun spent => by simp [unspent] at spent⟩
    cases written.symm.trans same
    exact due known holds
  · intro value w' performed
    obtain ⟨quotes, paid, bundles⟩ := updateDeploy_bundle written performed
    exact ⟨rfl, after known quotes paid bundles⟩
  · exact fun _ _ _ => trivial

/-- The rows while a bundle is being recorded: `rest` is still to be written. -/
def Recording (intentId : String) (chainIds : List Nat) (bundleUuid : String) (rest : List Nat) (w : World) : Prop :=
  (∀ chainId ∈ rest, chainId ∈ chainIds) ∧ ⟨bundleUuid, intentId, chainIds⟩ ∈ w.quotes ∧
    ∀ chainId ∈ chainIds, w.db.bundleOf intentId chainId = some bundleUuid ∨
      (chainId ∈ rest ∧ w.db.bundleOf intentId chainId = none)

theorem recording_stable {rest : List Nat} {a b : World} (same : SameLedger a b)
    (now : Recording intentId chainIds bundleUuid rest a) : Recording intentId chainIds bundleUuid rest b := by
  refine ⟨now.1, same.quotes ▸ now.2.1, fun chainId member => ?_⟩
  rw [same.bundles]
  exact now.2.2 chainId member

theorem recording_due {rest : List Nat} (nonempty : bundleUuid ≠ "")
    (now : Recording intentId chainIds bundleUuid (chainId :: rest) w) :
    BundleDue relayr w intentId chainId bundleUuid := by
  have member := now.1 chainId List.mem_cons_self
  exact {
    nonempty
    unchanged := fun _ => (now.2.2 chainId member).symm.imp_left And.right
    quoted := fun _ => ⟨_, now.2.1, rfl, rfl, member⟩ }

theorem recording_next {rest : List Nat} {w' : World}
    (now : Recording intentId chainIds bundleUuid (chainId :: rest) w) (quotes : w'.quotes = w.quotes)
    (bundles : ∀ other chain, w'.db.bundleOf other chain =
      if (other, chain) = (intentId, chainId) then some bundleUuid else w.db.bundleOf other chain) :
    Recording intentId chainIds bundleUuid rest w' := by
  refine ⟨fun other member => now.1 other (List.mem_cons_of_mem _ member), quotes ▸ now.2.1, fun other member => ?_⟩
  rw [bundles]
  by_cases here : other = chainId
  · simp [here]
  · rw [if_neg (by simpa using here)]
    refine (now.2.2 other member).imp_right fun ⟨left, clear⟩ => ⟨?_, clear⟩
    exact (List.mem_cons.mp left).resolve_left here

/-- Recording the bundle puts it on every row before the report returns. -/
theorem safe_bundle (canonical : uuid bundleUuid = true)
    (now : deployPhase intent.id chainIds (.quoted bundleUuid) l w) :
    (Report.bundle intent chainIds bundleUuid).safe (ledger relayr) l (fun _ l' w' => l'.done = l.done ∧
      l'.settled = l.settled ∧ Bundled intent.id chainIds bundleUuid w') (fun _ _ _ => True) w := by
  refine Action.safe_bind (Action.safe_modify ?_)
  refine Action.safe_imp (Action.safe_each (fun rest l' w => (l'.done = l.done ∧ l'.settled = l.settled) ∧
    Recording intent.id chainIds bundleUuid rest w) ?_ ?_) ?_
  · exact ⟨⟨rfl, rfl⟩, fun _ => id, now.2, fun chainId member => .inr ⟨member, now.1 chainId member⟩⟩
  · rintro chainId rest l' w ⟨same, now⟩
    refine Action.safe_imp (safe_writeBundle rfl rfl now recording_stable
      (fun now _ => recording_due (uuid_nonempty canonical) now) (fun now quotes _ => recording_next now quotes)) ?_
    rintro _ l' w ⟨rfl, now⟩
    exact ⟨same, now⟩
  · rintro _ l' w ⟨same, _, quoted, rows⟩
    exact ⟨same.1, same.2, uuid_nonempty canonical, quoted, fun chainId member =>
      (rows chainId member).resolve_right (by simp)⟩

/-- A bundle on all rows of its chains may be written to one of them again. -/
theorem bundled_due (member : chainId ∈ chainIds)
    (now : Bundled intentId chainIds bundleUuid w) : BundleDue relayr w intentId chainId bundleUuid where
  nonempty := now.1
  unchanged _ := .inr (now.2.2 chainId member)
  quoted _ := ⟨_, now.2.1, rfl, rfl, member⟩

theorem bundled_next {w' : World}
    (now : Bundled intentId chainIds bundleUuid w) (quotes : w'.quotes = w.quotes)
    (bundles : ∀ other chain, w'.db.bundleOf other chain =
      if (other, chain) = (intentId, chainId) then some bundleUuid else w.db.bundleOf other chain) :
    Bundled intentId chainIds bundleUuid w' := by
  refine ⟨now.1, quotes ▸ now.2.1, fun other member => ?_⟩
  rw [bundles]
  split
  · rfl
  · exact now.2.2 other member

theorem safe_create {entries : List RelayrEntry} (now : Unbundled intent.id chainIds w) :
    (ask (.create intent.id chainIds entries)).safe (ledger relayr) l (fun document l' w' => l' = l ∧
      Unbundled intent.id chainIds w' ∧ ⟨document.bundleUuid, intent.id, chainIds⟩ ∈ w'.quotes)
      (fun _ _ _ => True) w := by
  refine Action.safe_request (Unbundled intent.id chainIds) now (fun _ _ step => unbundled_stable step)
    fun w known _ => ⟨trivial, fun reply _ => ⟨?_, fun _ _ _ => trivial⟩⟩
  intro document w' performed
  cases performed
  exact ⟨rfl, known, List.mem_append_right _ List.mem_cons_self⟩

theorem safe_pay {raw : String} {payment : RelayrPayment} (now : Bundled intent.id chainIds bundleUuid w) :
    (ask (.sendPayment ⟨bundleUuid, intent.id, chainIds⟩ payment raw)).safe (ledger relayr) l
      (fun _ l' w' => l' = l ∧ Bundled intent.id chainIds bundleUuid w') (fun _ _ _ => True) w := by
  refine Action.safe_request (Bundled intent.id chainIds bundleUuid) now (fun _ _ step => bundled_stable step)
    fun w known _ => ⟨⟨known.2.1, known.2.2⟩, fun reply _ => ⟨?_, fun _ _ _ => trivial⟩⟩
  intro hash w' performed
  cases performed
  exact ⟨rfl, known⟩

/-- What was spent is charged to a row that carries the bundle. -/
theorem safe_paid {wei : Nat} (nonempty : chainIds ≠ [])
    (now : Bundled intent.id chainIds bundleUuid w) :
    ((report intent chainIds).paid (chainIds.headD 0) wei).safe (ledger relayr) l
      (fun _ l' w' => l' = l ∧ Bundled intent.id chainIds bundleUuid w') (fun _ _ _ => True) w := by
  obtain ⟨first, rest, rfl⟩ := List.exists_cons_of_ne_nil nonempty
  refine Action.safe_bind (Action.safe_read ?_)
  refine Action.safe_request (Bundled intent.id (first :: rest) bundleUuid) now (fun _ _ step => bundled_stable step)
    fun w known _ => ⟨⟨(fun _ written => by cases written), fun _ => ?_⟩, fun reply _ => ⟨?_, fun _ _ _ => trivial⟩⟩
  · change (w.db.bundleOf intent.id first).isSome = true
    rw [known.2.2 first List.mem_cons_self]
    rfl
  · intro value w' performed
    have same := still_same (.query (.updateDeploy intent.id first
      { status := some .queued, spentWei := some wei } l.handling)) rfl reply w
    exact ⟨rfl, bundled_stable ((congrArg Prod.snd performed).subst same) known⟩

/-- The lane rules of a bundle that the claim submits itself. -/
theorem deployRules (nonempty : chainIds ≠ []) : DeployRules (ledger relayr) (report intent chainIds) chainIds intent.id
    (deployPhase intent.id chainIds) (fun _ _ _ => True) where
  toReportRules := Eased.reportRules (fun _ => trivial) deployPhase_locals
    (fun _ idle _ _ now => safe_plain (idle_plain idle) deployPhase_stable now)
    (ledger_eased deployPhase_stable) (ledger_eased deployPhase_stable) (fun _ _ => trivial)
  create now := Action.safe_imp (safe_create now) fun _ _ _ ⟨same, clear, quoted⟩ => ⟨same, clear, clear, quoted⟩
  bundle canonical now := safe_bundle canonical now
  pay now := safe_pay now
  paid now := safe_paid nonempty now
  polled now := now
  sent member now := safe_writeBundle rfl rfl now bundled_stable (fun now _ => bundled_due member now)
    (fun now quotes _ => bundled_next now quotes)

/-- A resumed bundle was quoted for the intent; no prepayment is sent while it is followed. -/
def resumePhase (relayr : Relayr) (intentId bundleUuid : String) (paid : List Bundle) : Phase → Locals → World → Prop
  | .polling other, _, w => other = bundleUuid ∧ bundleUuid ≠ "" ∧ w.paid = paid ∧
    (Reliable relayr → ∃ bundle ∈ w.quotes, bundle.bundleUuid = bundleUuid ∧ bundle.intentId = intentId)
  | .settling _, _, _ => True
  | .closing _, _, _ => True
  | _, _, _ => False

theorem resumePhase_stable {paid : List Bundle} {p : Phase} {a b : World}
    (same : SameLedger a b) (now : resumePhase relayr intentId bundleUuid paid p l a) :
    resumePhase relayr intentId bundleUuid paid p l b := by
  cases p with
  | polling other => exact ⟨now.1, now.2.1, same.paid.trans now.2.2.1, same.quotes ▸ now.2.2.2⟩
  | _ => exact now

theorem resumePhase_locals {paid : List Bundle} {p : Phase} {l l' : Locals}
    (now : resumePhase relayr intentId bundleUuid paid p l w) : resumePhase relayr intentId bundleUuid paid p l' w := by
  cases p <;> exact now

/-- Every entry found in a status comes from an item that names its chain and a hash. -/
theorem resumedEntries_ok {options : LaneOptions} {calls : List DeploymentCall}
    {status : Option StatusDocument} {found : List EntryHash} {entry : EntryHash}
    (read : resumedEntries options bundleUuid calls status = .ok found) (member : entry ∈ found) :
    ∃ document transactions item, status = some document ∧ document.transactions = some transactions ∧
      some item ∈ transactions ∧ item.chain = some entry.chainId ∧ item.hash.isSome := by
  unfold resumedEntries at read
  split at read
  · cases read
  · next transactions named =>
    obtain ⟨document, filtered, listed⟩ := some_bind named
    obtain ⟨given, _⟩ := Option.filter_eq_some_iff.mp filtered
    dsimp only at read
    split at read
    · cases read
      obtain ⟨item, present, made⟩ := List.mem_filterMap.mp member
      rw [List.reduceOption_mem_iff] at present
      refine ⟨document, transactions, item, given, listed, present, ?_⟩
      obtain ⟨chainId, chain, made⟩ := some_bind made
      obtain ⟨hash, hashed, made⟩ := some_bind made
      obtain ⟨held, _⟩ := Option.filter_eq_some_iff.mp hashed
      refine ⟨?_, by simp [held]⟩
      cases made
      split
      · exact chain
      · exact chain
    · cases read

/-- A launch seen on a chain of a resumed bundle puts that bundle on the row that carries it already. -/
theorem resumed_due {paid : List Bundle}
    (seen : Reliable relayr → ∃ bundle ∈ paid, bundle.bundleUuid = bundleUuid ∧ chainId ∈ bundle.chainIds)
    (now : resumePhase relayr intentId bundleUuid paid (.polling bundleUuid) l w) (holds : LedgerHolds relayr w) :
    BundleDue relayr w intentId chainId bundleUuid := by
  obtain ⟨_, nonempty, same, quoted⟩ := now
  have carries : Reliable relayr → ∃ bundle ∈ w.quotes, bundle.bundleUuid = bundleUuid ∧
      bundle.intentId = intentId ∧ chainId ∈ bundle.chainIds ∧ w.db.bundleOf intentId chainId = some bundleUuid := by
    intro reliable
    have consistent := holds.consistent reliable
    obtain ⟨bundle, prepaid, named, holdsChain⟩ := seen reliable
    rw [← same] at prepaid
    obtain ⟨other, offered, alike, owner⟩ := quoted reliable
    cases consistent.distinct bundle (consistent.quoted bundle prepaid) other offered (named.trans alike.symm)
    refine ⟨bundle, offered, named, owner, holdsChain, ?_⟩
    rw [← owner, ← named]
    exact consistent.carried bundle prepaid chainId holdsChain
  exact {
    nonempty
    unchanged := fun reliable =>
      let ⟨_, _, _, _, _, row⟩ := carries reliable
      .inr row
    quoted := fun reliable =>
      let ⟨bundle, offered, named, owner, holdsChain, _⟩ := carries reliable
      ⟨bundle, offered, named, owner, holdsChain⟩ }

theorem resumeRules {options : LaneOptions} {calls : List DeploymentCall} {paid : List Bundle} :
    SettleRules (ledger relayr) (report intent chainIds) chainIds (resumePhase relayr intent.id bundleUuid paid)
      (fun _ _ _ => True) bundleUuid (resumedEntries options bundleUuid calls)
      (fun chainId => Reliable relayr → ∃ bundle ∈ paid, bundle.bundleUuid = bundleUuid ∧ chainId ∈ bundle.chainIds) where
  toReportRules := Eased.reportRules (fun _ => trivial) resumePhase_locals
    (fun _ idle _ _ now => safe_plain (idle_plain idle) resumePhase_stable now)
    (ledger_eased resumePhase_stable) (ledger_eased resumePhase_stable) (fun _ _ => trivial)
  status now := by
    refine Action.safe_request _ now (fun _ _ step => resumePhase_stable step)
      fun w known _ => ⟨trivial, fun reply admitted => ⟨?_, fun _ _ _ => trivial⟩⟩
    intro status w' performed
    cases performed
    refine ⟨rfl, known, fun found read entry member _ reliable => ?_⟩
    obtain ⟨document, transactions, item, rfl, listed, present, chain, hashed⟩ := resumedEntries_ok read member
    obtain ⟨bundle, prepaid, named⟩ := reliable.follows (admitted rfl) listed present chain hashed
    exact ⟨bundle, known.2.2.1 ▸ prepaid, named⟩
  sent member seen now := safe_writeBundle rfl rfl now resumePhase_stable (fun now holds => resumed_due seen now holds)
    (fun now quotes paid _ => ⟨now.1, now.2.1, paid.trans now.2.2.1, quotes ▸ now.2.2.2⟩)
  polled _ := trivial

end JBCenter.Sponsor
