import JBCenter.Sponsor.Rewrites

/-! Rows that carry a prepaid bundle. What may fail such a row, which of them can still be claimed, and
what each operation does to them. -/
namespace JBCenter.Sponsor
open IntentDeployRow (isOpen patched)

/-- The row of a chain, carrying a bundle a prepayment was sent for. -/
def PaidRow (w : World) (key : String × Nat) (row : IntentDeployRow) : Prop :=
  w.db.rows.get key = some row ∧ ∃ bundle ∈ w.paid, row.bundleUuid = some bundle.bundleUuid

/-- A row that is open and out of attempts belongs to one of the claims. -/
def Waiting (w : World) (claims : List (String × List Nat)) : Prop :=
  ∀ key row, PaidRow w key row → row.isOpen = true →
    row.attempts < 3 ∨ ∃ claim ∈ claims, claim.1 = key.1 ∧ key.2 ∈ claim.2

/-- If the row of the chain is paid for, it has its outcome. -/
def Settled (w : World) (intentId : String) (chainId : Nat) : Prop :=
  ∀ row, PaidRow w (intentId, chainId) row → row.isOpen = false

def Unpaid (w : World) (intentId : String) (chainId : Nat) : Prop :=
  ∀ row, ¬ PaidRow w (intentId, chainId) row

/-- Messages that state a definitive outcome of a row that is paid for. -/
def verdictMessages : List String := "chain already deployed" :: settledMessages

/-- Definitive evidence: an error that ends even a paid launch, or an outcome that was read off the chain. -/
def Verdict (patch : DeployPatch) : Option Failure → Prop
  | some error => laneOutcome error true = .terminal
  | none => ∃ message ∈ verdictMessages, patch.error = some message

def PaidDue : Op → World → Prop
  | .query (.updateDeploy intentId chainId patch cause), w =>
    patch.status = some .failed → Unpaid w intentId chainId ∨ Verdict patch cause
  | .query .retireExhausted, w => Waiting w []
  | _, _ => True

/-- What errors may do to paid rows: while a launch is confirmed only a definitive one is raised, and no
paid row is on its third attempt when an error leaves its claim or the answer of a claiming statement is lost. -/
def Op.orderly : (op : Op) → op.Reply → World → Prop
  | .mark (.caught .confirming error), _, _ => laneOutcome error true = .terminal
  | .mark (.escaped intentId claimed _), _, w => ∀ chainId ∈ claimed, ∀ row, PaidRow w (intentId, chainId) row →
    row.isOpen = true → row.attempts < 3
  | .query (.leaseQueued _ limit), .lost _, w => ∀ key row, PaidRow w key row → w.db.claimable key.1 row = true →
    key.1 ∈ w.db.picked limit → row.attempts + 1 < 3
  | _, _, _ => True

/-- Nothing happened to rows that carry a bundle, and no prepayment was sent. -/
structure RowsKept (w w' : World) : Prop where
  paid : w'.paid = w.paid
  quotes : ∀ bundle ∈ w.quotes, bundle ∈ w'.quotes
  bundles : ∀ intentId chainId, w'.db.bundleOf intentId chainId = w.db.bundleOf intentId chainId
  rows : ∀ key row, w.db.rows.get key = some row → row.bundleUuid.isSome → w'.db.rows.get key = some row
  intents : ∀ intentId, w.db.intents.has intentId = true → w'.db.intents.has intentId = true

theorem RowsKept.refl (w : World) : RowsKept w w :=
  ⟨rfl, fun _ => id, fun _ _ => rfl, fun _ _ found _ => found, fun _ => id⟩

theorem RowsKept.trans {a b c : World} (first : RowsKept a b) (second : RowsKept b c) : RowsKept a c where
  paid := second.paid.trans first.paid
  quotes bundle member := second.quotes bundle (first.quotes bundle member)
  bundles i c := (second.bundles i c).trans (first.bundles i c)
  rows key row found carries := second.rows key row (first.rows key row found carries) carries
  intents i known := second.intents i (first.intents i known)

theorem RowsKept.paidRow {a b : World} (kept : RowsKept a b) {key : String × Nat} {row : IntentDeployRow}
    (now : PaidRow b key row) : PaidRow a key row := by
  obtain ⟨found, bundle, prepaid, carries⟩ := now
  have carried : b.db.bundleOf key.1 key.2 = some bundle.bundleUuid := by
    rw [Database.bundleOf, found, Option.bind_some, carries]
  rw [kept.bundles] at carried
  obtain ⟨before, held, same⟩ := some_bind carried
  have unchanged := kept.rows key before held (by simp [same])
  cases found.symm.trans unchanged
  exact ⟨held, bundle, kept.paid ▸ prepaid, carries⟩

/-- What is known while a claim runs: the bundles that were quoted, the claims still waiting, the chains with
an outcome, and the chains not paid for. -/
structure Tidy (intentId : String) (claims : List (String × List Nat)) (settled unpaid : List Nat)
    (offered : List Bundle) (w : World) : Prop where
  offered : ∀ bundle ∈ offered, bundle ∈ w.quotes
  known : ∀ claim ∈ claims, w.db.intents.has claim.1 = true
  waiting : Waiting w claims
  settled : ∀ chainId ∈ settled, Settled w intentId chainId
  unpaid : ∀ chainId ∈ unpaid, Unpaid w intentId chainId

section
variable {intentId : String} {claims : List (String × List Nat)} {settled unpaid : List Nat} {offered : List Bundle}
variable {w w' : World}

theorem Tidy.reflect (tidy : Tidy intentId claims settled unpaid offered w)
    (quotes : ∀ bundle ∈ w.quotes, bundle ∈ w'.quotes)
    (intents : ∀ intentId, w.db.intents.has intentId = true → w'.db.intents.has intentId = true)
    (reflects : ∀ key row, PaidRow w' key row → PaidRow w key row) :
    Tidy intentId claims settled unpaid offered w' where
  offered bundle member := quotes bundle (tidy.offered bundle member)
  known claim member := intents claim.1 (tidy.known claim member)
  waiting key row paid := tidy.waiting key row (reflects key row paid)
  settled chainId member row paid := tidy.settled chainId member row (reflects _ row paid)
  unpaid chainId member row paid := tidy.unpaid chainId member row (reflects _ row paid)

theorem Tidy.stable (kept : RowsKept w w') (tidy : Tidy intentId claims settled unpaid offered w) :
    Tidy intentId claims settled unpaid offered w' :=
  tidy.reflect kept.quotes kept.intents fun _ _ paid => kept.paidRow paid

theorem Tidy.update {rest : List (String × List Nat)} {claimed : List Nat} {chainId : Nat} {patch : DeployPatch}
    (tidy : Tidy intentId ((intentId, claimed) :: rest) settled unpaid offered w) (member : chainId ∈ claimed)
    (closes : patch.status = some .failed ∨ patch.status = some .confirmed ∨ chainId ∉ settled)
    (unbundled : patch.bundleUuid = none ∨ chainId ∉ unpaid) (paid : w'.paid = w.paid) (quotes : w'.quotes = w.quotes)
    (updated : w.db.updateDeploy intentId chainId patch = .ok w'.db) :
    Tidy intentId ((intentId, claimed) :: rest) settled unpaid offered w' := by
  rcases Database.updateDeploy_ok updated with ⟨_, _, same⟩ | ⟨row, found, _, made⟩
  · exact tidy.reflect (by simp [quotes]) (by simp [same]) fun key row now => ⟨same ▸ now.1, paid ▸ now.2⟩
  · have elsewhere : ∀ key other, key ≠ (intentId, chainId) → PaidRow w' key other → PaidRow w key other := by
      intro key other differs now
      refine ⟨?_, paid ▸ now.2⟩
      have held := now.1
      rwa [made, OrderedMap.get_set_ne _ _ differs] at held
    have here : ∀ other, PaidRow w' (intentId, chainId) other → other = row.patched patch := by
      intro other now
      have held := now.1
      rw [made, OrderedMap.get_set_self] at held
      exact (Option.some.inj held).symm
    refine ⟨quotes ▸ tidy.offered, by rw [made]; exact tidy.known, fun key other now open_ => ?_,
      fun chain inside other now => ?_,
      fun chain inside other now => ?_⟩
    · by_cases same : key = (intentId, chainId)
      · exact .inr ⟨_, List.mem_cons_self, by rw [same], by rw [same]; exact member⟩
      · exact tidy.waiting key other (elsewhere key other same now) open_
    · by_cases same : chain = chainId
      · subst same
        rw [here other now]
        rcases closes with failed | confirmed | outside
        · simp [isOpen, patched, failed]
        · simp [isOpen, patched, confirmed]
        · exact absurd inside outside
      · exact tidy.settled chain inside other (elsewhere _ other (by simpa using same) now)
    · by_cases same : chain = chainId
      · subst same
        rcases unbundled with none_ | outside
        · have made_ := here other now
          obtain ⟨bundle, prepaid, carries⟩ := now.2
          refine tidy.unpaid chain inside row ⟨found, bundle, paid ▸ prepaid, ?_⟩
          rw [made_] at carries
          simpa [patched, none_] using carries
        · exact absurd inside outside
      · exact tidy.unpaid chain inside other (elsewhere _ other (by simpa using same) now)

theorem settled_of_close {chainId : Nat} {patch : DeployPatch}
    (closes : patch.status = some .failed ∨ patch.status = some .confirmed)
    (updated : w.db.updateDeploy intentId chainId patch = .ok w'.db) : Settled w' intentId chainId := by
  intro other now
  rcases Database.updateDeploy_ok updated with ⟨missing, _, same⟩ | ⟨row, found, _, made⟩
  · have held := now.1
    rw [same, missing] at held
    cases held
  · have held := now.1
    rw [made, OrderedMap.get_set_self] at held
    cases held
    rcases closes with failed | confirmed
    · simp [isOpen, patched, failed]
    · simp [isOpen, patched, confirmed]

end

structure PaidHolds (w : World) : Prop where
  consistent : Consistent w
  nonempty : ∀ intentId chainId, w.db.bundleOf intentId chainId ≠ some ""
  attempts : ∀ key row, w.db.rows.get key = some row → row.attempts ≤ 3
  owned : ∀ key row, w.db.rows.get key = some row → w.db.intents.has key.1 = true

def paidSetting : Setting Op Failure Op.Result World where
  Reply := Op.Reply
  perform := Op.perform
  rely _ := RowsKept
  holds := PaidHolds
  admits := Op.orderly
  due := PaidDue

/-- Operations that do nothing to rows with a bundle, send no prepayment and have nothing due. -/
def Op.calm : Op → Bool
  | .query (.selectIntent _) => true
  | .query (.selectDeployments _) => true
  | .query (.selectDeploys _) => true
  | .query (.recordDeployment _ _ _) => true
  | .query .retireUnpaidForWallet => true
  | .query _ => false
  | .external (.sendPayment _ _ _) => false
  | .external _ => true
  | .mark _ => true

theorem retireUnpaidForWallet_kept {db : Database} {only : Option String} {key : String × Nat} {row : IntentDeployRow}
    (found : db.rows.get key = some row) (carries : row.bundleUuid.isSome) :
    (db.retireUnpaidForWallet only).rows.get key = some row := by
  have bundled : row.bundleUuid ≠ none := Option.isSome_iff_ne_none.mp carries
  simp [Database.retireUnpaidForWallet, found, bundled]

theorem recordDeployment_kept {db next : Database} {intentId : String} {chainId : Nat} {value : Deployment}
    (recorded : db.recordDeployment intentId chainId value = .ok next) {key : String × Nat} {row : IntentDeployRow}
    (found : db.rows.get key = some row) (carries : row.bundleUuid.isSome) : next.rows.get key = some row := by
  rcases Database.recordDeployment_rows recorded with same | ⟨before, same, rfl⟩
  · rw [same, found]
  · exact retireUnpaidForWallet_kept (same ▸ found) carries

theorem run_kept {statement : Query} {db next : Database} {value : statement.Result}
    (calm : (Op.query statement).calm = true) (ran : statement.run db = .ok (value, next)) :
    next.intents = db.intents ∧ ∀ key row, db.rows.get key = some row → row.bundleUuid.isSome →
      next.rows.get key = some row := by
  cases statement with
  | selectIntent | selectDeployments | selectDeploys => cases ran; exact ⟨rfl, fun _ _ found _ => found⟩
  | retireUnpaidForWallet => cases ran; exact ⟨rfl, fun _ _ => retireUnpaidForWallet_kept⟩
  | recordDeployment intentId chainId deployment =>
    have recorded := Query.run_recordDeployment ran
    exact ⟨recordDeployment_intents recorded, fun _ _ => recordDeployment_kept recorded⟩
  | _ => cases calm

theorem calm_kept (op : Op) (calm : op.calm = true) (reply : op.Reply) (w : World) :
    RowsKept w (op.perform reply w).2 := by
  cases op with
  | mark point => exact .refl w
  | external request =>
    cases request with
    | sendPayment bundle payment raw => cases calm
    | create intentId chainIds entries =>
      cases reply with
      | error error => exact .refl w
      | ok document => exact { RowsKept.refl w with quotes := fun _ member => List.mem_append_left _ member }
    | _ => exact .refl w
  | query statement =>
    rcases query_cases statement reply w with same | ⟨value, next, ran, made⟩
    · rw [same]
      exact .refl w
    · obtain ⟨intents, rows⟩ := run_kept calm ran
      have bundles := Query.run_bundles (by cases statement <;> first | rfl | cases calm) ran
      rw [made]
      refine ⟨rfl, fun _ => id, bundles, rows, fun intentId known => ?_⟩
      change next.intents.has intentId = true
      rwa [intents]

theorem calm_due {op : Op} (calm : op.calm = true) (w : World) : PaidDue op w := by
  cases op with
  | query statement => cases statement <;> trivial
  | external request => trivial
  | mark point => trivial

section
variable {P : World → Prop} {l : Locals} {w : World}

theorem safe_calm {op : Op} (calm : op.calm = true) (stable : ∀ {a b}, RowsKept a b → P a → P b) (now : P w) :
    (Action.request op : Act op.Result).safe paidSetting l (fun _ l' w' => l' = l ∧ P w')
      (fun _ l' w' => l' = l ∧ P w') w := by
  refine Action.safe_request P now (fun _ _ step => stable step) fun w known _ => ⟨calm_due calm w, fun reply _ => ?_⟩
  have kept := calm_kept op calm reply w
  refine ⟨fun value w' performed => ⟨rfl, stable ?_ known⟩, fun error w' performed => ⟨rfl, stable ?_ known⟩⟩
  · rwa [show (op.perform reply w).2 = w' from congrArg Prod.snd performed] at kept
  · rwa [show (op.perform reply w).2 = w' from congrArg Prod.snd performed] at kept

variable {intentId : String} {claimed : List Nat} {rest : List (String × List Nat)} {settled unpaid : List Nat}
variable {offered : List Bundle} {chainId : Nat} {patch : DeployPatch}

theorem safe_claimed (member : chainId ∈ claimed)
    (closes : patch.status = some .failed ∨ patch.status = some .confirmed ∨ chainId ∉ settled)
    (unbundled : patch.bundleUuid = none ∨ chainId ∉ unpaid)
    (tidy : Tidy intentId ((intentId, claimed) :: rest) settled unpaid offered w)
    (verdict : patch.status = some .failed → Unpaid w intentId chainId ∨ Verdict patch l.handling) :
    (updateDeploy intentId chainId patch).safe paidSetting l (fun _ l' w' => l' = l ∧
      Tidy intentId ((intentId, claimed) :: rest) settled unpaid offered w' ∧
      (patch.status = some .failed ∨ patch.status = some .confirmed → Settled w' intentId chainId))
      (fun _ l' w' => l' = l ∧ Tidy intentId ((intentId, claimed) :: rest) settled unpaid offered w') w := by
  refine Action.safe_bind (Action.safe_read ?_)
  refine Action.safe_request (fun w => Tidy intentId ((intentId, claimed) :: rest) settled unpaid offered w ∧
    (patch.status = some .failed → Unpaid w intentId chainId ∨ Verdict patch l.handling)) ⟨tidy, verdict⟩ ?_ ?_
  · rintro a b kept ⟨tidy, verdict⟩
    refine ⟨tidy.stable kept, fun failed => (verdict failed).imp_left fun unpaid row paid => ?_⟩
    exact unpaid row (kept.paidRow paid)
  · rintro w ⟨tidy, verdict⟩ -
    refine ⟨verdict, fun fate _ => ⟨fun value w' performed => ?_, fun error w' performed => ⟨rfl, ?_⟩⟩⟩
    · obtain ⟨next, ran, rfl⟩ := query_ok performed
      have updated := Query.run_updateDeploy ran
      exact ⟨rfl, tidy.update member closes unbundled rfl rfl updated, fun closing => settled_of_close closing updated⟩
    · have after : (Op.perform (.query (.updateDeploy intentId chainId patch l.handling)) fate w).2 = w' :=
        congrArg Prod.snd performed
      rcases query_cases (.updateDeploy intentId chainId patch l.handling) fate w with same | ⟨value, next, ran, made⟩
      · rwa [← after, same]
      · rw [← after, made]
        exact tidy.update member closes unbundled rfl rfl (Query.run_updateDeploy ran)

end
end JBCenter.Sponsor
