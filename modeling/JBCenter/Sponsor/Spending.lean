import JBCenter.Base.Totals
import JBCenter.Sponsor.Rewrites

/-! What counts against the budget: reserved plus spent wei of the rows of a day. A queue request adds at most its
reservation, a prepayment is charged to a row with a bundle, and no other statement adds anything. -/
namespace JBCenter.Sponsor

def IntentDeployRow.counted (since : Nat) (requester : Option String) (row : IntentDeployRow) : Nat :=
  if since ≤ row.createdAt && requester.all (· == row.requester) then row.reservedWei + row.spentWei else 0

theorem sponsoredWeiSince_eq (db : Database) (since : Nat) (requester : Option String) :
    db.sponsoredWeiSince since requester = db.rows.total (IntentDeployRow.counted since requester) := by
  rw [Database.sponsoredWeiSince, OrderedMap.sum_filter]
  rfl

theorem sponsoredWeiSince_mono (db : Database) (requester : Option String) {since later : Nat} (after : since ≤ later) :
    db.sponsoredWeiSince later requester ≤ db.sponsoredWeiSince since requester := by
  rw [sponsoredWeiSince_eq, sponsoredWeiSince_eq]
  refine OrderedMap.total_weight_le _ fun row => ?_
  unfold IntentDeployRow.counted
  split
  · next inside =>
    simp only [Bool.and_eq_true, decide_eq_true_eq] at inside
    rw [if_pos (by simpa using ⟨Nat.le_trans after inside.1, by simpa using inside.2⟩)]
  · exact Nat.zero_le _

/-- Every row counts for the same or for less, whatever the window. -/
structure Lighter (old new : IntentDeployRow) : Prop where
  requester : new.requester = old.requester
  createdAt : new.createdAt = old.createdAt
  reserved : new.reservedWei ≤ old.reservedWei
  spent : new.spentWei = old.spentWei

theorem Lighter.refl (row : IntentDeployRow) : Lighter row row := ⟨rfl, rfl, Nat.le_refl _, rfl⟩

theorem Lighter.counted {old new : IntentDeployRow} (lighter : Lighter old new) (since : Nat) (requester : Option String) :
    new.counted since requester ≤ old.counted since requester := by
  unfold IntentDeployRow.counted
  rw [lighter.requester, lighter.createdAt]
  split
  · exact Nat.add_le_add lighter.reserved (Nat.le_of_eq lighter.spent)
  · exact Nat.le_refl _

variable {db next : Database} {row : IntentDeployRow} {chainId reserved : Nat} {requester : Option String}
variable {intentId : String}

theorem lighter_retire {message : String} : Lighter row (row.retire message) := by
  refine ⟨rfl, rfl, ?_, rfl⟩
  unfold IntentDeployRow.retire
  dsimp only
  split
  · exact Nat.zero_le _
  · exact Nat.le_refl _

theorem lighter_patched {patch : DeployPatch} (unspent : patch.spentWei = none) :
    Lighter row (row.patched patch) := by
  refine ⟨rfl, rfl, ?_, by simp [IntentDeployRow.patched, unspent]⟩
  unfold IntentDeployRow.patched
  dsimp only
  split
  · exact Nat.zero_le _
  · split
    · exact Nat.zero_le _
    · exact Nat.le_refl _

/-- What counts for the requester did not grow, in any window. -/
def Unraised (requester : Option String) (db next : Database) : Prop :=
  ∀ since, next.sponsoredWeiSince since requester ≤ db.sponsoredWeiSince since requester

theorem Unraised.refl (requester : Option String) (db : Database) : Unraised requester db db := fun _ => Nat.le_refl _

theorem Unraised.trans {a b c : Database} (first : Unraised requester a b)
    (second : Unraised requester b c) : Unraised requester a c := fun since => Nat.le_trans (second since) (first since)

theorem unraised_of_rows (same : next.rows = db.rows) :
    Unraised requester db next := fun since => by
  rw [sponsoredWeiSince_eq, sponsoredWeiSince_eq, same]

theorem unraised_mapValues
    {f : String × Nat → IntentDeployRow → IntentDeployRow} (lighter : ∀ key row, Lighter row (f key row)) :
    Unraised requester db { db with rows := db.rows.mapValues f } := fun since => by
  rw [sponsoredWeiSince_eq, sponsoredWeiSince_eq]
  exact db.rows.total_mapValues_le fun key row => (lighter key row).counted since requester

theorem lighter_if {condition : Bool} {old new : IntentDeployRow} (lighter : Lighter old new) :
    Lighter old (if condition then new else old) := by
  cases condition with
  | true => exact lighter
  | false => exact .refl old

theorem unraised_retireUnpaidForWallet {only : Option String} :
    Unraised requester db (db.retireUnpaidForWallet only) :=
  unraised_mapValues fun _ _ => lighter_if lighter_retire

theorem unraised_recordDeployment
    {value : Deployment} (recorded : db.recordDeployment intentId chainId value = .ok next) :
    Unraised requester db next := by
  rcases Database.recordDeployment_rows recorded with same | ⟨before, same, rfl⟩
  · exact unraised_of_rows same
  · exact (unraised_of_rows same).trans unraised_retireUnpaidForWallet

/-- The requester whose row a statement charges a prepayment to. -/
def Query.charged (db : Database) : Query → Option String
  | .updateDeploy intentId chainId patch _ =>
    patch.spentWei.bind fun _ => (db.rows.get (intentId, chainId)).map IntentDeployRow.requester
  | _ => none

/-- A charge to one requester counts for that requester and for everybody. -/
def Spared : Option String → Option String → Prop
  | none, charged => charged = none
  | some requester, charged => charged ≠ some requester

theorem counted_other {since : Nat} {requester : String} (other : row.requester ≠ requester) :
    row.counted since (some requester) = 0 := by
  simp [IntentDeployRow.counted, Ne.symm other]

theorem unraised_updateDeploy
    {patch : DeployPatch} {cause : Option Failure}
    (spared : Spared requester ((Query.updateDeploy intentId chainId patch cause).charged db))
    (updated : db.updateDeploy intentId chainId patch = .ok next) : Unraised requester db next := by
  rcases Database.updateDeploy_ok updated with ⟨_, _, rfl⟩ | ⟨row, found, _, rfl⟩
  · exact .refl _ _
  · intro since
    have lighter : (row.patched patch).counted since requester ≤ row.counted since requester := by
      cases spent : patch.spentWei with
      | none => exact (lighter_patched spent).counted since requester
      | some wei =>
        simp only [Query.charged, spent, Option.bind_some, found, Option.map_some] at spared
        cases requester with
        | none => cases spared
        | some name =>
          have other : row.requester ≠ name := fun same => spared (congrArg some same)
          rw [counted_other (show (row.patched patch).requester ≠ name from other)]
          exact Nat.zero_le _
    have total := db.rows.total_set (IntentDeployRow.counted since requester) (intentId, chainId) (row.patched patch)
    rw [found, Option.elim_some] at total
    rw [sponsoredWeiSince_eq, sponsoredWeiSince_eq]
    dsimp only
    omega

theorem run_unraised {statement : Query} {value : statement.Result}
    (spared : Spared requester (statement.charged db)) (ran : statement.run db = .ok (value, next)) :
    Unraised requester db next := by
  cases statement with
  | retireExhausted | retireWaiting => cases ran; exact unraised_mapValues fun _ _ => lighter_if lighter_retire
  | retireUnpaidForWallet => cases ran; exact unraised_retireUnpaidForWallet
  | leaseQueued seconds limit =>
    cases ran
    exact unraised_mapValues fun _ _ => lighter_if ⟨rfl, rfl, Nat.le_refl _, rfl⟩
  | selectIntent | selectDeployments | selectDeploys => cases ran; exact .refl _ _
  | updateDeploy intentId chainId patch cause => exact unraised_updateDeploy spared (Query.run_updateDeploy ran)
  | recordDeployment intentId chainId deployment => exact unraised_recordDeployment (Query.run_recordDeployment ran)
  | releaseClaim intentId chainIds =>
    cases ran
    exact unraised_mapValues fun _ _ => lighter_if ⟨rfl, rfl, Nat.le_refl _, rfl⟩

/-- What one queued row counts for. -/
def reservationOf (asking : String) (reserved : Nat) (requester : Option String) : Nat :=
  if requester.all (· == asking) then reserved else 0

theorem queueRow_shape {asking : String} {retry : Bool}
    (unspent : Unspent db)
    (written : db.queueRow intentId asking reserved retry chainId = some row) :
    row.requester = asking ∧ row.reservedWei = reserved ∧ row.spentWei = 0 := by
  unfold Database.queueRow at written
  split at written
  · cases written
    exact ⟨rfl, rfl, rfl⟩
  · next old found =>
    split at written
    · next failed =>
      simp only [Bool.and_eq_true, Option.isNone_iff_eq_none] at failed
      cases written
      exact ⟨rfl, rfl, unspent _ old found failed.2⟩
    · cases written

theorem counted_queueRow {asking : String} {since : Nat} {retry : Bool}
    (unspent : Unspent db)
    (written : db.queueRow intentId asking reserved retry chainId = some row) :
    row.counted since requester ≤ reservationOf asking reserved requester := by
  obtain ⟨asks, holds, nothing⟩ := queueRow_shape unspent written
  unfold IntentDeployRow.counted reservationOf
  rw [asks, holds, nothing]
  split
  · next inside =>
    simp only [Bool.and_eq_true] at inside
    rw [if_pos inside.2]
    exact Nat.le_refl _
  · exact Nat.zero_le _

theorem total_foldl_write {rowOf : Nat → Option IntentDeployRow} {weight : IntentDeployRow → Nat}
    {bound : Nat} (each : ∀ chainId row, rowOf chainId = some row → weight row ≤ bound) (chains : List Nat)
    (rows : OrderedMap (String × Nat) IntentDeployRow) :
    (chains.foldl (fun rows chainId => (rowOf chainId).elim rows (rows.set (intentId, chainId))) rows).total weight ≤
      rows.total weight + chains.length * bound := by
  induction chains generalizing rows with
  | nil => simp
  | cons chainId rest ih =>
    rw [List.foldl_cons, List.length_cons, Nat.succ_mul]
    refine Nat.le_trans (ih _) ?_
    cases written : rowOf chainId with
    | none =>
      simp only [Option.elim_none]
      omega
    | some row =>
      have added := rows.total_set_le weight (intentId, chainId) row
      have few := each chainId row written
      simp only [Option.elim_some]
      omega

theorem sponsoredWeiSince_queueDeploys {asking : String} {chainIds : List Nat}
    {since : Nat} {retry : Bool} (unspent : Unspent db)
    (queued : db.queueDeploys intentId chainIds asking reserved retry = .ok next) :
    next.sponsoredWeiSince since requester ≤
      db.sponsoredWeiSince since requester + chainIds.length * reservationOf asking reserved requester := by
  simp only [Database.queueDeploys] at queued
  split at queued
  · cases queued
  · split at queued
    · cases queued
    · cases queued
      rw [sponsoredWeiSince_eq, sponsoredWeiSince_eq]
      refine Nat.le_trans (total_foldl_write (fun _ _ => counted_queueRow unspent) _ _) ?_
      exact Nat.add_le_add_left (Nat.mul_le_mul_right _ (List.length_filter_le _ _)) _

end JBCenter.Sponsor
