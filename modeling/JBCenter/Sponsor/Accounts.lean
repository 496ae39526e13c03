import JBCenter.Sponsor.Rewrites

/-! The wei a row reserves. A row that is over holds nothing when it is confirmed or never reached a bundle, and
what it held before when it failed with one. -/
namespace JBCenter.Sponsor

variable {permits : DeployPatch → Prop} {intentId : String} {chainId : Nat} {row row' : IntentDeployRow}
variable {options : LaneOptions} {leaseSeconds : Nat} {s t start : System} {event : Event}

/-- A row that is over holds no reservation, unless it failed with a bundle. -/
structure Reconciled (row : IntentDeployRow) : Prop where
  confirmed : row.status = .confirmed → row.reservedWei = 0
  unpaid : row.status = .failed → row.bundleUuid = none → row.reservedWei = 0

theorem RowChange.reconciled (change : RowChange permits row row') (settled : Reconciled row) :
    Reconciled row' := by
  cases change with
  | leased => exact ⟨settled.confirmed, settled.unpaid⟩
  | retired error open_ =>
    refine ⟨fun confirmed => ?_, fun _ clear => ?_⟩
    · cases confirmed
    · have before : row.bundleUuid = none := clear
      simp [IntentDeployRow.retire, before]
  | patched patch _ =>
    refine ⟨fun confirmed => ?_, fun failed clear => ?_⟩
    · simp only [IntentDeployRow.patched] at confirmed ⊢
      cases status : patch.status with
      | none =>
        rw [status, Option.getD_none] at confirmed
        simp [settled.confirmed confirmed]
      | some chosen =>
        rw [status, Option.getD_some] at confirmed
        simp [confirmed]
    · simp only [IntentDeployRow.patched, Option.or_eq_none_iff] at failed clear ⊢
      cases status : patch.status with
      | none =>
        rw [status, Option.getD_none] at failed
        simp [settled.unpaid failed clear.2]
      | some chosen =>
        rw [status, Option.getD_some] at failed
        simp [failed, clear]
  | requeued requester reserved createdAt failed clear =>
    refine ⟨fun confirmed => ?_, fun failed => ?_⟩
    · cases confirmed
    · cases failed

theorem RowChange.kept (change : RowChange permits row row') (failed : row'.status = .failed)
    (bundled : row'.bundleUuid.isSome = true) : row'.reservedWei = row.reservedWei := by
  cases change with
  | leased => rfl
  | retired error open_ =>
    have before : row.bundleUuid.isSome = true := bundled
    simp [IntentDeployRow.retire, Option.isSome_iff_ne_none.mp before]
  | patched patch _ =>
    simp only [IntentDeployRow.patched] at failed bundled ⊢
    have carries : ¬ (row.bundleUuid = none ∧ patch.bundleUuid = none) := by
      rintro ⟨clear, unwritten⟩
      simp [clear, unwritten] at bundled
    cases status : patch.status with
    | none => simp
    | some chosen =>
      rw [status, Option.getD_some] at failed
      simp [failed, carries]
  | requeued requester reserved createdAt _ clear => cases failed

theorem run_reconciled {events : List Event} (initial : start.Initial)
    (run : Run (fun s event t => s.step options leaseSeconds event = some t) start events s) :
    ∀ key row, s.world.db.rows.get key = some row → Reconciled row := by
  refine run.state_invariant (P := fun s => ∀ key row, s.world.db.rows.get key = some row → Reconciled row) ?_ ?_
  · intro key row found
    rw [initial.rows] at found
    cases found
  · intro s event t settled taken key row' found
    rcases (step_changes taken).rows key row' found with ⟨row, before, change⟩ | fresh
    · exact change.reconciled (settled key row before)
    · refine ⟨fun confirmed => ?_, fun failed => ?_⟩
      · cases fresh.status.symm.trans confirmed
      · cases fresh.status.symm.trans failed

/-- The row an operation charges what was spent. -/
def Op.charges : Op → Option (String × Nat)
  | .query (.updateDeploy intentId chainId patch _) => if patch.spentWei.isSome then some (intentId, chainId) else none
  | _ => none

def Event.charges : Event → Option (String × Nat)
  | .work op _ => op.charges
  | _ => none

theorem RowChange.spent (change : RowChange (fun patch => patch.spentWei = none) row row') :
    row'.spentWei = row.spentWei := by
  cases change with
  | leased => rfl
  | retired error open_ => rfl
  | patched patch uncharged => simp [IntentDeployRow.patched, uncharged]
  | requeued requester reserved createdAt failed clear => rfl

theorem update_elsewhere {key : String × Nat} {patch : DeployPatch} {cause : Option Failure} {fate : Fate} {w : World}
    (apart : key ≠ (intentId, chainId)) :
    (Op.perform (.query (.updateDeploy intentId chainId patch cause)) fate w).2.db.rows.get key = w.db.rows.get key := by
  rcases query_cases (.updateDeploy intentId chainId patch cause) fate w with same | ⟨value, next, ran, made⟩
  · rw [same]
  · rw [made]
    rcases Database.updateDeploy_ok (Query.run_updateDeploy ran) with ⟨_, _, rfl⟩ | ⟨_, _, _, rfl⟩
    · rfl
    · exact OrderedMap.get_set_ne _ _ apart

theorem step_spent {key : String × Nat} (taken : s.step options leaseSeconds event = some t)
    (before : s.world.db.rows.get key = some row) (after : t.world.db.rows.get key = some row')
    (other : event.charges ≠ some key) : row'.spentWei = row.spentWei := by
  cases charges : event.charges with
  | none =>
    have uncharged : ∀ op reply (charged : String × Nat) patch, event = .work op reply →
        op.update = some (charged, patch) → patch.spentWei = none := by
      rintro op reply key patch rfl updates
      unfold Op.update at updates
      split at updates
      · cases updates
        simp only [Event.charges, Op.charges] at charges
        split at charges
        · cases charges
        · next none => simpa using none
      · cases updates
    rcases (step_rewrites taken uncharged).rows key row' after with ⟨row₀, stood, change⟩ | fresh
    · cases before.symm.trans stood
      exact change.spent
    · cases before.symm.trans fresh.missing
  | some charged =>
    rw [charges] at other
    cases event with
    | work op reply =>
      obtain ⟨_, _, rfl⟩ := step_work taken
      change (op.perform reply s.world).2.db.rows.get key = some row' at after
      cases op with
      | query statement =>
        cases statement with
        | updateDeploy intentId chainId patch cause =>
          simp only [Event.charges, Op.charges] at charges
          split at charges
          · cases charges
            have apart : key ≠ (intentId, chainId) := fun same => other (congrArg some same.symm)
            have same := (update_elsewhere apart).symm.trans after
            cases before.symm.trans same
            rfl
          · cases charges
        | _ => cases charges
      | external request => cases charges
      | mark point => cases charges
    | _ => cases charges

end JBCenter.Sponsor
