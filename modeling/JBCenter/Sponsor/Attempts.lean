import JBCenter.Sponsor.Verdicts

/-! Requests, wallets and the clock leave the rows with a bundle as they are. -/
namespace JBCenter.Sponsor

variable {options : LaneOptions} {leaseSeconds : Nat} {s t : System} {event : Event}

variable {chainIds : List Nat} {reserved : Nat} {intentId requester : String}

theorem queueDeploys_kept {db next : Database}
    {retry : Bool} (queued : db.queueDeploys intentId chainIds requester reserved retry = .ok next)
    {key : String × Nat} {row : IntentDeployRow} (found : db.rows.get key = some row) (carries : row.bundleUuid.isSome) :
    next.rows.get key = some row := by
  rw [Database.get_queueDeploys queued]
  split
  · next here =>
    obtain ⟨rfl, -⟩ := here
    cases written : db.queueRow key.1 requester reserved retry key.2 with
    | none => rwa [Option.none_or]
    | some fresh =>
      have clear := (Database.queueRow_bundle written).2
      rw [Database.bundleOf, found, Option.bind_some] at clear
      simp [clear] at carries
  · exact found

theorem outside_kept (taken : s.step options leaseSeconds event = some t) (outside : event.isWork = false) :
    RowsKept s.world t.world := by
  rcases (outside_cases taken outside).1 with ⟨_, _, _, _, _, db, _, queued, made⟩ | ⟨_, _, _, db, _, recorded, made⟩ |
    ⟨_, _, made, grows⟩
  · exact made ▸ ⟨rfl, fun _ => id, Database.bundleOf_queueDeploys queued, fun _ _ => queueDeploys_kept queued,
      fun intentId known => (queueDeploys_intents queued).1.symm ▸ known⟩
  · exact made ▸ ⟨rfl, fun _ => id, Database.bundleOf_recordDeployment recorded, fun _ _ => recordDeployment_kept recorded,
      fun intentId known => (recordDeployment_intents recorded).symm ▸ known⟩
  · exact made ▸ ⟨rfl, fun _ => id, fun _ _ => rfl, fun _ _ found _ => found, grows⟩

end JBCenter.Sponsor
