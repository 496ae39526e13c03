import JBCenter.Sponsor.Accounts

/-! The rows that a pass of the worker holds claims on, beside wallets that deploy. Recording a wallet deployment
fails every queued row of its intent that has no bundle, and no statement but a retry opens such a row again, so
the bundle of a lane that still runs on one is refused. -/
namespace JBCenter.Sponsor

namespace Database
variable {db next : Database} {intentId : String} {chainId : Nat}

/-- The row of a chain that a pass holds a claim on: without a bundle it is open only as long as no
wallet deployed a chain of its intent. -/
def Held (db : Database) (intentId : String) (chainId : Nat) : Prop :=
  ∃ row, db.rows.get (intentId, chainId) = some row ∧ (row.bundleUuid = none →
    row.status = .failed ∨ (row.status = .queued ∧ db.walletDeployedOf intentId = false))

theorem held_of_bundle (carries : (db.bundleOf intentId chainId).isSome = true) : db.Held intentId chainId := by
  obtain ⟨bundleUuid, carried⟩ := Option.isSome_iff_exists.mp carries
  obtain ⟨row, found, held⟩ := some_bind carried
  refine ⟨row, found, fun clear => ?_⟩
  rw [held] at clear
  cases clear

theorem Held.refuses {patch : DeployPatch} (held : db.Held intentId chainId)
    (wallet : db.walletDeployedOf intentId = true) (clear : db.bundleOf intentId chainId = none)
    (updated : db.updateDeploy intentId chainId patch = .ok next) : patch.bundleUuid = none := by
  obtain ⟨row, found, unpaid⟩ := held
  have unbundled : row.bundleUuid = none := by
    rwa [bundleOf, found, Option.bind_some] at clear
  have failed : row.status = .failed := by
    rcases unpaid unbundled with failed | ⟨_, unclaimed⟩
    · exact failed
    · rw [wallet] at unclaimed
      cases unclaimed
  rcases updateDeploy_ok updated with ⟨missing, _, _⟩ | ⟨row', found', accepted, _⟩
  · rw [found] at missing
    cases missing
  · cases found.symm.trans found'
    by_contra written
    exact accepted ⟨Option.isSome_iff_ne_none.mpr written, failed, unbundled⟩

theorem held_mapValues {f : String × Nat → IntentDeployRow → IntentDeployRow}
    (bundle : ∀ key row, (f key row).bundleUuid = row.bundleUuid)
    (status : ∀ key row, (f key row).status = row.status ∨ (f key row).status = .failed)
    (held : db.Held intentId chainId) : Held { db with rows := db.rows.mapValues f } intentId chainId := by
  obtain ⟨row, found, unpaid⟩ := held
  refine ⟨f (intentId, chainId) row, by simp [found], fun clear => ?_⟩
  rw [bundle] at clear
  rcases status (intentId, chainId) row with same | failed
  · rw [same]
    exact unpaid clear
  · exact .inl failed

theorem held_retire {retires : String × Nat → IntentDeployRow → Bool} {error : IntentDeployRow → String}
    (held : db.Held intentId chainId) : Held { db with rows := db.rows.mapValues (fun key row =>
      if retires key row then row.retire (error row) else row) } intentId chainId := by
  refine held_mapValues (fun key row => ?_) (fun key row => ?_) held
  · split <;> rfl
  · split
    · exact .inr rfl
    · exact .inl rfl

theorem held_lease {leases : String × Nat → IntentDeployRow → Bool} {attempts : IntentDeployRow → Nat}
    {leaseUntil : Option Nat} (held : db.Held intentId chainId) : Held { db with rows := db.rows.mapValues (fun key row =>
      if leases key row then { row with leaseUntil, attempts := attempts row } else row) } intentId chainId := by
  refine held_mapValues (fun key row => ?_) (fun key row => ?_) held
  · split <;> rfl
  · split <;> exact .inl rfl

variable {value : Deployment} {owner : String}

theorem held_updateDeploy {chain : Nat} {patch : DeployPatch} (held : db.Held intentId chainId)
    (quiet : (owner, chain) = (intentId, chainId) → patch.bundleUuid.isSome = true ∨ patch.status = none ∨
      patch.status = some .failed)
    (updated : db.updateDeploy owner chain patch = .ok next) : next.Held intentId chainId := by
  rcases updateDeploy_ok updated with ⟨_, _, rfl⟩ | ⟨row', found', _, rfl⟩
  · exact held
  · obtain ⟨row, found, unpaid⟩ := held
    by_cases here : (owner, chain) = (intentId, chainId)
    · cases here
      cases found.symm.trans found'
      refine ⟨row'.patched patch, by simp, fun clear => ?_⟩
      simp only [IntentDeployRow.patched, Option.or_eq_none_iff] at clear
      rcases quiet rfl with written | same | failed
      · simp [clear.1] at written
      · have status : (row'.patched patch).status = row'.status := by simp [IntentDeployRow.patched, same]
        rw [status]
        exact unpaid clear.2
      · exact .inl (by simp [IntentDeployRow.patched, failed])
    · refine ⟨row, ?_, unpaid⟩
      change (db.rows.set (owner, chain) (row'.patched patch)).get (intentId, chainId) = some row
      rwa [OrderedMap.get_set_ne _ _ (Ne.symm here)]

theorem walletDeployedOf_iff : db.walletDeployedOf intentId = true ↔
    ∃ chainId deployment, db.deployments.get (intentId, chainId) = some deployment ∧ deployment.forwarded = false := by
  simp only [walletDeployedOf, List.any_eq_true, Bool.and_eq_true, beq_iff_eq, Bool.not_eq_true']
  constructor
  · rintro ⟨⟨⟨owner, chainId⟩, deployment⟩, member, rfl, wallet⟩
    exact ⟨chainId, deployment, OrderedMap.get_of_mem member, wallet⟩
  · rintro ⟨chainId, deployment, found, wallet⟩
    exact ⟨_, OrderedMap.mem_of_get found, rfl, wallet⟩

theorem recordDeployment_ok (recorded : db.recordDeployment intentId chainId value = .ok next) :
    next = db ∨ next = db.retireUnpaidForWallet (some intentId) ∨
    (db.deployments.get (intentId, chainId) = none ∧
      ((value.forwarded = true ∧ next = { db with deployments := db.deployments.set (intentId, chainId) value }) ∨
        (value.forwarded = false ∧ next = retireUnpaidForWallet
          { db with deployments := db.deployments.set (intentId, chainId) value } (some intentId)))) := by
  unfold recordDeployment at recorded
  split at recorded
  · split at recorded
    · cases recorded
    · split at recorded
      · cases recorded
        exact .inl rfl
      · cases recorded
        exact .inr (.inl rfl)
  · next missing =>
    split at recorded
    · cases recorded
    · split at recorded
      · cases recorded
      · dsimp only at recorded
        split at recorded
        · next forwarded =>
          cases recorded
          exact .inr (.inr ⟨missing, .inl ⟨forwarded, rfl⟩⟩)
        · next direct =>
          cases recorded
          exact .inr (.inr ⟨missing, .inr ⟨by simpa using direct, rfl⟩⟩)

theorem walletDeployedOf_set (missing : db.deployments.get (intentId, chainId) = none)
    (owner : String) : walletDeployedOf { db with deployments := db.deployments.set (intentId, chainId) value } owner = true ↔
      db.walletDeployedOf owner = true ∨ (owner = intentId ∧ value.forwarded = false) := by
  rw [walletDeployedOf_iff, walletDeployedOf_iff]
  constructor
  · rintro ⟨chain, deployment, found, wallet⟩
    change (db.deployments.set (intentId, chainId) value).get (owner, chain) = _ at found
    rw [OrderedMap.get_set] at found
    split at found
    · next here =>
      cases here
      cases found
      exact .inr ⟨rfl, wallet⟩
    · exact .inl ⟨chain, deployment, found, wallet⟩
  · rintro (⟨chain, deployment, found, wallet⟩ | ⟨rfl, wallet⟩)
    · refine ⟨chain, deployment, ?_, wallet⟩
      have apart : (owner, chain) ≠ (intentId, chainId) := by
        rintro ⟨⟩
        rw [missing] at found
        cases found
      change (db.deployments.set (intentId, chainId) value).get (owner, chain) = _
      rwa [OrderedMap.get_set_ne _ _ apart]
    · exact ⟨chainId, value, OrderedMap.get_set_self .., wallet⟩

theorem recordDeployment_wallet
    (recorded : db.recordDeployment intentId chainId value = .ok next) (wallet : db.walletDeployedOf owner = true) :
    next.walletDeployedOf owner = true := by
  rcases recordDeployment_ok recorded with rfl | rfl | ⟨missing, ⟨_, rfl⟩ | ⟨_, rfl⟩⟩
  · exact wallet
  · exact wallet
  · exact (walletDeployedOf_set missing owner).mpr (.inl wallet)
  · exact (walletDeployedOf_set missing owner).mpr (.inl wallet)

theorem held_recordDeployment {chain : Nat} (held : db.Held intentId chainId)
    (recorded : db.recordDeployment owner chain value = .ok next) : next.Held intentId chainId := by
  rcases recordDeployment_ok recorded with rfl | rfl | ⟨missing, ⟨forwarded, rfl⟩ | ⟨wallet, rfl⟩⟩
  · exact held
  · exact held_retire held
  · obtain ⟨row, found, unpaid⟩ := held
    refine ⟨row, found, fun clear => (unpaid clear).imp_right fun ⟨queued, unclaimed⟩ => ⟨queued, ?_⟩⟩
    rw [← Bool.not_eq_true, walletDeployedOf_set missing]
    simp [unclaimed, forwarded]
  · -- A queued row of the intent is retired by the very statement that makes it the wallet's.
    obtain ⟨row, found, unpaid⟩ := held
    unfold retireUnpaidForWallet
    refine ⟨_, by rw [OrderedMap.get_mapValues, show _ = some row from found, Option.map_some], fun clear => ?_⟩
    have before : row.bundleUuid = none := by
      split at clear
      · exact clear
      · exact clear
    rcases unpaid before with failed | ⟨queued, unclaimed⟩
    · simp [failed]
    · by_cases here : owner = intentId
      · subst here
        have deployed : walletDeployedOf { db with deployments := db.deployments.set (owner, chain) value } owner = true :=
          (walletDeployedOf_set missing owner).mpr (.inr ⟨rfl, wallet⟩)
        refine .inl ?_
        rw [if_pos (by simp [queued, before, deployed])]
        rfl
      · have same : walletDeployedOf { db with deployments := db.deployments.set (owner, chain) value } intentId = false := by
          rw [← Bool.not_eq_true, walletDeployedOf_set missing]
          simp [unclaimed, Ne.symm here]
        simp only [same, Bool.and_false, Bool.false_eq_true, if_false]
        exact .inr ⟨queued, same⟩

theorem queueDeploys_wallet {requester : String} {chainIds : List Nat} {reserved : Nat} {retryFailed : Bool}
    (queued : db.queueDeploys owner chainIds requester reserved retryFailed = .ok next) :
    next.walletDeployedOf intentId = db.walletDeployedOf intentId := by
  simp only [queueDeploys] at queued
  split at queued
  · cases queued
  · split at queued
    · cases queued
    · cases queued
      rfl

theorem held_queueDeploys {requester : String} {chainIds : List Nat} {reserved : Nat} {retryFailed : Bool}
    (held : db.Held intentId chainId)
    (kept : retryFailed = true → db.walletDeployedOf owner = true → ∀ chain ∈ chainIds, ∀ row,
      db.rows.get (owner, chain) = some row → row.status = .failed → row.bundleUuid.isSome = true)
    (queued : db.queueDeploys owner chainIds requester reserved retryFailed = .ok next) : next.Held intentId chainId := by
  obtain ⟨row, found, unpaid⟩ := held
  unfold Held
  rw [queueDeploys_wallet queued, get_queueDeploys queued, found]
  split
  · next here =>
    obtain ⟨rfl, member⟩ := here
    cases written : db.queueRow intentId requester reserved retryFailed chainId with
    | none => exact ⟨row, rfl, unpaid⟩
    | some fresh =>
      refine ⟨fresh, rfl, fun _ => ?_⟩
      simp only [queueRow, found] at written
      split at written
      · next retried =>
        simp only [Bool.and_eq_true, beq_iff_eq, Option.isNone_iff_eq_none] at retried
        cases written
        refine .inr ⟨rfl, ?_⟩
        rw [← Bool.not_eq_true]
        intro wallet
        have carries := kept retried.1.1 wallet chainId member row found retried.1.2
        simp [retried.2] at carries
      · cases written
  · exact ⟨row, rfl, unpaid⟩

end Database
end JBCenter.Sponsor
