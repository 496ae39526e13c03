import JBCenter.Sponsor.Exclusion

/-! The open rows of one intent. A claim takes all of them or none as long as they agree in bundle, lease and
attempts, and then they still agree when the claim is over: the worker gives them one bundle, one row after the other. -/
namespace JBCenter.Sponsor
open OrderedMap (get_mapValues get_set get_set_ne get_set_self)

/-- What a claim goes by: the bundle, the lease and the attempts of a row. -/
abbrev Stamp := Option String × Option Nat × Nat

namespace IntentDeployRow

def stamp (row : IntentDeployRow) : Stamp := (row.bundleUuid, row.leaseUntil, row.attempts)

/-- A row that was claimed is open until the claim closes it, unless it is retired without a bundle. -/
def Standing (row : IntentDeployRow) : Prop :=
  row.isOpen = true ∨ row.status = .failed ∧ row.bundleUuid = none

theorem open_status {row row' : IntentDeployRow} (same : row'.status = row.status) : row'.isOpen = row.isOpen := by
  simp only [isOpen, same]

theorem failed_closed {row : IntentDeployRow} (failed : row.status = .failed) : ¬row.isOpen = true := by
  simp [isOpen, failed]

end IntentDeployRow

def Database.Known (db : Database) (intentId : String) : Prop := ∃ chainId row, db.rows.get (intentId, chainId) = some row

/-- The open rows of an intent have one stamp. -/
def Database.Alike (db : Database) (intentId : String) : Prop :=
  ∃ stamp, ∀ chainId row, db.rows.get (intentId, chainId) = some row → row.isOpen = true → row.stamp = stamp

/-- The rows of some chains of an intent are standing, each with a stamp it may have; its open rows are in `span`. -/
structure Group (intentId : String) (chainIds span : List Nat) (stamped : Nat → Stamp → Prop) (db : Database) : Prop where
  known : db.Known intentId
  rows : ∀ chainId ∈ chainIds, ∃ row, db.rows.get (intentId, chainId) = some row ∧ row.Standing ∧ stamped chainId row.stamp
  within : ∀ chainId row, db.rows.get (intentId, chainId) = some row → row.isOpen = true →
    chainId ∈ span ∧ stamped chainId row.stamp

/-- Of an intent, no open row is opened or changes its stamp. -/
structure Fades (intentId : String) (a b : Database) : Prop where
  known : a.Known intentId → b.Known intentId
  opened : ∀ chainId row', b.rows.get (intentId, chainId) = some row' → row'.isOpen = true →
    ∃ row, a.rows.get (intentId, chainId) = some row ∧ row.isOpen = true ∧ row.stamp = row'.stamp

/-- What happens beside the worker: rows are retired without a bundle, and rows of an intent without any are opened. -/
structure Aside (a b : Database) : Prop where
  kept : ∀ key row, a.rows.get key = some row → ∃ row', b.rows.get key = some row' ∧ row'.stamp = row.stamp ∧
    (row'.status = row.status ∨ row'.status = .failed ∧ row'.bundleUuid = none)
  fresh : ∀ intentId chainId row', b.rows.get (intentId, chainId) = some row' →
    a.rows.get (intentId, chainId) = none → ¬a.Known intentId ∧ row'.stamp = (none, none, 0)

variable {a b c db : Database} {intentId : String} {chainId : Nat} {chainIds span : List Nat} {stamp : Stamp}
  {stamped : Nat → Stamp → Prop} {row row' : IntentDeployRow} {rest : List (String × List Nat)} {patch : DeployPatch}

theorem Fades.alike (fades : Fades intentId a b) (alike : a.Alike intentId) : b.Alike intentId := by
  refine alike.imp fun stamp rows chainId row' found isOpen => ?_
  obtain ⟨row, before, wasOpen, same⟩ := fades.opened chainId row' found isOpen
  exact same ▸ rows chainId row before wasOpen

theorem Fades.group (fades : Fades intentId a b) (group : Group intentId [] span stamped a) :
    Group intentId [] span stamped b where
  known := fades.known group.known
  rows _ member := absurd member List.not_mem_nil
  within chainId row' found isOpen := by
    obtain ⟨row, before, wasOpen, same⟩ := fades.opened chainId row' found isOpen
    exact same ▸ group.within chainId row before wasOpen

theorem known_mapValues {f : String × Nat → IntentDeployRow → IntentDeployRow} (known : db.Known intentId) :
    ({ db with rows := db.rows.mapValues f } : Database).Known intentId := by
  obtain ⟨chainId, row, found⟩ := known
  exact ⟨chainId, _, by rw [get_mapValues, found]; rfl⟩

/-- Rows that are retired, or rewritten without being opened. -/
theorem fades_mapValues {f : String × Nat → IntentDeployRow → IntentDeployRow} (stamp : ∀ key row, (f key row).stamp = row.stamp)
    (closes : ∀ key row, (f key row).isOpen = true → row.isOpen = true) :
    Fades intentId db { db with rows := db.rows.mapValues f } where
  known := known_mapValues
  opened := by
    intro chainId row' found isOpen
    rw [get_mapValues] at found
    obtain ⟨row, before, rfl⟩ := Option.map_eq_some_iff.mp found
    exact ⟨row, before, closes _ row isOpen, (stamp _ row).symm⟩

theorem fades_retire {retires : String × Nat → IntentDeployRow → Bool} {error : IntentDeployRow → String} :
    Fades intentId db { db with rows := db.rows.mapValues (fun key row =>
      if retires key row then row.retire (error row) else row) } := by
  refine fades_mapValues (fun key row => ?_) (fun key row isOpen => ?_)
  · split <;> rfl
  · split at isOpen
    · exact absurd isOpen (IntentDeployRow.failed_closed rfl)
    · exact isOpen

theorem Aside.refl (db : Database) : Aside db db where
  kept _ row found := ⟨row, found, rfl, .inl rfl⟩
  fresh _ _ _ found absent := by rw [absent] at found; cases found

theorem Aside.known (aside : Aside a b) (known : a.Known intentId) : b.Known intentId := by
  obtain ⟨chainId, row, found⟩ := known
  obtain ⟨row', after, _⟩ := aside.kept _ row found
  exact ⟨chainId, row', after⟩

theorem Aside.trans (first : Aside a b) (second : Aside b c) : Aside a c where
  kept key row found := by
    obtain ⟨middle, between, one, change⟩ := first.kept key row found
    obtain ⟨last, after, two, change'⟩ := second.kept key middle between
    refine ⟨last, after, two.trans one, change'.elim (fun same => ?_) .inr⟩
    refine change.imp same.trans fun ⟨failed, clear⟩ => ⟨same.trans failed, ?_⟩
    exact (congrArg Prod.fst two).trans clear
  fresh intentId chainId row' found absent := by
    cases between : b.rows.get (intentId, chainId) with
    | none =>
      obtain ⟨unknown, new⟩ := second.fresh intentId chainId row' found between
      exact ⟨fun known => unknown (first.known known), new⟩
    | some middle =>
      obtain ⟨unknown, new⟩ := first.fresh intentId chainId middle between absent
      obtain ⟨last, after, same, _⟩ := second.kept _ middle between
      cases after.symm.trans found
      exact ⟨unknown, same.trans new⟩

theorem Aside.fades (aside : Aside a b) (known : a.Known intentId) : Fades intentId a b where
  known := aside.known
  opened chainId row' found isOpen := by
    cases before : a.rows.get (intentId, chainId) with
    | none => exact absurd known (aside.fresh intentId chainId row' found before).1
    | some row =>
      obtain ⟨other, after, same, change⟩ := aside.kept _ row before
      cases after.symm.trans found
      rcases change with status | ⟨failed, _⟩
      · exact ⟨row, rfl, IntentDeployRow.open_status status ▸ isOpen, same.symm⟩
      · exact absurd isOpen (IntentDeployRow.failed_closed failed)

theorem Aside.alike (aside : Aside a b) (alike : a.Alike intentId) : b.Alike intentId := by
  by_cases known : a.Known intentId
  · exact (aside.fades known).alike alike
  · refine ⟨(none, none, 0), fun chainId row' found _ => ?_⟩
    cases before : a.rows.get (intentId, chainId) with
    | none => exact (aside.fresh intentId chainId row' found before).2
    | some row => exact absurd ⟨chainId, row, before⟩ known

theorem Aside.group (aside : Aside a b) (group : Group intentId chainIds span stamped a) :
    Group intentId chainIds span stamped b where
  known := aside.known group.known
  rows chainId member := by
    obtain ⟨row, found, standing, fits⟩ := group.rows chainId member
    obtain ⟨row', after, same, change⟩ := aside.kept _ row found
    refine ⟨row', after, change.elim (fun status => ?_) .inr, same.symm ▸ fits⟩
    refine standing.imp (IntentDeployRow.open_status status).trans fun ⟨failed, clear⟩ => ⟨status.trans failed, ?_⟩
    exact (congrArg Prod.fst same).trans clear
  within chainId row' found isOpen := by
    obtain ⟨row, before, wasOpen, same⟩ := (aside.fades group.known).opened chainId row' found isOpen
    exact same ▸ group.within chainId row before wasOpen

theorem Group.alike (group : Group intentId chainIds span (fun _ => (· = stamp)) db) : db.Alike intentId :=
  ⟨stamp, fun chainId row found isOpen => (group.within chainId row found isOpen).2⟩

theorem Group.mono {chains : List Nat} {stamped' : Nat → Stamp → Prop} (group : Group intentId chainIds span stamped db)
    (fewer : ∀ chainId ∈ chains, chainId ∈ chainIds)
    (implies : ∀ chainId ∈ chainIds ++ span, ∀ stamp, stamped chainId stamp → stamped' chainId stamp) :
    Group intentId chains span stamped' db where
  known := group.known
  rows chainId member := by
    obtain ⟨row, found, standing, fits⟩ := group.rows chainId (fewer chainId member)
    exact ⟨row, found, standing, implies chainId (List.mem_append_left _ (fewer chainId member)) _ fits⟩
  within chainId row found isOpen := by
    obtain ⟨inside, fits⟩ := group.within chainId row found isOpen
    exact ⟨inside, implies chainId (List.mem_append_right _ inside) _ fits⟩

/-- One row of a group is written, and stays open. -/
theorem Group.set {stamped' : Nat → Stamp → Prop} (group : Group intentId chainIds chainIds stamped db)
    (member : chainId ∈ chainIds) (isOpen : row.isOpen = true) (fits : stamped' chainId row.stamp)
    (others : ∀ other stamp, other ≠ chainId → stamped other stamp → stamped' other stamp) :
    Group intentId chainIds chainIds stamped' { db with rows := db.rows.set (intentId, chainId) row } where
  known := ⟨chainId, row, get_set_self ..⟩
  rows other inside := by
    by_cases here : other = chainId
    · subst here
      exact ⟨row, get_set_self .., .inl isOpen, fits⟩
    · obtain ⟨row', found, standing, fits'⟩ := group.rows other inside
      exact ⟨row', (get_set_ne _ _ (by simpa using here)).trans found, standing, others other _ here fits'⟩
  within other row' found isOpen' := by
    rw [get_set] at found
    split at found
    · next here =>
      cases here
      cases found
      exact ⟨member, fits⟩
    · next apart => exact (group.within other row' found isOpen').imp_right (others other _ (by simpa using apart))

/-- What a claim that is still to be run holds. -/
def Waits (claim : String × List Nat) (db : Database) : Prop :=
  claim.2 ≠ [] ∧ ∃ stamp, Group claim.1 claim.2 claim.2 (fun _ => (· = stamp)) db

/-- The other intents beside a claim, and the claims that are still to be run after it. -/
structure Apart (intentId : String) (rest : List (String × List Nat)) (db : Database) : Prop where
  alike : ∀ other, other ≠ intentId → db.Alike other
  waits : ∀ claim ∈ rest, claim.1 ≠ intentId ∧ Waits claim db

/-- Rows of other intents are as they were. -/
def Elsewhere (intentId : String) (a b : Database) : Prop :=
  ∀ other chainId, other ≠ intentId → b.rows.get (other, chainId) = a.rows.get (other, chainId)

theorem Waits.aside {claim : String × List Nat} (aside : Aside a b) (waits : Waits claim a) : Waits claim b :=
  ⟨waits.1, waits.2.imp fun _ => aside.group⟩

theorem Apart.aside (aside : Aside a b) (apart : Apart intentId rest a) : Apart intentId rest b :=
  ⟨fun other differs => aside.alike (apart.alike other differs), fun claim member =>
    (apart.waits claim member).imp_right (Waits.aside aside)⟩

theorem Apart.elsewhere (elsewhere : Elsewhere intentId a b) (apart : Apart intentId rest a) : Apart intentId rest b where
  alike other differs := (apart.alike other differs).imp fun _ rows chainId row found =>
    rows chainId row ((elsewhere other chainId differs).symm.trans found)
  waits claim member := by
    obtain ⟨differs, nonempty, stamp, ⟨chainId, row, found⟩, group, within⟩ := apart.waits claim member
    refine ⟨differs, nonempty, stamp, ⟨chainId, row, (elsewhere _ _ differs).trans found⟩, fun chainId inside => ?_,
      fun chainId row found => within chainId row ((elsewhere _ _ differs).symm.trans found)⟩
    rw [elsewhere _ _ differs]
    exact group chainId inside

theorem elsewhere_set : Elsewhere intentId db { db with rows := db.rows.set (intentId, chainId) row } :=
  fun _ _ differs => get_set_ne _ _ fun same => differs (congrArg Prod.fst same)

/-- What an update that commits makes of its row. -/
def Patches (intentId : String) (chainId : Nat) (patch : DeployPatch) (a b : Database) : Prop :=
  ∃ row, a.rows.get (intentId, chainId) = some row ∧
    b = { a with rows := a.rows.set (intentId, chainId) (row.patched patch) }

theorem update_patches (cause : Option Failure) (fate : Fate) (w : World) :
    (Op.perform (.query (.updateDeploy intentId chainId patch cause)) fate w).2.db = w.db ∨
      Patches intentId chainId patch w.db (Op.perform (.query (.updateDeploy intentId chainId patch cause)) fate w).2.db := by
  rcases query_cases (.updateDeploy intentId chainId patch cause) fate w with same | ⟨value, next, ran, made⟩
  · exact .inl (by rw [same])
  · rw [made]
    rcases Database.updateDeploy_ok (Query.run_updateDeploy ran) with ⟨_, _, rfl⟩ | ⟨row, found, _, rfl⟩
    · exact .inl rfl
    · exact .inr ⟨row, found, rfl⟩

theorem Patches.elsewhere (patches : Patches intentId chainId patch a b) : Elsewhere intentId a b := by
  obtain ⟨row, _, rfl⟩ := patches
  exact elsewhere_set

theorem Patches.fades (patches : Patches intentId chainId patch a b) (mild : patch.mild = true) : Fades intentId a b := by
  obtain ⟨row, found, rfl⟩ := patches
  simp only [DeployPatch.mild, Bool.and_eq_true, Option.isNone_iff_eq_none, Bool.or_eq_true, decide_eq_true_eq] at mild
  refine ⟨fun _ => ⟨chainId, _, get_set_self ..⟩, fun other written present isOpen => ?_⟩
  rw [get_set] at present
  split at present
  · next here =>
    cases here
    cases present
    refine ⟨row, found, ?_, by simp [IntentDeployRow.stamp, IntentDeployRow.patched, mild.1.1]⟩
    rcases mild.2 with (same | failed) | confirmed
    · have kept : (row.patched patch).status = row.status := by simp [IntentDeployRow.patched, same]
      rwa [IntentDeployRow.open_status kept] at isOpen
    · exact absurd isOpen (IntentDeployRow.failed_closed (by simp [IntentDeployRow.patched, failed]))
    · simp [IntentDeployRow.isOpen, IntentDeployRow.patched, confirmed] at isOpen
  · exact ⟨written, present, isOpen, rfl⟩

section
variable {requester : String} {reserved : Nat} {retry : Bool}

theorem aside_rows (same : b.rows = a.rows) : Aside a b where
  kept _ row found := ⟨row, same ▸ found, rfl, .inl rfl⟩
  fresh _ _ _ found absent := by
    rw [same, absent] at found
    cases found

theorem aside_recordDeployment {value : Deployment} (recorded : a.recordDeployment intentId chainId value = .ok b) :
    Aside a b := by
  rcases Database.recordDeployment_rows recorded with same | ⟨before, same, rfl⟩
  · exact aside_rows same
  · refine ⟨fun key row found => ?_, fun owner chain row' found absent => ?_⟩
    · rw [← same] at found
      simp only [Database.retireUnpaidForWallet, get_mapValues, found, Option.map_some]
      refine ⟨_, rfl, ?_⟩
      split
      · next retired =>
        simp only [Bool.and_eq_true, Option.isNone_iff_eq_none] at retired
        exact ⟨rfl, .inr ⟨rfl, retired.1.2⟩⟩
      · exact ⟨rfl, .inl rfl⟩
    · rw [← same] at absent
      simp [Database.retireUnpaidForWallet, get_mapValues, absent] at found

theorem queueRow_stamp (written : db.queueRow intentId requester reserved retry chainId = some row) :
    row.stamp = (none, none, 0) := by
  unfold Database.queueRow at written
  split at written
  · cases written
    rfl
  · split at written
    · cases written
      rfl
    · cases written

/-- A request that opens no row, or the first rows of its intent. -/
theorem aside_queueDeploys (queued : a.queueDeploys intentId chainIds requester reserved retry = .ok b)
    (whole : (∀ chainId ∈ chainIds, a.queueRow intentId requester reserved retry chainId = none) ∨ ¬a.Known intentId) :
    Aside a b := by
  refine ⟨fun key row found => ⟨row, ?_, rfl, .inl rfl⟩, fun owner chain row' found absent => ?_⟩
  · rw [Database.get_queueDeploys queued]
    split
    · next here =>
      obtain ⟨rfl, member⟩ := here
      rcases whole with closed | unknown
      · rw [closed _ member, Option.none_or, found]
      · exact absurd ⟨_, row, found⟩ unknown
    · exact found
  · rw [Database.get_queueDeploys queued, absent, Option.or_none] at found
    split at found
    · next here =>
      obtain ⟨rfl, member⟩ := here
      refine ⟨whole.resolve_left fun closed => ?_, queueRow_stamp found⟩
      rw [closed _ member] at found
      cases found
    · cases found

/-- A request that finds no open row of its intent, or open ones that were never claimed, opens rows that agree. -/
theorem alike_queueDeploys (queued : a.queueDeploys intentId chainIds requester reserved retry = .ok b)
    (unclaimed : ∀ chainId row, a.rows.get (intentId, chainId) = some row → row.isOpen = true → row.stamp = (none, none, 0))
    (alike : ∀ other, a.Alike other) (other : String) : b.Alike other := by
  by_cases here : other = intentId
  · subst here
    refine ⟨(none, none, 0), fun chainId row found isOpen => ?_⟩
    rw [Database.get_queueDeploys queued] at found
    split at found
    · rcases Option.or_eq_some_iff.mp found with written | ⟨_, kept⟩
      · exact queueRow_stamp written
      · exact unclaimed chainId row kept isOpen
    · exact unclaimed chainId row found isOpen
  · refine (alike other).imp fun stamp rows chainId row found => rows chainId row ?_
    rwa [Database.get_queueDeploys queued, if_neg fun same => here same.1] at found

end

section
variable {leaseSeconds limit : Nat}

theorem claimable_stamp (same : row.stamp = row'.stamp) (isOpen : row.isOpen = true) (isOpen' : row'.isOpen = true) :
    db.claimable intentId row = db.claimable intentId row' := by
  obtain ⟨bundles, leases, attempts⟩ : row.bundleUuid = row'.bundleUuid ∧ row.leaseUntil = row'.leaseUntil ∧
      row.attempts = row'.attempts := by simpa [IntentDeployRow.stamp] using same
  simp only [Database.claimable, IntentDeployRow.lapsed, isOpen, isOpen', bundles, leases, attempts]

/-- Where the open rows of an intent agree, a claim takes all of them. -/
theorem leased_waits (alike : ∀ intentId, db.Alike intentId) :
    ∀ claim ∈ db.leased limit, Waits claim (db.leaseQueued leaseSeconds limit) := by
  intro claim member
  obtain ⟨owner, picked, rfl⟩ := List.mem_map.mp member
  obtain ⟨stamp, rows⟩ := alike owner
  have isOpen : ∀ {row}, db.claimable owner row = true → row.isOpen = true := by
    intro row claimable
    simp only [Database.claimable, Bool.and_eq_true] at claimable
    exact claimable.1.1.1
  have claims : ∀ {chainId}, chainId ∈ ((db.selectDeploys owner).filter (fun entry => db.claimable owner entry.2)).map
      Prod.fst ↔ ∃ row, db.rows.get (owner, chainId) = some row ∧ db.claimable owner row = true := by
    intro chainId
    simp [List.mem_filter, Database.mem_selectDeploys]
  obtain ⟨first, leader, found, takes⟩ : ∃ first leader, db.rows.get (owner, first) = some leader ∧
      db.claimable owner leader = true := by
    have listed := List.mem_of_mem_take picked
    rw [List.mem_insertionSort, List.mem_dedup] at listed
    obtain ⟨⟨⟨owner, first⟩, leader⟩, present, rfl⟩ := List.mem_map.mp listed
    obtain ⟨present, takes⟩ := List.mem_filter.mp present
    exact ⟨first, leader, OrderedMap.get_of_mem present, takes⟩
  have leased : ∀ {chainId row}, db.rows.get (owner, chainId) = some row → row.isOpen = true →
      db.claimable owner row = true ∧ (db.leaseQueued leaseSeconds limit).rows.get (owner, chainId) =
        some { row with leaseUntil := some (db.now + leaseSeconds * 1000), attempts := row.attempts + 1 } := by
    intro chainId row before wasOpen
    have claimable : db.claimable owner row = true := by
      rw [claimable_stamp ((rows chainId row before wasOpen).trans (rows first leader found (isOpen takes)).symm)
        wasOpen (isOpen takes)]
      exact takes
    simp only [Database.leaseQueued, get_mapValues, before, Option.map_some]
    exact ⟨claimable, by rw [if_pos (by simp [claimable, picked])]⟩
  refine ⟨List.ne_nil_of_mem (claims.mpr ⟨leader, found, takes⟩), (stamp.1, some (db.now + leaseSeconds * 1000), stamp.2.2 + 1),
    ⟨first, _, (leased found (isOpen takes)).2⟩, fun chainId inside => ?_, fun chainId row' after open' => ?_⟩
  · obtain ⟨row, before, claimable⟩ := claims.mp inside
    have wasOpen := isOpen claimable
    cases rows chainId row before wasOpen
    exact ⟨_, (leased before wasOpen).2, .inl wasOpen, rfl⟩
  · have changed := after
    simp only [Database.leaseQueued, get_mapValues] at changed
    obtain ⟨row, before, made⟩ := Option.map_eq_some_iff.mp changed
    have wasOpen : row.isOpen = true := by
      split at made
      · rw [← made] at open'
        exact open'
      · rwa [made]
    obtain ⟨claimable, now⟩ := leased before wasOpen
    cases rows chainId row before wasOpen
    cases now.symm.trans after
    exact ⟨claims.mpr ⟨row, before, claimable⟩, rfl⟩

theorem leased_alike (alike : ∀ intentId, db.Alike intentId) (intentId : String) :
    (db.leaseQueued leaseSeconds limit).Alike intentId := by
  by_cases picked : intentId ∈ db.picked limit
  · obtain ⟨_, _, group⟩ := leased_waits alike _ (List.mem_map.mpr ⟨intentId, picked, rfl⟩)
    exact group.alike
  · refine (alike intentId).imp fun stamp rows chainId row' found => rows chainId row' ?_
    simp only [Database.leaseQueued, get_mapValues] at found
    obtain ⟨row, before, made⟩ := Option.map_eq_some_iff.mp found
    rw [if_neg (by simp [picked])] at made
    exact made ▸ before

end

end JBCenter.Sponsor
