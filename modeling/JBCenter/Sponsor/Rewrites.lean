import JBCenter.Sponsor.Prepayment

/-! What any statement of the store can make of a row, said once. What the rows of every state have in common
follows from it: a row was tried at most three times, and only a row with a bundle is charged. -/
namespace JBCenter.Sponsor

/-- What one statement can make of a row that exists, where the updates of rows are those `allowed`. -/
inductive RowChange (allowed : DeployPatch → Prop) (row : IntentDeployRow) : IntentDeployRow → Prop where
  | leased (attempts : Nat) (leaseUntil : Option Nat) : (row.attempts ≤ 3 → attempts ≤ 3) →
      RowChange allowed row { row with attempts, leaseUntil }
  | retired (error : String) : row.isOpen = true → RowChange allowed row (row.retire error)
  | patched (patch : DeployPatch) : allowed patch → RowChange allowed row (row.patched patch)
  | requeued (requester : String) (reservedWei createdAt : Nat) : row.status = .failed → row.bundleUuid = none →
      RowChange allowed row { row with
        requester, reservedWei, status := .queued, attempts := 0, error := none, bundleUuid := none
        transactionHash := none, leaseUntil := none, createdAt }

/-- A row that was not there before. -/
structure NewRow (db : Database) (key : String × Nat) (row : IntentDeployRow) : Prop where
  missing : db.rows.get key = none
  status : row.status = .queued
  attempts : row.attempts = 0
  spent : row.spentWei = 0
  known : db.intents.has key.1 = true

/-- Every row after a statement is a row from before it, changed, or a new one. -/
structure Rewrites (allowed : String × Nat → DeployPatch → Prop) (db next : Database) : Prop where
  rows : ∀ key row', next.rows.get key = some row' →
    (∃ row, db.rows.get key = some row ∧ RowChange (allowed key) row row') ∨ NewRow db key row'
  intents : ∀ intentId, db.intents.has intentId = true → next.intents.has intentId = true

variable {permits : DeployPatch → Prop} {allowed : String × Nat → DeployPatch → Prop} {db next : Database}
  {intentId : String} {chainId : Nat}

theorem RowChange.refl (row : IntentDeployRow) : RowChange permits row row := .leased row.attempts row.leaseUntil id

theorem rewrites_of_rows (same : next.rows = db.rows)
    (grows : ∀ intentId, db.intents.has intentId = true → next.intents.has intentId = true) : Rewrites allowed db next where
  rows _ row found := .inl ⟨row, same ▸ found, .refl row⟩
  intents := grows

theorem Rewrites.refl (db : Database) : Rewrites allowed db db := rewrites_of_rows rfl fun _ => id

theorem rewrites_mapValues {f : String × Nat → IntentDeployRow → IntentDeployRow}
    (change : ∀ key row, RowChange (allowed key) row (f key row)) :
    Rewrites allowed db { db with rows := db.rows.mapValues f } where
  rows key row' found := by
    rw [OrderedMap.get_mapValues] at found
    obtain ⟨row, held, rfl⟩ := Option.map_eq_some_iff.mp found
    exact .inl ⟨row, held, change key row⟩
  intents _ := id

variable {row row' : IntentDeployRow}

theorem retired_if {condition : Bool} {error : String}
    (open_ : condition = true → row.isOpen = true) : RowChange permits row (if condition then row.retire error else row) := by
  cases condition with
  | true => exact .retired error (open_ rfl)
  | false => exact .refl row

theorem rewrites_retireUnpaidForWallet {only : Option String} : Rewrites allowed db (db.retireUnpaidForWallet only) := by
  refine rewrites_mapValues fun key row => retired_if fun retires => ?_
  simp only [Bool.and_eq_true, beq_iff_eq] at retires
  simp [IntentDeployRow.isOpen, retires.1.1.2]

theorem rewrites_retireExhausted : Rewrites allowed db db.retireExhausted := by
  refine rewrites_mapValues fun key row => retired_if fun retires => ?_
  simp only [Bool.and_eq_true] at retires
  exact retires.1.1

theorem rewrites_retireWaiting : Rewrites allowed db db.retireWaiting := by
  refine rewrites_mapValues fun key row => retired_if fun retires => ?_
  simp only [Bool.and_eq_true] at retires
  exact retires.1.1.1

theorem rewrites_leaseQueued {leaseSeconds limit : Nat} : Rewrites allowed db (db.leaseQueued leaseSeconds limit) := by
  refine rewrites_mapValues fun key row => ?_
  split
  · next taken =>
    simp only [Bool.and_eq_true, Database.claimable, decide_eq_true_eq] at taken
    exact .leased _ _ fun _ => taken.1.1.2
  · exact .refl row

theorem rewrites_releaseClaim {chainIds : List Nat} : Rewrites allowed db (db.releaseClaim intentId chainIds) := by
  refine rewrites_mapValues fun key row => ?_
  split
  · exact .leased _ _ (Nat.le_trans (Nat.sub_le _ _))
  · exact .refl row

theorem rewrites_updateDeploy {patch : DeployPatch} (updated : db.updateDeploy intentId chainId patch = .ok next)
    (permitted : allowed (intentId, chainId) patch) : Rewrites allowed db next := by
  rcases Database.updateDeploy_ok updated with ⟨_, _, rfl⟩ | ⟨row, found, _, rfl⟩
  · exact .refl next
  · refine ⟨fun key row' present => ?_, fun _ => id⟩
    rw [OrderedMap.get_set] at present
    split at present
    · next here =>
      subst here
      cases present
      exact .inl ⟨row, found, .patched patch permitted⟩
    · exact .inl ⟨row', present, .refl row'⟩

theorem recordDeployment_intents {value : Deployment} (recorded : db.recordDeployment intentId chainId value = .ok next) :
    next.intents = db.intents := by
  unfold Database.recordDeployment at recorded
  split at recorded
  · split at recorded
    · cases recorded
    · split at recorded <;> cases recorded <;> rfl
  · split at recorded
    · cases recorded
    · split at recorded
      · cases recorded
      · dsimp only at recorded
        split at recorded <;> cases recorded <;> rfl

theorem rewrites_recordDeployment {value : Deployment} (recorded : db.recordDeployment intentId chainId value = .ok next) :
    Rewrites allowed db next := by
  refine ⟨?_, fun _ known => (recordDeployment_intents recorded).symm ▸ known⟩
  rcases Database.recordDeployment_rows recorded with same | ⟨before, same, rfl⟩
  · exact (rewrites_of_rows same fun _ known => (recordDeployment_intents recorded).symm ▸ known).rows
  · intro key row' found
    obtain ⟨row, stood, change⟩ | fresh := rewrites_retireUnpaidForWallet.rows key row' found
    · exact .inl ⟨row, same ▸ stood, change⟩
    · have missing := fresh.missing
      simp [Database.retireUnpaidForWallet, OrderedMap.get_mapValues, missing] at found

variable {chainIds : List Nat} {requester : String} {reserved : Nat} {retryFailed : Bool}

theorem queueRow_change (written : db.queueRow intentId requester reserved retryFailed chainId = some row') :
    (∃ row, db.rows.get (intentId, chainId) = some row ∧ RowChange permits row row') ∨
      (db.intents.has intentId = true → NewRow db (intentId, chainId) row') := by
  unfold Database.queueRow at written
  split at written
  · next missing =>
    cases written
    exact .inr fun known => ⟨missing, rfl, rfl, rfl, known⟩
  · next row found =>
    split at written
    · next retried =>
      simp only [Bool.and_eq_true, beq_iff_eq, Option.isNone_iff_eq_none] at retried
      cases written
      exact .inl ⟨row, found, .requeued requester reserved db.now retried.1.2 retried.2⟩
    · cases written

/-- A request that writes a row is for an intent of the store. -/
theorem queueDeploys_intents (queued : db.queueDeploys intentId chainIds requester reserved retryFailed = .ok next) :
    next.intents = db.intents ∧ ∀ chainId ∈ chainIds,
      (db.queueRow intentId requester reserved retryFailed chainId).isSome = true → db.intents.has intentId = true := by
  simp only [Database.queueDeploys] at queued
  split at queued
  · cases queued
  · next known =>
    split at queued
    · cases queued
    · cases queued
      refine ⟨rfl, fun chainId member written => ?_⟩
      by_contra missing
      refine known ?_
      rw [Bool.and_eq_true, Bool.not_eq_true', Bool.not_eq_true', List.isEmpty_eq_false_iff]
      exact ⟨by simpa using missing, List.ne_nil_of_mem (List.mem_filter.mpr ⟨member, written⟩)⟩

theorem rewrites_queueDeploys (queued : db.queueDeploys intentId chainIds requester reserved retryFailed = .ok next) :
    Rewrites allowed db next := by
  obtain ⟨same, known⟩ := queueDeploys_intents queued
  refine ⟨?_, fun _ => same.symm ▸ id⟩
  rintro ⟨owner, chain⟩ row' found
  rw [Database.get_queueDeploys queued] at found
  split at found
  · next here =>
    obtain ⟨rfl, member⟩ := here
    rcases Option.or_eq_some_iff.mp found with written | ⟨_, kept⟩
    · exact (queueRow_change written).imp_right fun fresh => fresh (known chain member (by rw [written]; rfl))
    · exact .inl ⟨row', kept, .refl row'⟩
  · exact .inl ⟨row', found, .refl row'⟩

/-- The update of a row that an operation makes. -/
def Op.update : Op → Option ((String × Nat) × DeployPatch)
  | .query (.updateDeploy intentId chainId patch _) => some ((intentId, chainId), patch)
  | _ => none

theorem run_rewrites {statement : Query} {value : statement.Result} (ran : statement.run db = .ok (value, next))
    (permitted : ∀ key patch, (Op.query statement).update = some (key, patch) → allowed key patch) :
    Rewrites allowed db next := by
  cases statement with
  | retireExhausted => cases ran; exact rewrites_retireExhausted
  | retireWaiting => cases ran; exact rewrites_retireWaiting
  | retireUnpaidForWallet => cases ran; exact rewrites_retireUnpaidForWallet
  | leaseQueued leaseSeconds limit => cases ran; exact rewrites_leaseQueued
  | selectIntent | selectDeployments | selectDeploys => cases ran; exact .refl db
  | updateDeploy intentId chainId patch cause =>
    exact rewrites_updateDeploy (Query.run_updateDeploy ran) (permitted _ patch rfl)
  | recordDeployment intentId chainId value => exact rewrites_recordDeployment (Query.run_recordDeployment ran)
  | releaseClaim intentId chainIds => cases ran; exact rewrites_releaseClaim

theorem perform_rewrites {op : Op} {reply : op.Reply} {w : World}
    (permitted : ∀ key patch, op.update = some (key, patch) → allowed key patch) :
    Rewrites allowed w.db (op.perform reply w).2.db := by
  cases op with
  | query statement =>
    rcases query_cases statement reply w with same | ⟨value, next, ran, made⟩
    · rw [same]
      exact .refl w.db
    · rw [made]
      exact run_rewrites ran permitted
  | external request =>
    rw [show (Op.perform (.external request) reply w).2.db = w.db from External.perform_db reply w]
    exact .refl w.db
  | mark point => exact .refl w.db

variable {options : LaneOptions} {leaseSeconds : Nat} {s t start : System} {event : Event}

theorem step_rewrites (taken : s.step options leaseSeconds event = some t)
    (permitted : ∀ op reply key patch, event = .work op reply → op.update = some (key, patch) → allowed key patch) :
    Rewrites allowed s.world.db t.world.db := by
  cases works : event.isWork with
  | true =>
    cases event with
    | work op reply =>
      obtain ⟨_, _, rfl⟩ := step_work taken
      exact perform_rewrites fun key patch updates => permitted op reply key patch rfl updates
    | _ => cases works
  | false =>
    rcases (outside_cases taken works).1 with ⟨_, _, _, _, _, db, _, queued, made⟩ | ⟨_, _, _, db, _, recorded, made⟩ |
      ⟨_, _, made, grows⟩
    · exact made ▸ rewrites_queueDeploys queued
    · exact made ▸ rewrites_recordDeployment recorded
    · exact made ▸ rewrites_of_rows rfl grows

theorem step_changes (taken : s.step options leaseSeconds event = some t) :
    Rewrites (fun _ _ => True) s.world.db t.world.db :=
  step_rewrites taken fun _ _ _ _ _ _ => trivial

def Bounded (db : Database) : Prop :=
  ∀ key row, db.rows.get key = some row → row.attempts ≤ 3 ∧ db.intents.has key.1 = true

theorem RowChange.few (change : RowChange permits row row') (few : row.attempts ≤ 3) : row'.attempts ≤ 3 := by
  cases change with
  | leased attempts leaseUntil bound => exact bound few
  | retired | patched => exact few
  | requeued => exact Nat.zero_le _

theorem Rewrites.bounded (rewrites : Rewrites allowed db next) (bounded : Bounded db) : Bounded next := by
  intro key row' found
  rcases rewrites.rows key row' found with ⟨row, stood, change⟩ | fresh
  · exact ⟨change.few (bounded key row stood).1, rewrites.intents _ (bounded key row stood).2⟩
  · exact ⟨fresh.attempts ▸ Nat.zero_le _, rewrites.intents _ fresh.known⟩

/-- Nothing was spent on a row that never reached a bundle. -/
def Unspent (db : Database) : Prop :=
  ∀ key row, db.rows.get key = some row → row.bundleUuid = none → row.spentWei = 0

/-- Rows that are charged carry a bundle. -/
def ChargeDue (db : Database) (key : String × Nat) (patch : DeployPatch) : Prop :=
  patch.spentWei.isSome → (db.bundleOf key.1 key.2).isSome

theorem Rewrites.unspent (rewrites : Rewrites (ChargeDue db) db next) (unspent : Unspent db) : Unspent next := by
  intro key row' found clear
  rcases rewrites.rows key row' found with ⟨row, stood, change⟩ | fresh
  · cases change with
    | leased | retired => exact unspent key row stood clear
    | requeued requester reserved createdAt failed bare => exact unspent key row stood bare
    | patched patch charged =>
      obtain ⟨-, bare⟩ := Option.or_eq_none_iff.mp clear
      cases spent : patch.spentWei with
      | none => simpa [IntentDeployRow.patched, spent] using unspent key row stood bare
      | some wei =>
        have carries := charged (by simp [spent])
        rw [Database.bundleOf, stood, Option.bind_some, bare] at carries
        cases carries
  · exact fresh.spent

end JBCenter.Sponsor
