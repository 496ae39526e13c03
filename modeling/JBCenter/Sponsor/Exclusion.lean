import JBCenter.Sponsor.Held

/-! A wallet that deployed a chain of an intent excludes the sponsor from every row of the intent that has no
bundle: no claim takes the row, and no lane attaches a bundle to it, as long as nobody retries it while a pass
runs. In the same runs a row is charged for a prepayment at most once. -/
namespace JBCenter.Sponsor
open JBCenter.Action (safe_bind safe_imp safe_mono safe_read safe_request)

/-- The world, and the rows that were charged so far. -/
abbrev Watched := World × List (String × Nat)

/-- What may happen beside an operation: bundles and charges stay, and in a guarded run what is held stays held. -/
structure Beside (guarded : Prop) (a b : Watched) : Prop where
  charged : b.2 = a.2
  bundles : ∀ intentId chainId, b.1.db.bundleOf intentId chainId = a.1.db.bundleOf intentId chainId
  held : guarded → ∀ intentId chainId, a.1.db.Held intentId chainId → b.1.db.Held intentId chainId

variable {guarded : Prop}

theorem Beside.refl (w : Watched) : Beside guarded w w := ⟨rfl, fun _ _ => rfl, fun _ _ _ => id⟩

theorem Beside.trans {a b c : Watched} (first : Beside guarded a b) (second : Beside guarded b c) : Beside guarded a c :=
  ⟨second.charged.trans first.charged, fun i c => (second.bundles i c).trans (first.bundles i c),
    fun guard i c held => second.held guard i c (first.held guard i c held)⟩

/-- A row that was charged carries a bundle, and so does a row that was sent. -/
structure WatchHolds (w : Watched) : Prop where
  nonempty : ∀ intentId chainId, w.1.db.bundleOf intentId chainId ≠ some ""
  charged : ∀ key ∈ w.2, (w.1.db.bundleOf key.1 key.2).isSome = true
  sent : ∀ key row, w.1.db.rows.get key = some row → row.status = .sent → row.bundleUuid.isSome = true

/-- What is due before a row is updated: a bundle goes to a row that is held, and a charge, its first, to a row
that carries a bundle. -/
structure UpdateDue (guarded : Prop) (intentId : String) (chainId : Nat) (patch : DeployPatch) (w : Watched) : Prop where
  bundle : ∀ bundleUuid, patch.bundleUuid = some bundleUuid → bundleUuid ≠ "" ∧ (guarded → w.1.db.Held intentId chainId)
  charge : patch.spentWei.isSome = true → (intentId, chainId) ∉ w.2 ∧ (w.1.db.bundleOf intentId chainId).isSome = true
  sent : patch.status = some .sent → patch.bundleUuid.isSome = true

/-- What is due for an operation of a claim of the intent `only`, or of a whole pass. -/
def WatchDue (guarded : Prop) (only : Option String) : Op → Watched → Prop
  | .query (.updateDeploy intentId chainId patch _), w => UpdateDue guarded intentId chainId patch w ∧
    ∀ owner, only = some owner → intentId = owner
  | _, _ => True

def watching (guarded : Prop) (only : Option String) : Setting Op Failure Op.Result Watched where
  Reply := Op.Reply
  perform op reply w := ((op.perform reply w.1).1, (op.perform reply w.1).2, w.2 ++ op.charges.toList)
  rely _ := Beside guarded
  holds := WatchHolds
  admits _ _ _ := True
  due := WatchDue guarded only

/-- Row updates that write no bundle and no charge and open no row. -/
def DeployPatch.quiet (patch : DeployPatch) : Bool :=
  patch.bundleUuid.isNone && patch.spentWei.isNone && (patch.status = none || patch.status = some .failed)

/-- Operations that keep bundles, charges and whatever is held. -/
def Op.calmly : Op → Bool
  | .query (.updateDeploy _ _ patch _) => patch.quiet
  | _ => true

theorem Query.run_held {statement : Query} {db next : Database} {value : statement.Result} {owner : String} {chain : Nat}
    (ran : statement.run db = .ok (value, next)) (held : db.Held owner chain)
    (quiet : ∀ intentId chainId patch cause, statement = .updateDeploy intentId chainId patch cause →
      (intentId, chainId) = (owner, chain) → patch.bundleUuid.isSome = true ∨ patch.status = none ∨
        patch.status = some .failed) : next.Held owner chain := by
  cases statement with
  | retireExhausted | retireWaiting | retireUnpaidForWallet => cases ran; exact Database.held_retire held
  | leaseQueued leaseSeconds limit => cases ran; exact Database.held_lease held
  | selectIntent | selectDeployments | selectDeploys => cases ran; exact held
  | updateDeploy intentId chainId patch cause =>
    exact Database.held_updateDeploy held (quiet intentId chainId patch cause rfl) (Query.run_updateDeploy ran)
  | recordDeployment intentId chainId value =>
    exact Database.held_recordDeployment held (Query.run_recordDeployment ran)
  | releaseClaim intentId chainIds => cases ran; exact Database.held_lease held

variable {op : Op} {bundleUuid : String}

variable {only : Option String}

theorem calmly_beside (calm : op.calmly = true) (reply : op.Reply) (w : Watched) :
    Beside guarded w ((watching guarded only).perform op reply w).2 := by
  cases op with
  | query statement =>
    have uncharged : (Op.query statement).charges = none := by
      cases statement with
      | updateDeploy intentId chainId patch cause =>
        simp only [Op.calmly, DeployPatch.quiet, Bool.and_eq_true, Option.isNone_iff_eq_none] at calm
        simp [Op.charges, calm.1.2]
      | _ => rfl
    have unbundled : (Op.query statement).writesBundle = none := by
      cases statement with
      | updateDeploy intentId chainId patch cause =>
        simp only [Op.calmly, DeployPatch.quiet, Bool.and_eq_true, Option.isNone_iff_eq_none] at calm
        simp [Op.writesBundle, calm.1.1]
      | _ => rfl
    have charged : w.2 ++ (Op.query statement).charges.toList = w.2 := by simp [uncharged]
    rcases query_cases statement reply w.1 with same | ⟨value, next, ran, made⟩
    · have still : ((watching guarded only).perform (.query statement) reply w).2 = w := Prod.ext same charged
      rw [still]
      exact .refl w
    · refine ⟨charged, fun i c => ?_, fun _ i c held => ?_⟩
      · change (Op.perform (.query statement) reply w.1).2.db.bundleOf i c = _
        rw [made]
        exact Query.run_bundles unbundled ran i c
      · change (Op.perform (.query statement) reply w.1).2.db.Held i c
        rw [made]
        refine Query.run_held ran held ?_
        rintro intentId chainId patch cause rfl _
        simp only [Op.calmly, DeployPatch.quiet, Bool.and_eq_true, Bool.or_eq_true, decide_eq_true_eq] at calm
        exact .inr calm.2
  | external request =>
    have same : (Op.perform (.external request) reply w.1).2.db = w.1.db := External.perform_db reply w.1
    refine ⟨List.append_nil _, fun i c => ?_, fun _ i c held => ?_⟩
    · exact congrArg (Database.bundleOf · i c) same
    · change (Op.perform (.external request) reply w.1).2.db.Held i c
      rwa [same]
  | mark point => exact ⟨List.append_nil _, fun _ _ => rfl, fun _ _ _ => id⟩

theorem RowChange.sent {row row' : IntentDeployRow}
    (change : RowChange (fun patch => patch.status = some .sent → patch.bundleUuid.isSome = true) row row')
    (before : row.status = .sent → row.bundleUuid.isSome = true) (after : row'.status = .sent) :
    row'.bundleUuid.isSome = true := by
  cases change with
  | leased => exact before after
  | retired error open_ => cases after
  | patched patch writes =>
    simp only [IntentDeployRow.patched] at after ⊢
    rw [Option.isSome_or, Bool.or_eq_true]
    cases status : patch.status with
    | none =>
      rw [status, Option.getD_none] at after
      exact .inr (before after)
    | some chosen =>
      rw [status, Option.getD_some] at after
      exact .inl (writes (status.trans (congrArg some after)))
  | requeued requester reserved createdAt failed clear => cases after

theorem Rewrites.sent {db next : Database}
    (rewrites : Rewrites (fun _ patch => patch.status = some .sent → patch.bundleUuid.isSome = true) db next)
    (before : ∀ key row, db.rows.get key = some row → row.status = .sent → row.bundleUuid.isSome = true) :
    ∀ key row, next.rows.get key = some row → row.status = .sent → row.bundleUuid.isSome = true := by
  intro key row' found sent
  rcases rewrites.rows key row' found with ⟨row, stood, change⟩ | fresh
  · exact change.sent (before key row stood) sent
  · cases fresh.status.symm.trans sent

theorem perform_carries {reply : op.Reply} {w : Watched} {intentId : String}
    {chainId : Nat} (carries : (w.1.db.bundleOf intentId chainId).isSome = true) :
    (((watching guarded only).perform op reply w).2.1.db.bundleOf intentId chainId).isSome = true := by
  change ((op.perform reply w.1).2.db.bundleOf intentId chainId).isSome = true
  cases op with
  | query statement =>
    rcases query_cases statement reply w.1 with same | ⟨value, next, ran, made⟩
    · rwa [same]
    · rw [made]
      cases statement with
      | updateDeploy owner chain patch cause =>
        change (next.bundleOf intentId chainId).isSome = true
        rw [Database.bundleOf_updateDeploy (Query.run_updateDeploy ran)]
        split
        · next here =>
          cases here
          rw [Option.isSome_or, carries, Bool.or_true]
        · exact carries
      | _ => rwa [show next.bundleOf intentId chainId = _ from Query.run_bundles rfl ran intentId chainId]
  | external request =>
    rwa [show (Op.perform (.external request) reply w.1).2.db = w.1.db from External.perform_db reply w.1]
  | mark point => exact carries

theorem Beside.watch {a b : Watched} (beside : Beside guarded a b) (holds : WatchHolds a)
    (sent : ∀ key row, b.1.db.rows.get key = some row → row.status = .sent → row.bundleUuid.isSome = true) :
    WatchHolds b where
  nonempty intentId chainId := by
    rw [beside.bundles]
    exact holds.nonempty intentId chainId
  charged key member := by
    rw [beside.charged] at member
    rw [beside.bundles]
    exact holds.charged key member
  sent := sent

theorem update_nonempty {intentId : String} {chainId : Nat} {patch : DeployPatch} {cause : Option Failure} {fate : Fate}
    {w : World} (before : ∀ intentId chainId, w.db.bundleOf intentId chainId ≠ some "")
    (written : ∀ bundleUuid, patch.bundleUuid = some bundleUuid → bundleUuid ≠ "") (owner : String) (chain : Nat) :
    (Op.perform (.query (.updateDeploy intentId chainId patch cause)) fate w).2.db.bundleOf owner chain ≠ some "" := by
  rcases query_cases (.updateDeploy intentId chainId patch cause) fate w with same | ⟨value, next, ran, made⟩
  · rw [same]
    exact before owner chain
  · rw [made]
    change next.bundleOf owner chain ≠ some ""
    rw [Database.bundleOf_updateDeploy (Query.run_updateDeploy ran)]
    split
    · intro empty
      rcases Option.or_eq_some_iff.mp empty with wrote | ⟨_, kept⟩
      · exact written "" wrote rfl
      · exact before intentId chainId kept
    · exact before owner chain

theorem perform_watch {reply : op.Reply} {w : Watched} (holds : WatchHolds w)
    (due : WatchDue guarded only op w) : WatchHolds ((watching guarded only).perform op reply w).2 := by
  have permitted : ∀ (key : String × Nat) patch, op.update = some (key, patch) → patch.status = some .sent →
      patch.bundleUuid.isSome = true := by
    intro key patch updates
    unfold Op.update at updates
    split at updates
    · cases updates
      exact due.1.sent
    · cases updates
  have rewrites : Rewrites _ w.1.db (op.perform reply w.1).2.db := perform_rewrites permitted
  have sent := rewrites.sent holds.sent
  cases calm : op.calmly with
  | true =>
    have beside : Beside guarded w ((watching guarded only).perform op reply w).2 := calmly_beside calm reply w
    exact beside.watch holds sent
  | false =>
    unfold Op.calmly at calm
    split at calm
    · next intentId chainId patch cause =>
      refine ⟨update_nonempty holds.nonempty fun bundleUuid written => (due.1.bundle bundleUuid written).1, ?_, sent⟩
      intro key member
      refine perform_carries ?_
      rcases List.mem_append.mp member with before | now
      · exact holds.charged key before
      · simp only [Op.charges, Option.mem_toList] at now
        split at now
        · next spent =>
          cases now
          exact (due.1.charge spent).2
        · cases now
    · cases calm

section
variable {only : Option String} {P : Watched → Prop} {l : Locals} {w : Watched}

theorem safe_calmly (calm : op.calmly = true) (due : ∀ {w}, P w → WatchDue guarded only op w)
    (stable : ∀ {a b}, Beside guarded a b → P a → P b) (now : P w) :
    (Action.request op : Act op.Result).safe (watching guarded only) l (fun _ l' w' => l' = l ∧ P w')
      (fun _ l' w' => l' = l ∧ P w') w := by
  refine safe_request P now (fun _ _ step => stable step) fun w known _ => ⟨due known, fun reply _ => ?_⟩
  have beside : Beside guarded w ((watching guarded only).perform op reply w).2 := calmly_beside calm reply w
  refine ⟨fun value w' performed => ⟨rfl, stable ?_ known⟩, fun error w' performed => ⟨rfl, stable ?_ known⟩⟩
  · rwa [show ((watching guarded only).perform op reply w).2 = w' from congrArg Prod.snd performed] at beside
  · rwa [show ((watching guarded only).perform op reply w).2 = w' from congrArg Prod.snd performed] at beside

theorem safe_idly (idle : op.idle = true) (stable : ∀ {a b}, Beside guarded a b → P a → P b) (now : P w) :
    (Action.request op : Act op.Result).safe (watching guarded only) l (fun _ l' w' => l' = l ∧ P w')
      (fun _ l' w' => l' = l ∧ P w') w := by
  cases op with
  | query statement =>
    cases statement with
    | updateDeploy => cases idle
    | _ => exact safe_calmly rfl (fun _ => trivial) stable now
  | _ => exact safe_calmly rfl (fun _ => trivial) stable now

variable {intentId : String} {chainId : Nat} {patch : DeployPatch}

theorem update_due (unbundled : patch.bundleUuid = none) (uncharged : patch.spentWei = none)
    (unsent : patch.status ≠ some .sent) : UpdateDue guarded intentId chainId patch w where
  bundle bundleUuid written := by
    rw [unbundled] at written
    cases written
  charge spent := by simp [uncharged] at spent
  sent sends := absurd sends unsent

theorem safe_quietly (quiet : patch.quiet = true) (own : ∀ owner, only = some owner → intentId = owner)
    (stable : ∀ {a b}, Beside guarded a b → P a → P b) (now : P w) :
    (updateDeploy intentId chainId patch).safe (watching guarded only) l (fun _ l' w' => l' = l ∧ P w')
      (fun _ l' w' => l' = l ∧ P w') w := by
  refine safe_bind (safe_read (safe_calmly quiet (fun _ => ⟨?_, own⟩) stable now))
  simp only [DeployPatch.quiet, Bool.and_eq_true, Option.isNone_iff_eq_none, Bool.or_eq_true, decide_eq_true_eq] at quiet
  refine update_due quiet.1.1 quiet.1.2 fun sends => ?_
  rcases quiet.2 with same | failed
  · rw [same] at sends
    cases sends
  · rw [failed] at sends
    cases sends

/-- What a bundle that was written leaves: nothing but the row it names changes, and that row carries it. -/
structure Written (intentId : String) (chainId : Nat) (a b : Watched) : Prop where
  charged : b.2 = a.2
  held : ∀ owner chain, a.1.db.Held owner chain → b.1.db.Held owner chain
  carries : ∀ owner chain, (a.1.db.bundleOf owner chain).isSome = true → (b.1.db.bundleOf owner chain).isSome = true
  here : (b.1.db.bundleOf intentId chainId).isSome = true

theorem update_written {cause : Option Failure} {fate : Fate} {value : Unit} {w' : Watched}
    (writes : patch.bundleUuid = some bundleUuid) (uncharged : patch.spentWei = none)
    (performed : (watching guarded only).perform (.query (.updateDeploy intentId chainId patch cause)) fate w = (.ok value, w')) :
    Written intentId chainId w w' := by
  have after : ((watching guarded only).perform (.query (.updateDeploy intentId chainId patch cause)) fate w).2 = w' :=
    congrArg Prod.snd performed
  have answered : Op.perform (.query (.updateDeploy intentId chainId patch cause)) fate w.1 = (.ok value, w'.1) := by
    have value : (Op.perform (.query (.updateDeploy intentId chainId patch cause)) fate w.1).1 = .ok value :=
      congrArg Prod.fst performed
    rw [← after]
    exact Prod.ext value rfl
  obtain ⟨next, ran, made⟩ := query_ok answered
  obtain ⟨_, _, bundles⟩ := updateDeploy_bundle writes answered
  refine ⟨?_, fun owner chain held => ?_, fun owner chain carries => ?_, ?_⟩
  · rw [← after]
    change w.2 ++ _ = w.2
    simp [Op.charges, uncharged]
  · rw [made]
    exact Database.held_updateDeploy held (fun _ => .inl (by simp [writes])) (Query.run_updateDeploy ran)
  · rw [← after]
    exact perform_carries carries
  · simp [bundles]

theorem safe_attach {Q : Watched → Prop} (writes : patch.bundleUuid = some bundleUuid)
    (uncharged : patch.spentWei = none) (own : ∀ owner, only = some owner → intentId = owner) (nonempty : bundleUuid ≠ "")
    (now : P w) (stable : ∀ {a b}, Beside guarded a b → P a → P b)
    (held : ∀ {w}, P w → guarded → w.1.db.Held intentId chainId)
    (after : ∀ {a b}, P a → Written intentId chainId a b → Q b) :
    (updateDeploy intentId chainId patch).safe (watching guarded only) l (fun _ l' w' => l' = l ∧ Q w')
      (fun _ _ _ => True) w := by
  refine safe_bind (safe_read ?_)
  refine safe_request P now (fun _ _ step => stable step) fun w known _ => ⟨⟨⟨?_, ?_, ?_⟩, own⟩, fun reply _ => ⟨?_, ?_⟩⟩
  · intro other same
    cases writes.symm.trans same
    exact ⟨nonempty, held known⟩
  · intro spent
    simp [uncharged] at spent
  · intro _
    simp [writes]
  · exact fun value w' performed => ⟨rfl, after known (update_written writes uncharged performed)⟩
  · exact fun _ _ _ => trivial

end

/-- The rows of a lane call: held and not charged until its bundle is on them, carrying it when they are charged,
and held for as long as a launch may be reported. -/
def lanePhase (guarded : Prop) (intentId : String) (chainIds : List Nat) : Phase → Locals → Watched → Prop
  | .building, _, w => ∀ chainId ∈ chainIds, (guarded → w.1.db.Held intentId chainId) ∧ (intentId, chainId) ∉ w.2
  | .quoted _, _, w => ∀ chainId ∈ chainIds, (guarded → w.1.db.Held intentId chainId) ∧ (intentId, chainId) ∉ w.2
  | .recorded bundleUuid, _, w => bundleUuid ≠ "" ∧ ∀ chainId ∈ chainIds,
    (w.1.db.bundleOf intentId chainId).isSome = true ∧ (intentId, chainId) ∉ w.2
  | .polling bundleUuid, _, w => bundleUuid ≠ "" ∧ ∀ chainId ∈ chainIds, guarded → w.1.db.Held intentId chainId
  | _, _, _ => True

section
variable {intent : Intent} {chainIds : List Nat} {p : Phase} {l l' : Locals} {w : Watched} {chainId : Nat}

variable {intentId : String}

theorem lanePhase_stable {a b : Watched} (beside : Beside guarded a b)
    (now : lanePhase guarded intentId chainIds p l a) : lanePhase guarded intentId chainIds p l b := by
  cases p with
  | building =>
    intro chainId member
    rw [beside.charged]
    exact (now chainId member).imp_left fun held guard => beside.held guard _ _ (held guard)
  | quoted bundleUuid =>
    intro chainId member
    rw [beside.charged]
    exact (now chainId member).imp_left fun held guard => beside.held guard _ _ (held guard)
  | recorded bundleUuid =>
    refine ⟨now.1, fun chainId member => ?_⟩
    rw [beside.charged, beside.bundles]
    exact now.2 chainId member
  | polling bundleUuid => exact ⟨now.1, fun chainId member guard => beside.held guard _ _ (now.2 chainId member guard)⟩
  | settling bundleUuid => trivial
  | closing message => trivial

theorem lanePhase_locals (now : lanePhase guarded intentId chainIds p l w) :
    lanePhase guarded intentId chainIds p l' w := by
  cases p <;> exact now

theorem own_intent : ∀ owner, some intent.id = some owner → intent.id = owner := by
  rintro owner ⟨⟩
  rfl

theorem easy_calm (easy : op.easy intentId chainIds) (w : Watched) :
    WatchDue guarded (some intentId) op w := by
  cases op with
  | query statement =>
    cases statement with
    | updateDeploy owner chainId patch cause =>
      obtain ⟨rfl, mild⟩ := easy
      simp only [DeployPatch.mild, Bool.and_eq_true, Option.isNone_iff_eq_none] at mild
      refine ⟨update_due mild.1.1 mild.1.2 fun sends => ?_, by rintro _ ⟨⟩; rfl⟩
      rw [sends] at mild
      cases mild.2
    | _ => trivial
  | _ => trivial

/-- Whatever a claim does beside its lane call is allowed. -/
theorem watch_eased : Eased (watching guarded (some intentId)) intentId chainIds (fun _ => True) :=
  fun _ easy _ _ _ => safe_request (fun _ => True) trivial (fun _ _ _ => id)
    fun w _ _ => ⟨easy_calm easy w, fun _ _ => ⟨fun _ _ _ => ⟨rfl, trivial⟩, fun _ _ _ => ⟨rfl, trivial⟩⟩⟩

theorem safe_recording (canonical : uuid bundleUuid = true)
    (now : lanePhase guarded intent.id chainIds (.quoted bundleUuid) l w) :
    (Report.bundle intent chainIds bundleUuid).safe (watching guarded (some intent.id)) l (fun _ l' w' =>
      l'.done = l.done ∧ l'.settled = l.settled ∧ lanePhase guarded intent.id chainIds (.recorded bundleUuid) l' w')
      (fun _ _ _ => True) w := by
  refine safe_bind (Action.safe_modify ?_)
  -- What is left to write is still only held; the rest carries the bundle.
  let known (rest : List Nat) (w : Watched) : Prop := (∀ chainId ∈ rest, chainId ∈ chainIds) ∧
    lanePhase guarded intent.id chainIds (.quoted bundleUuid) l w ∧
    ∀ chainId ∈ chainIds, chainId ∈ rest ∨ (w.1.db.bundleOf intent.id chainId).isSome = true
  refine safe_imp (Action.safe_each (fun rest l' w => (l'.done = l.done ∧ l'.settled = l.settled) ∧ known rest w)
    ⟨⟨rfl, rfl⟩, fun _ => id, now, fun _ => .inl⟩ ?_) ?_
  · rintro chainId rest l' w ⟨same, now⟩
    refine safe_imp (safe_attach (P := known (chainId :: rest)) (Q := known rest) rfl rfl own_intent
      (uuid_nonempty canonical) now ?_ ?_ ?_) ?_
    · rintro a b beside ⟨within, phase, rows⟩
      refine ⟨within, lanePhase_stable beside phase, fun other member => ?_⟩
      rw [beside.bundles]
      exact rows other member
    · rintro w ⟨within, phase, _⟩
      exact (phase chainId (within chainId List.mem_cons_self)).1
    · rintro a b ⟨within, phase, rows⟩ written
      refine ⟨fun other member => within other (List.mem_cons_of_mem _ member), fun other member => ?_,
        fun other member => ?_⟩
      · rw [written.charged]
        exact (phase other member).imp_left fun held guard => written.held _ _ (held guard)
      · rcases rows other member with left | carries
        · rcases List.mem_cons.mp left with rfl | later
          · exact .inr written.here
          · exact .inl later
        · exact .inr (written.carries _ _ carries)
    · rintro _ l' w ⟨rfl, now⟩
      exact ⟨same, now⟩
  · rintro _ l' w ⟨same, _, phase, rows⟩
    refine ⟨same.1, same.2, uuid_nonempty canonical, fun chainId member => ⟨?_, (phase chainId member).2⟩⟩
    exact (rows chainId member).resolve_left List.not_mem_nil

theorem safe_charge {wei : Nat} (nonempty : chainIds ≠ [])
    (now : lanePhase guarded intent.id chainIds (.recorded bundleUuid) l w) :
    ((report intent chainIds).paid (chainIds.headD 0) wei).safe (watching guarded (some intent.id)) l
      (fun _ l' w' => l' = l ∧ lanePhase guarded intent.id chainIds (.polling bundleUuid) l w') (fun _ _ _ => True) w := by
  obtain ⟨first, rest, rfl⟩ := List.exists_cons_of_ne_nil nonempty
  refine safe_bind (safe_read ?_)
  refine safe_request (lanePhase guarded intent.id (first :: rest) (.recorded bundleUuid) l) now
    (fun _ _ step => lanePhase_stable step) fun w known _ => ⟨⟨⟨?_, ?_, ?_⟩, own_intent⟩, fun reply _ => ⟨?_, ?_⟩⟩
  · rintro bundleUuid ⟨⟩
  · exact fun _ => (known.2 first List.mem_cons_self).symm
  · rintro ⟨⟩
  · intro value w' performed
    refine ⟨rfl, known.1, fun chainId member _ => Database.held_of_bundle ?_⟩
    rw [← show ((watching guarded (some intent.id)).perform _ reply w).2 = w' from congrArg Prod.snd performed]
    exact perform_carries (known.2 chainId member).1
  · exact fun _ _ _ => trivial

theorem laneRules (nonempty : chainIds ≠ []) : DeployRules (watching guarded (some intent.id)) (report intent chainIds)
    chainIds intent.id (lanePhase guarded intent.id chainIds) (fun _ _ _ => True) where
  toReportRules := Eased.reportRules (fun _ => trivial) lanePhase_locals
    (fun _ idle _ _ now => safe_idly idle lanePhase_stable now)
    watch_eased watch_eased (fun _ _ => trivial)
  create now := safe_mono (safe_calmly rfl (fun _ => trivial) lanePhase_stable now)
    (fun _ _ _ ⟨same, later⟩ => ⟨same, later, later⟩) (fun _ _ _ _ => trivial)
  bundle canonical now := safe_recording canonical now
  pay now := safe_mono (safe_calmly rfl (fun _ => trivial) lanePhase_stable now) (fun _ _ _ => id)
    (fun _ _ _ _ => trivial)
  paid now := safe_charge nonempty now
  sent member now := safe_attach rfl rfl own_intent now.1 now lanePhase_stable (fun now => now.2 _ member)
    (fun now written => ⟨now.1, fun other inside guard => written.held _ _ (now.2 other inside guard)⟩)
  polled _ := trivial

end

def HeldAll (guarded : Prop) (claims : List (String × List Nat)) (w : Watched) : Prop :=
  guarded → ∀ claim ∈ claims, ∀ chainId ∈ claim.2, w.1.db.Held claim.1 chainId

theorem HeldAll.stable {claims : List (String × List Nat)} {a b : Watched} (beside : Beside guarded a b)
    (held : HeldAll guarded claims a) : HeldAll guarded claims b :=
  fun guard claim member chainId inside => beside.held guard _ _ (held guard claim member chainId inside)

/-- What a claim knows of its rows: the bundles it read are the bundles they carry, and they are held. -/
structure Known (guarded : Prop) (intent : Intent) (claimed : List Nat) (w : Watched) : Prop where
  seen : Seen intent w.1
  held : HeldAll guarded [(intent.id, claimed)] w

section
variable {options : LaneOptions} {intent : Intent} {claimed chainIds : List Nat} {l : Locals} {w : Watched}

theorem Known.stable {a b : Watched} (beside : Beside guarded a b) (known : Known guarded intent claimed a) :
    Known guarded intent claimed b where
  seen := {
    read := fun member => (beside.bundles _ _).trans (known.seen.read member)
    all := fun carried => known.seen.all ((beside.bundles _ _).symm.trans carried) }
  held := known.held.stable beside

theorem Known.held_chain {chainId : Nat} (known : Known guarded intent claimed w) (member : chainId ∈ claimed)
    (guard : guarded) : w.1.db.Held intent.id chainId :=
  known.held guard _ List.mem_cons_self chainId member

theorem carriedBundle_nonempty (carries : carriedBundle intent claimed = some bundleUuid) :
    bundleUuid ≠ "" := by
  obtain ⟨⟨first, row⟩, found, held⟩ := some_bind carries
  have truthy := List.find?_some found
  have same : row.bundleUuid = some bundleUuid := held
  simp only [same, Option.any_some, Bool.and_eq_true, decide_eq_true_eq] at truthy
  exact truthy.2

theorem safe_marking {point : Mark} (known : Known guarded intent claimed w) :
    (mark point).safe (watching guarded (some intent.id)) l (fun _ l' w' => l' = l ∧ Known guarded intent claimed w' ∧
      WatchHolds w') (fun _ _ _ => True) w := by
  refine safe_request (Known guarded intent claimed) known (fun _ _ step => Known.stable step)
    fun w known holds => ⟨trivial, fun reply _ => ⟨?_, fun _ _ _ => trivial⟩⟩
  intro value w' performed
  have same : w' = w := by
    rw [← show ((watching guarded (some intent.id)).perform (.mark point) reply w).2 = w' from congrArg Prod.snd performed]
    exact Prod.ext rfl (List.append_nil _)
  rw [same]
  exact ⟨rfl, known, holds⟩

theorem safe_lane {recorded : List Nat} (left : claimed.filter (fun chainId => !recorded.contains chainId) ≠ [])
    (known : Known guarded intent claimed w) (fresh : l.settled = []) :
    (callLane options ⟨intent.id, claimed, recorded⟩ intent (claimed.filter (fun chainId => !recorded.contains chainId))
      (carriedBundle intent claimed)).safe (watching guarded (some intent.id)) l (fun _ _ _ => True) (fun _ _ _ => True) w := by
  unfold callLane
  cases carries : carriedBundle intent claimed with
  | some bundleUuid =>
    refine safe_bind (safe_imp (safe_marking known) ?_)
    rintro _ l' w ⟨rfl, known, holds⟩
    refine safe_imp ((laneRules left).settleRules.settle ?_) (fun _ _ _ _ => trivial)
    exact ⟨carriedBundle_nonempty carries, fun chainId member => known.held_chain (List.mem_filter.mp member).1⟩
  | none =>
    refine safe_bind (safe_imp (safe_marking known) ?_)
    rintro _ l' w ⟨rfl, known, holds⟩
    refine safe_imp ((laneRules left).deploy rfl (by simp [fresh]) ?_) (fun _ _ _ _ => trivial)
    intro chainId member
    have inside := (List.mem_filter.mp member).1
    refine ⟨known.held_chain inside, fun charged => ?_⟩
    have carried := holds.charged _ charged
    rw [carriedBundle_none known.seen holds.nonempty carries chainId inside] at carried
    cases carried

theorem safe_reading {intentId : String} (held : HeldAll guarded [(intentId, claimed)] w) :
    (store (.selectDeploys intentId)).safe (watching guarded (some intentId)) l
      (fun (deploys : List (Nat × IntentDeployRow)) _ w => ∀ envelope deployments,
        Known guarded ⟨intentId, envelope, deployments, deploys⟩ claimed w) (fun _ _ _ => True) w := by
  refine safe_request (HeldAll guarded [(intentId, claimed)]) held (fun _ _ step => HeldAll.stable step)
    fun w held _ => ⟨trivial, fun reply _ => ⟨?_, fun _ _ _ => trivial⟩⟩
  intro deploys w' performed envelope deployments
  have calm : (Op.query (.selectDeploys intentId)).calmly = true := rfl
  have beside : Beside guarded w ((watching guarded (some intentId)).perform (.query (.selectDeploys intentId)) reply w).2 :=
    calmly_beside calm reply w
  rw [show ((watching guarded (some intentId)).perform _ reply w).2 = w' from congrArg Prod.snd performed] at beside
  have answered : (Query.perform (.selectDeploys intentId) reply w.1.db).1 = .ok deploys := congrArg Prod.fst performed
  have read : deploys = w.1.db.selectDeploys intentId := by
    have ran := Query.perform_ok answered
    simp only [Query.run, Except.ok.injEq] at ran
    exact (congrArg Prod.fst ran).symm
  have known : Known guarded ⟨intentId, envelope, deployments, deploys⟩ claimed w := by
    refine ⟨?_, held⟩
    rw [read]
    exact seen_selectDeploys
  exact known.stable beside

theorem safe_claim {intentId : String} (held : HeldAll guarded [(intentId, claimed)] w) :
    (runClaim options intentId claimed).safe (watching guarded (some intentId)) l (fun _ _ _ => True)
      (fun _ _ _ => True) w := by
  refine safe_runClaim (HeldAll guarded [(intentId, claimed)]) (fun _ idle _ _ held => safe_idly idle HeldAll.stable held)
    (fun _ => trivial) (fun held => ?_) held
  refine safe_imp (safe_reading held) fun deploys l w known => ⟨trivial, fun envelope deployments l => ?_⟩
  have eased : Eased (watching guarded (some intentId)) intentId [] (fun _ => True) := watch_eased
  refine safe_runIntent (fun _ => Known guarded ⟨intentId, envelope, deployments, deploys⟩ claimed) (fun _ => True)
    watch_eased (fun _ => trivial) (fun _ => trivial) (fun mild _ => ?_) (fun mild failed known => ?_)
    (fun _ known fresh left => safe_lane left known fresh) (known _ _)
  · exact safe_mono (eased.update mild trivial) (fun _ _ _ => And.right) (fun _ _ _ => And.right)
  refine safe_mono (safe_quietly ?_ (by rintro _ ⟨⟩; rfl) Known.stable known) (fun _ _ _ => id) (fun _ _ _ _ => trivial)
  simp only [DeployPatch.mild, Bool.and_eq_true] at mild
  simp [DeployPatch.quiet, mild.1.1, mild.1.2, failed]

end

theorem perform_heldAll {intentId : String} {claims : List (String × List Nat)} {reply : op.Reply} {w : Watched}
    (apart : ∀ claim ∈ claims, claim.1 ≠ intentId) (due : WatchDue guarded (some intentId) op w)
    (held : HeldAll guarded claims w) : HeldAll guarded claims ((watching guarded (some intentId)).perform op reply w).2 := by
  intro guard claim member chainId inside
  have before := held guard claim member chainId inside
  change (op.perform reply w.1).2.db.Held claim.1 chainId
  cases op with
  | query statement =>
    rcases query_cases statement reply w.1 with same | ⟨value, next, ran, made⟩
    · rwa [same]
    · rw [made]
      refine Query.run_held ran before ?_
      rintro owner chain patch cause rfl here
      cases here
      exact absurd (due.2 intentId rfl) (apart claim member)
  | external request =>
    rwa [show (Op.perform (.external request) reply w.1).2.db = w.1.db from External.perform_db reply w.1]
  | mark point => exact before

theorem held_leased {db : Database} {leaseSeconds limit : Nat}
    (sent : ∀ key row, db.rows.get key = some row → row.status = .sent → row.bundleUuid.isSome = true) :
    ∀ claim ∈ db.leased limit, ∀ chainId ∈ claim.2, (db.leaseQueued leaseSeconds limit).Held claim.1 chainId := by
  intro claim member chainId inside
  obtain ⟨intentId, _, rfl⟩ := List.mem_map.mp member
  obtain ⟨⟨chain, row⟩, listed, rfl⟩ := List.mem_map.mp inside
  obtain ⟨selected, claimable⟩ := List.mem_filter.mp listed
  have found := Database.mem_selectDeploys.mp selected
  have held : db.Held intentId chain := by
    refine ⟨row, found, fun clear => .inr ?_⟩
    simp only [Database.claimable, clear, Option.isSome_none, Bool.false_or, Bool.and_eq_true,
      Bool.not_eq_true', IntentDeployRow.isOpen, Bool.or_eq_true, beq_iff_eq] at claimable
    refine ⟨?_, claimable.2⟩
    rcases claimable.1.1.1 with queued | wasSent
    · exact queued
    · have carries := sent _ row found wasSent
      simp [clear] at carries
  exact Database.held_lease held

theorem leased_nodup (db : Database) (limit : Nat) : ((db.leased limit).map Prod.fst).Nodup := by
  have names : (db.leased limit).map Prod.fst = db.picked limit := by
    simp [Database.leased, Function.comp_def]
  rw [names]
  unfold Database.picked
  refine List.Nodup.sublist (List.take_sublist _ _) ?_
  exact (List.perm_insertionSort _ _).nodup_iff.mpr (List.nodup_dedup _)

/-- What a pass knows of the claims that are left. -/
def Claims (guarded : Prop) (claims : List (String × List Nat)) (w : Watched) : Prop :=
  (claims.map Prod.fst).Nodup ∧ HeldAll guarded claims w

section
variable {options : LaneOptions} {l : Locals} {w : Watched}

theorem safe_leasing {leaseSeconds limit : Nat} :
    (store (.leaseQueued leaseSeconds limit)).safe (watching guarded none) l
      (fun (claims : List (String × List Nat)) _ w => Claims guarded claims w) (fun _ _ _ => True) w := by
  refine safe_request (fun _ => True) trivial (fun _ _ _ => id)
    fun w _ holds => ⟨trivial, fun reply _ => ⟨?_, fun _ _ _ => trivial⟩⟩
  intro claims w' performed
  have answered : Op.perform (.query (.leaseQueued leaseSeconds limit)) reply w.1 = (.ok claims, w'.1) := by
    have value : (Op.perform (.query (.leaseQueued leaseSeconds limit)) reply w.1).1 = .ok claims := congrArg Prod.fst performed
    rw [← show ((watching guarded none).perform (.query (.leaseQueued leaseSeconds limit)) reply w).2 = w' from
      congrArg Prod.snd performed]
    exact Prod.ext value rfl
  obtain ⟨next, ran, made⟩ := query_ok answered
  cases ran
  refine ⟨leased_nodup w.1.db limit, fun _ => ?_⟩
  rw [made]
  exact held_leased holds.sent

theorem safe_turn {intentId : String} {claimed : List Nat} {rest : List (String × List Nat)}
    (known : Claims guarded ((intentId, claimed) :: rest) w) :
    (runClaim options intentId claimed).safe (watching guarded none) l (fun _ _ => Claims guarded rest)
      (fun _ _ => Claims guarded rest) w := by
  obtain ⟨distinct, held⟩ := known
  simp only [List.map_cons, List.nodup_cons] at distinct
  have apart : ∀ claim ∈ rest, claim.1 ≠ intentId := by
    intro claim member same
    exact distinct.1 (List.mem_map.mpr ⟨claim, member, same⟩)
  have own : HeldAll guarded [(intentId, claimed)] w := by
    intro guard claim member
    cases List.mem_singleton.mp member
    exact held guard _ List.mem_cons_self
  have others : HeldAll guarded rest w := fun guard claim member => held guard claim (List.mem_cons_of_mem _ member)
  have alone := Program.safe_frame (safe_claim own : (runClaim options intentId claimed).safe
    (watching guarded (some intentId)) l (fun _ _ _ => True) (fun _ _ _ => True) w) others
    (fun beside => HeldAll.stable beside) (fun due => perform_heldAll apart due)
  have whole : Program.safe { watching guarded (some intentId) with due := WatchDue guarded none } _ _ w :=
    Program.safe_weaken alone ?_
  · refine Program.safe_mono whole ?_
    rintro ⟨result, l⟩ w ⟨_, held⟩
    cases result with
    | ok value => exact ⟨distinct.2, held⟩
    | error error => exact ⟨distinct.2, held⟩
  · intro op w due
    unfold WatchDue at due ⊢
    split
    · exact ⟨due.1, fun owner none => by cases none⟩
    · trivial

theorem safe_pass {leaseSeconds : Nat} :
    (runOnce options leaseSeconds).safe (watching guarded none) l (fun _ _ _ => True) (fun _ _ _ => True) w := by
  refine safe_runOnce (fun _ => True) (Claims guarded) ?_ (fun _ => safe_leasing) safe_turn (fun _ idle _ _ known => ?_)
    (fun _ => trivial) trivial
  · intro statement listed l w _
    simp only [List.mem_cons, List.not_mem_nil, or_false] at listed
    have free : ∀ {op : Op}, op.calmly = true → (∀ w, WatchDue guarded none op w) →
        (Action.request op : Act op.Result).safe (watching guarded none) l (fun _ _ _ => True) (fun _ _ _ => True) w :=
      fun calm due => safe_mono (safe_calmly (P := fun _ => True) calm (fun _ => due _) (fun _ => id) trivial)
        (fun _ _ _ _ => trivial) (fun _ _ _ _ => trivial)
    rcases listed with rfl | rfl | rfl
    · exact free rfl fun _ => trivial
    · exact free rfl fun _ => trivial
    · exact free rfl fun _ => trivial
  · exact safe_idly idle (fun beside known => ⟨known.1, known.2.stable beside⟩) known

end

variable {options : LaneOptions} {leaseSeconds : Nat} {start s t u : System} {event : Event} {events : List Event}

/-- While a pass runs, no retry opens a row again that failed without a bundle and that a wallet deployed past. -/
def Event.unprovoked (s : System) : Event → Prop
  | .queueDeploys intentId chainIds _ _ retryFailed => s.worker.isSome = true → retryFailed = true →
    s.world.db.walletDeployedOf intentId = true → ∀ chainId ∈ chainIds, ∀ row,
      s.world.db.rows.get (intentId, chainId) = some row → row.status = .failed → row.bundleUuid.isSome = true
  | _ => True

def Taken (guarded : Prop) (options : LaneOptions) (leaseSeconds : Nat) (s : System) (event : Event) (t : System) : Prop :=
  s.step options leaseSeconds event = some t ∧ (guarded → event.unprovoked s)

/-- A charge is the first of its row, and what is left of a pass will keep it so. -/
structure WatchInvariant (guarded : Prop) (events : List Event) (s : System) : Prop where
  once : (events.filterMap Event.charges).Nodup
  holds : WatchHolds (s.world, events.filterMap Event.charges)
  safe : ∀ program, s.worker = some program →
    program.safe (watching guarded none) (fun _ _ => True) (s.world, events.filterMap Event.charges)

theorem initial_watch (initial : start.Initial) : WatchInvariant guarded [] start := by
  refine ⟨List.nodup_nil, ⟨?_, ?_, ?_⟩, ?_⟩
  · intro intentId chainId
    rw [Database.bundleOf, initial.rows]
    exact Option.some_ne_none _ ∘ Eq.symm
  · intro key member
    cases member
  · intro key row found
    rw [initial.rows] at found
    cases found
  · intro program running
    rw [initial.idle] at running
    cases running

/-- What others do beside a pass keeps what the pass holds. -/
theorem outside_beside (taken : Taken guarded options leaseSeconds s event t) (outside : event.isWork = false)
    (running : s.worker.isSome = true) (charged : List (String × Nat)) :
    Beside guarded (s.world, charged) (t.world, charged) := by
  obtain ⟨stepped, unprovoked⟩ := taken
  rcases (outside_cases stepped outside).1 with ⟨_, _, _, _, _, db, rfl, queued, made⟩ |
    ⟨_, _, _, db, _, recorded, made⟩ | ⟨_, _, made, _⟩
  · exact made ▸ ⟨rfl, Database.bundleOf_queueDeploys queued, fun guard intentId chainId held =>
      Database.held_queueDeploys held (unprovoked guard running) queued⟩
  · exact made ▸ ⟨rfl, Database.bundleOf_recordDeployment recorded, fun _ intentId chainId held =>
      Database.held_recordDeployment held recorded⟩
  · exact made ▸ ⟨rfl, fun _ _ => rfl, fun _ _ _ => id⟩

theorem outside_watch (invariant : WatchInvariant guarded events s) (taken : Taken guarded options leaseSeconds s event t)
    (outside : event.isWork = false) : WatchInvariant guarded (events ++ [event]) t := by
  have same : (events ++ [event]).filterMap Event.charges = events.filterMap Event.charges := by
    cases event with
    | work op reply => cases outside
    | _ => simp [Event.charges]
  rcases step_cases taken.1 with ⟨op, reply, _, rfl, _, _⟩ | ⟨ledger, worker⟩
  · cases outside
  have rewrites : Rewrites (fun _ patch => patch.status = some .sent → patch.bundleUuid.isSome = true)
      s.world.db t.world.db := step_rewrites taken.1 fun op reply key patch works => by rw [works] at outside; cases outside
  have sent := rewrites.sent invariant.holds.sent
  refine ⟨same ▸ invariant.once, ?_, ?_⟩
  · rw [same]
    have unheld : Beside False (s.world, events.filterMap Event.charges) (t.world, events.filterMap Event.charges) :=
      ⟨rfl, ledger.bundles, False.elim⟩
    exact unheld.watch invariant.holds sent
  · rw [same]
    intro program running
    rcases worker with kept | stopped | ⟨started, world⟩
    · have before : s.worker = some program := kept ▸ running
      exact Program.safe_rely (invariant.safe program before)
        (fun _ _ _ => outside_beside taken outside (by simp [before]) _) Beside.trans (fun _ => id)
    · rw [stopped] at running
      cases running
    · rw [started] at running
      cases running
      exact Program.safe_mono (safe_pass (l := {})) fun _ _ _ => trivial

theorem charge_first {w : Watched} (once : w.2.Nodup) (due : WatchDue guarded none op w) :
    (w.2 ++ op.charges.toList).Nodup := by
  unfold Op.charges
  split
  · next intentId chainId patch cause =>
    split
    · next spent =>
      refine List.nodup_append.mpr ⟨once, List.nodup_singleton _, ?_⟩
      rintro key charged other first rfl
      cases List.mem_singleton.mp first
      exact (due.1.charge spent).1 charged
    · simpa using once
  · simpa using once

theorem step_watch (invariant : WatchInvariant guarded events s) (taken : Taken guarded options leaseSeconds s event t) :
    WatchInvariant guarded (events ++ [event]) t := by
  cases works : event.isWork with
  | false => exact outside_watch invariant taken works
  | true =>
    cases event with
    | work op reply =>
      obtain ⟨next, running, rfl⟩ := step_work taken.1
      obtain ⟨due, rest⟩ := invariant.safe _ running _ (.refl _) invariant.holds
      have charged : (events ++ [Event.work op reply]).filterMap Event.charges =
          events.filterMap Event.charges ++ op.charges.toList := by
        rw [List.filterMap_append]
        cases charges : op.charges <;> simp [Event.charges, charges]
      refine ⟨?_, ?_, fun program left => ?_⟩
      · rw [charged]
        exact charge_first invariant.once due
      · rw [charged]
        exact perform_watch invariant.holds due
      · cases left
        rw [charged]
        exact rest reply trivial
    | _ => cases works

theorem run_watch (initial : start.Initial) (run : Run (Taken guarded options leaseSeconds) start events s) :
    WatchInvariant guarded events s :=
  run.invariant (initial_watch initial) fun _ invariant taken => step_watch invariant taken

variable {intentId : String}

theorem perform_wallet {reply : op.Reply} {w : World}
    (wallet : w.db.walletDeployedOf intentId = true) : (op.perform reply w).2.db.walletDeployedOf intentId = true := by
  cases op with
  | query statement =>
    rcases query_cases statement reply w with same | ⟨value, next, ran, made⟩
    · rwa [same]
    · rw [made]
      change next.walletDeployedOf intentId = true
      cases statement with
      | updateDeploy owner chain patch cause =>
        rcases Database.updateDeploy_ok (Query.run_updateDeploy ran) with ⟨_, _, rfl⟩ | ⟨_, _, _, rfl⟩
        · exact wallet
        · exact wallet
      | recordDeployment owner chain value =>
        exact Database.recordDeployment_wallet (Query.run_recordDeployment ran) wallet
      | _ =>
        cases ran
        exact wallet
  | external request =>
    rwa [show (Op.perform (.external request) reply w).2.db = w.db from External.perform_db reply w]
  | mark point => exact wallet

theorem step_wallet (taken : s.step options leaseSeconds event = some t)
    (wallet : s.world.db.walletDeployedOf intentId = true) : t.world.db.walletDeployedOf intentId = true := by
  cases works : event.isWork with
  | true =>
    cases event with
    | work op reply =>
      obtain ⟨_, _, rfl⟩ := step_work taken
      exact perform_wallet wallet
    | _ => cases works
  | false =>
    rcases (outside_cases taken works).1 with ⟨_, _, _, _, _, db, _, queued, made⟩ | ⟨_, _, _, db, _, recorded, made⟩ |
      ⟨_, _, made, _⟩
    · rw [made]
      rwa [Database.queueDeploys_wallet queued]
    · rw [made]
      exact Database.recordDeployment_wallet recorded wallet
    · rwa [made]

/-- The rows a claim takes, whatever becomes of its statement. -/
def Event.claims (s : System) (intentId : String) (chainId : Nat) : Event → Prop
  | .work (.query (.leaseQueued _ limit)) _ => ∃ claimed, (intentId, claimed) ∈ s.world.db.leased limit ∧ chainId ∈ claimed
  | _ => False

theorem unclaimed {chainId : Nat} (wallet : s.world.db.walletDeployedOf intentId = true)
    (clear : s.world.db.bundleOf intentId chainId = none) : ¬ event.claims s intentId chainId := by
  intro claims
  unfold Event.claims at claims
  split at claims
  · obtain ⟨claimed, member, inside⟩ := claims
    obtain ⟨owner, _, made⟩ := List.mem_map.mp member
    cases made
    obtain ⟨⟨chain, row⟩, listed, rfl⟩ := List.mem_map.mp inside
    obtain ⟨selected, claimable⟩ := List.mem_filter.mp listed
    rw [Database.bundleOf, Database.mem_selectDeploys.mp selected, Option.bind_some] at clear
    simp [Database.claimable, clear, wallet] at claimable
  · exact claims

theorem unattached {chainId : Nat} (invariant : WatchInvariant True events s)
    (taken : s.step options leaseSeconds event = some t) (wallet : s.world.db.walletDeployedOf intentId = true)
    (clear : s.world.db.bundleOf intentId chainId = none) : t.world.db.bundleOf intentId chainId = none := by
  rcases step_cases taken with ⟨op, reply, next, rfl, running, rfl⟩ | ⟨same, _⟩
  · obtain ⟨due, _⟩ := invariant.safe _ running _ (.refl _) invariant.holds
    change (op.perform reply s.world).2.db.bundleOf intentId chainId = none
    cases op with
    | query statement =>
      rcases query_cases statement reply s.world with same | ⟨value, db, ran, made⟩
      · rwa [same]
      · rw [made]
        change db.bundleOf intentId chainId = none
        cases statement with
        | updateDeploy owner chain patch cause =>
          have updated := Query.run_updateDeploy ran
          rw [Database.bundleOf_updateDeploy updated]
          split
          · next here =>
            cases here
            rw [clear, Option.or_none]
            by_contra written
            obtain ⟨bundleUuid, writes⟩ := Option.ne_none_iff_exists'.mp written
            exact written (((due.1.bundle bundleUuid writes).2 trivial).refuses wallet clear updated)
          · exact clear
        | _ => rwa [Query.run_bundles rfl ran]
    | external request =>
      rwa [show (Op.perform (.external request) reply s.world).2.db = s.world.db from External.perform_db reply s.world]
    | mark point => exact clear
  · rwa [same.bundles]

/-- A step that no such retry provokes. -/
def Unprovoked (options : LaneOptions) (leaseSeconds : Nat) (s : System) (event : Event) (t : System) : Prop :=
  s.step options leaseSeconds event = some t ∧ event.unprovoked s

/-- In every run a row that is over reserves nothing, or what it did when it failed with a bundle, and a row is
charged at most once. In every run without such a retry, once a wallet deployed an intent no row of it
without a bundle is claimed or given one. -/
theorem wallet_excludes_sponsor (initial : start.Initial) :
    (∀ {events s}, Run (fun s event t => s.step options leaseSeconds event = some t) start events s →
      (∀ key row, s.world.db.rows.get key = some row → Reconciled row) ∧
      (∀ {event t key row row'}, s.step options leaseSeconds event = some t → s.world.db.rows.get key = some row →
        t.world.db.rows.get key = some row' →
        (row'.status = .failed → row'.bundleUuid.isSome = true → row'.reservedWei = row.reservedWei) ∧
        (row'.spentWei ≠ row.spentWei → event.charges = some key)) ∧
      (events.filterMap Event.charges).Nodup) ∧
    (∀ {events s later t event u intentId chainId}, Run (Unprovoked options leaseSeconds) start events s →
      s.world.db.walletDeployedOf intentId = true → Run (Unprovoked options leaseSeconds) s later t →
      Unprovoked options leaseSeconds t event u → t.world.db.bundleOf intentId chainId = none →
      u.world.db.bundleOf intentId chainId = none ∧ ¬ event.claims t intentId chainId) := by
  refine ⟨?_, ?_⟩
  · intro events s run
    refine ⟨run_reconciled initial run, ?_, ?_⟩
    · intro event t key row row' taken before after
      refine ⟨fun failed bundled => ?_, fun changed => ?_⟩
      · rcases (step_changes taken).rows key row' after with ⟨row₀, stood, change⟩ | fresh
        · cases before.symm.trans stood
          exact change.kept failed bundled
        · cases before.symm.trans fresh.missing
      · by_contra other
        exact changed (step_spent taken before after other)
    · have free : Run (Taken False options leaseSeconds) start events s := run.mono fun taken => ⟨taken, False.elim⟩
      exact (run_watch initial free).once
  · intro events s later t event u intentId chainId run wallet onwards taken clear
    have deployed : t.world.db.walletDeployedOf intentId = true :=
      onwards.state_invariant (P := fun t => t.world.db.walletDeployedOf intentId = true) wallet
        fun wallet taken => step_wallet taken.1 wallet
    have whole : Run (Taken True options leaseSeconds) start (events ++ later) t :=
      (run.append onwards).mono fun taken => ⟨taken.1, fun _ => taken.2⟩
    exact ⟨unattached (run_watch initial whole) taken.1 deployed clear, unclaimed deployed clear⟩

/-- A claim runs its lane up to the bundle, and then a wallet deploys the other chain. -/
def walletStages : List Stage :=
  [.event (.queueDeploys "intent" [10] "browser" 5 false), .event .start, .drive sampleOutside 19,
    .event (.recordDeployment "intent" 8453 ⟨"7", "wallet", false⟩)]

theorem walletStages_unprovoked : ∀ stage ∈ walletStages, stage.all (fun event => ∀ s, event.unprovoked s) := by
  intro stage member
  simp only [walletStages, List.mem_cons, List.not_mem_nil, or_false] at member
  rcases member with rfl | rfl | rfl | rfl
  · intro s _ retry
    cases retry
  · exact fun _ => trivial
  · exact fun _ _ _ _ => trivial
  · exact fun _ => trivial

/-- The lane's bundle is refused from then on. -/
theorem wallet_excludes_sponsor_sample : ∃ events s, Run (Unprovoked sampleLane 1800) sampleStart events s ∧
    s.world.db.walletDeployedOf "intent" = true ∧ s.world.db.bundleOf "intent" 10 = none ∧
    ∀ event t, Unprovoked sampleLane 1800 s event t → t.world.db.bundleOf "intent" 10 = none := by
  have played : (sampleStart.play sampleLane 1800 walletStages).map (fun s =>
      (s.world.db.walletDeployedOf "intent", s.world.db.bundleOf "intent" 10)) = some (true, none) := by decide +kernel
  obtain ⟨s, ended, facts⟩ := Option.map_eq_some_iff.mp played
  obtain ⟨wallet, clear⟩ := Prod.mk.inj facts
  obtain ⟨events, run, quiet⟩ := play_all walletStages_unprovoked ended
  have unprovoked : Run (Unprovoked sampleLane 1800) sampleStart events s :=
    run.mono_events quiet fun taken quiet => ⟨taken.1, quiet _⟩
  refine ⟨events, s, unprovoked, wallet, clear, fun event t taken => ?_⟩
  exact ((wallet_excludes_sponsor sampleStart_initial).2 unprovoked wallet .nil taken clear).1

/-- A request that was under way when the wallet deployed retries the row, and the lane attaches its bundle. -/
theorem retried_row_attached : ∃ events s later t, Run (fun s event t => s.step sampleLane 1800 event = some t)
      sampleStart events s ∧ s.world.db.walletDeployedOf "intent" = true ∧ s.world.db.bundleOf "intent" 10 = none ∧
    Run (fun s event t => s.step sampleLane 1800 event = some t) s later t ∧
    t.world.db.bundleOf "intent" 10 = some sampleUuid := by
  have played : (sampleStart.play sampleLane 1800 walletStages).map (fun s =>
      (s.world.db.walletDeployedOf "intent", s.world.db.bundleOf "intent" 10, (s.play sampleLane 1800
        [.event (.queueDeploys "intent" [10] "browser" 5 true), .drive sampleOutside 1]).map (fun t =>
          t.world.db.bundleOf "intent" 10))) = some (true, none, some (some sampleUuid)) := by decide +kernel
  obtain ⟨s, ended, facts⟩ := Option.map_eq_some_iff.mp played
  obtain ⟨wallet, facts⟩ := Prod.mk.inj facts
  obtain ⟨clear, facts⟩ := Prod.mk.inj facts
  obtain ⟨t, went, attached⟩ := Option.map_eq_some_iff.mp facts
  obtain ⟨events, run⟩ := play_run ended
  obtain ⟨later, onwards⟩ := play_run went
  exact ⟨events, s, later, t, run.mono fun taken => taken.1, wallet, clear, onwards.mono fun taken => taken.1, attached⟩

end JBCenter.Sponsor
