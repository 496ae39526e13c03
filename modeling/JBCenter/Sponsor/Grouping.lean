import JBCenter.Sponsor.Groups

/-! A pass of the worker and the rows it claims. Between two claims the open rows of every intent agree; a claim puts
one bundle on all of its rows, and resumes the bundle all of them carry. -/
namespace JBCenter.Sponsor
open JBCenter.Action (safe_bind safe_imp safe_mono safe_read safe_request)

/-- The updates that put a bundle on the rows before it is prepaid. -/
def Op.records : Op → Bool
  | .query (.updateDeploy _ _ patch _) => patch.status == some .queued && patch.bundleUuid.isSome
  | _ => false

/-- A bundle is resumed for rows that carry it. -/
def ResumeDue : Op → Database → Prop
  | .mark (.resume view chainIds bundleUuid), db =>
    ∀ chainId ∈ chainIds, db.bundleOf view.intentId chainId = some bundleUuid
  | _, _ => True

/-- A worker whose recordings of a bundle succeed. While it is not at one, the open rows of every intent agree. -/
def grouping : Setting Op Failure Op.Result World where
  Reply := Op.Reply
  perform := Op.perform
  rely _ a b := Aside a.db b.db
  holds w := ∀ intentId chainId, w.db.bundleOf intentId chainId ≠ some ""
  admits op reply w := op.records = true → (op.perform reply w).1.isOk = true
  due op w := (op.records = true ∨ ∀ intentId, w.db.Alike intentId) ∧ ResumeDue op w.db

/-- The rows of a claim, with what is known of the stamp they share, and everything beside the claim. -/
def Stands (known : Stamp → Prop) (intentId : String) (chainIds span : List Nat) (rest : List (String × List Nat))
    (db : Database) : Prop :=
  (∃ stamp, known stamp ∧ Group intentId chainIds span (fun _ => (· = stamp)) db) ∧ Apart intentId rest db

/-- The rows of a claim carry its bundle, or none as long as it has none. -/
def Claimed (intentId : String) (chainIds : List Nat) (bundle : Option String) : List (String × List Nat) → Database → Prop :=
  Stands (·.1 = bundle) intentId chainIds chainIds

/-- The rows of a claim that is past its bundle. -/
def Loose (intentId : String) (chainIds : List Nat) : List (String × List Nat) → Database → Prop :=
  Stands (fun _ => True) intentId [] chainIds

/-- A claim that is over. -/
def Ended (intentId : String) (rest : List (String × List Nat)) (db : Database) : Prop :=
  db.Alike intentId ∧ Apart intentId rest db

/-- What may be known between two operations: it survives what happens beside the worker, and the rows agree. -/
structure Calm (P : Database → Prop) : Prop where
  stable : ∀ {a b}, Aside a b → P a → P b
  alike : ∀ {db}, P db → ∀ intentId, db.Alike intentId

variable {P Q : Database → Prop} {intentId : String} {chainIds span : List Nat} {rest : List (String × List Nat)}
  {bundle : Option String} {patch : DeployPatch} {chainId : Nat} {a b db : Database} {l : Locals} {w : World}
  {known : Stamp → Prop}

theorem Ended.all (ended : Ended intentId rest db) (other : String) : db.Alike other := by
  by_cases same : other = intentId
  · exact same ▸ ended.1
  · exact ended.2.alike other same

theorem Stands.ended (stands : Stands known intentId chainIds span rest db) : Ended intentId rest db :=
  let ⟨⟨_, _, group⟩, apart⟩ := stands
  ⟨group.alike, apart⟩

theorem calm_ended : Calm (Ended intentId rest) where
  stable aside ended := ⟨aside.alike ended.1, ended.2.aside aside⟩
  alike := Ended.all

theorem calm_stands : Calm (Stands known intentId chainIds span rest) where
  stable aside stands := ⟨stands.1.imp fun _ => And.imp_right aside.group, stands.2.aside aside⟩
  alike stands := stands.ended.all

theorem calm_alike : Calm (fun db => ∀ intentId, db.Alike intentId) where
  stable aside alike intentId := aside.alike (alike intentId)
  alike := id

theorem Claimed.loose (claimed : Claimed intentId chainIds bundle rest db) : Loose intentId chainIds rest db :=
  let ⟨⟨stamp, _, group⟩, apart⟩ := claimed
  ⟨⟨stamp, trivial, group.mono (fun _ member => absurd member List.not_mem_nil) fun _ _ _ => id⟩, apart⟩

theorem idle_db {op : Op} (idle : op.idle = true) (reply : op.Reply) (w : World) : (op.perform reply w).2.db = w.db := by
  cases op with
  | query statement =>
    rcases query_cases statement reply w with same | ⟨value, next, ran, made⟩
    · rw [same]
    · rw [made]
      cases statement with
      | selectIntent | selectDeployments | selectDeploys => cases ran; rfl
      | _ => cases idle
  | external request => exact External.perform_db reply w
  | mark point => rfl

/-- One operation that is no recording, from what is known before it to what is known after it. -/
theorem safe_asked {op : Op} (ok : op.Result → World → Prop) (err : World → Prop) (calm : Calm P)
    (resume : ∀ {db}, P db → ResumeDue op db)
    (good : ∀ {reply w value w'}, (∀ intentId chainId, w.db.bundleOf intentId chainId ≠ some "") → P w.db →
      op.perform reply w = (.ok value, w') → ok value w')
    (bad : ∀ {reply w}, P w.db → err (op.perform reply w).2) (now : P w.db) :
    (Action.request op : Act op.Result).safe grouping l (fun value l' w' => l' = l ∧ ok value w')
      (fun _ l' w' => l' = l ∧ err w') w := by
  refine safe_request (fun w => P w.db) now (fun _ _ aside => calm.stable aside) fun w known holds =>
    ⟨⟨.inr (calm.alike known), resume known⟩, fun reply _ => ⟨fun _ w' performed => ⟨rfl, good holds known performed⟩,
      fun _ w' performed => ⟨rfl, ?_⟩⟩⟩
  have moved : (op.perform reply w).2 = w' := congrArg Prod.snd performed
  exact moved ▸ bad known

theorem safe_step {op : Op} (calm : Calm P) (resume : ∀ {db}, P db → ResumeDue op db)
    (after : ∀ {reply w}, P w.db → Q (op.perform reply w).2.db) (now : P w.db) :
    (Action.request op : Act op.Result).safe grouping l (fun _ l' w' => l' = l ∧ Q w'.db)
      (fun _ l' w' => l' = l ∧ Q w'.db) w := by
  refine safe_asked (fun _ w => Q w.db) (fun w => Q w.db) calm resume (fun {reply w _ w'} _ known performed => ?_) after now
  have moved : (op.perform reply w).2 = w' := congrArg Prod.snd performed
  exact moved ▸ after known

theorem safe_idle {op : Op} (calm : Calm P) (idle : op.idle = true) : Survives grouping (fun w => P w.db) op := by
  refine safe_step calm (fun _ => ?_) (fun known => (idle_db idle _ _).symm ▸ known)
  cases op with
  | mark point =>
    cases point with
    | resume => cases idle
    | _ => trivial
  | _ => trivial

variable {claimed : List Nat} {cause : Option Failure}

theorem safe_patch (calm : Calm P) (patches : ∀ {a b}, Patches intentId chainId patch a b → P a → P b) :
    Survives grouping (fun w => P w.db) (.query (.updateDeploy intentId chainId patch cause)) := by
  refine safe_step calm (fun _ => trivial) (fun {reply w} known => ?_)
  rcases update_patches cause reply w with kept | patched
  · exact kept.symm ▸ known
  · exact patches patched known

theorem ended_patched (mild : patch.mild = true) (patches : Patches intentId chainId patch a b)
    (ended : Ended intentId rest a) : Ended intentId rest b :=
  ⟨(patches.fades mild).alike ended.1, ended.2.elsewhere patches.elsewhere⟩

theorem loose_released (loose : Loose intentId chainIds rest db) :
    Loose intentId chainIds rest (db.releaseClaim intentId chainIds) := by
  obtain ⟨⟨stamp, _, group⟩, apart⟩ := loose
  have elsewhere : Elsewhere intentId db (db.releaseClaim intentId chainIds) := by
    intro other chainId differs
    simp [Database.releaseClaim, OrderedMap.get_mapValues, differs]
  refine ⟨⟨(stamp.1, some (db.now + 300000), stamp.2.2 - 1), trivial, known_mapValues group.known,
    fun _ member => absurd member List.not_mem_nil, fun chainId row' found isOpen => ?_⟩, apart.elsewhere elsewhere⟩
  simp only [Database.releaseClaim, OrderedMap.get_mapValues] at found
  obtain ⟨row, before, made⟩ := Option.map_eq_some_iff.mp found
  have wasOpen : row.isOpen = true := by
    split at made
    · exact (congrArg IntentDeployRow.isOpen made).trans isOpen
    · rwa [made]
  obtain ⟨inside, agrees⟩ := group.within chainId row before wasOpen
  rw [if_pos (by simp [inside])] at made
  subst made agrees
  exact ⟨inside, rfl⟩

/-- A claim past its bundle keeps what fading rows, and giving back its rows, keep. -/
theorem loose_eased : Eased grouping intentId chainIds (fun w => Loose intentId chainIds rest w.db) := by
  intro op easy l w now
  cases op with
  | query statement =>
    cases statement with
    | updateDeploy owner chainId patch cause =>
      obtain ⟨rfl, mild⟩ := easy
      exact safe_patch calm_stands (fun patches loose => ⟨loose.1.imp fun _ => And.imp_right (patches.fades mild).group,
        loose.2.elsewhere patches.elsewhere⟩) now
    | recordDeployment owner chainId value =>
      refine safe_step calm_stands (fun _ => trivial) (fun {reply w} known => ?_) now
      rcases query_cases (.recordDeployment owner chainId value) reply w with same | ⟨_, next, ran, made⟩
      · rwa [same]
      · rw [made]
        exact calm_stands.stable (aside_recordDeployment (Query.run_recordDeployment ran)) known
    | releaseClaim owner chains =>
      obtain ⟨rfl, rfl⟩ := easy
      refine safe_step calm_stands (fun _ => trivial) (fun {reply w} known => ?_) now
      rcases query_cases (.releaseClaim owner chains) reply w with same | ⟨_, next, ran, made⟩
      · rwa [same]
      · rw [made]
        cases ran
        exact loose_released known
    | _ => exact safe_idle calm_stands easy now
  | _ => exact safe_idle calm_stands easy now

/-- The rows of a lane call: of one bundle until its launches are settled. -/
def groupPhase (intentId : String) (chainIds : List Nat) (rest : List (String × List Nat)) : Phase → Database → Prop
  | .building | .quoted _ => Claimed intentId chainIds none rest
  | .recorded bundleUuid | .polling bundleUuid => Claimed intentId chainIds (some bundleUuid) rest
  | _ => Loose intentId chainIds rest

theorem calm_phase {p : Phase} : Calm (groupPhase intentId chainIds rest p) := by
  cases p <;> exact calm_stands

theorem phase_loose {p : Phase} (now : groupPhase intentId chainIds rest p db) : Loose intentId chainIds rest db := by
  cases p with
  | settling | closing => exact now
  | _ => exact Claimed.loose now

theorem claimed_patched (member : chainId ∈ chainIds) (written : patch.bundleUuid = none ∨ patch.bundleUuid = bundle)
    (opens : patch.status = some .queued ∨ patch.status = some .sent) (patches : Patches intentId chainId patch a b)
    (claimed : Claimed intentId chainIds bundle rest a) : Claimed intentId chainIds bundle rest b := by
  obtain ⟨⟨stamp, rfl, group⟩, apart⟩ := claimed
  refine ⟨⟨stamp, rfl, ?_⟩, apart.elsewhere patches.elsewhere⟩
  obtain ⟨row, found, rfl⟩ := patches
  obtain ⟨held, present, _, rfl⟩ := group.rows chainId member
  cases found.symm.trans present
  refine group.set member ?_ ?_ fun _ _ _ => id
  · rcases opens with opens | opens <;> simp [IntentDeployRow.isOpen, IntentDeployRow.patched, opens]
  · rcases written with written | written <;> simp [IntentDeployRow.stamp, IntentDeployRow.patched, written]

/-- The stamps of a claim while its bundle is being recorded: `left` is still to be written. -/
def Recorded (bundleUuid : String) (lease : Option Nat × Nat) (left : List Nat) (chainId : Nat) (stamp : Stamp) : Prop :=
  stamp = (some bundleUuid, lease) ∨ chainId ∈ left ∧ stamp = (none, lease)

theorem recorded_next {bundleUuid : String} {lease : Option Nat × Nat} {left : List Nat}
    {fate : Fate} {w' : World} {value : Unit} (written : patch.bundleUuid = some bundleUuid) (opens : patch.status = some .queued)
    (member : chainId ∈ chainIds) (group : Group intentId chainIds chainIds (Recorded bundleUuid lease (chainId :: left)) w.db)
    (performed : Op.perform (.query (.updateDeploy intentId chainId patch cause)) fate w = (.ok value, w')) :
    Patches intentId chainId patch w.db w'.db ∧ Group intentId chainIds chainIds (Recorded bundleUuid lease left) w'.db := by
  obtain ⟨next, ran, rfl⟩ := query_ok performed
  rcases Database.updateDeploy_ok (Query.run_updateDeploy ran) with ⟨_, clear, _⟩ | ⟨row, found, _, rfl⟩
  · rw [written] at clear
    cases clear
  · obtain ⟨held, present, _, fits⟩ := group.rows chainId member
    cases found.symm.trans present
    have kept : row.stamp.2 = lease := by rcases fits with fits | ⟨_, fits⟩ <;> rw [fits]
    refine ⟨⟨row, found, rfl⟩, group.set member (by simp [IntentDeployRow.isOpen, IntentDeployRow.patched, opens]) (.inl ?_)
      fun other stamp differs fits => ?_⟩
    · rw [← kept]
      simp [IntentDeployRow.stamp, IntentDeployRow.patched, written]
    · exact fits.imp_right (And.imp_left fun listed => (List.mem_cons.mp listed).resolve_left differs)

variable {intent : Intent} {options : LaneOptions}

/-- Recording the bundle puts it on every row of the claim. -/
theorem group_bundle {bundleUuid : String} (now : Claimed intent.id chainIds none rest w.db) :
    (Report.bundle intent chainIds bundleUuid).safe grouping l (fun _ l' w' => l'.done = l.done ∧ l'.settled = l.settled ∧
      Claimed intent.id chainIds (some bundleUuid) rest w'.db) (fun _ _ w' => Loose intent.id chainIds rest w'.db) w := by
  obtain ⟨⟨⟨_, lease⟩, rfl, group⟩, apart⟩ := now
  let known (left : List Nat) (db : Database) : Prop :=
    Group intent.id chainIds chainIds (Recorded bundleUuid lease left) db ∧ Apart intent.id rest db
  refine safe_bind (Action.safe_modify (safe_imp (Action.safe_each (fun left l' w =>
    (l'.done = l.done ∧ l'.settled = l.settled) ∧ (∀ chainId ∈ left, chainId ∈ chainIds) ∧ known left w.db) ?_ ?_) ?_))
  · refine ⟨⟨rfl, rfl⟩, fun _ => id, group.mono (fun _ => id) fun chainId member stamp fits => .inr ⟨?_, fits⟩, apart⟩
    exact (List.mem_append.mp member).elim id id
  · rintro chainId left l' w ⟨same, within, now⟩
    refine safe_bind (safe_read ?_)
    refine safe_request (fun w => known (chainId :: left) w.db) now (fun _ _ aside now =>
      ⟨aside.group now.1, now.2.aside aside⟩) fun w now _ =>
      ⟨⟨.inl rfl, trivial⟩, fun reply recorded => ⟨fun value w' performed => ?_, fun error w' performed => ?_⟩⟩
    · obtain ⟨patches, group⟩ := recorded_next rfl rfl (within chainId List.mem_cons_self) now.1 performed
      exact ⟨same, fun other member => within other (List.mem_cons_of_mem _ member), group,
        now.2.elsewhere patches.elsewhere⟩
    · have answered := recorded rfl
      have failed : (grouping.perform _ reply w).1 = .error error := congrArg Prod.fst performed
      rw [show (Op.perform _ _ w).1 = .error error from failed] at answered
      cases answered
  · rintro _ l' w ⟨same, _, group, apart⟩
    refine ⟨same.1, same.2, ⟨(some bundleUuid, lease), rfl, group.mono (fun _ => id) fun chainId _ stamp fits => ?_⟩, apart⟩
    exact fits.resolve_right fun ⟨left, _⟩ => List.not_mem_nil left

theorem groupRules (nonempty : chainIds ≠ []) : DeployRules grouping (report intent chainIds) chainIds intent.id
    (fun p _ w => groupPhase intent.id chainIds rest p w.db) (fun _ _ w => Loose intent.id chainIds rest w.db) where
  toReportRules := Eased.reportRules phase_loose id (fun _ idle _ _ now => safe_idle calm_phase idle now)
    loose_eased loose_eased (fun _ => phase_loose)
  create now := safe_mono (safe_step calm_stands (fun _ => trivial)
      (fun known => (External.perform_db _ _).symm ▸ known) now) (fun _ _ _ ⟨same, later⟩ => ⟨same, later, later⟩)
    (fun _ _ _ post => Claimed.loose post.2)
  bundle _ now := group_bundle now
  pay now := safe_mono (safe_step calm_stands (fun _ => trivial)
      (fun known => (External.perform_db _ _).symm ▸ known) now) (fun _ _ _ => id)
    (fun _ _ _ post => Claimed.loose post.2)
  paid now := by
    obtain ⟨first, others, rfl⟩ := List.exists_cons_of_ne_nil nonempty
    exact safe_bind (safe_read (safe_mono (safe_patch calm_stands
      (claimed_patched List.mem_cons_self (.inl rfl) (.inl rfl)) now) (fun _ _ _ => id)
      (fun _ _ _ post => Claimed.loose post.2)))
  sent member now := safe_bind (safe_read (safe_mono (safe_patch calm_stands
    (claimed_patched member (.inr rfl) (.inr rfl)) now) (fun _ _ _ => id) (fun _ _ _ post => Claimed.loose post.2)))
  polled now := Claimed.loose now

/-- The lane is called for the bundle that every row of the claim carries. -/
theorem group_callLane {view : ClaimView} (owner : view.intentId = intent.id) (nonempty : chainIds ≠ []) (fresh : l.settled = [])
    (now : Claimed intent.id chainIds bundle rest w.db) : (callLane options view intent chainIds bundle).safe grouping l
      (fun _ _ w => Loose intent.id chainIds rest w.db) (fun _ _ w => Loose intent.id chainIds rest w.db) w := by
  have marked : ∀ {point : Mark}, (∀ {db}, Claimed intent.id chainIds bundle rest db → ResumeDue (.mark point) db) →
      (mark point).safe grouping l (fun _ l' w' => l' = l ∧ Claimed intent.id chainIds bundle rest w'.db)
        (fun _ _ w' => Loose intent.id chainIds rest w'.db) w := fun resume =>
    safe_mono (safe_step calm_stands resume (fun known => known) now) (fun _ _ _ => id)
      (fun _ _ _ post => Claimed.loose post.2)
  unfold callLane
  cases bundle with
  | some bundleUuid =>
    refine safe_bind (safe_imp (marked fun {db} known => ?_) ?_)
    · intro chainId member
      obtain ⟨⟨stamp, same, group⟩, _⟩ := known
      obtain ⟨row, found, _, rfl⟩ := group.rows chainId member
      rw [owner, Database.bundleOf, found]
      exact same
    · rintro _ l' w ⟨rfl, now⟩
      refine safe_imp ((groupRules nonempty).settleRules.settle now) ?_
      rintro _ l' w ⟨_, p, now⟩
      exact phase_loose now
  | none =>
    refine safe_bind (safe_imp (marked fun _ => trivial) ?_)
    rintro _ l' w ⟨rfl, now⟩
    refine safe_imp ((groupRules nonempty).deploy rfl (by simp [fresh]) now) ?_
    rintro _ l' w ⟨_, p, now⟩
    exact phase_loose now

/-- The rows of a claim that closes `left` before its lane call. -/
def Closing (intentId : String) (chainIds : List Nat) (bundle : Option String) (rest : List (String × List Nat))
    (left : List Nat) (db : Database) : Prop :=
  (∀ chainId ∈ left, chainId ∉ chainIds) ∧ Stands (·.1 = bundle) intentId chainIds (chainIds ++ left) rest db

theorem calm_closing {left : List Nat} : Calm (Closing intentId chainIds bundle rest left) where
  stable aside := And.imp_right (calm_stands.stable aside)
  alike closing := closing.2.ended.all

theorem closing_next {left : List Nat} {fate : Fate} {w' : World} {value : Unit}
    (failed : patch.status = some .failed) (closing : Closing intentId chainIds bundle rest (chainId :: left) w.db)
    (performed : Op.perform (.query (.updateDeploy intentId chainId patch cause)) fate w = (.ok value, w')) :
    Closing intentId chainIds bundle rest left w'.db := by
  obtain ⟨next, ran, rfl⟩ := query_ok performed
  obtain ⟨differ, ⟨stamp, same, group⟩, apart⟩ := closing
  have within : ∀ {other}, other ≠ chainId → other ∈ chainIds ++ chainId :: left → other ∈ chainIds ++ left := by
    intro other differs member
    simpa [differs] using member
  have later : ∀ other ∈ left, other ∉ chainIds := fun other member => differ other (List.mem_cons_of_mem _ member)
  rcases Database.updateDeploy_ok (Query.run_updateDeploy ran) with ⟨missing, _, rfl⟩ | ⟨row, found, _, rfl⟩
  · refine ⟨later, ⟨stamp, same, group.known, group.rows, fun other row' found isOpen => ?_⟩, apart⟩
    refine (group.within other row' found isOpen).imp_left (within ?_)
    rintro rfl
    rw [missing] at found
    cases found
  · refine ⟨later, ⟨stamp, same, ⟨chainId, _, OrderedMap.get_set_self ..⟩, fun other member => ?_,
      fun other row' present isOpen => ?_⟩, apart.elsewhere elsewhere_set⟩
    · have differs : other ≠ chainId := fun same => differ chainId List.mem_cons_self (same ▸ member)
      rw [OrderedMap.get_set_ne _ _ (by simpa using differs)]
      exact group.rows other member
    · rw [OrderedMap.get_set] at present
      split at present
      · cases present
        exact absurd isOpen (IntentDeployRow.failed_closed (by simp [IntentDeployRow.patched, failed]))
      · next differs => exact (group.within other row' present isOpen).imp_left (within (by simpa using differs))

/-- The bundle a claim carries is the bundle of all its rows. -/
theorem carriedBundle_stamp {stamp : Stamp} (seen : Seen intent w)
    (holds : ∀ intentId chainId, w.db.bundleOf intentId chainId ≠ some "") (nonempty : claimed ≠ [])
    (group : Group intent.id claimed claimed (fun _ => (· = stamp)) w.db) : stamp.1 = carriedBundle intent claimed := by
  have bundles : ∀ chainId ∈ claimed, w.db.bundleOf intent.id chainId = stamp.1 := by
    intro chainId member
    obtain ⟨row, found, _, rfl⟩ := group.rows chainId member
    rw [Database.bundleOf, found]
    rfl
  cases carries : carriedBundle intent claimed with
  | some bundleUuid =>
    obtain ⟨first, member, carried⟩ := carriedBundle_some seen carries
    exact (bundles first member).symm.trans carried
  | none =>
    obtain ⟨first, others, rfl⟩ := List.exists_cons_of_ne_nil nonempty
    exact (bundles first List.mem_cons_self).symm.trans (carriedBundle_none seen holds carries first List.mem_cons_self)

theorem group_runIntent (now : Claimed intent.id claimed (carriedBundle intent claimed) rest w.db) :
    (runIntent options intent claimed).safe grouping l (fun _ _ w => Ended intent.id rest w.db)
      (fun _ _ w => Ended intent.id rest w.db) w := by
  refine safe_runIntent (fun left w => Closing intent.id
      (claimed.filter (fun chainId => !(intent.deployments.map Prod.fst).contains chainId)) (carriedBundle intent claimed)
      rest left w.db) (fun w => Loose intent.id _ rest w.db) loose_eased (fun closing => closing.2.ended) ?_ ?_ ?_ ?_ ?_
  · exact Stands.ended
  · intro chainId patch l w mild ended
    exact safe_bind (safe_read (safe_mono (safe_patch calm_ended (ended_patched mild) ended)
      (fun _ _ _ => And.right) (fun _ _ _ => And.right)))
  · intro chainId left patch l w mild failed closing
    refine safe_bind (safe_read (safe_mono (safe_asked _ (fun w => Ended intent.id rest w.db)
      calm_closing (fun _ => trivial) (fun _ => closing_next failed) (fun {reply w} closing => ?_) closing) (fun _ _ _ => id)
      (fun _ _ _ => And.right)))
    rcases update_patches _ reply w with same | patches
    · exact same.symm ▸ closing.2.ended
    · exact ended_patched mild patches closing.2.ended
  · rintro recorded l w rfl ⟨_, stands⟩ fresh left
    rw [List.append_nil] at stands
    exact group_callLane rfl left fresh stands
  · obtain ⟨⟨stamp, same, group⟩, apart⟩ := now
    refine ⟨fun chainId member inside => ?_, ⟨stamp, same, group.known, fun chainId member => ?_,
      fun chainId row found isOpen => ?_⟩, apart⟩
    · have recorded := (List.mem_filter.mp member).2
      simp only [List.mem_filter, recorded, Bool.not_true, Bool.false_eq_true, and_false] at inside
    · exact group.rows chainId (List.mem_filter.mp member).1
    · refine (group.within chainId row found isOpen).imp_left fun member => ?_
      cases recorded : (intent.deployments.map Prod.fst).contains chainId with
      | true => exact List.mem_append_right _ (List.mem_filter.mpr ⟨member, recorded⟩)
      | false => exact List.mem_append_left _ (List.mem_filter.mpr ⟨member, by rw [recorded]; rfl⟩)

theorem group_runClaim (nonempty : claimed ≠ [])
    (now : Stands (fun _ => True) intentId claimed claimed rest w.db) : (runClaim options intentId claimed).safe grouping l
      (fun _ _ w => Ended intentId rest w.db) (fun _ _ w => Ended intentId rest w.db) w := by
  refine safe_runClaim (fun w => Stands (fun _ => True) intentId claimed claimed rest w.db) (fun _ => safe_idle calm_stands)
    Stands.ended (fun {l w} now => ?_) now
  refine safe_mono (safe_asked _ (fun w => Ended intentId rest w.db) calm_stands (fun _ => trivial)
    (fun {reply w deploys w'} holds now performed => ?_) (fun {reply w} now => ?_) now) (fun _ _ _ => And.right)
    (fun _ _ _ => And.right)
  · obtain ⟨next, ran, rfl⟩ := query_ok performed
    cases ran
    refine ⟨now.ended, fun envelope deployments l => ?_⟩
    obtain ⟨⟨stamp, _, group⟩, apart⟩ := now
    have seen : Seen ⟨intentId, envelope, deployments, _⟩ w := seen_selectDeploys
    exact group_runIntent ⟨⟨stamp, carriedBundle_stamp seen holds nonempty group, group⟩, apart⟩
  · have same : (Op.perform (.query (.selectDeploys intentId)) reply w).2.db = w.db := idle_db rfl reply w
    exact same.symm ▸ now.ended

/-- The claims of a pass that are still to be run. -/
def Planned (claims : List (String × List Nat)) (db : Database) : Prop :=
  (claims.map Prod.fst).Nodup ∧ (∀ intentId, db.Alike intentId) ∧ ∀ claim ∈ claims, Waits claim db

theorem calm_planned {claims : List (String × List Nat)} : Calm (Planned claims) where
  stable aside planned := ⟨planned.1, fun intentId => aside.alike (planned.2.1 intentId), fun claim member =>
    (planned.2.2 claim member).aside aside⟩
  alike planned := planned.2.1

theorem retired_fades {statement : Query} {next : Database} {value : statement.Result}
    (retires : statement ∈ [Query.retireExhausted, .retireWaiting, .retireUnpaidForWallet])
    (ran : statement.run db = .ok (value, next)) : Fades intentId db next := by
  simp only [List.mem_cons, List.not_mem_nil, or_false] at retires
  rcases retires with rfl | rfl | rfl <;>
  · cases ran
    exact fades_retire

/-- A pass leaves the open rows of every intent alike. -/
theorem group_runOnce {leaseSeconds : Nat} (alike : ∀ intentId, w.db.Alike intentId) :
    (runOnce options leaseSeconds).safe grouping l (fun _ _ w => ∀ intentId, w.db.Alike intentId)
      (fun _ _ w => ∀ intentId, w.db.Alike intentId) w := by
  refine safe_runOnce (fun w => ∀ intentId, w.db.Alike intentId) (fun claims w => Planned claims w.db)
    (fun statement retires {l w} alike => ?_) (fun {l w} alike => ?_) (fun {intentId claimed rest l w} planned => ?_)
    (fun _ => safe_idle calm_planned) (fun planned => planned.2.1) alike
  · refine safe_mono (safe_step (Q := fun db => ∀ intentId, db.Alike intentId) calm_alike (fun _ => trivial)
      (fun {reply w} alike intentId => ?_) alike) (fun _ _ _ => And.right) (fun _ _ _ => And.right)
    rcases query_cases statement reply w with same | ⟨value, next, ran, made⟩
    · rw [same]
      exact alike intentId
    · rw [made]
      exact (retired_fades retires ran).alike (alike intentId)
  · refine safe_mono (safe_asked _ (fun w => ∀ intentId, w.db.Alike intentId) calm_alike (fun _ => trivial)
      (fun {reply w claims w'} _ alike performed => ?_) (fun {reply w} alike => ?_) alike) (fun _ _ _ => And.right)
      (fun _ _ _ => And.right)
    · obtain ⟨next, ran, rfl⟩ := query_ok performed
      cases ran
      exact ⟨leased_nodup _ _, leased_alike alike, leased_waits alike⟩
    · rcases query_cases (.leaseQueued leaseSeconds 5) reply w with same | ⟨value, next, ran, made⟩
      · rw [same]
        exact alike
      · rw [made]
        cases ran
        exact leased_alike alike
  · obtain ⟨distinct, alike, waits⟩ := planned
    simp only [List.map_cons, List.nodup_cons] at distinct
    have done : ∀ w : World, Ended intentId rest w.db → Planned rest w.db := fun w ended =>
      ⟨distinct.2, ended.all, fun claim member => (ended.2.waits claim member).2⟩
    obtain ⟨nonempty, stamp, group⟩ := waits _ List.mem_cons_self
    refine safe_mono (group_runClaim nonempty ⟨⟨stamp, trivial, group⟩, fun other _ => alike other,
      fun claim member => ⟨fun same => ?_, waits claim (List.mem_cons_of_mem _ member)⟩⟩) (fun _ _ => done) (fun _ _ => done)
    exact distinct.1 (List.mem_map.mpr ⟨claim, member, same⟩)

end JBCenter.Sponsor
