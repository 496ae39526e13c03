import JBCenter.Sponsor.PaidClaims

/-! A whole pass and the paid rows. A claim that is over leaves each of its paid rows with an outcome or with
an attempt to spare, so between two passes every open paid row can be claimed again. -/
namespace JBCenter.Sponsor
open JBCenter.Action (safe_bind safe_each safe_imp safe_modify safe_mono safe_pure safe_read safe_request)
open List (mem_cons mem_cons_of_mem mem_cons_self mem_filter mem_map)

/-- Claims of known intents, with every paid row that is out of attempts in one of them. -/
def Pending (claims : List (String × List Nat)) (w : World) : Prop :=
  (∀ claim ∈ claims, w.db.intents.has claim.1 = true) ∧ Waiting w claims

theorem Pending.stable {claims : List (String × List Nat)} {a b : World} (kept : RowsKept a b)
    (pending : Pending claims a) : Pending claims b :=
  ⟨fun claim member => kept.intents claim.1 (pending.1 claim member),
    fun key row paid => pending.2 key row (kept.paidRow paid)⟩

theorem Tidy.pending {intentId : String} {claimed settled unpaid : List Nat} {rest : List (String × List Nat)}
    {offered : List Bundle} {w : World} (tidy : Tidy intentId ((intentId, claimed) :: rest) settled unpaid offered w)
    (covers : ∀ chainId ∈ claimed, chainId ∈ settled ∨ chainId ∈ unpaid) : Pending rest w := by
  refine ⟨fun claim member => tidy.known claim (mem_cons_of_mem _ member), ?_⟩
  rintro ⟨owner, chainId⟩ row paid open_
  refine (tidy.waiting _ row paid open_).imp_right ?_
  rintro ⟨claim, member, same, inside⟩
  rcases mem_cons.mp member with rfl | later
  · cases same
    rcases covers chainId inside with closed | clear
    · rw [tidy.settled chainId closed row paid] at open_
      cases open_
    · exact absurd paid (tidy.unpaid chainId clear row)
  · exact ⟨claim, later, same, inside⟩

namespace ClaimRun

variable {run : ClaimRun} {l : Locals} {w : World} {offered : List Bundle}

/-- Every chain has an outcome, or the claim is deferred. -/
def Concluded (run : ClaimRun) (l : Locals) (w : World) : Prop :=
  run.Held [] l w ∧ (l.deferred = true ∨ ∀ chainId ∈ run.chainIds, chainId ∈ l.done)

def claims (run : ClaimRun) : List (String × List Nat) := (run.intent.id, run.claimed) :: run.rest

theorem Held.pending (held : run.Held offered l w) : Pending run.claims w := ⟨held.known, held.waiting⟩

theorem pending_of_settled (held : run.Held [] l w) (all : ∀ chainId ∈ run.chainIds, chainId ∈ l.done) :
    Pending run.rest w :=
  Tidy.pending held fun chainId member => .inl (List.mem_append.mpr ((run.covers chainId member).imp_right (all chainId)))

theorem pending_of_release (bounded : ∀ key row, w.db.rows.get key = some row → row.attempts ≤ 3)
    (held : run.Held [] l w) : Pending run.rest { w with db := w.db.releaseClaim run.intent.id run.chainIds } := by
  refine ⟨fun claim member => held.known claim (mem_cons_of_mem _ member), ?_⟩
  rintro ⟨owner, chainId⟩ row ⟨found, bundle, prepaid, carries⟩ open_
  simp only [Database.releaseClaim, OrderedMap.get_mapValues] at found
  obtain ⟨before, stood, made⟩ := Option.map_eq_some_iff.mp found
  split at made
  · have few := bounded _ before stood
    subst made
    exact .inl (by dsimp only; omega)
  · next outside =>
    subst made
    have paid : PaidRow w (owner, chainId) before := ⟨stood, bundle, prepaid, carries⟩
    refine (held.waiting _ before paid open_).imp_right ?_
    rintro ⟨claim, member, same, inside⟩
    rcases mem_cons.mp member with rfl | later
    · cases same
      rcases run.covers chainId inside with closed | listed
      · rw [held.settled chainId (List.mem_append_left _ closed) before paid] at open_
        cases open_
      · simp [listed] at outside
    · exact ⟨claim, later, same, inside⟩

theorem safe_laneFailed {error : Failure} (handling : l.handling = some error) (held : run.Held [] l w) :
    (laneFailed run.intent run.chainIds error).safe paidSetting l (fun _ => run.Concluded) (fun _ => run.Held []) w := by
  refine safe_bind (safe_read ?_)
  split
  · next terminal =>
    refine safe_imp (safe_each (fun chains l' w => (∀ chainId ∈ chains, chainId ∈ run.chainIds) ∧
      (∀ chainId ∈ run.chainIds, chainId ∈ chains ∨ chainId ∈ l'.done) ∧
      (l'.handling = some error ∧ l'.bundleUuid = l.bundleUuid) ∧ run.Held [] l' w)
      ⟨fun _ => id, fun _ => .inl, ⟨handling, rfl⟩, held⟩ ?_) ?_
    · rintro chainId rest l' w ⟨within, left, ⟨handling, same⟩, held⟩
      have later : ∀ chainId ∈ rest, chainId ∈ run.chainIds := fun other member =>
        within other (mem_cons_of_mem _ member)
      refine safe_unlessDone (fun done => ⟨later, fun other member => ?_, ⟨handling, same⟩, held⟩) fun _ => ?_
      · rcases left other member with first | second
        · rcases mem_cons.mp first with rfl | inside
          · exact .inr done
          · exact .inl inside
        · exact .inr second
      · have verdict : Unpaid w run.intent.id chainId ∨
            Verdict { status := some .failed, error := some (laneErrorMessage error) } l'.handling := by
          cases submitted : l.bundleUuid with
          | some bundleUuid =>
            rw [submitted] at terminal
            exact .inr (by rw [handling]; exact terminal)
          | none =>
            exact .inl ((held.keeps (same.trans submitted)).unpaid chainId (within chainId mem_cons_self))
        refine safe_mono (safe_fail (within chainId mem_cons_self) held verdict) ?_ ?_
        · rintro _ l₂ w ⟨rfl, held⟩
          refine ⟨later, fun other member => ?_, ⟨handling, same⟩, held⟩
          rcases left other member with first | second
          · rcases mem_cons.mp first with rfl | inside
            · exact .inr (by simp)
            · exact .inl inside
          · exact .inr (List.mem_append_left _ second)
        · rintro _ l₂ w ⟨rfl, held⟩
          exact held
    · rintro _ l' w ⟨_, left, _, held⟩
      exact ⟨held, .inr fun chainId member => (left chainId member).resolve_left List.not_mem_nil⟩
  · refine safe_bind (safe_imp (safe_each (fun chains l' w =>
      (∀ chainId ∈ chains, chainId ∈ run.chainIds) ∧ run.Held [] l' w) ⟨fun _ => id, held⟩ ?_) ?_)
    · rintro chainId rest l' w ⟨within, held⟩
      have later : ∀ chainId ∈ rest, chainId ∈ run.chainIds := fun other member =>
        within other (mem_cons_of_mem _ member)
      have member := within chainId mem_cons_self
      refine safe_unlessDone (fun _ => ⟨later, held⟩) fun missing => ?_
      refine safe_mono (safe_claimed (run.inside chainId member) (.inr (.inr ?_)) (.inl rfl) held
        (fun failed => by cases failed)) ?_ ?_
      · simpa using ⟨run.apart chainId member, missing⟩
      · rintro _ l₂ w ⟨rfl, held, -⟩
        exact ⟨later, held⟩
      · rintro _ l₂ w ⟨rfl, held⟩
        exact held
    · rintro _ l' w ⟨_, held⟩
      exact safe_modify ⟨held, .inl rfl⟩

theorem safe_closeClaim (concluded : run.Concluded l w) :
    (closeClaim run.intent run.chainIds).safe paidSetting l (fun _ _ => Pending run.rest)
      (fun _ _ => Pending run.claims) w := by
  obtain ⟨held, outcome⟩ := concluded
  refine safe_bind (safe_read ?_)
  split
  · refine safe_request (run.Held [] l) held (fun _ _ kept => Held.stable kept)
      fun w held holds => ⟨trivial, fun fate _ => ⟨?_, ?_⟩⟩
    · intro value w' performed
      obtain ⟨next, ran, rfl⟩ := query_ok performed
      cases ran
      exact pending_of_release holds.attempts held
    · intro error w' performed
      rw [← show (Op.perform (.query (.releaseClaim run.intent.id run.chainIds)) fate w).2 = w' from
        congrArg Prod.snd performed]
      rcases query_cases (.releaseClaim run.intent.id run.chainIds) fate w with same | ⟨value, next, ran, made⟩
      · rw [same]
        exact held.pending
      · rw [made]
        cases ran
        have released := pending_of_release holds.attempts held
        refine ⟨held.known, fun key row paid open_ => (released.2 key row paid open_).imp_right ?_⟩
        exact fun ⟨claim, member, rest⟩ => ⟨claim, mem_cons_of_mem _ member, rest⟩
  · next kept =>
    have all := outcome.resolve_left kept
    refine safe_imp (safe_each (fun chains l' w => l' = l ∧ (∀ chainId ∈ chains, chainId ∈ run.chainIds) ∧
      run.Held [] l w) ⟨rfl, fun _ => id, held⟩ ?_) ?_
    · rintro chainId rest l' w ⟨rfl, within, held⟩
      refine safe_unlessDone (fun _ => ⟨rfl, fun other member => within other (mem_cons_of_mem _ member), held⟩) ?_
      exact fun missing => absurd (all chainId (within chainId mem_cons_self)) missing
    · rintro _ l' w ⟨rfl, _, held⟩
      exact pending_of_settled held all

theorem safe_callLane {options : LaneOptions} {view : ClaimView} (free : l.handling = none) (empty : l.done = [])
    (fresh : l.settled = []) (held : run.Held [] l w) :
    (callLane options view run.intent run.chainIds l.bundleUuid).safe paidSetting l
      (fun _ => AllDone run.chainIds run.phase) (fun _ => run.Held []) w := by
  unfold callLane
  have thrown : ∀ (error : Failure) (l' : Locals) (w : World), l' = l ∧ run.Held [] l w → run.Held [] l' w := by
    rintro error l' w ⟨rfl, held⟩
    exact held
  split
  · next bundleUuid carried =>
    refine safe_bind (safe_mono (safe_calm rfl Held.stable held) ?_ thrown)
    rintro _ l' w ⟨rfl, held⟩
    exact deployRules.settleRules.settle ⟨free, held, empty, by simp [carried]⟩
  · next unsubmitted =>
    refine safe_bind (safe_mono (safe_calm rfl Held.stable held) ?_ thrown)
    rintro _ l' w ⟨rfl, held⟩
    exact deployRules.deploy rfl (by simp [fresh]) ⟨free, held, empty, unsubmitted⟩

theorem safe_runChains {options : LaneOptions} {view : ClaimView} (free : l.handling = none) (empty : l.done = [])
    (fresh : l.settled = []) (held : run.Held [] l w) :
    (runChains options view run.intent run.chainIds l.bundleUuid).safe paidSetting l (fun _ _ => Pending run.rest)
      (fun _ _ => Pending run.claims) w := by
  have called : (catching .claim (callLane options view run.intent run.chainIds l.bundleUuid)
      (laneFailed run.intent run.chainIds)).safe paidSetting l (fun _ => run.Concluded) (fun _ => run.Held []) w := by
    refine safe_catching (safe_imp (safe_callLane free empty fresh held) ?_) ?_
    · rintro _ l w ⟨all, p, now⟩
      exact ⟨phase_held now, .inr all⟩
    · intro error l w held
      refine safe_mono (safe_calm rfl Held.stable held) ?_ ?_
      · rintro _ l' w ⟨rfl, held⟩
        exact safe_laneFailed rfl held
      · rintro _ l' w ⟨rfl, held⟩
        exact held
  exact safe_bind (safe_mono called (fun _ _ _ => safe_closeClaim) (fun _ _ _ => Held.pending))

def ofClaim (intent : Intent) (claimed recorded : List Nat) (rest : List (String × List Nat))
    (unfinished : claimed.filter (fun chainId => !recorded.contains chainId) ≠ []) : ClaimRun where
  intent := intent
  claimed := claimed
  rest := rest
  closed := claimed.filter recorded.contains
  chainIds := claimed.filter (fun chainId => !recorded.contains chainId)
  inside chainId member := (mem_filter.mp member).1
  apart chainId member closed := by
    have missing := (mem_filter.mp member).2
    simp only [(mem_filter.mp closed).2, Bool.not_true, Bool.false_eq_true] at missing
  covers chainId member := by
    cases listed : recorded.contains chainId with
    | true => exact .inl (mem_filter.mpr ⟨member, listed⟩)
    | false => exact .inr (mem_filter.mpr ⟨member, by rw [listed]; rfl⟩)
  nonempty := unfinished

end ClaimRun

section
variable {options : LaneOptions} {intent : Intent} {claimed : List Nat} {rest : List (String × List Nat)}
variable {l : Locals} {w : World}

variable {leaseSeconds limit : Nat} {intentId : String}

theorem unbundled_unpaid {chainIds : List Nat} (clear : Unbundled intentId chainIds w)
    {chainId : Nat} (member : chainId ∈ chainIds) : Unpaid w intentId chainId := by
  rintro row ⟨found, bundle, -, carries⟩
  have none_ := clear chainId member
  rw [Database.bundleOf, found, Option.bind_some, carries] at none_
  cases none_

theorem safe_closing {closing unpaid : List Nat} {message : String} (inside : ∀ chainId ∈ closing, chainId ∈ claimed)
    (tidy : Tidy intent.id ((intent.id, claimed) :: rest) [] unpaid [] w)
    (verdict : (∀ chainId ∈ closing, chainId ∈ unpaid) ∨ (l.handling = none ∧ message ∈ verdictMessages)) :
    (Action.each (fun chainId => updateDeploy intent.id chainId { status := some .failed, error := some message })
      closing).safe paidSetting l (fun _ l' w' => l' = l ∧
        Tidy intent.id ((intent.id, claimed) :: rest) closing unpaid [] w')
      (fun _ _ => Pending ((intent.id, claimed) :: rest)) w := by
  refine safe_imp (safe_each (fun chains l' w => l' = l ∧ (∀ chainId ∈ chains, chainId ∈ closing) ∧
    ∃ settled, (∀ chainId ∈ closing, chainId ∈ chains ∨ chainId ∈ settled) ∧
      Tidy intent.id ((intent.id, claimed) :: rest) settled unpaid [] w)
    ⟨rfl, fun _ => id, [], fun _ => .inl, tidy⟩ ?_) ?_
  · rintro chainId chains l' w ⟨rfl, within, settled, left, tidy⟩
    have member := within chainId mem_cons_self
    refine safe_mono (safe_claimed (inside chainId member) (.inl rfl) (.inl rfl) tidy (fun _ => ?_)) ?_ ?_
    · refine verdict.imp (fun clear => tidy.unpaid chainId (clear chainId member)) ?_
      rintro ⟨free, listed⟩
      rw [free]
      exact ⟨message, listed, rfl⟩
    · rintro _ l₂ w ⟨rfl, tidy, closed⟩
      refine ⟨rfl, fun other later => within other (mem_cons_of_mem _ later), chainId :: settled, ?_, ?_⟩
      · intro other inside
        rcases left other inside with first | second
        · rcases mem_cons.mp first with rfl | later
          · exact .inr mem_cons_self
          · exact .inl later
        · exact .inr (mem_cons_of_mem _ second)
      · refine { tidy with settled := fun other inside => ?_ }
        rcases mem_cons.mp inside with rfl | later
        · exact closed (.inl rfl)
        · exact tidy.settled other later
    · rintro _ l₂ w ⟨rfl, tidy⟩
      exact ⟨tidy.known, tidy.waiting⟩
  · rintro _ l' w ⟨rfl, -, settled, left, tidy⟩
    refine ⟨rfl, { tidy with settled := fun chainId member => tidy.settled chainId ?_ }⟩
    exact (left chainId member).resolve_left List.not_mem_nil

/-- A claim closes the rows of deployed chains and hands the others to the lane. -/
theorem Pending.runIntent (pending : Pending ((intent.id, claimed) :: rest) w)
    (clear : carriedBundle intent claimed = none → Unbundled intent.id claimed w) :
    (runIntent options intent claimed).safe paidSetting l (fun _ _ => Pending rest)
      (fun _ _ => Pending ((intent.id, claimed) :: rest)) w := by
  have tidy : Tidy intent.id ((intent.id, claimed) :: rest) []
      (if (carriedBundle intent claimed).isSome then [] else claimed) [] w := by
    refine ⟨by simp, pending.1, pending.2, by simp, fun chainId member => ?_⟩
    split at member
    · cases member
    · next uncarried => exact unbundled_unpaid (clear (by simpa using uncarried)) member
  refine safe_bind (safe_modify ?_)
  dsimp only
  split
  · next mixed =>
    simp only [Bool.and_eq_true, Option.isNone_iff_eq_none] at mixed
    rw [mixed.1] at tidy
    refine safe_imp (safe_closing (fun _ => id) tidy (.inl fun _ => id)) ?_
    rintro _ l' w ⟨rfl, tidy⟩
    exact tidy.pending fun _ => .inl
  · refine safe_bind (safe_imp (safe_closing (fun _ member => (mem_filter.mp member).1) tidy
      (.inr ⟨rfl, by simp [verdictMessages]⟩)) ?_)
    rintro _ l' w ⟨rfl, tidy⟩
    split
    · next finished =>
      refine safe_pure (tidy.pending fun chainId member => .inl ?_)
      by_contra missing
      have left := List.filter_eq_nil_iff.mp (List.isEmpty_iff.mp finished) chainId member
      exact missing (mem_filter.mpr ⟨member, by simpa using left⟩)
    · next unfinished =>
      have left : claimed.filter (fun chainId => !(intent.deployments.map Prod.fst).contains chainId) ≠ [] := by
        simpa using unfinished
      have held : (ClaimRun.ofClaim intent claimed (intent.deployments.map Prod.fst) rest left).Held []
          { bundleUuid := carriedBundle intent claimed } w := by
        refine { tidy with settled := fun chainId member => ?_, unpaid := fun chainId member => ?_ }
        · exact tidy.settled chainId ((List.append_nil _).subst member)
        · refine tidy.unpaid chainId ?_
          unfold ClaimRun.unpaidOf at member
          split at member
          · cases member
          · next uncarried =>
            rw [if_neg uncarried]
            exact (mem_filter.mp member).1
      exact ClaimRun.safe_runChains rfl rfl rfl held

theorem Pending.safe_calm {claims : List (String × List Nat)} {op : Op} (calm : op.calm = true)
    (pending : Pending claims w) : (Action.request op : Act op.Result).safe paidSetting l
      (fun _ _ => Pending claims) (fun _ _ => Pending claims) w :=
  safe_mono (Sponsor.safe_calm calm Pending.stable pending) (fun _ _ _ => And.right) (fun _ _ _ => And.right)

theorem Pending.selectIntent (pending : Pending ((intentId, claimed) :: rest) w) :
    (store (.selectIntent intentId)).safe paidSetting l (fun (envelope : Option IntentEnvelope) _ w =>
      envelope ≠ none ∧ Pending ((intentId, claimed) :: rest) w) (fun _ _ => Pending ((intentId, claimed) :: rest)) w := by
  refine safe_request (Pending ((intentId, claimed) :: rest)) pending (fun _ _ => Pending.stable)
    fun w pending _ => ⟨trivial, fun fate _ => ⟨?_, ?_⟩⟩
  · intro envelope w' performed
    obtain ⟨next, ran, rfl⟩ := query_ok performed
    cases ran
    refine ⟨?_, pending⟩
    obtain ⟨envelope, found⟩ := OrderedMap.has_iff.mp (pending.1 _ mem_cons_self)
    simp [found]
  · intro error w' performed
    have kept := calm_kept (.query (.selectIntent intentId)) rfl fate w
    exact pending.stable ((congrArg Prod.snd performed).subst kept)

theorem Pending.selectDeploys (pending : Pending ((intentId, claimed) :: rest) w) :
    (store (.selectDeploys intentId)).safe paidSetting l (fun (deploys : List (Nat × IntentDeployRow)) _ w =>
      (∀ envelope deployments, carriedBundle ⟨intentId, envelope, deployments, deploys⟩ claimed = none →
        Unbundled intentId claimed w) ∧ Pending ((intentId, claimed) :: rest) w)
      (fun _ _ => Pending ((intentId, claimed) :: rest)) w := by
  refine safe_request (Pending ((intentId, claimed) :: rest)) pending (fun _ _ => Pending.stable)
    fun w pending holds => ⟨trivial, fun fate _ => ⟨?_, ?_⟩⟩
  · intro deploys w' performed
    obtain ⟨next, ran, rfl⟩ := query_ok performed
    cases ran
    exact ⟨fun envelope deployments => carriedBundle_none seen_selectDeploys holds.nonempty, pending⟩
  · intro error w' performed
    have kept := calm_kept (.query (.selectDeploys intentId)) rfl fate w
    exact pending.stable ((congrArg Prod.snd performed).subst kept)

theorem Pending.runClaim (pending : Pending ((intentId, claimed) :: rest) w) :
    (runClaim options intentId claimed).safe paidSetting l (fun _ _ => Pending rest)
      (fun _ _ => Pending ((intentId, claimed) :: rest)) w := by
  refine safe_bind (safe_bind (safe_imp pending.selectIntent ?_))
  rintro envelope l w ⟨present, pending⟩
  refine safe_bind (safe_imp (pending.safe_calm rfl) fun deployments l w pending => ?_)
  refine safe_bind (safe_imp pending.selectDeploys ?_)
  rintro deploys l w ⟨clear, pending⟩
  refine safe_pure ?_
  cases envelope with
  | none => exact absurd rfl present
  | some envelope => exact Pending.runIntent pending (clear envelope deployments)

theorem Pending.close {claims : List (String × List Nat)} {f : String × Nat → IntentDeployRow → IntentDeployRow}
    (closes : ∀ key row, f key row = row ∨ (f key row).isOpen = false) (pending : Pending claims w) :
    Pending claims { w with db := { w.db with rows := w.db.rows.mapValues f } } := by
  refine ⟨pending.1, ?_⟩
  rintro key row ⟨found, paid⟩ open_
  rw [OrderedMap.get_mapValues] at found
  obtain ⟨before, stood, made⟩ := Option.map_eq_some_iff.mp found
  rcases closes key before with same | closed
  · rw [same] at made
    subst made
    exact pending.2 key before ⟨stood, paid⟩ open_
  · rw [made, open_] at closed
    cases closed

theorem retire_closes {condition : Bool} {message : String} {row : IntentDeployRow} :
    (if condition then row.retire message else row) = row ∨
      (if condition then row.retire message else row).isOpen = false := by
  split
  · exact .inr rfl
  · exact .inl rfl

theorem Pending.statement {claims : List (String × List Nat)} {statement : Query} (pending : Pending claims w)
    (due : ∀ {w}, Pending claims w → PaidDue (.query statement) w)
    (commits : ∀ {w value next}, Pending claims w → statement.run w.db = .ok (value, next) →
      Pending claims { w with db := next }) :
    (store statement).safe paidSetting l (fun _ _ => Pending claims) (fun _ _ => Pending claims) w := by
  refine safe_request (Pending claims) pending (fun _ _ => Pending.stable)
    fun w pending _ => ⟨due pending, fun fate _ => ?_⟩
  have after : Pending claims (Op.perform (.query statement) fate w).2 := by
    rcases query_cases statement fate w with same | ⟨value, next, ran, made⟩
    · rwa [same]
    · rw [made]
      exact commits pending ran
  exact ⟨fun _ _ performed => (congrArg Prod.snd performed).subst after,
    fun _ _ performed => (congrArg Prod.snd performed).subst after⟩

theorem mem_picked {db : Database} (member : intentId ∈ db.picked limit) :
    ∃ chainId row, db.rows.get (intentId, chainId) = some row := by
  have listed := List.mem_of_mem_take member
  rw [List.mem_insertionSort, List.mem_dedup] at listed
  obtain ⟨⟨⟨owner, chainId⟩, row⟩, found, rfl⟩ := mem_map.mp listed
  exact ⟨chainId, row, OrderedMap.get_of_mem (mem_filter.mp found).1⟩

theorem Pending.lease (owned : ∀ key row, w.db.rows.get key = some row →
    w.db.intents.has key.1 = true) (pending : Pending [] w) :
    Pending (w.db.leased limit) { w with db := w.db.leaseQueued leaseSeconds limit } := by
  refine ⟨fun claim member => ?_, ?_⟩
  · obtain ⟨intentId, picked, rfl⟩ := mem_map.mp member
    obtain ⟨chainId, row, found⟩ := mem_picked picked
    exact owned _ row found
  · rintro ⟨intentId, chainId⟩ row ⟨found, paid⟩ open_
    simp only [Database.leaseQueued, OrderedMap.get_mapValues] at found
    obtain ⟨before, stood, made⟩ := Option.map_eq_some_iff.mp found
    split at made
    · next taken =>
      simp only [Bool.and_eq_true, List.contains_eq_mem, decide_eq_true_eq] at taken
      refine .inr ⟨_, mem_map.mpr ⟨intentId, taken.2, rfl⟩, rfl, ?_⟩
      refine mem_map.mpr ⟨(chainId, before), mem_filter.mpr ⟨?_, taken.1⟩, rfl⟩
      exact Database.mem_selectDeploys.mpr stood
    · subst made
      exact .inl ((pending.2 _ before ⟨stood, paid⟩ open_).resolve_right (by simp))

theorem Pending.leaseLost (pending : Pending [] w)
    (orderly : ∀ key row, PaidRow w key row → w.db.claimable key.1 row = true → key.1 ∈ w.db.picked limit →
      row.attempts + 1 < 3) : Pending [] { w with db := w.db.leaseQueued leaseSeconds limit } := by
  refine ⟨by simp, ?_⟩
  rintro key row ⟨found, paid⟩ open_
  simp only [Database.leaseQueued, OrderedMap.get_mapValues] at found
  obtain ⟨before, stood, made⟩ := Option.map_eq_some_iff.mp found
  split at made
  · next taken =>
    simp only [Bool.and_eq_true, List.contains_eq_mem, decide_eq_true_eq] at taken
    subst made
    exact .inl (orderly key before ⟨stood, paid⟩ taken.1 taken.2)
  · subst made
    exact pending.2 _ before ⟨stood, paid⟩ open_

theorem Pending.leaseQueued (pending : Pending [] w) :
    (store (.leaseQueued leaseSeconds limit)).safe paidSetting l
      (fun (claims : List (String × List Nat)) _ => Pending claims) (fun _ _ => Pending []) w := by
  refine safe_request (Pending []) pending (fun _ _ => Pending.stable)
    fun w pending holds => ⟨trivial, fun fate orderly => ⟨?_, ?_⟩⟩
  · intro claims w' performed
    obtain ⟨next, ran, rfl⟩ := query_ok performed
    cases ran
    exact pending.lease holds.owned
  · intro error w' performed
    cases fate with
    | served => cases performed
    | lost name =>
      cases performed
      exact pending.leaseLost orderly
    | refused name =>
      cases performed
      exact pending

theorem Pending.escaped {error : Failure} (pending : Pending ((intentId, claimed) :: rest) w) :
    (mark (.escaped intentId claimed error)).safe paidSetting l (fun _ _ => Pending rest) (fun _ _ => Pending []) w := by
  refine safe_request (Pending ((intentId, claimed) :: rest)) pending (fun _ _ => Pending.stable)
    fun w pending _ => ⟨trivial, fun reply orderly => ⟨?_, fun _ _ performed => by cases performed⟩⟩
  intro value w' performed
  cases performed
  refine ⟨fun claim member => pending.1 claim (mem_cons_of_mem _ member), ?_⟩
  rintro ⟨owner, chainId⟩ row paid open_
  rcases pending.2 _ row paid open_ with few | ⟨claim, member, same, inside⟩
  · exact .inl few
  · rcases mem_cons.mp member with rfl | later
    · cases same
      exact .inl (orderly chainId inside row paid open_)
    · exact .inr ⟨claim, later, same, inside⟩

/-- A pass starts and ends with every open paid row able to be claimed again. -/
theorem Pending.runOnce (pending : Pending [] w) :
    (runOnce options leaseSeconds).safe paidSetting l (fun _ _ => Pending []) (fun _ _ => Pending []) w := by
  refine safe_bind (safe_bind (safe_imp (pending.statement (fun pending => pending.2) ?_) ?_))
  · rintro w value next pending ran
    cases ran
    exact pending.close fun _ _ => retire_closes
  rintro _ l w pending
  refine safe_bind (safe_imp (pending.statement (fun _ => trivial) ?_) ?_)
  · rintro w value next pending ran
    cases ran
    exact pending.close fun _ _ => retire_closes
  rintro _ l w pending
  refine safe_bind (safe_imp (pending.safe_calm rfl) fun _ l w pending => ?_)
  refine safe_imp pending.leaseQueued fun claims l w pending => ?_
  refine safe_each (fun claims _ => Pending claims) pending fun claim rest l w pending => ?_
  exact Action.safe_tryCatch (safe_mono pending.runClaim (fun _ _ _ => id) fun _ _ _ => Pending.escaped)

end
end JBCenter.Sponsor
