import JBCenter.Sponsor.Entries
import JBCenter.Sponsor.Prepayment
import JBCenter.Sponsor.Route

/-! What a reservation covers. The route splits the wei of a request evenly over the chains it queues, whatever number
of calls each of them has; the lane allows itself to pay for the entries of the chains one claim is run for. -/
namespace JBCenter.Sponsor
open Route

/-- An even share of `F` for `C` calls at `R` wei each, against the wei of `e` calls for `n` of the shares: the floor
of the division can only miss the last wei, and only when the shares and the calls are level. -/
theorem shares_cover_iff {R F C n e : Nat} (some_ : 0 < n) (few : n ≤ F) (large : F * F ≤ R) :
    e * R ≤ n * (C * R / F) ↔ e * F < n * C ∨ (e * F = n * C ∧ F ∣ C * R) := by
  have positive : 0 < F := Nat.lt_of_lt_of_le some_ few
  have divided : F * (C * R / F) + C * R % F = C * R := Nat.div_add_mod _ _
  have rest : C * R % F < F := Nat.mod_lt _ positive
  have scaled : n * (C * R / F) * F + n * (C * R % F) = n * C * R := by
    rw [Nat.mul_assoc n C R, ← divided, Nat.mul_add, Nat.mul_assoc, Nat.mul_comm _ F]
    simp only [divided]
  have lost : n * (C * R % F) ≤ R := by
    calc n * (C * R % F) ≤ F * F := Nat.mul_le_mul few (Nat.le_of_lt rest)
      _ ≤ R := large
  have wei : 0 < R := Nat.lt_of_lt_of_le (Nat.mul_pos positive positive) large
  constructor
  · intro covered
    have covered : e * F * R + n * (C * R % F) ≤ n * C * R := by
      calc e * F * R + n * (C * R % F) = e * R * F + n * (C * R % F) := by rw [Nat.mul_right_comm]
        _ ≤ n * (C * R / F) * F + n * (C * R % F) := Nat.add_le_add_right (Nat.mul_le_mul_right F covered) _
        _ = n * C * R := scaled
    obtain less | level := Nat.lt_or_eq_of_le (Nat.le_of_mul_le_mul_right (Nat.le_of_add_right_le covered) wei)
    · exact Or.inl less
    · refine Or.inr ⟨level, Nat.dvd_of_mod_eq_zero ?_⟩
      rw [level] at covered
      have nothing : n * (C * R % F) = 0 := by omega
      exact (Nat.mul_eq_zero.mp nothing).resolve_left (by omega)
  · intro condition
    have bound : e * F * R + n * (C * R % F) ≤ n * C * R := by
      obtain less | ⟨level, even⟩ := condition
      · calc e * F * R + n * (C * R % F) ≤ e * F * R + R := Nat.add_le_add_left lost _
          _ = (e * F + 1) * R := (Nat.succ_mul _ _).symm
          _ ≤ n * C * R := Nat.mul_le_mul_right R less
      · rw [Nat.mod_eq_zero_of_dvd even, level]
        simp
    refine Nat.le_of_mul_le_mul_right ?_ positive
    rw [Nat.mul_right_comm]
    omega

/-- The calls a request reserves for. -/
def committedCalls (intent : Intent) (fresh : List Nat) : Nat :=
  (intent.envelope.deploymentCalls.filter (fun call => fresh.contains call.chainId)).length

/-- The reserved wei the route gives to each of the rows it queues. -/
def rowShare (policy : SponsorPolicy) (intent : Intent) (fresh : List Nat) : Nat :=
  reservedFor policy intent fresh / fresh.length

def claimedWei (db : Database) (intentId : String) (claimed : List Nat) : Nat :=
  (claimed.map (fun chainId => ((db.rows.get (intentId, chainId)).map IntentDeployRow.reservedWei).getD 0)).sum

theorem queued_share {db next : Database} {intentId requester : String} {chainIds : List Nat} {share chainId : Nat}
    {retry : Bool} {row : IntentDeployRow} (queued : db.queueDeploys intentId chainIds requester share retry = .ok next)
    (listed : chainId ∈ chainIds) (written : db.queueRow intentId requester share retry chainId = some row) :
    next.rows.get (intentId, chainId) = some row ∧ row.reservedWei = share := by
  constructor
  · rw [Database.get_queueDeploys queued, if_pos ⟨rfl, listed⟩, written, Option.some_or]
  · unfold Database.queueRow at written
    split at written
    · cases written
      rfl
    · split at written
      · cases written
        rfl
      · cases written

theorem requestedChains_nodup {body : Body} {within requested : List Nat}
    (asked : requestedChains body within = .ok (some requested)) : requested.Nodup := by
  unfold requestedChains at asked
  split at asked
  · cases asked
  · cases asked
  · unfold optionalChainIds at asked
    split at asked
    · cases asked
    · cases asked
    · split at asked
      · cases asked
      · obtain ⟨chainIds, _, asked⟩ := ok_bind asked
        split at asked
        · cases asked
        · rename_i distinct
          split at asked
          · cases asked
          · cases asked
            exact not_not.mp distinct

theorem sponsored_few {selected : List Nat} (family : (sponsorFamily selected).isSome) (distinct : selected.Nodup) :
    selected.length ≤ 4 := by
  unfold sponsorFamily at family
  have within : ∀ known : List Nat, selected.all known.contains = true → selected.length ≤ known.length := by
    intro known all
    refine (List.subperm_of_subset distinct fun chainId member => ?_).length_le
    simpa using List.all_eq_true.mp all chainId member
  split at family
  · rename_i mainnet
    exact Nat.le_trans (within _ (Bool.and_eq_true_iff.mp mainnet).2) (by decide)
  · split at family
    · rename_i testnet
      exact within _ (Bool.and_eq_true_iff.mp testnet).2
    · cases family

theorem selectedChains_ok {intent : Intent} {requested : Option (List Nat)} {selected : List Nat}
    (chosen : selectedChains intent requested = .ok selected) :
    selected.Sublist (requested.getD intent.envelope.chainIds) ∧ (sponsorFamily selected).isSome := by
  simp only [selectedChains] at chosen
  split at chosen
  · cases chosen
  · split at chosen
    · cases chosen
    · split at chosen
      · cases chosen
      · split at chosen
        · cases chosen
        · rename_i family
          cases chosen
          refine ⟨List.filter_sublist.trans List.filter_sublist, ?_⟩
          simpa [Option.isNone_iff_eq_none, Option.isSome_iff_ne_none] using family

variable {options : LaneOptions} {intent : Intent} {body : Body} {requested : Option (List Nat)}
variable {selected claimed : List Nat}

theorem freshChains_few (unique : intent.envelope.chainIds.Nodup)
    (asked : requestedChains body intent.envelope.chainIds = .ok requested)
    (chosen : selectedChains intent requested = .ok selected) : (freshChains intent requested selected).length ≤ 4 := by
  obtain ⟨listed, family⟩ := selectedChains_ok chosen
  have distinct : (requested.getD intent.envelope.chainIds).Nodup := by
    cases requested with
    | none => exact unique
    | some chains => exact requestedChains_nodup asked
  exact Nat.le_trans List.filter_sublist.length_le (sponsored_few family (distinct.sublist listed))

theorem claimedWei_share {db : Database} {share : Nat}
    (rows : ∀ chainId ∈ claimed, ∃ row, db.rows.get (intent.id, chainId) = some row ∧ row.reservedWei = share) :
    claimedWei db intent.id claimed = claimed.length * share := by
  unfold claimedWei
  induction claimed with
  | nil => simp
  | cons chainId rest ih =>
    obtain ⟨row, found, reserved⟩ := rows chainId List.mem_cons_self
    rw [List.map_cons, List.sum_cons, ih fun other member => rows other (List.mem_cons_of_mem _ member), found,
      List.length_cons, Nat.succ_mul, Nat.add_comm]
    simp [reserved]

/-- The claimed rows of a request cover what the lane may pay for their chains exactly when these chains need fewer
entries on average than the queued chains have calls, or as many and the reservation divides evenly. -/
theorem reservation_covers_iff {report : LaneReport} {outlook : Outlook} {db : Database} {deadline : Nat}
    {l l' : Locals} {draft : Draft} (unique : intent.envelope.chainIds.Nodup)
    (asked : requestedChains body intent.envelope.chainIds = .ok requested)
    (chosen : selectedChains intent requested = .ok selected) (nonempty : claimed ≠ []) (distinct : claimed.Nodup)
    (queued : claimed ⊆ freshChains intent requested selected)
    (rows : ∀ chainId ∈ claimed, ∃ row, db.rows.get (intent.id, chainId) = some row ∧
      row.reservedWei = rowShare options.policy intent (freshChains intent requested selected))
    (built : (buildEntries options report claimed intent.envelope.deploymentCalls deadline claimed {}).Yields
      outlook.answers l (some draft) l') :
    reservationWei options.policy draft.entries.length ≤ claimedWei db intent.id claimed ↔
      (claimed.map (entryCount outlook options intent.envelope.deploymentCalls)).sum *
          (freshChains intent requested selected).length <
        claimed.length * committedCalls intent (freshChains intent requested selected) ∨
      ((claimed.map (entryCount outlook options intent.envelope.deploymentCalls)).sum *
          (freshChains intent requested selected).length =
        claimed.length * committedCalls intent (freshChains intent requested selected) ∧
        (freshChains intent requested selected).length ∣
          reservationWei options.policy (committedCalls intent (freshChains intent requested selected))) := by
  obtain ⟨entries, roles, adds, _, count⟩ := buildEntries_yields (fun _ _ held => by cases held) built
  have few := freshChains_few unique asked chosen
  have inside := (List.subperm_of_subset distinct queued).length_le
  have built : draft.entries.length = (claimed.map (entryCount outlook options intent.envelope.deploymentCalls)).sum := by
    rw [adds.entries, List.nil_append, count]
  rw [claimedWei_share rows, built]
  refine shares_cover_iff (List.length_pos_iff.mpr nonempty) inside ?_
  calc (freshChains intent requested selected).length * (freshChains intent requested selected).length
      ≤ 4 * 4 := Nat.mul_le_mul few few
    _ ≤ creationFeeCeiling := by decide
    _ ≤ options.policy.maximumGas * options.policy.maximumFeePerGas + creationFeeCeiling := Nat.le_add_left _ _

/-- An intent with three setup calls on one chain and none on the other, before any of its Safes is there. -/
def unevenLane : LaneOptions := { sampleLane with
  policy := { sampleLane.policy with maximumGas := 8000000, maximumFeePerGas := 1000000000 }
  decodeSafeSetupCall := fun call => some call.data
  predictSafeAddress := fun plan _ => plan }

def unevenIntent : Intent where
  id := "intent"
  envelope := ⟨"6", [10, 8453], [⟨10, "factory", "a"⟩, ⟨10, "factory", "b"⟩, ⟨10, "factory", "c"⟩,
    ⟨10, "deployer", "launch"⟩, ⟨8453, "deployer", "launch"⟩]⟩
  deployments := []
  deploys := []

def emptyOutlook : Outlook where
  code := fun _ address => if address = "factory" then some "runtime" else none
  creationCode := fun _ => "creation"
  chainOf := Prepared.gas
  forwarder := fun _ => "forwarder"

/-- Nodes without Safes, and a signer; a prepared request asks for as much gas as its chain's number. -/
def emptyNodes : (op : Op) → Except Failure op.Result
  | .external (.getCode _ address) => .ok (if address = "factory" then some "runtime" else none : Option String)
  | .external (.proxyCreationCode _) => .ok "creation"
  | .external (.simulate _ _) => .ok ()
  | .external (.estimateGas _ _) => .ok (0 : Nat)
  | .external (.creationFee _) => .ok (0 : Nat)
  | .external (.getBalance _) => .ok (0 : Nat)
  | .external (.prepare chainId _ _ _ _) => .ok (⟨chainId, "request"⟩ : Prepared)
  | .external (.signTypedData _) => .ok "signature"
  | .external (.signed prepared _) => .ok (⟨prepared.gas, "forwarder", "execute", 0, 0⟩ : RelayrEntry)
  | _ => .error (.other "unasked")

theorem emptyNodes_answer (op : Op) : emptyOutlook.answers op (emptyNodes op) := by
  cases op with
  | query statement => cases statement <;> trivial
  | mark point => cases point <;> trivial
  | external request =>
    cases request with
    | getCode chainId address => rfl
    | proxyCreationCode chainId => rfl
    | prepare chainId launch fee preceding deadline => rfl
    | signed prepared signature => exact ⟨rfl, beq_self_eq_true _⟩
    | _ => trivial

def unevenReport : LaneReport := report unevenIntent [10, 8453]

/-- What `deploy` builds of the intent for a list of its chains. -/
def unevenDraft (claimed : List Nat) : Except Failure (Option Draft) × Locals :=
  (buildEntries unevenLane unevenReport claimed unevenIntent.envelope.deploymentCalls 0 claimed {} {}).under emptyNodes

theorem unevenDraft_yields {draft : Draft} (held : (unevenDraft claimed).1.toOption.join = some draft) :
    ∃ l, (buildEntries unevenLane unevenReport claimed unevenIntent.envelope.deploymentCalls 0 claimed {}).Yields
      emptyOutlook.answers {} (some draft) l := by
  have yields := Program.under_yields emptyNodes_answer
    (buildEntries unevenLane unevenReport claimed unevenIntent.envelope.deploymentCalls 0 claimed {} {})
  refine ⟨(unevenDraft claimed).2, ?_⟩
  have same : unevenDraft claimed = (.ok (some draft), (unevenDraft claimed).2) :=
    Prod.ext (toOption_ok (Option.join_eq_some_iff.mp held)) rfl
  unfold Action.Yields
  rw [← same]
  exact yields

theorem unevenDraft_built (built : (unevenDraft claimed).1.toOption.join.isSome) :
    ∃ draft l, (buildEntries unevenLane unevenReport claimed unevenIntent.envelope.deploymentCalls 0 claimed {}).Yields
      emptyOutlook.answers {} (some draft) l := by
  obtain ⟨draft, held⟩ := Option.isSome_iff_exists.mp built
  exact ⟨draft, unevenDraft_yields held⟩

theorem unevenFresh : freshChains unevenIntent none [10, 8453] = [10, 8453] := by decide

theorem uneven_queued : ∃ db, sampleStart.world.db.queueDeploys unevenIntent.id [10, 8453] "browser"
      (rowShare unevenLane.policy unevenIntent [10, 8453]) false = .ok db ∧
    ∀ chainId ∈ [10, 8453], ∃ row, db.rows.get (unevenIntent.id, chainId) = some row ∧
      row.reservedWei = rowShare unevenLane.policy unevenIntent (freshChains unevenIntent none [10, 8453]) := by
  have accepted : (sampleStart.world.db.queueDeploys unevenIntent.id [10, 8453] "browser"
      (rowShare unevenLane.policy unevenIntent [10, 8453]) false).toOption.isSome = true := by decide +kernel
  obtain ⟨db, queued⟩ := Option.isSome_iff_exists.mp accepted
  refine ⟨db, toOption_ok queued, fun chainId listed => ⟨{
    requester := "browser", reservedWei := rowShare unevenLane.policy unevenIntent [10, 8453], createdAt := 1 }, ?_⟩⟩
  rw [unevenFresh]
  exact queued_share (toOption_ok queued) listed rfl

theorem reservation_covers_iff_sample : ∃ db draft l,
    (buildEntries unevenLane unevenReport [10, 8453] unevenIntent.envelope.deploymentCalls 0 [10, 8453] {}).Yields
      emptyOutlook.answers {} (some draft) l ∧
    reservationWei unevenLane.policy draft.entries.length ≤ claimedWei db unevenIntent.id [10, 8453] := by
  obtain ⟨db, _, rows⟩ := uneven_queued
  obtain ⟨draft, l, built⟩ := unevenDraft_built
    (show (unevenDraft [10, 8453]).1.toOption.join.isSome = true by decide +kernel)
  have asked : requestedChains (.object none) unevenIntent.envelope.chainIds = .ok none := rfl
  have chosen : selectedChains unevenIntent none = .ok [10, 8453] := by rfl
  have covers := reservation_covers_iff (by decide) asked chosen (by simp) (by decide) (by decide) rows built
  exact ⟨db, draft, l, built, covers.mpr (Or.inr (by decide +kernel))⟩

/-- One claim for the chain with the setup calls alone has half of the reservation, for four of the five calls. -/
theorem reservation_falls_short : ¬ ∀ (intent : Intent) (db : Database) (claimed : List Nat) (draft : Draft) (l : Locals),
    claimed ≠ [] → claimed.Nodup → claimed ⊆ freshChains intent none [10, 8453] →
    (∀ chainId ∈ claimed, ∃ row, db.rows.get (intent.id, chainId) = some row ∧
      row.reservedWei = rowShare unevenLane.policy intent (freshChains intent none [10, 8453])) →
    (buildEntries unevenLane unevenReport claimed intent.envelope.deploymentCalls 0 claimed {}).Yields
      emptyOutlook.answers {} (some draft) l →
    reservationWei unevenLane.policy draft.entries.length ≤ claimedWei db intent.id claimed := by
  intro covered
  obtain ⟨db, _, rows⟩ := uneven_queued
  obtain ⟨draft, l, built⟩ := unevenDraft_built (show (unevenDraft [10]).1.toOption.join.isSome = true by decide +kernel)
  have rows : ∀ chainId ∈ [10], _ := fun chainId member =>
    rows chainId (List.mem_cons.mpr (Or.inl (List.mem_singleton.mp member)))
  have within : [10] ⊆ freshChains unevenIntent none [10, 8453] := by decide
  have short := covered unevenIntent db [10] draft l (by simp) (by decide) within rows built
  obtain ⟨entries, roles, adds, _, count⟩ := buildEntries_yields (fun _ _ held => by cases held) built
  rw [claimedWei_share rows, adds.entries, List.nil_append, count] at short
  revert short
  decide +kernel

end JBCenter.Sponsor
