import JBCenter.Verifier.Traces

/-! What the search for the committed call finds. A trace within the limits is read as the tree it describes, and the
search accepts it exactly when a frame that ran, under frames that all ran, is the committed call. -/
namespace JBCenter.Verifier
open Rest

/-- A document describes a tree of frames. -/
inductive Reads : Json → TraceCall → Prop where
  | frame {fields : JsonFields} {type : String} {sender : Option Address} {target : Address} {input : HexData}
      {error : Option String} {items : List Json} {calls : List TraceCall}
      (said : traceFields fields = .ok (type, sender, target, input, error, items))
      (under : List.Forall₂ Reads items calls) : Reads (.object fields) (.frame type sender target input error calls)

/-- A frame of a tree that did not fail, and is under none that did. -/
inductive Runs : TraceCall → TraceCall → Prop where
  | root {call : TraceCall} (ran : call.error = none) : Runs call call
  | under {call child frame : TraceCall} (ran : call.error = none) (member : child ∈ call.calls) (below : Runs child frame) :
      Runs call frame

/-- A frame is the committed call: made directly, or by the forwarder with 20 bytes of a sender behind the data. -/
inductive Executes (expected : DeploymentCall) (frame : TraceCall) : Option Address → Prop where
  | direct (type : toUpperCase frame.type = "CALL") (target : frame.target = expected.target)
      (input : toLowerCase frame.input.text = toLowerCase expected.data.text) : Executes expected frame none
  | forwarded {sender : Address} (type : toUpperCase frame.type = "CALL") (target : frame.target = expected.target)
      (forwarder : frame.sender = some FORWARDER)
      (input : (toLowerCase frame.input.text).toList =
        (toLowerCase expected.data.text).toList ++ sender.text.toList.drop 2) : Executes expected frame (some sender)

variable {expected : DeploymentCall} {sponsor : Option Address} {root frame call : TraceCall} {trace : Json}
variable {levels count after : Nat} {read : Json → Nat → Except VerificationError (TraceCall × Nat)}
variable {items : List Json} {calls : List TraceCall} {data : HexData} {executed : VerifiedDeployment}

theorem depthAll_cons {rest : List TraceCall} :
    TraceCall.depthAll (call :: rest) ≤ levels ↔ call.depth < levels ∧ TraceCall.depthAll rest ≤ levels := by
  rw [TraceCall.depthAll, Nat.max_le, Nat.succ_le_iff]

theorem traceCalls_ok (each : ∀ value call count after, read value count = .ok (call, after) ↔
      Reads value call ∧ call.depth < levels ∧ after = count + call.frames ∧ after ≤ maxTraceFrames)
    (bounded : count ≤ maxTraceFrames) : traceCalls read items count = .ok (calls, after) ↔
      List.Forall₂ Reads items calls ∧ TraceCall.depthAll calls ≤ levels ∧
        after = count + TraceCall.framesAll calls ∧ after ≤ maxTraceFrames := by
  induction items generalizing count calls after with
  | nil =>
    simp only [traceCalls, Except.ok.injEq, Prod.mk.injEq, List.forall₂_nil_left_iff]
    constructor
    · rintro ⟨rfl, rfl⟩
      exact ⟨rfl, Nat.zero_le _, rfl, bounded⟩
    · rintro ⟨rfl, _, rfl, _⟩
      exact ⟨rfl, rfl⟩
  | cons value rest ih =>
    constructor
    · intro done
      obtain ⟨⟨call, middle⟩, first, done⟩ := ok_bind done
      obtain ⟨⟨others, last⟩, rest, done⟩ := ok_bind done
      cases done
      obtain ⟨reads, shallow, rfl, few⟩ := (each ..).mp first
      obtain ⟨others, deep, rfl, total⟩ := (ih few).mp rest
      refine ⟨.cons reads others, depthAll_cons.mpr ⟨shallow, deep⟩, ?_, total⟩
      rw [TraceCall.framesAll]
      omega
    · rintro ⟨reads, deep, rfl, total⟩
      cases reads with
      | @cons _ call _ others reads rest =>
        obtain ⟨shallow, deep⟩ := depthAll_cons.mp deep
        rw [TraceCall.framesAll, ← Nat.add_assoc] at total ⊢
        have few : count + call.frames ≤ maxTraceFrames := Nat.le_trans (Nat.le_add_right ..) total
        have last := (ih few).mpr ⟨rest, deep, rfl, total⟩
        exact bind_run ((each value call count _).mpr ⟨reads, shallow, rfl, few⟩) (bind_run last rfl)

/-- The parser reads exactly the trees within its limits. -/
theorem traceCall_ok {value : Json} : traceCall levels value count = .ok (call, after) ↔
    Reads value call ∧ call.depth < levels ∧ after = count + call.frames ∧ after ≤ maxTraceFrames := by
  induction levels generalizing value count call after with
  | zero =>
    constructor
    · intro done
      cases value <;> cases done
    · rintro ⟨_, deep, _⟩
      cases deep
  | succ levels ih =>
    constructor
    · intro done
      cases value with
      | object fields =>
        rw [traceCall] at done
        split at done
        · cases done
        · rename_i few
          obtain ⟨⟨type, sender, target, input, error, items⟩, said, done⟩ := ok_bind done
          obtain ⟨⟨calls, last⟩, under, done⟩ := ok_bind done
          cases done
          obtain ⟨reads, deep, rfl, total⟩ := (traceCalls_ok (fun _ _ _ _ => ih) (Nat.not_lt.mp few)).mp under
          refine ⟨.frame said reads, Nat.lt_succ_of_le deep, ?_, total⟩
          rw [TraceCall.frames]
          omega
      | _ => cases done
    · rintro ⟨reads, deep, rfl, total⟩
      cases reads with
      | @frame fields type sender target input error items calls said under =>
        rw [TraceCall.depth] at deep
        rw [TraceCall.frames, Nat.add_comm (TraceCall.framesAll calls), ← Nat.add_assoc] at total ⊢
        have few : count + 1 ≤ maxTraceFrames := Nat.le_trans (Nat.le_add_right ..) total
        have rest := (traceCalls_ok (fun _ _ _ _ => ih) few).mpr ⟨under, Nat.le_of_lt_succ deep, rfl, total⟩
        change (if maxTraceFrames < count + 1 then _ else _) = _
        rw [if_neg (Nat.not_lt.mpr few)]
        exact bind_run said (bind_run rest rfl)

theorem lowered_digits {c : Char} {text : String} (member : c ∈ (toLowerCase text).toList) : c.toLower = c := by
  rw [toLowerCase, String.toList_ofList] at member
  obtain ⟨raw, _, rfl⟩ := List.mem_map.mp member
  exact toLower_toLower raw

theorem appended_address {input : HexData} {suffix : List Char}
    (appended : (toLowerCase input.text).toList = (toLowerCase data.text).toList ++ suffix)
    (long : suffix.length = forwardedSenderHexLength) :
    ∃ sender : Address, getAddress (String.ofList ('0' :: 'x' :: suffix)) = some sender ∧
      sender.text.toList.drop 2 = suffix := by
  obtain ⟨digits, spelled, _, hexadecimal⟩ := isHexData_toLowerCase input.valid
  obtain ⟨committed, start, _, _⟩ := isHexData_toLowerCase data.valid
  have lowered : ∀ c ∈ suffix, c.toLower = c := by
    intro c member
    have among : c ∈ (toLowerCase input.text).toList := appended ▸ List.mem_append_right _ member
    exact lowered_digits among
  rw [spelled, start, String.toList_ofList, String.toList_ofList, List.cons_append, List.cons_append] at appended
  have tail : digits = committed ++ suffix := (List.cons.inj (List.cons.inj appended).2).2
  have valid : isHex 40 (String.ofList ('0' :: 'x' :: suffix)) = true := by
    rw [isHex_ofList, Bool.and_eq_true, List.all_eq_true]
    exact ⟨by rw [long]; rfl, fun c member => hexadecimal c (tail ▸ List.mem_append_right _ member)⟩
  refine ⟨_, by rw [getAddress, dif_pos valid], ?_⟩
  simp only [toLowerCase, String.toList_ofList, List.map_cons, List.drop_succ_cons, List.drop_zero]
  exact (List.map_congr_left lowered).trans (List.map_id suffix)

theorem address_digits (address : Address) :
    (address.text.toList.drop 2).length = forwardedSenderHexLength ∧
      address.text.toList = '0' :: 'x' :: address.text.toList.drop 2 := by
  obtain ⟨valid, _⟩ := address.valid
  unfold isHex at valid
  split at valid
  · rename_i rest spelled
    simp only [Bool.and_eq_true, beq_iff_eq] at valid
    rw [spelled]
    exact ⟨valid.1, rfl⟩
  · cases valid

theorem getAddress_text (address : Address) : getAddress address.text = some address := by
  rw [getAddress, dif_pos address.valid.1, Option.some.injEq]
  cases address with
  | mk text valid => simp only [valid.2]

theorem getAddress_digits (address : Address) :
    getAddress (String.ofList ('0' :: 'x' :: address.text.toList.drop 2)) = some address := by
  rw [← (address_digits address).2, String.ofList_toList, getAddress_text]

theorem any_sponsor {sender : Address} :
    sponsor.any (fun other => decide (sender = other)) = decide (sponsor = some sender) := by
  cases sponsor with
  | none => rfl
  | some other => simp [eq_comm]

theorem executesCommittedData_some : executesCommittedData call data sponsor = some executed ↔
    (toLowerCase call.input.text = toLowerCase data.text ∧ executed = ⟨false⟩) ∨
    ∃ sender : Address, call.sender = some FORWARDER ∧
      (toLowerCase call.input.text).toList = (toLowerCase data.text).toList ++ sender.text.toList.drop 2 ∧
      executed = ⟨decide (sponsor = some sender)⟩ := by
  simp only [executesCommittedData]
  split
  · rename_i same
    have longer : ∀ sender : Address, (toLowerCase call.input.text).toList ≠
        (toLowerCase data.text).toList ++ sender.text.toList.drop 2 := by
      intro sender appended
      have lengths := congrArg List.length appended
      rw [same, List.length_append, (address_digits sender).1] at lengths
      exact absurd lengths (by simp [forwardedSenderHexLength])
    rw [Option.some.injEq, eq_comm]
    constructor
    · intro found
      exact Or.inl ⟨String.toList_inj.mp same, found⟩
    · rintro (⟨_, found⟩ | ⟨sender, _, appended, _⟩)
      · exact found
      · exact absurd appended (longer sender)
  · rename_i differs
    have differs : toLowerCase call.input.text ≠ toLowerCase data.text := fun same => differs (by rw [same])
    split
    · rename_i refused
      simp only [Bool.or_eq_true, decide_eq_true_eq, Bool.not_eq_true'] at refused
      constructor
      · nofun
      · rintro (⟨same, _⟩ | ⟨sender, forwarder, appended, _⟩)
        · exact absurd same differs
        · obtain (other | length) | other := refused
          · exact absurd forwarder other
          · rw [appended, List.length_append, (address_digits sender).1] at length
            exact absurd rfl length
          · rw [appended, List.isPrefixOf_iff_prefix.mpr (List.prefix_append ..)] at other
            cases other
    · rename_i accepted
      simp only [Bool.or_eq_true, decide_eq_true_eq, Bool.not_eq_true', not_or, Bool.not_eq_false, Decidable.not_not]
        at accepted
      obtain ⟨⟨forwarder, length⟩, starts⟩ := accepted
      obtain ⟨suffix, appended⟩ := List.isPrefixOf_iff_prefix.mp starts
      rw [← appended, List.length_append, Nat.add_left_cancel_iff] at length
      obtain ⟨sender, read, digits⟩ := appended_address appended.symm length
      simp only [← appended, List.drop_left, read, Option.some.injEq, any_sponsor]
      constructor
      · rintro rfl
        exact Or.inr ⟨sender, forwarder, by rw [digits], rfl⟩
      · rintro (⟨same, _⟩ | ⟨other, _, ending, rfl⟩)
        · exact absurd same differs
        · have ending : suffix = other.text.toList.drop 2 := List.append_cancel_left ending
          have same := getAddress_digits other
          rw [← ending, read, Option.some.injEq] at same
          rw [same]

/-- A frame shows something exactly when it ran and is the committed call. -/
theorem executedCall_some {pending : Pending} : executedCall expected sponsor pending = some executed ↔
    pending.failed = false ∧ ∃ sender, Executes expected pending.call sender ∧
      executed = ⟨sender.any (fun sender => sponsor = some sender)⟩ := by
  unfold executedCall
  split
  · rename_i ran
    simp only [Bool.and_eq_true, Bool.not_eq_true', decide_eq_true_eq] at ran
    obtain ⟨⟨ran, type⟩, target⟩ := ran
    rw [executesCommittedData_some]
    constructor
    · rintro (⟨same, rfl⟩ | ⟨sender, forwarder, appended, rfl⟩)
      · exact ⟨ran, none, .direct type target same, rfl⟩
      · exact ⟨ran, some sender, .forwarded type target forwarder appended, rfl⟩
    · rintro ⟨_, sender, executes, rfl⟩
      cases executes with
      | direct _ _ same => exact Or.inl ⟨same, rfl⟩
      | @forwarded sender _ _ forwarder appended => exact Or.inr ⟨sender, forwarder, appended, rfl⟩
  · rename_i refused
    constructor
    · nofun
    · rintro ⟨ran, sender, executes, _⟩
      have shown : toUpperCase pending.call.type = "CALL" ∧ pending.call.target = expected.target := by
        cases executes with
        | direct type target _ => exact ⟨type, target⟩
        | forwarded type target _ _ => exact ⟨type, target⟩
      exact absurd (by simp [ran, shown.1, shown.2]) refused

theorem failed_false {pending : Pending} :
    pending.failed = false ↔ pending.ancestorFailed = false ∧ pending.call.error = none := by
  rw [Pending.failed, Bool.or_eq_false_iff, Option.isSome_eq_false_iff, Option.isNone_iff_eq_none]

theorem under_iff {above below : Pending} : pendingCalls.Under above below ↔
    below.call ∈ above.call.calls ∧ below.ancestorFailed = above.failed := by
  unfold Forest.Under pendingCalls
  rw [List.mem_reverse, List.mem_map]
  constructor
  · rintro ⟨child, member, rfl⟩
    exact ⟨member, rfl⟩
  · rintro ⟨member, flag⟩
    exact ⟨below.call, member, by rw [← flag]⟩

theorem reached_runs {above below : Pending} (path : Relation.ReflTransGen pendingCalls.Under above below)
    (ran : below.failed = false) : above.failed = false ∧ Runs above.call below.call := by
  induction path using Relation.ReflTransGen.head_induction_on with
  | refl => exact ⟨ran, .root (failed_false.mp ran).2⟩
  | @head above middle step _ ih =>
    obtain ⟨running, runs⟩ := ih
    obtain ⟨member, flag⟩ := under_iff.mp step
    have above : above.failed = false := flag ▸ (failed_false.mp running).1
    exact ⟨above, .under (failed_false.mp above).2 member runs⟩

theorem runs_reached (runs : Runs root frame) :
    Relation.ReflTransGen pendingCalls.Under ⟨root, false⟩ ⟨frame, false⟩ ∧ frame.error = none := by
  induction runs with
  | root ran => exact ⟨.refl, ran⟩
  | @under call child frame ran member _ ih =>
    have step : pendingCalls.Under ⟨call, false⟩ ⟨child, false⟩ :=
      under_iff.mpr ⟨member, (failed_false.mpr ⟨rfl, ran⟩).symm⟩
    exact ⟨.head step ih.1, ih.2⟩

theorem search_runs (held : pendingCalls.search (executedCall expected sponsor) [⟨root, false⟩] = some executed) :
    ∃ frame sender, Runs root frame ∧ Executes expected frame sender ∧
      executed = ⟨sender.any (fun sender => sponsor = some sender)⟩ := by
  obtain ⟨start, member, reached, path, shown⟩ := Forest.search_found held
  cases List.mem_singleton.mp member
  obtain ⟨ran, sender, executes, outcome⟩ := executedCall_some.mp shown
  exact ⟨reached.call, sender, (reached_runs path ran).2, executes, outcome⟩

/-- For every trace within the limits: the search accepts exactly when some frame that ran is the committed call, and says
forwarded only of a frame whose appended sender is the sponsor. -/
theorem committedCall_iff_executes (reads : Reads trace root) (shallow : root.depth ≤ maxTraceDepth)
    (few : root.frames ≤ maxTraceFrames) :
    ∃ outcome, committedCall trace expected sponsor = .ok outcome ∧
      (outcome.isSome ↔ ∃ frame sender, Runs root frame ∧ Executes expected frame sender) ∧
      (outcome = some ⟨true⟩ → ∃ frame sender, Runs root frame ∧ Executes expected frame (some sender) ∧
        sponsor = some sender) := by
  have parsed : traceCall (maxTraceDepth + 1) trace 0 = .ok (root, root.frames) :=
    traceCall_ok.mpr ⟨reads, Nat.lt_succ_of_le shallow, (Nat.zero_add _).symm, few⟩
  refine ⟨_, bind_run parsed rfl, ⟨fun held => ?_, ?_⟩, fun held => ?_⟩
  · obtain ⟨executed, held⟩ := Option.isSome_iff_exists.mp held
    obtain ⟨frame, sender, runs, executes, _⟩ := search_runs held
    exact ⟨frame, sender, runs, executes⟩
  · rintro ⟨frame, sender, runs, executes⟩
    obtain ⟨path, ran⟩ := runs_reached runs
    refine Forest.search_isSome.mpr ⟨_, path, ?_⟩
    rw [executedCall_some.mpr ⟨failed_false.mpr ⟨rfl, ran⟩, sender, executes, rfl⟩]
    rfl
  · obtain ⟨frame, sender, runs, executes, forwarded⟩ := search_runs held
    obtain ⟨sender, rfl, paired⟩ := (Option.any_eq_true ..).mp (congrArg VerifiedDeployment.forwarded forwarded).symm
    exact ⟨frame, sender, runs, executes, of_decide_eq_true paired⟩

/-- A router whose first call, of the committed data itself, reverts, and whose second is the forwarder's. -/
def routedTrace (target committed sender : String) : Json :=
  .object [("type", .text "CALL"), ("to", .text FORWARDER.text), ("input", .text "0x"), ("calls", .array [
    .object [("type", .text "CALL"), ("to", .text target), ("input", .text committed), ("error", .text "execution reverted")],
    .object [("type", .text "call"), ("from", .text FORWARDER.text), ("to", .text target),
      ("input", .text (committed ++ String.ofList (sender.toList.drop 2)))]])]

def routedCall : DeploymentCall := ⟨10, ⟨"0x6017d1fba9dc279bfa0b03fd931c22e242ab3691", by decide⟩, ⟨"0xC0FFEE00", by decide⟩⟩

def routedSender : Address := ⟨"0x4e1dcf7ad4e460cfd30791ccc4f9c8a4f820ec67", by decide⟩

theorem committedCall_iff_executes_sample : ∃ outcome,
    committedCall (routedTrace routedCall.target.text routedCall.data.text routedSender.text) routedCall (some routedSender) =
      .ok outcome ∧ outcome.isSome := by
  have ran : (traceCall (maxTraceDepth + 1) (routedTrace routedCall.target.text routedCall.data.text routedSender.text)
      0).toOption.map (fun parsed => decide (parsed.1.error = none ∧ ∃ frame ∈ parsed.1.calls, frame.error = none ∧
        toUpperCase frame.type = "CALL" ∧ frame.target = routedCall.target ∧ frame.sender = some FORWARDER ∧
        (toLowerCase frame.input.text).toList =
          (toLowerCase routedCall.data.text).toList ++ routedSender.text.toList.drop 2)) = some true := by decide +kernel
  obtain ⟨⟨root, count⟩, parsed, shown⟩ := Option.map_eq_some_iff.mp ran
  obtain ⟨reads, shallow, total, few⟩ := traceCall_ok.mp (toOption_ok parsed)
  obtain ⟨router, frame, member, ran, type, target, forwarder, input⟩ := of_decide_eq_true shown
  have frames : root.frames ≤ maxTraceFrames := by omega
  obtain ⟨outcome, searched, accepted, _⟩ : ∃ outcome, committedCall (routedTrace routedCall.target.text routedCall.data.text
      routedSender.text) routedCall (some routedSender) = .ok outcome ∧ (outcome.isSome ↔ _) ∧ _ :=
    committedCall_iff_executes reads (Nat.le_of_lt_succ shallow) frames
  exact ⟨outcome, searched, accepted.mpr ⟨frame, _, .under router member (.root ran), .forwarded type target forwarder input⟩⟩

variable {ν : Type} {decodeCreate : ν → Option Nat} {chains : Nat → Option (ChainRpcConfig × Reader ν)}
variable {claim : DeploymentClaim}

theorem verify_executed (accepted : verify decodeCreate chains sponsor claim = .ok executed) :
    ∃ config reader transaction, chains claim.chainId = some (config, reader) ∧ reader.transaction = some transaction ∧
      ((transaction.direct claim.call = true ∧ executed = ⟨false⟩) ∨
        ∃ trace root frame sender, reader.trace = .ok trace ∧ Reads trace root ∧ Runs root frame ∧
          Executes claim.call frame sender ∧ executed = ⟨sender.any (fun sender => sponsor = some sender)⟩) := by
  unfold verify at accepted
  obtain ⟨⟨config, reader⟩, chosen, accepted⟩ := ok_bind accepted
  obtain ⟨_, _, accepted⟩ := ok_bind accepted
  obtain ⟨transaction, known, accepted⟩ := ok_bind accepted
  have known : reader.transaction = some transaction := by
    cases held : reader.transaction with
    | none => rw [held] at known; cases known
    | some other => rw [held] at known; cases known; rfl
  have chosen : chains claim.chainId = some (config, reader) := by
    unfold configured at chosen
    split at chosen
    · cases chosen
    · rename_i found
      split at chosen
      · cases chosen
      · split at chosen
        · cases chosen
        · cases chosen
          exact found
  refine ⟨config, reader, transaction, chosen, known, ?_⟩
  split at accepted
  · rename_i direct
    cases accepted
    exact Or.inl ⟨direct, rfl⟩
  · obtain ⟨trace, traced, accepted⟩ := ok_bind accepted
    obtain ⟨outcome, searched, accepted⟩ := ok_bind accepted
    have traced : reader.trace = .ok trace := by
      unfold Reader.traced at traced
      split at traced
      · rename_i held
        cases traced
        exact held
      · cases traced
    cases outcome with
    | none => cases accepted
    | some found =>
      cases accepted
      obtain ⟨⟨root, count⟩, parsed, found⟩ := ok_bind searched
      obtain ⟨frame, sender, runs, executes, outcome⟩ := search_runs (Except.ok.inj found)
      exact Or.inr ⟨trace, root, frame, sender, traced, (traceCall_ok.mp parsed).1, runs, executes, outcome⟩

end JBCenter.Verifier
