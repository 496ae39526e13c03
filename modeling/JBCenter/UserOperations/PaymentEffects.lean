import JBCenter.UserOperations.Semantics

/-! The logs of a verified payment: the effects of the plan, each once and in order, and no other. -/
namespace JBCenter.UserOperations.Semantics
open Rest

mutual

theorem copy_ok {maxBytes depth : Nat} {counted after : Counted} {result : Value} :
    ∀ value : Value, copy maxBytes counted depth value = some (result, after) → result = value.plain
  | .null, copied | .boolean _, copied => by
    iterate 2 obtain ⟨_, _, copied⟩ := some_bind copied
    cases copied
    rfl
  | .number _, copied | .bigint _, copied | .text _, copied => by
    obtain ⟨_, _, copied⟩ := some_bind copied
    obtain ⟨_, copied⟩ := guard_bind_some copied
    obtain ⟨_, _, copied⟩ := some_bind copied
    cases copied
    rfl
  | .array items, copied => by
    obtain ⟨entered, _, copied⟩ := some_bind copied
    obtain ⟨_, copied⟩ := guard_bind_some copied
    obtain ⟨_, _, copied⟩ := some_bind copied
    obtain ⟨⟨_, _⟩, inner, copied⟩ := some_bind copied
    cases copied
    exact congrArg Value.array (copyItems_ok items inner)
  | .object fields, copied => by
    obtain ⟨entered, _, copied⟩ := some_bind copied
    obtain ⟨_, copied⟩ := guard_bind_some copied
    obtain ⟨_, _, copied⟩ := some_bind copied
    obtain ⟨⟨_, _⟩, inner, copied⟩ := some_bind copied
    cases copied
    exact congrArg Value.object (copyFields_ok fields inner)

theorem copyItems_ok {maxBytes depth : Nat} {counted after : Counted} {result : List Value} :
    ∀ items : List Value, copyItems maxBytes counted depth items = some (result, after) → result = plainItems items
  | [], copied => by
    cases copied
    rfl
  | item :: items, copied => by
    obtain ⟨_, _, copied⟩ := some_bind copied
    obtain ⟨⟨first, _⟩, inner, copied⟩ := some_bind copied
    obtain ⟨⟨others, _⟩, tail, copied⟩ := some_bind copied
    cases copied
    exact congrArg₂ List.cons (copy_ok item inner) (copyItems_ok items tail)

theorem copyFields_ok {maxBytes depth : Nat} {counted after : Counted} {result : List (String × Value)} :
    ∀ fields : List (String × Value), copyFields maxBytes counted depth fields = some (result, after) →
      result = plainFields fields
  | [], copied => by
    cases copied
    rfl
  | (key, item) :: fields, copied => by
    obtain ⟨_, _, copied⟩ := some_bind copied
    obtain ⟨⟨first, _⟩, inner, copied⟩ := some_bind copied
    obtain ⟨⟨others, _⟩, tail, copied⟩ := some_bind copied
    cases copied
    exact congrArg₂ List.cons (congrArg (Prod.mk key) (copy_ok item inner)) (copyFields_ok fields tail)

end

theorem snapshot_ok {input : Value} {maxBytes : Nat} {result : Value} (taken : snapshot input maxBytes = some result) :
    result = input.plain := by
  obtain ⟨⟨copied, _⟩, inner, taken⟩ := some_bind taken
  obtain ⟨_, taken⟩ := guard_bind_some taken
  cases taken
  exact copy_ok input inner

theorem same_iff {a b : Text} : same a b = true ↔ lower a = lower b := decide_eq_true_iff

theorem lower_lower (text : Text) : lower (lower text) = lower text := by
  rw [lower, lower, List.map_map]
  exact List.map_congr_left (fun c _ => toLower_toLower c)

theorem addressWord_congr {a b : Text} (alike : same a b = true) : addressWord a = addressWord b := by
  rw [addressWord, addressWord, same_iff.mp alike]

theorem lower_address {text : Text} (valid : isHexText 40 text = true) :
    ∃ digits, lower text = '0' :: 'x' :: digits ∧ lower digits = digits := by
  unfold isHexText at valid
  split at valid
  · rename_i rest
    exact ⟨lower rest, rfl, lower_lower rest⟩
  · cases valid

theorem addressWord_inj {a b : Text} (first : isHexText 40 a = true) (second : isHexText 40 b = true) :
    same (addressWord a) (addressWord b) = true ↔ same a b = true := by
  obtain ⟨digits, spelled, lowered⟩ := lower_address first
  obtain ⟨others, written, kept⟩ := lower_address second
  have word : ∀ digits : Text, lower digits = digits →
      lower ('0' :: 'x' :: (List.replicate 24 '0' ++ digits)) = '0' :: 'x' :: (List.replicate 24 '0' ++ digits) := by
    intro digits lowered
    have zeros : lower (List.replicate 24 '0') = List.replicate 24 '0' := rfl
    calc lower ('0' :: 'x' :: (List.replicate 24 '0' ++ digits))
        = '0' :: 'x' :: (lower (List.replicate 24 '0') ++ lower digits) :=
          congrArg (fun text => '0' :: 'x' :: text) List.map_append
      _ = '0' :: 'x' :: (List.replicate 24 '0' ++ digits) := by rw [zeros, lowered]
  rw [same_iff, same_iff, addressWord, addressWord, spelled, written, List.drop_succ_cons, List.drop_succ_cons, List.drop_zero,
    List.drop_succ_cons, List.drop_succ_cons, List.drop_zero, word digits lowered, word others kept]
  simp only [List.cons.injEq, true_and, List.append_cancel_left_eq]

theorem isAddress_hex {codec : PaymentCodec} {text : Text} (valid : isAddress codec text = true) :
    isHexText 40 text = true :=
  (Bool.and_eq_true _ _ ▸ valid).1

theorem sameTopics_topic {log : EventLog} {expected : List Text} (alike : sameTopics log.topics expected = true) {i : Nat}
    {word : Text} (found : expected[i]? = some word) : same (log.topic i) word = true := by
  rw [sameTopics, Bool.and_eq_true, beq_iff_eq, List.all_eq_true] at alike
  obtain ⟨inside, rfl⟩ := List.getElem?_eq_some_iff.mp found
  have within : i < log.topics.length := alike.1 ▸ inside
  have paired : (log.topics[i], expected[i]) ∈ List.zip log.topics expected := by
    have short : i < (List.zip log.topics expected).length := by
      rw [List.length_zip]
      omega
    have member := List.getElem_mem short
    rwa [List.getElem_zip] at member
  rw [EventLog.topic, List.getElem?_eq_getElem within, Option.getD_some]
  exact alike.2 _ paired

section
variable (payment : WalletV6UsdcPayment)

/-- The logs that may show an effect of the payment: an approval of the account or a transfer out of it by the token, and a
payment by the terminal. -/
def concerns (log : EventLog) : Bool :=
  same log.emitter payment.token && (same (log.topic 0) approvalTopic || same (log.topic 0) transferTopic) &&
      same (log.topic 1) (addressWord payment.account) ||
    same log.emitter payment.terminal && same (log.topic 0) payTopic

/-- The account lets the terminal spend so much of the token. -/
def IsApproval (value : Nat) (log : EventLog) : Prop :=
  same log.emitter payment.token = true ∧
    sameTopics log.topics [approvalTopic, addressWord payment.account, addressWord payment.terminal] = true ∧
    same log.data (hexWord value) = true

/-- The paid amount of the token moves from the account to the terminal. -/
def IsTransfer (log : EventLog) : Prop :=
  same log.emitter payment.token = true ∧
    sameTopics log.topics [transferTopic, addressWord payment.account, addressWord payment.terminal] = true ∧
    same log.data (hexWord payment.amount) = true

/-- The terminal reports the payment. -/
def IsPay (codec : PaymentCodec) (log : EventLog) : Prop :=
  ∃ event data, same log.emitter payment.terminal = true ∧
    sameTopics log.topics [payTopic, hexWord event.rulesetId, hexWord event.rulesetCycleNumber,
      hexWord payment.projectId] = true ∧
    codec.encodePayData event = some data ∧ same data log.data = true ∧ same event.payer payment.account = true ∧
    same event.caller payment.account = true ∧ same event.beneficiary payment.beneficiary = true ∧
    event.amount = payment.amount ∧ event.memo = payment.memo ∧ same event.metadata payment.metadata = true

/-- The approvals of the plan, in order. -/
def expectedApprovals : List Nat :=
  (List.range payment.approvalStepIndexes.length).map
    (fun i => if payment.resetAllowance && i == 0 then 0 else payment.amount)

end

/-- An effect that the loop has noted. -/
inductive Entry where
  | approval (index value : Nat)
  | transfer (index : Nat)
  | pay (index : Nat)

namespace Entry

def index : Entry → Nat
  | approval index _ => index
  | transfer index => index
  | pay index => index

def approval? : Entry → Option (Nat × Nat)
  | approval index value => some (index, value)
  | _ => none

def transfer? : Entry → Option Nat
  | transfer index => some index
  | _ => none

def pay? : Entry → Option Nat
  | pay index => some index
  | _ => none

theorem perm (entries : List Entry) : entries.Perm ((entries.filterMap approval?).map (fun entry => approval entry.1 entry.2) ++
    ((entries.filterMap transfer?).map transfer ++ (entries.filterMap pay?).map pay)) := by
  induction entries with
  | nil => exact .nil
  | cons entry entries ih =>
    cases entry with
    | approval index value => exact ih.cons _
    | transfer index => exact (ih.cons _).trans List.perm_middle.symm
    | pay index =>
      refine (ih.cons (pay index)).trans ?_
      rw [← List.append_assoc]
      exact List.perm_middle.symm.trans (List.Perm.of_eq (List.append_assoc _ _ _))

theorem approval_index {entry : Entry} {found : Nat × Nat} (approved : entry.approval? = some found) :
    entry.index = found.1 := by
  cases entry with
  | approval index value =>
    cases approved
    rfl
  | transfer index => cases approved
  | pay index => cases approved

end Entry

section
variable {codec : PaymentCodec} {payment : WalletV6UsdcPayment} {scope : LogScope}

def Shows (codec : PaymentCodec) (payment : WalletV6UsdcPayment) : Entry → EventLog → Prop
  | .approval index value, log => log.index = index ∧ IsApproval payment value log
  | .transfer index, log => log.index = index ∧ IsTransfer payment log
  | .pay index, log => log.index = index ∧ IsPay payment codec log

def Noted (codec : PaymentCodec) (payment : WalletV6UsdcPayment) (logs : List EventLog) (before after : Scan) : Prop :=
  ∃ entries, List.Forall₂ (Shows codec payment) entries (logs.filter (concerns payment)) ∧
    after.approvals = before.approvals ++ entries.filterMap Entry.approval? ∧
    after.transfers = before.transfers ++ entries.filterMap Entry.transfer? ∧
    after.pays = before.pays ++ entries.filterMap Entry.pay?

theorem Noted.refl (scan : Scan) : Noted codec payment [] scan scan :=
  ⟨[], .nil, by simp, by simp, by simp⟩

theorem Noted.trans {first second : List EventLog} {before between after : Scan}
    (start : Noted codec payment first before between) (rest : Noted codec payment second between after) :
    Noted codec payment (first ++ second) before after := by
  obtain ⟨entries, shown, approvals, transfers, pays⟩ := start
  obtain ⟨more, others, approved, transferred, paid⟩ := rest
  refine ⟨entries ++ more, ?_, ?_, ?_, ?_⟩
  · rw [List.filter_append]
    exact List.rel_append shown others
  · rw [approved, approvals, List.filterMap_append, List.append_assoc]
  · rw [transferred, transfers, List.filterMap_append, List.append_assoc]
  · rw [paid, pays, List.filterMap_append, List.append_assoc]

theorem Noted.none {log : EventLog} {before after : Scan} (aside : concerns payment log = false)
    (approvals : after.approvals = before.approvals) (transfers : after.transfers = before.transfers)
    (pays : after.pays = before.pays) : Noted codec payment [log] before after := by
  refine ⟨[], ?_, by simp [approvals], by simp [transfers], by simp [pays]⟩
  rw [List.filter_cons_of_neg (by rw [aside]; decide), List.filter_nil]
  exact .nil

theorem Noted.one {log : EventLog} {before after : Scan} (entry : Entry) (concerned : concerns payment log = true)
    (shown : Shows codec payment entry log) (approvals : after.approvals = before.approvals ++ entry.approval?.toList)
    (transfers : after.transfers = before.transfers ++ entry.transfer?.toList)
    (pays : after.pays = before.pays ++ entry.pay?.toList) : Noted codec payment [log] before after := by
  refine ⟨[entry], ?_, ?_, ?_, ?_⟩
  · rw [List.filter_cons_of_pos concerned, List.filter_nil]
    exact .cons shown .nil
  · cases entry <;> exact approvals
  · cases entry <;> exact transfers
  · cases entry <;> exact pays

/-- The parties of a payment that was recognized. -/
structure Distinct (payment : WalletV6UsdcPayment) : Prop where
  apart : same payment.token payment.terminal = false
  account : ∃ text, isHexText 40 text = true ∧ same payment.account text = true

theorem Distinct.emitter (distinct : Distinct payment) {emitter : Text} (token : same emitter payment.token = true) :
    same emitter payment.terminal = false := by
  rw [← Bool.not_eq_true]
  intro terminal
  have alike := same_iff.mpr ((same_iff.mp token).symm.trans (same_iff.mp terminal))
  rw [distinct.apart] at alike
  cases alike

theorem concerns_token (distinct : Distinct payment) {log : EventLog} {selector first second : Text}
    (emitter : same log.emitter payment.token = true) (selected : selector = approvalTopic ∨ selector = transferTopic)
    (valid : isAddress codec first = true)
    (alike : sameTopics log.topics [selector, addressWord first, addressWord second] = true) :
    concerns payment log = same first payment.account := by
  have name := sameTopics_topic alike (i := 0) rfl
  have party := sameTopics_topic alike (i := 1) rfl
  obtain ⟨text, hexadecimal, spelled⟩ := distinct.account
  have same_word : same (log.topic 1) (addressWord payment.account) = same first payment.account := by
    rw [Bool.eq_iff_iff, addressWord_congr spelled, same_iff (a := first), same_iff.mp spelled, ← same_iff,
      ← addressWord_inj (isAddress_hex valid) hexadecimal, same_iff, same_iff, same_iff.mp party]
  have named : (same (log.topic 0) approvalTopic || same (log.topic 0) transferTopic) = true := by
    obtain rfl | rfl := selected
    · rw [name, Bool.true_or]
    · rw [name, Bool.or_true]
  rw [concerns, emitter, named, same_word, distinct.emitter emitter, Bool.true_and, Bool.true_and, Bool.false_and,
    Bool.or_false]

theorem scanApproval_noted (distinct : Distinct payment) {log : EventLog} {scan next : Scan}
    (emitter : same log.emitter payment.token = true) (ran : scanApproval codec payment log scan = some next) :
    Noted codec payment [log] scan next ∧ next.previous = scan.previous := by
  obtain ⟨event, _, ran⟩ := some_bind ran
  obtain ⟨topics, encoded, ran⟩ := some_bind ran
  obtain ⟨valid, encoded⟩ := guard_bind_some encoded
  cases encoded
  obtain ⟨data, word, ran⟩ := some_bind ran
  obtain ⟨_, word⟩ := guard_bind_some word
  cases word
  obtain ⟨alike, ran⟩ := guard_bind_some ran
  rw [Bool.and_eq_true] at valid alike
  have concerned := concerns_token distinct emitter (Or.inl rfl) valid.1 alike.1
  split at ran
  · rename_i owner
    obtain ⟨spender, ran⟩ := guard_bind_some ran
    cases ran
    refine ⟨.one (.approval log.index event.value) (concerned.trans owner) ⟨rfl, emitter, ?_, alike.2⟩ rfl
      (List.append_nil _).symm (List.append_nil _).symm, rfl⟩
    rw [← addressWord_congr owner, ← addressWord_congr spender]
    exact alike.1
  · rename_i stranger
    cases ran
    exact ⟨.none (concerned.trans (Bool.eq_false_of_not_eq_true stranger)) rfl rfl rfl, rfl⟩

theorem scanTransfer_noted (distinct : Distinct payment) {log : EventLog} {scan next : Scan}
    (emitter : same log.emitter payment.token = true) (ran : scanTransfer codec payment log scan = some next) :
    Noted codec payment [log] scan next ∧ next.previous = scan.previous := by
  obtain ⟨event, _, ran⟩ := some_bind ran
  obtain ⟨topics, encoded, ran⟩ := some_bind ran
  obtain ⟨valid, encoded⟩ := guard_bind_some encoded
  cases encoded
  obtain ⟨data, word, ran⟩ := some_bind ran
  obtain ⟨_, word⟩ := guard_bind_some word
  cases word
  obtain ⟨alike, ran⟩ := guard_bind_some ran
  rw [Bool.and_eq_true] at valid alike
  have concerned := concerns_token distinct emitter (Or.inr rfl) valid.1 alike.1
  split at ran
  · rename_i sender
    obtain ⟨⟨receiver, amount⟩, ran⟩ := guard_bind_some ran
    cases ran
    refine ⟨.one (.transfer log.index) (concerned.trans sender) ⟨rfl, emitter, ?_, amount ▸ alike.2⟩
      (List.append_nil _).symm rfl (List.append_nil _).symm, rfl⟩
    rw [← addressWord_congr sender, ← addressWord_congr receiver]
    exact alike.1
  · rename_i stranger
    cases ran
    exact ⟨.none (concerned.trans (Bool.eq_false_of_not_eq_true stranger)) rfl rfl rfl, rfl⟩

theorem scanPay_noted {log : EventLog} {scan next : Scan} (emitter : same log.emitter payment.terminal = true)
    (selected : same (log.topic 0) payTopic = true) (ran : scanPay codec payment log scan = some next) :
    Noted codec payment [log] scan next ∧ next.previous = scan.previous := by
  obtain ⟨event, _, ran⟩ := some_bind ran
  obtain ⟨topics, encoded, ran⟩ := some_bind ran
  obtain ⟨_, encoded⟩ := guard_bind_some encoded
  cases encoded
  obtain ⟨⟨alike, projectId, payer, caller, beneficiary, amount, memo, metadata⟩, ran⟩ := guard_bind_some ran
  obtain ⟨data, word, ran⟩ := some_bind ran
  obtain ⟨written, ran⟩ := guard_bind_some ran
  cases ran
  have concerned : concerns payment log = true := by
    rw [concerns, emitter, selected, Bool.and_self, Bool.or_true]
  rw [projectId] at alike
  exact ⟨.one (.pay log.index) concerned ⟨rfl, event, data, emitter, alike, word, written, payer, caller, beneficiary,
    amount, memo, metadata⟩ (List.append_nil _).symm (List.append_nil _).symm rfl, rfl⟩

theorem scanLog_noted (distinct : Distinct payment) {input : Value} {scan next : Scan}
    (ran : scanLog codec payment scope scan input = some next) :
    ∃ log, readLog codec scope input = some log ∧ Noted codec payment [log] scan next ∧
      scan.previous.all (· < log.index) = true ∧ next.previous = some log.index := by
  obtain ⟨log, read, ran⟩ := some_bind ran
  obtain ⟨advanced, stepped, ran⟩ := some_bind ran
  obtain ⟨⟨above, _⟩, stepped⟩ := guard_bind_some stepped
  cases stepped
  have passed : ∀ {between after : Scan}, between.approvals = scan.approvals → between.transfers = scan.transfers →
      between.pays = scan.pays → Noted codec payment [log] between after → Noted codec payment [log] scan after := by
    rintro between after approvals transfers pays ⟨entries, shown, noted⟩
    rw [approvals, transfers, pays] at noted
    exact ⟨entries, shown, noted⟩
  suffices Noted codec payment [log] scan next ∧ next.previous = some log.index from ⟨log, read, this.1, above, this.2⟩
  split at ran
  · rename_i emitter
    split at ran
    · obtain ⟨noted, index⟩ := scanApproval_noted distinct emitter ran
      exact ⟨passed rfl rfl rfl noted, index⟩
    · rename_i approval
      split at ran
      · obtain ⟨noted, index⟩ := scanTransfer_noted distinct emitter ran
        exact ⟨passed rfl rfl rfl noted, index⟩
      · rename_i transfer
        cases ran
        refine ⟨.none ?_ rfl rfl rfl, rfl⟩
        rw [Bool.not_eq_true] at approval transfer
        rw [concerns, approval, transfer, distinct.emitter emitter, Bool.or_self, Bool.and_false, Bool.false_and,
          Bool.false_and, Bool.or_self]
  · rename_i emitter
    split at ran
    · rename_i pays
      rw [Bool.and_eq_true] at pays
      obtain ⟨noted, index⟩ := scanPay_noted pays.1 pays.2 ran
      exact ⟨passed rfl rfl rfl noted, index⟩
    · rename_i other
      cases ran
      refine ⟨.none ?_ rfl rfl rfl, rfl⟩
      rw [Bool.not_eq_true] at emitter other
      rw [concerns, emitter, other, Bool.false_and, Bool.false_and, Bool.or_self]

theorem scan_noted (distinct : Distinct payment) {inputs : List Value} {scan final : Scan}
    (ran : inputs.foldlM (scanLog codec payment scope) scan = some final) :
    ∃ logs, inputs.mapM (readLog codec scope) = some logs ∧ Noted codec payment logs scan final ∧
      (logs.map EventLog.index).Pairwise (· < ·) ∧ ∀ log ∈ logs, scan.previous.all (· < log.index) = true := by
  induction inputs generalizing scan with
  | nil =>
    cases ran
    exact ⟨[], rfl, .refl _, .nil, fun _ member => absurd member (by simp)⟩
  | cons input inputs ih =>
    rw [List.foldlM_cons] at ran
    obtain ⟨next, stepped, ran⟩ := some_bind ran
    obtain ⟨log, read, noted, above, index⟩ := scanLog_noted distinct stepped
    obtain ⟨logs, others, rest, ordered, higher⟩ := ih ran
    have after : ∀ other ∈ logs, log.index < other.index := by
      intro other member
      have later := higher other member
      rw [index, Option.all_some, decide_eq_true_eq] at later
      exact later
    refine ⟨log :: logs, ?_, noted.trans rest, ?_, ?_⟩
    · rw [List.mapM_cons, read, others]
      rfl
    · rw [List.map_cons, List.pairwise_cons, List.forall_mem_map]
      exact ⟨after, ordered⟩
    · intro other member
      obtain rfl | member := List.mem_cons.mp member
      · exact above
      · cases known : scan.previous with
        | none => rfl
        | some previous =>
          rw [known, Option.all_some, decide_eq_true_eq] at above
          rw [Option.all_some, decide_eq_true_eq]
          exact above.trans (after other member)

theorem concludes_ok {scan : Scan} {evidence : PaymentEvidence} {entries : List Entry}
    (approvals : scan.approvals = entries.filterMap Entry.approval?)
    (transfers : scan.transfers = entries.filterMap Entry.transfer?)
    (pays : scan.pays = entries.filterMap Entry.pay?) (ordered : (entries.map Entry.index).Pairwise (· < ·))
    (concluded : concludes payment scan = some evidence) :
    ∃ (approvals : List (Nat × Nat)) (transfer pay : Nat), approvals.map Prod.snd = expectedApprovals payment ∧
      entries = approvals.map (fun entry => Entry.approval entry.1 entry.2) ++ [.transfer transfer, .pay pay] ∧
      evidence.payment = payment.toPaymentFacts ∧
      evidence.assignments.flatMap EffectAssignment.logIndexes = approvals.map Prod.fst ++ [transfer, pay] := by
  unfold concludes at concluded
  split at concluded
  · rename_i transfer pay once paid
    obtain ⟨⟨count, before⟩, concluded⟩ := guard_bind_some concluded
    obtain ⟨expected, concluded⟩ := guard_bind_some concluded
    cases concluded
    rw [List.all_eq_true] at expected
    have holds : ∀ i (inside : i < scan.approvals.length),
        scan.approvals[i].2 = (if payment.resetAllowance && i == 0 then 0 else payment.amount) ∧
          scan.approvals[i].1 < transfer := by
      intro i inside
      have found := expected (scan.approvals[i], i) (List.mem_zipIdx_iff_getElem?.mpr (List.getElem?_eq_getElem inside))
      simpa only [Bool.and_eq_true, beq_iff_eq, decide_eq_true_eq] using found
    refine ⟨scan.approvals, transfer, pay, ?_, ?_, rfl, ?_⟩
    · unfold expectedApprovals
      apply List.ext_getElem
      · rw [List.length_map, List.length_map, List.length_range, count]
      · intro i inside _
        rw [List.getElem_map, List.getElem_map, List.getElem_range]
        exact (holds i (by simpa using inside)).1
    · have kinds := Entry.perm entries
      rw [← approvals, ← transfers, ← pays, once, paid] at kinds
      have increasing : entries.Pairwise (fun a b => a.index < b.index) := List.pairwise_map.mp ordered
      refine List.Perm.eq_of_pairwise (fun a b _ _ less more => ?_) increasing ?_ kinds
      · exact absurd (less.trans more) (lt_irrefl _)
      · have sorted : (scan.approvals.map (fun entry => Entry.approval entry.1 entry.2)).Pairwise
            (fun a b => a.index < b.index) := by
          rw [approvals, List.pairwise_map]
          refine (List.pairwise_map.mp ordered).filterMap _ fun first second less approval found other later => ?_
          rw [Entry.approval_index found, Entry.approval_index later] at less
          exact less
        refine List.pairwise_append.mpr ⟨sorted, List.pairwise_pair.mpr before, ?_⟩
        simp only [List.forall_mem_map, List.forall_mem_cons]
        intro entry member
        obtain ⟨i, inside, rfl⟩ := List.getElem_of_mem member
        exact ⟨(holds i inside).2, (holds i inside).2.trans before, fun _ absent => absurd absent List.not_mem_nil⟩
    · have indexes : ∀ steps : List Nat, scan.approvals.length ≤ steps.length →
          ((List.zip steps scan.approvals).map (fun entry =>
            ({ stepIndex := entry.1, logIndexes := [entry.2.1] } : EffectAssignment))).flatMap EffectAssignment.logIndexes =
              scan.approvals.map Prod.fst := by
        intro steps long
        rw [List.flatMap_map, ← List.map_eq_flatMap]
        calc (List.zip steps scan.approvals).map (fun entry => entry.2.1)
            = ((List.zip steps scan.approvals).map Prod.snd).map Prod.fst := (List.map_map ..).symm
          _ = scan.approvals.map Prod.fst := by rw [List.map_snd_zip long]
      rw [List.flatMap_append, indexes _ count.le]
      rfl
  · cases concluded

end

theorem address_hex {codec : PaymentCodec} {value : Option Value} {result : Text} (read : address codec value = some result) :
    ∃ text, isHexText 40 text = true ∧ same result text = true := by
  obtain ⟨text, _, read⟩ := some_bind read
  obtain ⟨valid, read⟩ := guard_bind_some read
  cases read
  rw [Bool.and_eq_true] at valid
  exact ⟨text, isAddress_hex valid.1, same_iff.mpr (codec.checksum_letters text (isAddress_hex valid.1))⟩

def WalletV6UsdcPayment.parties (payment : WalletV6UsdcPayment) : Parties :=
  { token := payment.token, terminal := payment.terminal, account := payment.account }

/-- What is known of a plan that was recognized: its last call makes the payment, and each call before it approves what is
expected at its place. -/
structure Recognized (codec : PaymentCodec) (plan : Value) (payment : WalletV6UsdcPayment) : Prop where
  distinct : Distinct payment
  calls : ∃ calls last args beneficiary,
    asItems (property (property (some plan.plain) "draft") "calls") = some calls ∧ calls.getLast? = some last ∧
    readPay codec payment.parties payment.projectId last = some (args, beneficiary) ∧ args.amount = payment.amount ∧
    beneficiary = payment.beneficiary ∧ args.memo = payment.memo ∧ args.metadata = payment.metadata ∧
    List.Forall₂ (fun call expected => approves codec payment.parties call expected = true) calls.dropLast
      (expectedApprovals payment)
  approvals : expectedApprovals payment = [] ∨ expectedApprovals payment = [payment.amount] ∨
    expectedApprovals payment = [0, payment.amount]

theorem expectedApprovals_eq {payment : WalletV6UsdcPayment} {calls : Nat}
    (steps : payment.approvalStepIndexes = List.range (calls - 1)) (reset : payment.resetAllowance = (calls == 3)) :
    expectedApprovals payment = allowances calls payment.amount := by
  rw [expectedApprovals, steps, List.length_range, allowances, reset]
  refine List.map_congr_left fun i _ => ?_
  simp only [Bool.and_eq_true, beq_iff_eq]

theorem allowances_shape {calls amount : Nat} (some_calls : 1 ≤ calls) (three : calls ≤ 3) :
    allowances calls amount = [] ∨ allowances calls amount = [amount] ∨ allowances calls amount = [0, amount] := by
  interval_cases calls
  · exact Or.inl rfl
  · exact Or.inr (Or.inl rfl)
  · exact Or.inr (Or.inr rfl)

theorem recognize_ok {codec : PaymentCodec} {plan stepIndexes config : Value} {payment : WalletV6UsdcPayment}
    (recognized : recognizeWalletV6UsdcPayment codec plan stepIndexes config = some payment) :
    Recognized codec plan payment := by
  obtain ⟨document, taken, recognized⟩ := some_bind recognized
  obtain rfl := snapshot_ok taken
  obtain ⟨indexes, _, recognized⟩ := some_bind recognized
  obtain ⟨trusted, _, recognized⟩ := some_bind recognized
  obtain ⟨parties, named, recognized⟩ := some_bind recognized
  obtain ⟨calls, listed, recognized⟩ := some_bind recognized
  obtain ⟨⟨projectText, projectId⟩, _, recognized⟩ := some_bind recognized
  obtain ⟨_, recognized⟩ := guard_bind_some recognized
  obtain ⟨last, final, recognized⟩ := some_bind recognized
  obtain ⟨⟨args, beneficiary⟩, paid, recognized⟩ := some_bind recognized
  obtain ⟨approved, recognized⟩ := guard_bind_some recognized
  obtain ⟨_, recognized⟩ := guard_bind_some recognized
  cases recognized
  obtain ⟨_, named⟩ := guard_bind_some named
  obtain ⟨token, _, named⟩ := some_bind named
  obtain ⟨terminal, _, named⟩ := some_bind named
  obtain ⟨account, owner, named⟩ := some_bind named
  obtain ⟨apart, named⟩ := guard_bind_some named
  cases named
  obtain ⟨items, read, listed⟩ := some_bind listed
  obtain ⟨places, _, listed⟩ := some_bind listed
  obtain ⟨count, listed⟩ := guard_bind_some listed
  obtain ⟨_, listed⟩ := guard_bind_some listed
  cases listed
  have project : args.projectId = projectId := by
    obtain ⟨_, _, paid⟩ := some_bind paid
    obtain ⟨_, paid⟩ := guard_bind_some paid
    iterate 3 obtain ⟨_, _, paid⟩ := some_bind paid
    obtain ⟨_, paid⟩ := guard_bind_some paid
    obtain ⟨checks, paid⟩ := guard_bind_some paid
    obtain ⟨_, _, paid⟩ := some_bind paid
    cases paid
    exact checks.1
  obtain ⟨some_calls, three, _⟩ := count
  rw [List.all_eq_true] at approved
  rw [Bool.and_eq_true, Bool.and_eq_true, Bool.not_eq_true'] at apart
  refine ⟨⟨apart.1.1, address_hex owner⟩, ⟨calls, last, args, beneficiary, read, final,
    project.symm ▸ paid, rfl, rfl, rfl, rfl, ?_⟩,
    ?_⟩
  · rw [expectedApprovals_eq rfl rfl]
    refine List.forall₂_iff_zip.mpr ⟨?_, fun {call expected} member => approved (call, expected) member⟩
    rw [List.length_dropLast, allowances, List.length_map, List.length_range]
  · rw [expectedApprovals_eq rfl rfl]
    exact allowances_shape some_calls three

structure Effected (codec : PaymentCodec) (payment : WalletV6UsdcPayment) (logs approvals : List EventLog)
    (transfer pay : EventLog) : Prop where
  ordered : (logs.map EventLog.index).Pairwise (· < ·)
  complete : logs.filter (concerns payment) = approvals ++ [transfer, pay]
  approved : List.Forall₂ (IsApproval payment) (expectedApprovals payment) approvals
  transferred : IsTransfer payment transfer
  paid : IsPay payment codec pay

theorem shown_index {codec : PaymentCodec} {payment : WalletV6UsdcPayment} {entries : List Entry} {logs : List EventLog}
    (shown : List.Forall₂ (Shows codec payment) entries logs) : entries.map Entry.index = logs.map EventLog.index := by
  induction shown with
  | nil => rfl
  | @cons entry log entries logs first rest ih =>
    rw [List.map_cons, List.map_cons, ih]
    cases entry <;> exact congrArg (· :: _) first.1.symm

theorem shown_effects {codec : PaymentCodec} {payment : WalletV6UsdcPayment} {approvals : List (Nat × Nat)}
    {transfer pay : Nat} {logs : List EventLog}
    (shown : List.Forall₂ (Shows codec payment)
      (approvals.map (fun entry => Entry.approval entry.1 entry.2) ++ [.transfer transfer, .pay pay]) logs) :
    ∃ approving moving paying, logs = approving ++ [moving, paying] ∧
      List.Forall₂ (IsApproval payment) (approvals.map Prod.snd) approving ∧ IsTransfer payment moving ∧
      IsPay payment codec paying := by
  induction approvals generalizing logs with
  | nil =>
    cases shown with
    | cons first rest =>
      cases rest with
      | cons second rest =>
        cases rest
        exact ⟨[], _, _, rfl, .nil, first.2, second.2⟩
  | cons approval approvals ih =>
    cases shown with
    | cons first rest =>
      obtain ⟨approving, moving, paying, rfl, approved, transferred, paid⟩ := ih rest
      exact ⟨_ :: approving, moving, paying, rfl, .cons first.2 approved, transferred, paid⟩

/-- A verified payment has exactly the effects of its plan: the approvals it expects, one transfer of the amount to the terminal,
and one payment after it, in logs of their own, and no other log of the scope approves for the account or moves its tokens. -/
theorem verified_payment_effects {codec : PaymentCodec} {plan stepIndexes config receipt : Value} {evidence : PaymentEvidence}
    (verified : verifyWalletV6UsdcPaymentEffects codec plan stepIndexes config receipt = .verified evidence) :
    ∃ payment scope inputs logs approvals transfer pay,
      recognizeWalletV6UsdcPayment codec plan stepIndexes config = some payment ∧ Recognized codec plan payment ∧
      asItems (property (some receipt.plain) "logs") = some inputs ∧ inputs.mapM (readLog codec scope) = some logs ∧
      Effected codec payment logs approvals transfer pay ∧ evidence.payment = payment.toPaymentFacts ∧
      evidence.assignments.flatMap EffectAssignment.logIndexes = (approvals ++ [transfer, pay]).map EventLog.index := by
  have effects : paymentEffects codec plan stepIndexes config receipt = some (.verified evidence) := by
    unfold verifyWalletV6UsdcPaymentEffects at verified
    cases found : paymentEffects codec plan stepIndexes config receipt with
    | none =>
      rw [found] at verified
      cases verified
    | some verdict =>
      rw [found] at verified
      exact congrArg some verified
  obtain ⟨payment, recognized, effects⟩ := some_bind effects
  obtain ⟨document, taken, effects⟩ := some_bind effects
  obtain rfl := snapshot_ok taken
  obtain ⟨⟨transactionHash, blockHash, inputs⟩, read, effects⟩ := some_bind effects
  have listed : asItems (property (some receipt.plain) "logs") = some inputs := by
    obtain ⟨_, read⟩ := guard_bind_some read
    iterate 2 obtain ⟨_, _, read⟩ := some_bind read
    obtain ⟨logs, listed, read⟩ := some_bind read
    obtain ⟨_, read⟩ := guard_bind_some read
    cases read
    exact listed
  have known := recognize_ok recognized
  dsimp only at effects
  split at effects
  · cases effects
  · obtain ⟨_, effects⟩ := guard_bind_some effects
    obtain ⟨blockNumber, _, effects⟩ := some_bind effects
    obtain ⟨scan, scanned, effects⟩ := some_bind effects
    obtain ⟨concluded, verdict, effects⟩ := some_bind effects
    cases effects
    obtain ⟨logs, inputsRead, ⟨entries, shown, approvals, transfers, pays⟩, ordered, _⟩ := scan_noted known.distinct scanned
    have sorted : (entries.map Entry.index).Pairwise (· < ·) := by
      rw [shown_index shown]
      exact ordered.sublist (List.filter_sublist.map _)
    obtain ⟨noted, transfer, pay, expected, rfl, facts, assigned⟩ := concludes_ok approvals transfers pays sorted verdict
    obtain ⟨approving, moving, paying, complete, approved, transferred, paid⟩ := shown_effects shown
    have indexes := shown_index shown
    rw [complete] at indexes
    refine ⟨payment, _, inputs, logs, approving, moving, paying, recognized, known, listed, inputsRead,
      ⟨ordered, complete, expected ▸ approved, transferred, paid⟩, facts, ?_⟩
    rw [assigned, ← indexes, List.map_append, List.map_map]
    rfl

namespace Reviewed

def account : Text := '0' :: 'x' :: List.replicate 40 '1'

def beneficiary : Text := '0' :: 'x' :: List.replicate 40 '2'

def token : Text := '0' :: 'x' :: List.replicate 40 '3'

def terminal : Text := '0' :: 'x' :: List.replicate 40 '4'

/-- Calldata: a selector and its words. -/
def concatenated (parts : List Text) : Text := '0' :: 'x' :: parts.flatMap (·.drop 2)

def payArguments : PayArguments :=
  { projectId := 7, token, amount := 100, beneficiary, minReturnedTokens := 5, memo := [], metadata := ['0', 'x'] }

def payCalldata : Text :=
  concatenated ["0xfef43257".toList, hexWord 7, addressWord token, hexWord 100, addressWord beneficiary, hexWord 5, hexWord 224,
    hexWord 256, hexWord 0, hexWord 0]

def approveData (spender : Text) (amount : Nat) : Text :=
  concatenated ["0x095ea7b3".toList, addressWord spender, hexWord amount]

def payEvent : PayEvent :=
  { rulesetId := 1, rulesetCycleNumber := 1, projectId := 7, payer := account, beneficiary, amount := 100,
    newlyIssuedTokenCount := 0, memo := [], metadata := ['0', 'x'], caller := account }

def payData : Text :=
  concatenated [addressWord account, addressWord beneficiary, hexWord 100, hexWord 0, hexWord 224, hexWord 256,
    addressWord account, hexWord 0, hexWord 0]

/-- The coder on the calls and events of the sample, whose addresses have no letters. -/
def codec : PaymentCodec where
  checksumAddress text := text
  checksum_letters _ _ := rfl
  decodePay data := if data = payCalldata then some payArguments else none
  encodePay args := if args = payArguments then some payCalldata else none
  decodeErc20 data := if data = approveData terminal 100 then some (.approve terminal 100) else none
  encodeApprove spender amount := some (approveData spender amount)
  decodeTokenEvent data topics :=
    match topics with
    | [_, first, second] =>
      some {
        first := '0' :: 'x' :: first.drop 26, second := '0' :: 'x' :: second.drop 26
        value := numeralValue 16 (data.drop 2) }
    | _ => none
  decodePayEvent data _ := if data = payData then some payEvent else none
  encodePayData event := if event = payEvent then some payData else none

def project : Value := .object [("chainId", .number (.integer 8453)), ("projectId", .text ['7'])]

def call (index : Nat) (target data : Text) : Value :=
  .object [("chainId", .number (.integer 8453)), ("to", .text target), ("data", .text data), ("value", .text ['0']),
    ("dependsOn", .array (if index = 0 then [] else [.number (.integer (index - 1))]))]

def summary : Value :=
  .object [("operation", .text "pay".toList), ("project", project), ("account", .text account), ("terminal", .text terminal),
    ("terminalPath", .array [.text terminal]), ("routerGateway", .null), ("route", .text "multi-terminal".toList),
    ("payment", .object [("token", .text token), ("amount", .text "100".toList), ("unit", .text "token-base-units".toList)]),
    ("beneficiary", .text beneficiary), ("minimumBeneficiaryTokenCount", .text ['5']), ("metadata", .text ['0', 'x'])]

def plan : Value :=
  .object [("draft", .object [("operation", .text "pay".toList), ("account", .text account), ("project", project),
    ("calls", .array [call 0 token (approveData terminal 100), call 1 terminal payCalldata]), ("summary", summary)])]

def steps : Value := .array [.number (.integer 0), .number (.integer 1)]

def config : Value :=
  .object [("chainId", .number (.integer 8453)), ("token", .text token), ("directV6Terminal", .text terminal)]

def transactionHash : Text := hexWord 12

def blockHash : Text := hexWord 10

def log (index : Nat) (emitter : Text) (topics : List Text) (data : Text) : Value :=
  .object [("address", .text emitter), ("blockHash", .text blockHash), ("blockNumber", .text ['9']),
    ("transactionHash", .text transactionHash), ("transactionIndex", .number (.integer 0)),
    ("logIndex", .number (.integer index)), ("removed", .boolean false), ("topics", .array (topics.map .text)),
    ("data", .text data)]

def receipt : Value :=
  .object [("transactionHash", .text transactionHash), ("blockHash", .text blockHash), ("blockNumber", .text ['9']),
    ("status", .text "success".toList), ("canonical", .boolean true), ("logs", .array [
      log 1 token [approvalTopic, addressWord account, addressWord terminal] (hexWord 100),
      log 2 token [transferTopic, addressWord account, addressWord terminal] (hexWord 100),
      log 3 terminal [payTopic, hexWord 1, hexWord 1, hexWord 7] payData])]

end Reviewed

theorem verified_payment_effects_reviewed : ∃ payment logs approvals transfer pay,
    recognizeWalletV6UsdcPayment Reviewed.codec Reviewed.plan Reviewed.steps Reviewed.config = some payment ∧
      Effected Reviewed.codec payment logs approvals transfer pay := by
  have shown : (verifyWalletV6UsdcPaymentEffects Reviewed.codec Reviewed.plan Reviewed.steps Reviewed.config
      Reviewed.receipt).evidence?.isSome = true := by decide +kernel
  obtain ⟨evidence, found⟩ := Option.isSome_iff_exists.mp shown
  cases verdict : verifyWalletV6UsdcPaymentEffects Reviewed.codec Reviewed.plan Reviewed.steps Reviewed.config
      Reviewed.receipt with
  | verified details =>
    obtain ⟨payment, _, _, logs, approvals, transfer, pay, recognized, _, _, _, effected, _⟩ :=
      verified_payment_effects verdict
    exact ⟨payment, logs, approvals, transfer, pay, recognized, effected⟩
  | failed reason =>
    rw [verdict] at found
    cases found
  | unknown reason =>
    rw [verdict] at found
    cases found

end JBCenter.UserOperations.Semantics
