import Mathlib.Order.Lattice
import JBCenter.Wallet.Ceremonies

/-! A ceremony is used once. Its draft is consumed once at most, before it expires, and every later
consumption is refused or repeats the receipt; when its row is cleaned up the draft has expired, so
that it is never issued again. -/
namespace JBCenter.Wallet.Ceremonies
open Rest
open OrderedMap (get_set get_set_ne get_set_self)

variable {limits : CeremonyLimits} {limit : Nat} {rows next : CeremonyRows} {id : String}
  {record receipt : WalletCeremony} {draft : WalletCeremonyDraft} {s t : CeremonyStore} {answer : CeremonyAnswer}

theorem cleanup_get (limit : Nat) (reads : CleanupReads) (rows : CeremonyRows) (id : String) :
    (cleanupInTransaction limit reads rows).get id = if id ∈ removals limit reads rows then none else rows.get id :=
  OrderedMap.get_deleteAll _ _ _

variable {reads : CleanupReads}

theorem removals_removable (named : ∀ id record, rows.get id = some record → record.id = id)
    (removed : id ∈ removals limit reads rows) : ∃ record, rows.get id = some record ∧ removable reads record = true := by
  obtain ⟨record, taken, rfl⟩ := List.mem_map.mp removed
  have member := (List.mergeSort_perm _ _).mem_iff.mp (List.mem_of_mem_take taken)
  have unlocked := List.mem_of_mem_filter member
  obtain ⟨stored, removable⟩ := List.mem_filter.mp unlocked
  obtain ⟨⟨key, value⟩, entry, rfl⟩ := List.mem_map.mp stored
  have held := OrderedMap.get_of_mem entry
  refine ⟨value, ?_, removable⟩
  rw [named key value held]
  exact held

/-- The rows are filed under their identifiers and kept for the retention time. -/
def Filed (rows : CeremonyRows) : Prop :=
  ∀ id record, rows.get id = some record → record.id = id ∧ record.retainUntil = record.expiresAt + walletCeremonyRetentionMs

theorem Filed.named (filed : Filed rows) : ∀ id record, rows.get id = some record → record.id = id :=
  fun id record held => (filed id record held).1

def cleaned (limit : Nat) (reads : CleanupReads) (s : CeremonyStore) : CeremonyStore :=
  ⟨cleanupInTransaction limit reads s.rows, cleanedClock limit reads s⟩

/-- An issue cleans up first; then the row of the draft is there, or it is made before the draft expires. -/
structure Issues (request : WalletCeremonyDraft) (reads : IssueReads) (record : WalletCeremony) (s t : CeremonyStore) : Prop where
  clock : t.clock = withReading (cleanedClock 100 reads.cleanup s) request.id reads.stored
  row : (cleaned 100 reads.cleanup s).rows.get request.id = some record ∧ record.toWalletCeremonyDraft = request ∧
      t.rows = (cleaned 100 reads.cleanup s).rows ∨
    (cleaned 100 reads.cleanup s).rows.get request.id = none ∧ reads.admitted < request.expiresAt ∧
      record = issuedRecord request reads.admitted ∧ t.rows = (cleaned 100 reads.cleanup s).rows.set request.id record

/-- The receipt is repeated, or the ceremony is consumed before it expires. -/
structure Consumes (request : WalletCeremonyConsume) (reads : ConsumeReads) (record : WalletCeremony) (replayed : Bool)
    (s t : CeremonyStore) : Prop where
  clock : t.clock = withReading s.clock request.id reads.stored
  row : ∃ held, s.rows.get request.id = some held ∧ held.toWalletCeremonyDraft = request.toWalletCeremonyDraft ∧
    (replayed = true ∧ held.consumedAt.isSome = true ∧ record = held ∧ t.rows = s.rows ∨
     replayed = false ∧ held.consumedAt = none ∧ reads.consumed < request.expiresAt ∧ reads.stored < request.expiresAt ∧
      record = consumedRecord held request reads.consumed ∧ t.rows = s.rows.set request.id record)

variable {request : WalletCeremonyDraft}

theorem issue_ok {admission : Option TrustedWalletControlAdmission} {reads : IssueReads}
    (ran : issueInTransaction limits request admission reads rows = .ok (record, next)) :
    (cleanupInTransaction 100 reads.cleanup rows).get request.id = some record ∧ record.toWalletCeremonyDraft = request ∧
      next = cleanupInTransaction 100 reads.cleanup rows ∨
    (cleanupInTransaction 100 reads.cleanup rows).get request.id = none ∧ reads.admitted < request.expiresAt ∧
      record = issuedRecord request reads.admitted ∧
      next = (cleanupInTransaction 100 reads.cleanup rows).set request.id record := by
  iterate 2 obtain ⟨_, _, ran⟩ := ok_bind ran
  dsimp only at ran
  split at ran
  · rename_i held found
    obtain ⟨same, ran⟩ := ok_refuse ran
    obtain ⟨_, ran⟩ := ok_refuse ran
    cases ran
    exact Or.inl ⟨found, by simpa [sameWalletCeremony] using same, rfl⟩
  · rename_i absent
    obtain ⟨live, ran⟩ := ok_refuse ran
    iterate 4 obtain ⟨_, ran⟩ := ok_refuse ran
    cases ran
    exact Or.inr ⟨absent, by simpa using live, rfl, rfl⟩

theorem consume_ok {request : WalletCeremonyConsume} {reads : ConsumeReads} {replayed : Bool}
    (ran : consumeInTransaction request reads rows = .ok ((record, replayed), next)) :
    ∃ held, rows.get request.id = some held ∧ held.toWalletCeremonyDraft = request.toWalletCeremonyDraft ∧
      (replayed = true ∧ held.consumedAt.isSome = true ∧ record = held ∧ next = rows ∨
       replayed = false ∧ held.consumedAt = none ∧ reads.consumed < request.expiresAt ∧ reads.stored < request.expiresAt ∧
        record = consumedRecord held request reads.consumed ∧ next = rows.set request.id record) := by
  obtain ⟨_, _, ran⟩ := ok_bind ran
  split at ran
  · cases ran
  · rename_i held found
    obtain ⟨_, ran⟩ := ok_refuse ran
    obtain ⟨same, ran⟩ := ok_refuse ran
    have same : held.toWalletCeremonyDraft = request.toWalletCeremonyDraft := by simpa [sameWalletCeremony] using same
    refine ⟨held, found, same, ?_⟩
    split at ran
    · rename_i consumed
      obtain ⟨_, ran⟩ := ok_refuse ran
      cases ran
      exact Or.inl ⟨rfl, consumed, rfl, rfl⟩
    · rename_i unconsumed
      obtain ⟨_, ran⟩ := ok_refuse ran
      obtain ⟨checked, ran⟩ := ok_refuse ran
      obtain ⟨stored, ran⟩ := ok_refuse ran
      cases ran
      have expires : held.expiresAt = request.expiresAt := congrArg WalletCeremonyDraft.expiresAt same
      simp only [Bool.or_eq_false_iff, decide_eq_false_iff_not, not_le, expires] at checked stored
      exact Or.inr ⟨rfl, by simpa using unconsumed, checked.2, stored, rfl, rfl⟩

/-- Everything an operation does. -/
inductive Effect (s : CeremonyStore) : CeremonyAnswer → CeremonyStore → Prop where
  | issued {request : WalletCeremonyDraft} {admission : Option TrustedWalletControlAdmission} {reads : IssueReads}
      {made : WalletCeremony} {after : CeremonyStore} (later : (cleaned 100 reads.cleanup s).clock request.id ≤ reads.admitted)
      (ordered : reads.admitted ≤ reads.stored) (issues : Issues request reads made s after) :
      Effect s ⟨.issue request admission reads, .ok (.issued made)⟩ after
  | consumed {request : WalletCeremonyConsume} {reads : ConsumeReads} {made : WalletCeremony} {replayed : Bool}
      {after : CeremonyStore} (later : s.clock request.id ≤ reads.stored)
      (consumes : Consumes request reads made replayed s after) :
      Effect s ⟨.consume request reads, .ok (.consumed made replayed)⟩ after
  | swept {most count : Nat} {reads : CleanupReads} : Effect s ⟨.cleanup most reads, .ok (.cleaned count)⟩ (cleaned most reads s)
  | refused {op : CeremonyOp} {error : CeremonyError} : Effect s ⟨op, .error error⟩ s

theorem CeremonyStep.effect (taken : CeremonyStep limits s answer t) : Effect s answer t := by
  obtain ⟨ordered, performed⟩ := taken
  obtain ⟨op, result⟩ := answer
  obtain ⟨outcome, answered, ran⟩ | ⟨rfl, error, answered, _⟩ := performed.transaction_cases
  · cases answered
    cases op with
    | issue request admission reads =>
      obtain ⟨⟨record, rows⟩, issued, ran⟩ := ok_bind ran
      cases ran
      exact .issued ordered.1 ordered.2 ⟨rfl, issue_ok issued⟩
    | consume request reads =>
      obtain ⟨⟨⟨record, replayed⟩, rows⟩, consumed, ran⟩ := ok_bind ran
      cases ran
      obtain ⟨first, second, third, fourth⟩ : s.clock request.id ≤ _ ∧ _ ≤ _ ∧ _ ≤ _ ∧ _ ≤ _ := ordered
      exact .consumed (by omega) ⟨rfl, consume_ok consumed⟩
    | cleanup limit reads =>
      obtain ⟨_, ran⟩ := ok_refuse ran
      cases ran
      exact .swept
  · cases answered
    exact .refused

/-- The draft has expired for whoever holds its row next, and its row is not there. -/
def Gone (draft : WalletCeremonyDraft) (s : CeremonyStore) : Prop :=
  draft.expiresAt ≤ s.clock draft.id ∧ ∀ record, s.rows.get draft.id = some record → record.toWalletCeremonyDraft ≠ draft

def Held (receipt : WalletCeremony) (s : CeremonyStore) : Prop :=
  s.rows.get receipt.id = some receipt ∨ Gone receipt.toWalletCeremonyDraft s

theorem clock_cleaned (limit : Nat) (reads : CleanupReads) (s : CeremonyStore) (id : String) :
    s.clock id ≤ (cleaned limit reads s).clock id := by
  change _ ≤ ite _ _ _
  split
  · exact le_max_left _ _
  · exact le_rfl

/-- A receipt is removed after its retention, an unconsumed row after it expired. -/
structure Due (reads : CleanupReads) (record : WalletCeremony) : Prop where
  retained : record.retainUntil = record.expiresAt + walletCeremonyRetentionMs
  consumed : record.consumedAt.isSome = true → record.retainUntil ≤ reads.retained record.id
  unconsumed : record.consumedAt = none → record.expiresAt ≤ max (reads.retained record.id) (reads.live record.id)

theorem removed_due (filed : Filed s.rows) (held : s.rows.get record.id = some record)
    (removed : record.id ∈ removals limit reads s.rows) : Due reads record := by
  obtain ⟨other, found, removable⟩ := removals_removable filed.named removed
  cases held.symm.trans found
  obtain ⟨_, retained⟩ := filed record.id record held
  simp only [Ceremonies.removable, Bool.or_eq_true, Bool.and_eq_true, decide_eq_true_eq, Option.isNone_iff_eq_none] at removable
  refine ⟨retained, ?_, ?_⟩
  · intro consumed
    obtain past | ⟨unconsumed, _⟩ := removable
    · exact past
    · rw [unconsumed] at consumed
      cases consumed
  · intro _
    simp only [walletCeremonyRetentionMs] at retained
    omega

theorem Due.expired (due : Due reads record) :
    record.expiresAt ≤ max (reads.retained record.id) (reads.live record.id) := by
  have retained := due.retained
  cases consumed : record.consumedAt with
  | none => exact due.unconsumed consumed
  | some atMs =>
    have past := due.consumed (by rw [consumed]; rfl)
    simp only [walletCeremonyRetentionMs] at retained
    omega

theorem filed_cleaned (filed : Filed rows) (limit : Nat) (reads : CleanupReads) :
    Filed (cleanupInTransaction limit reads rows) := by
  intro id record held
  rw [cleanup_get] at held
  split at held
  · cases held
  · exact filed id record held

theorem filed_set {key : String} (filed : Filed rows) (named : record.id = key)
    (retained : record.retainUntil = record.expiresAt + walletCeremonyRetentionMs) : Filed (rows.set key record) := by
  intro id other held
  rw [get_set] at held
  split at held
  · rename_i same
    cases held
    exact ⟨named.trans same.symm, retained⟩
  · exact filed id other held

theorem Effect.filed (effect : Effect s answer t) (filed : Filed s.rows) : Filed t.rows := by
  cases effect with
  | issued _ _ issues =>
    obtain ⟨_, _, same⟩ | ⟨_, _, made, same⟩ := issues.row
    · rw [same]
      exact filed_cleaned filed _ _
    · rw [same]
      refine filed_set (filed_cleaned filed _ _) ?_ ?_ <;> rw [made] <;> rfl
  | consumed _ consumes =>
    obtain ⟨held, found, draft, ⟨_, _, _, same⟩ | ⟨_, _, _, _, made, same⟩⟩ := consumes.row
    · rw [same]
      exact filed
    · rw [same]
      obtain ⟨named, retained⟩ := filed _ _ found
      exact filed_set filed (by rw [made]; exact named) (by rw [made]; exact retained)
  | swept => exact filed_cleaned filed _ _
  | refused => exact filed

theorem gone_cleaned (gone : Gone draft s) (limit : Nat) (reads : CleanupReads) : Gone draft (cleaned limit reads s) := by
  refine ⟨gone.1.trans (clock_cleaned _ _ _ _), ?_⟩
  intro record held
  change (cleanupInTransaction limit reads s.rows).get _ = _ at held
  rw [cleanup_get] at held
  split at held
  · cases held
  · exact gone.2 record held

theorem gone_removed (filed : Filed s.rows) (held : s.rows.get id = some record)
    (removed : id ∈ removals limit reads s.rows) : Gone record.toWalletCeremonyDraft (cleaned limit reads s) := by
  obtain ⟨rfl, _⟩ := filed id record held
  have clock : (cleaned limit reads s).clock record.id =
      max (s.clock record.id) (max (reads.retained record.id) (reads.live record.id)) := if_pos removed
  refine ⟨?_, ?_⟩
  · rw [clock]
    exact (removed_due filed held removed).expired.trans (le_max_right _ _)
  · intro other found
    change (cleanupInTransaction limit reads s.rows).get _ = _ at found
    rw [cleanup_get, if_pos removed] at found
    cases found

theorem held_cleaned (filed : Filed s.rows) (held : Held receipt s) (limit : Nat) (reads : CleanupReads) :
    Held receipt (cleaned limit reads s) := by
  obtain stored | gone := held
  · by_cases removed : receipt.id ∈ removals limit reads s.rows
    · exact Or.inr (gone_removed filed stored removed)
    · refine Or.inl ?_
      change (cleanupInTransaction limit reads s.rows).get _ = _
      rw [cleanup_get, if_neg removed]
      exact stored
  · exact Or.inr (gone_cleaned gone limit reads)

theorem withReading_ge {clock : String → Int} {key : String} {nowMs : Int} (later : clock key ≤ nowMs) (id : String) :
    clock id ≤ withReading clock key nowMs id := by
  unfold withReading
  split
  · rename_i same
    rw [same]
    exact later
  · exact le_rfl

/-- A draft that is over when the rows were cleaned cannot be made again: it would have to expire
after the reading. -/
theorem Issues.gone {reads : IssueReads} (issues : Issues request reads record s t)
    (later : (cleaned 100 reads.cleanup s).clock request.id ≤ reads.admitted) (ordered : reads.admitted ≤ reads.stored)
    (elapsed : Gone draft (cleaned 100 reads.cleanup s)) : Gone draft t := by
  have clock : (cleaned 100 reads.cleanup s).clock draft.id ≤ t.clock draft.id := by
    rw [issues.clock]
    exact withReading_ge (later.trans ordered) _
  refine ⟨elapsed.1.trans clock, ?_⟩
  obtain ⟨_, _, same⟩ | ⟨_, live, made, same⟩ := issues.row
  · rw [same]
    exact elapsed.2
  · intro other held
    rw [same, get_set] at held
    split at held
    · rename_i here
      cases held
      rw [made]
      rintro rfl
      have expired : request.expiresAt ≤ (cleaned 100 reads.cleanup s).clock request.id := elapsed.1
      omega
    · exact elapsed.2 other held

theorem Effect.gone (effect : Effect s answer t) (gone : Gone draft s) : Gone draft t := by
  cases effect with
  | issued later ordered issues => exact issues.gone later ordered (gone_cleaned gone _ _)
  | consumed later consumes =>
    have clock : s.clock draft.id ≤ t.clock draft.id := by
      rw [consumes.clock]
      exact withReading_ge later _
    refine ⟨gone.1.trans clock, ?_⟩
    obtain ⟨held, found, _, ⟨_, _, _, same⟩ | ⟨_, _, _, _, made, same⟩⟩ := consumes.row
    · rw [same]
      exact gone.2
    · intro other stored
      rw [same, get_set] at stored
      split at stored
      · rename_i here
        cases stored
        rw [made]
        exact gone.2 held (by rw [here]; exact found)
      · exact gone.2 other stored
  | swept => exact gone_cleaned gone _ _
  | refused => exact gone

theorem Effect.held (effect : Effect s answer t) (filed : Filed s.rows) (consumed : receipt.consumedAt.isSome = true)
    (held : Held receipt s) : Held receipt t := by
  obtain stored | gone := held
  · cases effect with
    | @issued request _ reads _ _ later ordered issues =>
      obtain kept | elapsed := held_cleaned filed (Or.inl stored) 100 reads.cleanup
      · refine Or.inl ?_
        obtain ⟨_, _, same⟩ | ⟨absent, _, _, same⟩ := issues.row
        · rw [same]
          exact kept
        · have differ : receipt.id ≠ request.id := by
            intro here
            rw [here] at kept
            cases kept.symm.trans absent
          rw [same, get_set_ne _ _ differ]
          exact kept
      · exact Or.inr (issues.gone later ordered elapsed)
    | @consumed request _ _ _ _ _ consumes =>
      obtain ⟨held, found, _, ⟨_, _, _, same⟩ | ⟨_, unconsumed, _, _, _, same⟩⟩ := consumes.row
      · rw [Held, same]
        exact Or.inl stored
      · have differ : receipt.id ≠ request.id := by
          intro here
          rw [here] at stored
          cases stored.symm.trans found
          rw [unconsumed] at consumed
          cases consumed
        rw [Held, same, get_set_ne _ _ differ]
        exact Or.inl stored
    | swept => exact held_cleaned filed (Or.inl stored) _ _
    | refused => exact Or.inl stored
  · exact Or.inr (effect.gone gone)

theorem Effect.not_issued {admission : Option TrustedWalletControlAdmission} {reads : IssueReads}
    (effect : Effect s answer t) (gone : Gone request s) (asked : answer.op = .issue request admission reads) :
    ∃ error, answer.result = .error error := by
  cases effect with
  | issued later ordered issues =>
    cases asked
    have elapsed := gone_cleaned gone 100 reads.cleanup
    obtain ⟨found, same, _⟩ | ⟨_, live, _⟩ := issues.row
    · exact absurd same (elapsed.2 _ found)
    · have expired : request.expiresAt ≤ _ := elapsed.1
      omega
  | consumed => cases asked
  | swept => cases asked
  | refused => exact ⟨_, rfl⟩

theorem Effect.repeated {request : WalletCeremonyConsume} {reads : ConsumeReads} (effect : Effect s answer t)
    (consumed : receipt.consumedAt.isSome = true) (held : Held receipt s) (asked : answer.op = .consume request reads)
    (same : request.toWalletCeremonyDraft = receipt.toWalletCeremonyDraft) :
    (∃ error, answer.result = .error error) ∨ answer.result = .ok (.consumed receipt true) := by
  cases effect with
  | issued => cases asked
  | consumed later consumes =>
    cases asked
    have here : request.id = receipt.id := congrArg WalletCeremonyDraft.id same
    obtain ⟨record, found, draft, outcome⟩ := consumes.row
    rw [here] at found
    obtain stored | gone := held
    · cases stored.symm.trans found
      obtain ⟨replayed, _, made, _⟩ | ⟨_, unconsumed, _⟩ := outcome
      · exact Or.inr (by rw [replayed, made])
      · rw [unconsumed] at consumed
        cases consumed
    · exact absurd (draft.trans same) (gone.2 record found)
  | swept => cases asked
  | refused => exact Or.inl ⟨_, rfl⟩

/-- The readings of the cleanup an operation makes. -/
def CeremonyOp.cleanupReads : CeremonyOp → Option CleanupReads
  | .issue _ _ reads => some reads.cleanup
  | .consume _ _ => none
  | .cleanup _ reads => some reads

/-- The row of the draft was there and is no longer. -/
def Removes (s t : CeremonyStore) (record : WalletCeremony) : Prop :=
  s.rows.get record.id = some record ∧
  ∀ other, t.rows.get record.id = some other → other.toWalletCeremonyDraft ≠ record.toWalletCeremonyDraft

theorem Effect.removes (effect : Effect s answer t) (filed : Filed s.rows) (removes : Removes s t record) :
    (∃ reads, answer.op.cleanupReads = some reads ∧ Due reads record) ∧ Gone record.toWalletCeremonyDraft t := by
  obtain ⟨held, absent⟩ := removes
  cases effect with
  | @issued request _ reads _ _ later ordered issues =>
    by_cases removed : record.id ∈ removals 100 reads.cleanup s.rows
    · exact ⟨⟨_, rfl, removed_due filed held removed⟩, issues.gone later ordered (gone_removed filed held removed)⟩
    · have kept : (cleaned 100 reads.cleanup s).rows.get record.id = some record := by
        change (cleanupInTransaction 100 reads.cleanup s.rows).get _ = _
        rw [cleanup_get, if_neg removed]
        exact held
      exfalso
      obtain ⟨_, _, same⟩ | ⟨none, _, _, same⟩ := issues.row
      · exact absent record (by rw [same]; exact kept) rfl
      · have differ : record.id ≠ request.id := by
          intro here
          rw [here] at kept
          cases kept.symm.trans none
        exact absent record (by rw [same, get_set_ne _ _ differ]; exact kept) rfl
  | @consumed request _ _ _ _ _ consumes =>
    exfalso
    obtain ⟨other, found, draft, ⟨_, _, _, same⟩ | ⟨_, _, _, _, made, same⟩⟩ := consumes.row
    · exact absent record (by rw [same]; exact held) rfl
    · by_cases here : record.id = request.id
      · rw [here] at held
        cases held.symm.trans found
        exact absent _ (by rw [same, here, get_set_self]) (by rw [made]; rfl)
      · exact absent record (by rw [same, get_set_ne _ _ here]; exact held) rfl
  | @swept most _ reads =>
    by_cases removed : record.id ∈ removals most reads s.rows
    · exact ⟨⟨_, rfl, removed_due filed held removed⟩, gone_removed filed held removed⟩
    · refine absurd rfl (absent record ?_)
      change (cleanupInTransaction most reads s.rows).get _ = _
      rw [cleanup_get, if_neg removed]
      exact held
  | refused => exact absurd rfl (absent record held)

def usedDraft (answer : CeremonyAnswer) : Option WalletCeremonyDraft :=
  match answer.op, answer.result with
  | .consume request _, .ok (.consumed _ false) => some request.toWalletCeremonyDraft
  | _, _ => none

def Used (s : CeremonyStore) (draft : WalletCeremonyDraft) : Prop :=
  ∃ receipt, receipt.toWalletCeremonyDraft = draft ∧ receipt.consumedAt.isSome = true ∧ Held receipt s

theorem usedDraft_some (marked : usedDraft answer = some draft) : ∃ request reads record,
    answer = ⟨.consume request reads, .ok (.consumed record false)⟩ ∧ request.toWalletCeremonyDraft = draft := by
  unfold usedDraft at marked
  split at marked
  · rename_i request reads record asked answered
    cases marked
    obtain ⟨op, result⟩ := answer
    cases asked
    cases answered
    exact ⟨request, reads, record, rfl, rfl⟩
  · cases marked

theorem Effect.used {request : WalletCeremonyConsume} {reads : ConsumeReads}
    (effect : Effect s ⟨.consume request reads, .ok (.consumed record false)⟩ t) :
    record.toWalletCeremonyDraft = request.toWalletCeremonyDraft ∧ record.consumedAt = some reads.consumed ∧
    reads.consumed < request.expiresAt ∧ reads.stored < request.expiresAt ∧ t.rows.get request.id = some record := by
  cases effect with
  | consumed later consumes =>
    obtain ⟨held, found, draft, ⟨impossible, _⟩ | ⟨_, _, live, stored, made, same⟩⟩ := consumes.row
    · cases impossible
    · refine ⟨?_, ?_, live, stored, ?_⟩
      · rw [made]
        exact draft
      · rw [made]
        rfl
      · rw [same, get_set_self]

theorem CeremonyStore.Empty.filed (empty : s.Empty) : Filed s.rows := by
  intro id record held
  rw [show s.rows = .empty from empty] at held
  cases held

/-- A draft is consumed once at most. -/
theorem used_nodup {start : CeremonyStore} {history : List CeremonyAnswer} (empty : start.Empty)
    (run : CeremonyRuns limits start history s) : (history.filterMap usedDraft).Nodup := by
  refine run.marks_nodup (M := Used) (P := fun s => Filed s.rows) empty.filed
    (fun filed taken => taken.effect.filed filed) ?_ ?_ ?_
  · rintro s answer t draft filed taken marked ⟨receipt, same, consumed, held⟩
    obtain ⟨request, reads, record, rfl, rfl⟩ := usedDraft_some marked
    obtain impossible | impossible := taken.effect.repeated consumed held rfl same.symm
    · obtain ⟨_, ⟨⟩⟩ := impossible
    · cases impossible
  · intro s answer t draft filed taken marked
    obtain ⟨request, reads, record, rfl, rfl⟩ := usedDraft_some marked
    obtain ⟨same, consumed, _, _, stored⟩ := taken.effect.used
    refine ⟨record, same, by rw [consumed]; rfl, Or.inl ?_⟩
    rw [congrArg WalletCeremonyDraft.id same]
    exact stored
  · rintro s answer t draft filed taken ⟨receipt, same, consumed, held⟩
    exact ⟨receipt, same, consumed, taken.effect.held filed consumed held⟩

theorem transactions_run {start last : CeremonyStore} {batches : List (List CeremonyAnswer)}
    (run : Run (CeremonyTransaction limits) start batches last) : CeremonyRuns limits start batches.flatten last := by
  induction run with
  | nil => exact .nil
  | @snoc batches _ batch _ _ taken ih =>
    rw [List.flatten_append, List.flatten_singleton]
    obtain ⟨rfl, rfl⟩ | ⟨committed, _⟩ := taken
    · rw [List.append_nil]
      exact ih
    · exact ih.append committed

theorem transactions_single_use {start last : CeremonyStore} {batches : List (List CeremonyAnswer)} (empty : start.Empty)
    (run : Run (CeremonyTransaction limits) start batches last) : (batches.flatten.filterMap usedDraft).Nodup :=
  used_nodup empty (transactions_run run)

/-- Single use, across cleanup: a draft is consumed once at most, and before it expires; afterwards it
is refused or its receipt repeated; no row is removed before it is due, and then its draft is never
issued again. -/
theorem ceremonies_single_use {start last : CeremonyStore} {earlier later : List CeremonyAnswer} (empty : start.Empty)
    (begun : CeremonyRuns limits start earlier s) (taken : CeremonyStep limits s answer t)
    (ended : CeremonyRuns limits t later last) :
    ((earlier ++ answer :: later).filterMap usedDraft).Nodup ∧
    (∀ request reads record, answer = ⟨.consume request reads, .ok (.consumed record false)⟩ →
      record.consumedAt = some reads.consumed ∧ reads.consumed < request.expiresAt ∧ reads.stored < request.expiresAt ∧
      ∀ next ∈ later, ∀ again readings, next.op = .consume again readings →
        again.toWalletCeremonyDraft = request.toWalletCeremonyDraft →
        (∃ error, next.result = .error error) ∨ next.result = .ok (.consumed record true)) ∧
    ∀ record, Removes s t record →
      (∃ reads, answer.op.cleanupReads = some reads ∧ Due reads record) ∧
      ∀ next ∈ later, ∀ admission readings, next.op = .issue record.toWalletCeremonyDraft admission readings →
        ∃ error, next.result = .error error := by
  have filedStep : ∀ {s answer t}, Filed s.rows → CeremonyStep limits s answer t → Filed t.rows :=
    fun filed taken => taken.effect.filed filed
  have filed := begun.state_invariant (P := fun s => Filed s.rows) empty.filed filedStep
  have whole := (begun.snoc taken).append ended
  rw [List.append_assoc, List.singleton_append] at whole
  refine ⟨used_nodup empty whole, ?_, ?_⟩
  · rintro request reads record rfl
    obtain ⟨same, consumed, live, stored, found⟩ := taken.effect.used
    have isSome : record.consumedAt.isSome = true := by rw [consumed]; rfl
    refine ⟨consumed, live, stored, ?_⟩
    refine ended.events (P := fun s => Filed s.rows ∧ Held record s) ⟨filedStep filed taken, Or.inl ?_⟩ ?_ ?_
    · rw [congrArg WalletCeremonyDraft.id same]
      exact found
    · rintro s answer t ⟨filed, held⟩ taken
      exact ⟨filedStep filed taken, taken.effect.held filed isSome held⟩
    · rintro s answer t ⟨_, held⟩ taken again readings asked draft
      exact taken.effect.repeated isSome held asked (draft.trans same.symm)
  · intro record removes
    obtain ⟨due, gone⟩ := taken.effect.removes filed removes
    refine ⟨due, ended.events (P := Gone record.toWalletCeremonyDraft) gone (fun gone taken => taken.effect.gone gone) ?_⟩
    intro s answer t gone taken admission readings asked
    exact taken.effect.not_issued gone asked

/-- A ceremony that is issued and consumed, then cleaned up when its receipt has been kept long enough. -/
def sampleLimits : CeremonyLimits := ⟨10, 10, 1, 1⟩

def sampleDraft : WalletCeremonyDraft where
  id := "00000000-0000-4000-8000-000000000001"
  accountId := "account"
  purpose := .login
  contextDigest := String.ofList (List.replicate 64 'a')
  challenge := String.ofList (List.replicate 43 'A')
  expiresAt := 2000

def sampleCleanup (nowMs : Int) : CleanupReads := ⟨fun _ => nowMs, fun _ => nowMs, fun _ => false⟩

def sampleIssue (nowMs : Int) : CeremonyOp := .issue sampleDraft none ⟨sampleCleanup nowMs, nowMs, nowMs⟩

def sampleConsume (nowMs : Int) : CeremonyOp :=
  .consume ⟨sampleDraft, String.ofList (List.replicate 64 'b'), "00000000-0000-4000-8000-000000000002"⟩
    ⟨nowMs, nowMs, nowMs, nowMs⟩

def sampleEmpty : CeremonyStore := ⟨.empty, fun _ => 0⟩

def sampleOps : List CeremonyOp :=
  [sampleIssue 1000, sampleConsume 1500, sampleConsume 1600, .cleanup 10 (sampleCleanup 86402000), sampleIssue 86402000]

def sampleHistory : List CeremonyAnswer := (performAll (ceremony sampleLimits) sampleEmpty sampleOps).1

theorem sample_allowed : allowedAll (fun s op => CeremonyOp.Ordered s op) (ceremony sampleLimits) sampleEmpty sampleOps = true ∧
    sampleHistory.filterMap usedDraft = [sampleDraft] ∧
    sampleHistory.map (fun answer => answer.result.toOption.isSome) = [true, true, true, true, false] := by decide +kernel

theorem ceremonies_single_use_sample : (sampleHistory.filterMap usedDraft).Nodup ∧
    (∃ record, ∀ next ∈ sampleHistory.drop 2, ∀ again readings, next.op = .consume again readings →
      again.toWalletCeremonyDraft = sampleDraft →
      (∃ error, next.result = .error error) ∨ next.result = .ok (.consumed record true)) ∧
    sampleHistory.map (fun answer => answer.result.toOption.isSome) = [true, true, true, true, false] := by
  have run : CeremonyRuns sampleLimits sampleEmpty sampleHistory _ := performAll_allowed sample_allowed.1
  have many := congrArg List.length sample_allowed.2.2
  rw [List.length_map] at many
  have bound : 1 < sampleHistory.length := by simp [many]
  obtain ⟨s, t, begun, taken, ended⟩ := run.cut bound
  obtain ⟨once, again, _⟩ := ceremonies_single_use (show sampleEmpty.Empty from rfl) begun taken ended
  rw [← List.drop_eq_getElem_cons bound, List.take_append_drop] at once
  exact ⟨once, ⟨_, (again _ _ _ rfl).2.2.2⟩, sample_allowed.2.2⟩

end JBCenter.Wallet.Ceremonies
