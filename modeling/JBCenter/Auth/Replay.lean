import JBCenter.Auth.Postgres

/-! A signed request commits at most once. Once it has, either its row still outlives it, or
the clock has passed its expiry: whoever deletes or takes over the row found it expired at a
clock read earlier. A second attempt therefore meets a live row at its insert or an expired
request at its last check, which is made after the insert. -/
namespace JBCenter.Auth
open Rest
variable {s : Database} {t u : Nat} {x y : Transaction}

/-- One signed request, whoever presents it. -/
structure SameRequest (a b : VerifiedRequest) : Prop where
  row : a.row = b.row
  expiresAt : a.expiresAt = b.expiresAt

def Phase.isCommitted : Phase → Prop
  | .committed _ => True
  | _ => False

/-- The phases after the insert, in which the transaction holds its row. -/
def Phase.holds : Phase → Prop
  | .consumed | .completed => True
  | _ => False

/-- The first clock reading, while a later statement still uses it. -/
def Phase.now? : Phase → Option Int
  | .admitted now | .full now | .swept now | .clear now => some now
  | _ => none

structure Safe (s : Database) : Prop where
  read : ∀ t x now, s.transactions t = some x → x.phase.now? = some now → now ≤ databaseNow s.clock
  cleanup : ∀ c now maximum, s.cleanups c = some (now, maximum) → now ≤ databaseNow s.clock
  held : ∀ t x, s.transactions t = some x → x.phase.holds →
    s.nonces.written t x.request.row = some (some x.request.expiresAt)
  backed : ∀ t x, s.transactions t = some x → x.phase.isCommitted →
    (∃ expiresAt, s.nonces.rows.get x.request.row = some expiresAt ∧ x.request.expiresAt ≤ expiresAt) ∨
      x.request.expiresAt ≤ databaseNow s.clock
  spent : ∀ t x u write, s.transactions t = some x → x.phase.isCommitted →
    s.nonces.written u x.request.row = some write → x.request.expiresAt ≤ databaseNow s.clock
  alone : ∀ t x u y, s.transactions t = some x → s.transactions u = some y →
    x.phase = .completed ∨ x.phase.isCommitted → y.phase.isCommitted → SameRequest x.request y.request → t = u

theorem databaseNow_mono (clock elapsed : Nat) : databaseNow clock ≤ databaseNow (clock + elapsed) := by
  unfold databaseNow
  exact_mod_cast Nat.div_le_div_right (Nat.le_add_right _ _)

theorem completedNow_eq (route : Route) (clock : Nat) : completedNow route clock = databaseNow clock := by
  cases route with
  | authorizeWalletApp =>
    change ((clock / 1000 : Nat) : Int) / 1000 = ((clock / 1000000 : Nat) : Int)
    omega
  | _ => rfl

theorem enter_cases {transaction : Transaction} (found : (s.enter t transaction).transactions u = some y) :
    (u = t ∧ y = transaction) ∨ (u ≠ t ∧ s.transactions u = some y) := by
  simp only [Database.enter, Function.update_apply] at found
  split at found
  · exact Or.inl ⟨‹_›, (Option.some.inj found).symm⟩
  · exact Or.inr ⟨‹_›, found⟩

theorem Safe.initial (initial : s.Initial) : Safe s := by
  have unwritten : ∀ t row, s.nonces.written t row = none := by
    intro t row
    simp [RowLocks.written, initial.pending]
  exact ⟨by simp [initial.transactions], by simp [initial.cleanups], by simp [initial.transactions],
    by simp [initial.transactions], by simp [unwritten], by simp [initial.transactions]⟩

theorem Safe.tick (safe : Safe s) (elapsed : Nat) : Safe { s with clock := s.clock + elapsed } := by
  have later := databaseNow_mono s.clock elapsed
  refine ⟨?_, ?_, safe.held, ?_, ?_, safe.alone⟩
  · intro t x now found reading
    exact Int.le_trans (safe.read t x now found reading) later
  · intro c now maximum found
    exact Int.le_trans (safe.cleanup c now maximum found) later
  · intro t x found committed
    rcases safe.backed t x found committed with live | past
    · exact Or.inl live
    · exact Or.inr (Int.le_trans past later)
  · intro t x u write found committed written
    exact Int.le_trans (safe.spent t x u write found committed written) later

theorem Safe.enter (safe : Safe s) (transaction : Transaction) (open' : ¬ transaction.phase.isCommitted)
    (fresh : ∀ x, s.transactions t = some x → ¬ x.phase.isCommitted)
    (read : ∀ now, transaction.phase.now? = some now → now ≤ databaseNow s.clock)
    (held : transaction.phase.holds →
      s.nonces.written t transaction.request.row = some (some transaction.request.expiresAt))
    (live : transaction.phase = .completed → databaseNow s.clock < transaction.request.expiresAt) :
    Safe (s.enter t transaction) := by
  refine ⟨?_, safe.cleanup, ?_, ?_, ?_, ?_⟩
  · intro u y now found reading
    obtain ⟨rfl, rfl⟩ | ⟨_, before⟩ := enter_cases found
    · exact read now reading
    · exact safe.read u y now before reading
  · intro u y found holding
    obtain ⟨rfl, rfl⟩ | ⟨_, before⟩ := enter_cases found
    · exact held holding
    · exact safe.held u y before holding
  · intro u y found committed
    obtain ⟨rfl, rfl⟩ | ⟨_, before⟩ := enter_cases found
    · exact False.elim (open' committed)
    · exact safe.backed u y before committed
  · intro u y v write found committed written
    obtain ⟨rfl, rfl⟩ | ⟨_, before⟩ := enter_cases found
    · exact False.elim (open' committed)
    · exact safe.spent u y v write before committed written
  · intro u y v z first second done committed same
    obtain ⟨rfl, rfl⟩ | ⟨_, before⟩ := enter_cases second
    · exact False.elim (open' committed)
    · obtain ⟨rfl, rfl⟩ | ⟨_, earlier⟩ := enter_cases first
      · -- A committed twin would have let nobody write this row before the expiry.
        rcases done with completed | final
        · have row := held (by simp [completed, Phase.holds])
          rw [same.row] at row
          have past := safe.spent v z u _ before committed row
          have soon := live completed
          rw [same.expiresAt] at soon
          omega
        · exact False.elim (open' final)
      · exact safe.alone u y v z earlier before done committed same

theorem Safe.abort (safe : Safe s) (found : s.transactions t = some x) (active : x.phase.active = true) :
    Safe (s.abort t x) := by
  have still : ∀ {u row write}, (s.nonces.rollback t).written u row = some write →
      u ≠ t ∧ s.nonces.written u row = some write := by
    intro u row write written
    rw [RowLocks.written_rollback] at written
    split at written
    · cases written
    · exact ⟨‹_›, written⟩
  have entered : Safe (s.advance t x .rolledBack) := by
    refine safe.enter _ id ?_ (by simp [Phase.now?]) False.elim (by simp)
    intro y same committed
    cases found.symm.trans same
    cases phase : x.phase <;> simp [phase, Phase.active, Phase.isCommitted] at active committed
  refine ⟨entered.read, entered.cleanup, ?_, entered.backed, ?_, entered.alone⟩
  · intro u y present holding
    have row := entered.held u y present holding
    obtain ⟨rfl, rfl⟩ | ⟨differ, _⟩ := enter_cases present
    · exact False.elim holding
    · change (s.nonces.rollback t).written u _ = _
      rw [RowLocks.written_rollback, if_neg differ]
      exact row
  · intro u y v write present committed written
    exact entered.spent u y v write present committed (still written).2

/-- A row the transaction may write, and sees no longer than until `now`. -/
structure Writable (s : Database) (t : Nat) (now : Int) (row : String × String) : Prop where
  free : s.nonces.free t row = true
  lapsed : ∀ expiresAt, (s.nonces.view t).get row = some expiresAt → expiresAt ≤ now

theorem Safe.write (safe : Safe s) (writable : Writable s t now row)
    (idle : ∀ x, s.transactions t = some x → ¬ x.phase.holds) (reading : now ≤ databaseNow s.clock)
    (value : Option Int) : Safe (s.write t row value) := by
  have past : ∀ u y, s.transactions u = some y → y.phase.isCommitted → y.request.row = row →
      y.request.expiresAt ≤ databaseNow s.clock := by
    intro u y found committed same
    cases own : s.nonces.written t row with
    | some write => exact safe.spent u y t write found committed (same ▸ own)
    | none =>
      rcases safe.backed u y found committed with ⟨expiresAt, stored, outlives⟩ | late
      · have seen : (s.nonces.view t).get row = some expiresAt := by
          rw [RowLocks.get_view, own, ← same, stored]
          rfl
        have ended := writable.lapsed expiresAt seen
        omega
      · exact late
  refine ⟨safe.read, safe.cleanup, ?_, safe.backed, ?_, safe.alone⟩
  · intro u y found holding
    have own := safe.held u y found holding
    change (s.nonces.write t row value).written u y.request.row = _
    rw [RowLocks.written_write]
    split
    · rename_i same
      rw [same] at own
      cases RowLocks.free_of_written writable.free own
      exact False.elim (idle y found holding)
    · exact own
  · intro u y v write found committed written
    change (s.nonces.write t row value).written v y.request.row = some write at written
    rw [RowLocks.written_write] at written
    split at written
    · exact past u y found committed ‹_›
    · exact safe.spent u y v write found committed written

theorem Writable.delete (writable : Writable s t now other) (row : String × String) :
    Writable (s.write t row none) t now other := by
  refine ⟨?_, ?_⟩
  · have free := writable.free
    unfold RowLocks.free at free
    unfold Database.write RowLocks.write RowLocks.free
    rw [OrderedMap.get_set]
    by_cases same : other = row
    · simp [same]
    · simpa only [if_neg same] using free
  · intro expiresAt seen
    rw [RowLocks.get_view] at seen
    change ((s.nonces.write t row none).written t other).getD (s.nonces.rows.get other) = _ at seen
    rw [RowLocks.written_write] at seen
    by_cases same : other = row
    · simp [same] at seen
    · rw [if_neg same, ← RowLocks.get_view] at seen
      exact writable.lapsed expiresAt seen

theorem Safe.sweep (safe : Safe s) (found : s.transactions t = some x) (idle : ¬ x.phase.holds)
    (reading : now ≤ databaseNow s.clock) (rows : List (String × String))
    (writable : ∀ row ∈ rows, Writable s t now row) :
    Safe (rows.foldl (fun s row => s.write t row none) s) ∧
      (rows.foldl (fun s row => s.write t row none) s).transactions = s.transactions := by
  induction rows generalizing s with
  | nil => exact ⟨safe, rfl⟩
  | cons row rest ih =>
    have first := writable row List.mem_cons_self
    have written : Safe (s.write t row none) := by
      refine safe.write first ?_ reading none
      intro y same
      cases found.symm.trans same
      exact idle
    exact ih written found reading
      (fun other member => (writable other (List.mem_cons_of_mem _ member)).delete row)

theorem Safe.commit (safe : Safe s) (found : s.transactions t = some x) (completed : x.phase = .completed)
    (granted : Bool) :
    Safe { s.advance t x (.committed granted) with nonces := s.nonces.commit t } := by
  have own := safe.held t x found (by simp [completed, Phase.holds])
  have committedRow : ∀ row, s.nonces.written t row = none →
      (s.nonces.commit t).rows.get row = s.nonces.rows.get row := by
    intro row untouched
    rw [RowLocks.rows_commit, untouched]
    rfl
  refine ⟨?_, safe.cleanup, ?_, ?_, ?_, ?_⟩
  · intro u y now present reading
    obtain ⟨rfl, rfl⟩ | ⟨_, before⟩ := enter_cases present
    · cases reading
    · exact safe.read u y now before reading
  · intro u y present holding
    obtain ⟨rfl, rfl⟩ | ⟨differ, before⟩ := enter_cases present
    · exact False.elim holding
    · change (s.nonces.commit t).written u _ = _
      rw [RowLocks.written_commit, if_neg differ]
      exact safe.held u y before holding
  · intro u y present committed
    obtain ⟨rfl, rfl⟩ | ⟨_, before⟩ := enter_cases present
    · left
      refine ⟨x.request.expiresAt, ?_, Int.le_refl _⟩
      change (s.nonces.commit u).rows.get x.request.row = _
      rw [RowLocks.rows_commit, own]
      rfl
    · cases touched : s.nonces.written t y.request.row with
      | some write => exact Or.inr (safe.spent u y t write before committed touched)
      | none =>
        change (∃ expiresAt, (s.nonces.commit t).rows.get y.request.row = _ ∧ _) ∨ _
        rw [committedRow _ touched]
        exact safe.backed u y before committed
  · intro u y v write present committed written
    change (s.nonces.commit t).written v y.request.row = some write at written
    rw [RowLocks.written_commit] at written
    split at written
    · cases written
    · rename_i differ
      obtain ⟨rfl, rfl⟩ | ⟨_, before⟩ := enter_cases present
      · exact False.elim (differ (RowLocks.written_unique written own))
      · exact safe.spent u y v write before committed written
  · intro u y v z first second done committed same
    obtain ⟨rfl, rfl⟩ | ⟨other, earlier⟩ := enter_cases first
    · obtain ⟨rfl, rfl⟩ | ⟨_, before⟩ := enter_cases second
      · rfl
      · exact safe.alone u x v z found before (Or.inl completed) committed same
    · obtain ⟨rfl, rfl⟩ | ⟨_, before⟩ := enter_cases second
      · rcases done with waiting | final
        · have rival := safe.held u y earlier (by simp [waiting, Phase.holds])
          rw [same.row] at rival
          exact RowLocks.written_unique rival own
        · exact (safe.alone v x u y found earlier (Or.inl completed) final ⟨same.row.symm, same.expiresAt.symm⟩).symm
      · exact safe.alone u y v z earlier before done committed same

theorem get_foldl_delete (rows : List (String × String)) (table : OrderedMap (String × String) Int)
    (row : String × String) :
    (rows.foldl OrderedMap.delete table).get row = if row ∈ rows then none else table.get row := by
  induction rows generalizing table with
  | nil => simp
  | cons first rest ih =>
    rw [List.foldl_cons, ih, OrderedMap.get_delete]
    by_cases later : row ∈ rest
    · simp [later]
    · by_cases same : row = first <;> simp [later, same]

theorem Safe.delete (safe : Safe s) (reading : now ≤ databaseNow s.clock) (rows : List (String × String))
    (expired : ∀ row ∈ rows, s.expired now row = true) (cleanups : Nat → Option (Int × Nat))
    (reads : ∀ c now maximum, cleanups c = some (now, maximum) → now ≤ databaseNow s.clock) :
    Safe { s with
      nonces := { s.nonces with rows := rows.foldl OrderedMap.delete s.nonces.rows }
      cleanups } := by
  refine ⟨safe.read, reads, safe.held, ?_, safe.spent, safe.alone⟩
  intro t x found committed
  rcases safe.backed t x found committed with ⟨expiresAt, stored, outlives⟩ | late
  · change (∃ expiresAt, (rows.foldl OrderedMap.delete s.nonces.rows).get x.request.row = some expiresAt ∧ _) ∨ _
    rw [get_foldl_delete]
    by_cases removed : x.request.row ∈ rows
    · right
      have checked := expired _ removed
      simp only [Database.expired, stored, Option.any_some, Bool.and_eq_true, decide_eq_true_eq] at checked
      have ended := checked.1
      change x.request.expiresAt ≤ databaseNow s.clock
      omega
    · rw [if_neg removed]
      exact Or.inl ⟨expiresAt, stored, outlives⟩
  · exact Or.inr late

theorem Safe.advance (safe : Safe s) (found : s.transactions t = some x) (before : x.phase.active = true)
    (after : phase.active = true) (read : ∀ now, phase.now? = some now → now ≤ databaseNow s.clock)
    (held : phase.holds → s.nonces.written t x.request.row = some (some x.request.expiresAt))
    (live : phase = .completed → databaseNow s.clock < x.request.expiresAt) : Safe (s.advance t x phase) := by
  have unfinished : ∀ phase : Phase, phase.active = true → ¬ phase.isCommitted := by
    intro phase active
    cases phase <;> simp [Phase.active, Phase.isCommitted] at active ⊢
  refine safe.enter _ (unfinished phase after) ?_ read held live
  intro y same
  cases found.symm.trans same
  exact unfinished _ before

theorem Phase.reading {phase : Phase} (read : phase.now? = some now) : phase.active = true ∧ ¬ phase.holds := by
  cases phase <;> simp_all [Phase.now?, Phase.active, Phase.holds]

/-- A transaction that goes on with its first clock reading. -/
theorem Safe.onward (safe : Safe s) (found : s.transactions t = some x) (before : x.phase.now? = some now)
    (after : phase.now? = some now) : Safe (s.advance t x phase) := by
  obtain ⟨active, idle⟩ := Phase.reading after
  refine safe.advance found (Phase.reading before).1 active ?_ (fun holds => absurd holds idle) ?_
  · intro later same
    cases after.symm.trans same
    exact safe.read t x now found before
  · rintro rfl
    cases after

theorem Safe.swept {rows : List (String × String)} (safe : Safe s) (found : s.transactions t = some x)
    (full : x.phase.now? = some now) (deletable : rows.all (s.deletable t x.request.accountId now) = true) :
    Safe ((rows.foldl (fun s row => s.write t row none) s).advance t x (.swept now)) := by
  have writable : ∀ row ∈ rows, Writable s t now row := by
    intro row member
    have checked := List.all_eq_true.mp deletable row member
    simp only [Database.deletable, Bool.and_eq_true, decide_eq_true_eq] at checked
    refine ⟨checked.2, ?_⟩
    intro expiresAt seen
    simpa [seen] using checked.1.2
  obtain ⟨swept, transactions⟩ :=
    safe.sweep found (Phase.reading full).2 (safe.read t x now found full) rows writable
  exact swept.onward (by rw [transactions, found]) full rfl

theorem Safe.inserted (safe : Safe s) (found : s.transactions t = some x) (clear : x.phase.now? = some now)
    (writable : Writable s t now x.request.row) :
    Safe ((s.write t x.request.row (some x.request.expiresAt)).advance t x .consumed) := by
  obtain ⟨active, unheld⟩ := Phase.reading clear
  have idle : ∀ y, s.transactions t = some y → ¬ y.phase.holds := by
    intro y same
    cases found.symm.trans same
    exact unheld
  have written := safe.write writable idle (safe.read t x now found clear) (some x.request.expiresAt)
  refine written.advance found active rfl (by simp [Phase.now?]) (fun _ => ?_) (by simp)
  change (s.nonces.write t x.request.row _).written t x.request.row = _
  rw [RowLocks.written_write, if_pos rfl, if_pos rfl]

theorem step_safe (safe : Safe s) (taken : step limit s event = some next) : Safe next := by
  cases event with
  | tick elapsed =>
    cases taken
    exact safe.tick elapsed
  | begin t route request =>
    obtain ⟨unused, taken⟩ := guard_bind_some taken
    obtain ⟨_, taken⟩ := guard_bind_some taken
    cases taken
    exact safe.enter _ id (by simp [unused]) (by simp [Phase.now?]) False.elim (by simp)
  | recheck t =>
    obtain ⟨x, found, taken⟩ := some_bind taken
    obtain ⟨begun, taken⟩ := guard_bind_some taken
    have active : x.phase.active = true := by simp [begun, Phase.active]
    simp only at taken
    split at taken
    · cases taken
      exact safe.advance found active rfl (by simp [Phase.now?]) False.elim (by simp)
    · cases taken
      exact safe.abort found active
  | count t =>
    obtain ⟨x, found, taken⟩ := some_bind taken
    split at taken
    · rename_i now admitted
      have reading : x.phase.now? = some now := by simp [admitted, Phase.now?]
      split at taken
      · cases taken
        exact safe.onward found reading rfl
      · cases taken
        exact safe.onward found reading rfl
    · cases taken
  | sweep t rows =>
    obtain ⟨x, found, taken⟩ := some_bind taken
    split at taken
    · rename_i now full
      obtain ⟨deletable, taken⟩ := guard_bind_some taken
      cases taken
      exact safe.swept found (by simp [full, Phase.now?]) deletable
    · cases taken
  | recount t =>
    obtain ⟨x, found, taken⟩ := some_bind taken
    split at taken
    · rename_i now swept
      have reading : x.phase.now? = some now := by simp [swept, Phase.now?]
      split at taken
      · cases taken
        exact safe.abort found (Phase.reading reading).1
      · cases taken
        exact safe.onward found reading rfl
    · cases taken
  | insert t =>
    obtain ⟨x, found, taken⟩ := some_bind taken
    split at taken
    · rename_i now clear
      have reading : x.phase.now? = some now := by simp [clear, Phase.now?]
      obtain ⟨free, taken⟩ := guard_bind_some taken
      split at taken
      · cases taken
        exact safe.abort found (Phase.reading reading).1
      · rename_i lapsed
        cases taken
        exact safe.inserted found reading ⟨free, fun expiresAt seen => by simpa [seen] using lapsed⟩
    · cases taken
  | complete t =>
    obtain ⟨x, found, taken⟩ := some_bind taken
    obtain ⟨consumed, taken⟩ := guard_bind_some taken
    have active : x.phase.active = true := by simp [consumed, Phase.active]
    split at taken
    · rename_i accepted
      cases taken
      have live := assertRequest_ok accepted
      rw [completedNow_eq] at live
      exact safe.advance found active rfl (by simp [Phase.now?])
        (fun _ => safe.held t x found (by simp [consumed, Phase.holds])) (fun _ => live)
    · cases taken
      exact safe.abort found active
  | commit t granted =>
    obtain ⟨x, found, taken⟩ := some_bind taken
    obtain ⟨completed, taken⟩ := guard_bind_some taken
    obtain ⟨_, taken⟩ := guard_bind_some taken
    cases taken
    exact safe.commit found completed granted
  | rollback t =>
    obtain ⟨x, found, taken⟩ := some_bind taken
    obtain ⟨active, taken⟩ := guard_bind_some taken
    cases taken
    exact safe.abort found active
  | readClock cleanup maximum =>
    obtain ⟨_, taken⟩ := guard_bind_some taken
    cases taken
    refine ⟨safe.read, ?_, safe.held, safe.backed, safe.spent, safe.alone⟩
    intro c now maximum found
    simp only [Function.update_apply] at found
    split at found
    · cases found
      exact Int.le_refl _
    · exact safe.cleanup c now maximum found
  | cleanupExpiredNonces cleanup rows =>
    obtain ⟨⟨now, maximum⟩, found, taken⟩ := some_bind taken
    obtain ⟨expired, taken⟩ := guard_bind_some taken
    cases taken
    refine safe.delete (safe.cleanup cleanup now maximum found) rows
      (fun row member => List.all_eq_true.mp expired.2 row member) _ ?_
    intro c now maximum found
    simp only [Function.update_apply] at found
    split at found
    · cases found
    · exact safe.cleanup c now maximum found

/-- Over any run, whatever interleaves and whatever cleanup deletes, one signed request is
committed by at most one transaction. -/
theorem replay_commits_once (initial : start.Initial) (run : Run (Step limit) start history s)
    (first : s.transactions t = some x) (second : s.transactions u = some y) (granted refused : Bool)
    (committed : x.phase = .committed granted) (again : y.phase = .committed refused)
    (account : x.request.accountId = y.request.accountId)
    (nonce : toLowerCase x.request.nonce = toLowerCase y.request.nonce)
    (expiresAt : x.request.expiresAt = y.request.expiresAt) : t = u := by
  have safe : Safe s := run.state_invariant (.initial initial) (fun safe taken => step_safe safe taken)
  refine safe.alone t x u y first second (Or.inr ?_) ?_ ⟨?_, expiresAt⟩
  · simp [committed, Phase.isCommitted]
  · simp [again, Phase.isCommitted]
  · simp only [VerifiedRequest.row, account, nonce]

def sampleRequest : VerifiedRequest where
  accountId := "account"
  signer := "0xaaaaaaaaaaaaaaaaaaaaaaaaaaaaaaaaaaaaaaaa"
  grantId := none
  nonce := "0xabababababababababababababababababababababababababababababababab"
  issuedAt := 0
  expiresAt := 2
  idempotencyKey := none
  requiredScopes := []
  ownerOnly := true
  now := 0

def sampleStart : Database := ⟨0, ⟨.empty, .empty⟩, fun _ => none, fun _ => none⟩

/-- The request commits, its row is cleaned up at its expiry, and it is presented again by a
transaction that had read the clock before. -/
def sampleReplay : List Event :=
  [.begin 0 .authorizeAndConsume sampleRequest, .begin 1 .authorizeWalletApp sampleRequest, .recheck 0, .recheck 1,
    .count 0, .insert 0, .count 1, .complete 0, .commit 0 true, .tick 2000000, .readClock 0 1000,
    .cleanupExpiredNonces 0 [sampleRequest.row], .insert 1, .complete 1]

theorem sampleReplay_phases :
    (sampleReplay.foldlM (step 1000) sampleStart).bind (fun s =>
      (s.transactions 0).bind (fun first => (s.transactions 1).map (fun second => (first, second.phase)))) =
      some (⟨.authorizeAndConsume, sampleRequest, .committed true⟩, .rolledBack) := by
  decide +kernel

theorem replay_commits_once_sample : ∃ s x, Run (Step 1000) sampleStart sampleReplay s ∧
    s.transactions 0 = some x ∧ x.phase = .committed true ∧ ∀ u y granted, s.transactions u = some y →
      y.phase = .committed granted → y.request = x.request → 0 = u := by
  obtain ⟨s, ran, phases⟩ := some_bind sampleReplay_phases
  obtain ⟨x, found, pair⟩ := some_bind phases
  obtain ⟨_, _, same⟩ := Option.map_eq_some_iff.mp pair
  have committed : x.phase = .committed true := by rw [(Prod.mk.inj same).1]
  have run : Run (Step 1000) sampleStart sampleReplay s := Run.of_foldlM ran
  refine ⟨s, x, run, found, committed, ?_⟩
  intro u y granted present again request
  have initial : sampleStart.Initial := ⟨fun _ => rfl, fun _ => rfl, rfl⟩
  exact replay_commits_once initial run found present true granted committed again
    (by rw [request]) (by rw [request]) (by rw [request])

end JBCenter.Auth
