import JBCenter.Base.Matching
import JBCenter.Sessions.Reservations

/-! The two session stores side by side: the same calls, one clock, the same answers of the guards. As long as
their documents stay alike, a wallet's reservation rows say what the in-memory store recomputes. -/
namespace JBCenter.Sessions
open Rest Fallible
open OrderedMap (get_set has_iff)
variable {encoding : Encoding} {jsonb : StoredSession → Bool} {record next : StoredSession} {id : String}
  {now clock : Int}

/-- What a change makes of a record's bookkeeping. -/
structure Advanced (record next : StoredSession) (now : Int) : Prop where
  actor : next.actor = record.actor
  createdAt : next.createdAt = record.createdAt
  updatedAt : next.updatedAt = now
  revision : next.revision = record.revision + 1
  nonnegative : 0 ≤ record.revision

theorem revision_ok (accepted : revision value = .ok ()) : 0 ≤ value := by
  have bounds := refuse_ok.mp accepted
  simp only [Bool.or_eq_false_iff, decide_eq_false_iff_not] at bounds
  omega

theorem applySessionClaim_advanced
    (applied : applySessionClaim encoding record claim kind now supersede = .ok (next, changed)) :
    (changed = false ∧ next = record) ∨ (changed = true ∧ Advanced record next now ∧
      next.observation = record.observation ∧ next.reservationsReleased = record.reservationsReleased ∧
      (kind = .activation → next.activation.isSome = true ∧ record.reservationsReleased = false) ∧
      (kind = .revocation → next.activation = record.activation)) := by
  unfold applySessionClaim at applied
  iterate 2 obtain ⟨_, _, applied⟩ := ok_bind applied
  obtain ⟨_, numbered, applied⟩ := ok_bind applied
  obtain ⟨_, applied⟩ := ok_refuse applied
  simp only at applied
  split at applied
  · obtain ⟨_, _, applied⟩ := ok_bind applied
    cases applied
    exact Or.inl ⟨rfl, rfl⟩
  · obtain ⟨_, _, applied⟩ := ok_bind applied
    obtain ⟨current, applied⟩ := ok_refuse applied
    obtain ⟨_, applied⟩ := ok_refuse applied
    obtain ⟨available, applied⟩ := ok_refuse applied
    iterate 3 obtain ⟨_, _, applied⟩ := ok_bind applied
    cases applied
    have same : record.revision = claim.expectedRevision := by simpa using current
    refine Or.inr ⟨rfl, ⟨rfl, rfl, rfl, rfl, same ▸ revision_ok numbered⟩, rfl, rfl, ?_, ?_⟩
    · rintro rfl
      simp only [decide_true, Bool.true_and, Bool.or_eq_false_iff] at available
      exact ⟨rfl, available.1.1.1⟩
    · rintro rfl
      rfl

theorem observedRecord_frame (record : StoredSession) (observation : SessionCanonicalObservation) (grantActive : Bool)
    (now : Int) :
    (observedRecord record observation grantActive now).actor = record.actor ∧
      (observedRecord record observation grantActive now).createdAt = record.createdAt ∧
      (observedRecord record observation grantActive now).revision = record.revision ∧
      (observedRecord record observation grantActive now).observation = some observation := by
  unfold observedRecord
  simp only
  split
  · split <;> exact ⟨rfl, rfl, rfl, rfl⟩
  · exact ⟨rfl, rfl, rfl, rfl⟩

theorem withoutGrant_frame (observation : SessionCanonicalObservation) (now : Int) (next : StoredSession) :
    (withoutGrant observation now next).actor = next.actor ∧
      (withoutGrant observation now next).createdAt = next.createdAt ∧
      (withoutGrant observation now next).revision = next.revision := by
  unfold withoutGrant
  split <;> exact ⟨rfl, rfl, rfl⟩

theorem applySessionObservation_advanced
    (applied : applySessionObservation encoding record update grantActive now = .ok (next, changed)) :
    (changed = false ∧ next = record) ∨ (changed = true ∧ Advanced record next now ∧
      (record.revision = update.expectedRevision ∧
        record.observation.map SessionCanonicalObservation.proofHash = update.expectedObservationHash ∧
        assertObservation encoding record update.observation now = .ok ()) ∧
      next.activation = record.activation ∧ next.observation = some update.observation ∧
      next.reservationsReleased = (record.reservationsReleased ||
        (update.observation.finalized && retired record.compiled update.observation.installed))) := by
  have activation := observation_activation applied
  unfold applySessionObservation at applied
  obtain ⟨_, _, applied⟩ := ok_bind applied
  obtain ⟨_, numbered, applied⟩ := ok_bind applied
  split at applied
  · obtain ⟨_, _, applied⟩ := ok_bind applied
    cases applied
    exact Or.inl ⟨rfl, rfl⟩
  · rename_i current
    obtain ⟨_, accepted, applied⟩ := ok_bind applied
    iterate 4 obtain ⟨_, _, applied⟩ := ok_bind applied
    cases applied
    simp only [Bool.or_eq_true, decide_eq_true_eq, not_or, not_not] at current
    have nonnegative := current.1 ▸ revision_ok numbered
    have released := observedRecord_released record update.observation grantActive now
    obtain ⟨actor, createdAt, revision, seen⟩ := observedRecord_frame record update.observation grantActive now
    refine Or.inr ⟨rfl, ?_, ⟨current.1, current.2, accepted⟩, activation, ?_⟩
    · cases grantActive with
      | true => exact ⟨actor, createdAt, rfl, congrArg (· + 1) revision, nonnegative⟩
      | false =>
        obtain ⟨actor', createdAt', revision'⟩ := withoutGrant_frame update.observation now
          (observedRecord record update.observation false now)
        exact ⟨actor'.trans actor, createdAt'.trans createdAt, rfl, congrArg (· + 1) (revision'.trans revision),
          nonnegative⟩
    · cases grantActive with
      | true => exact ⟨seen, released⟩
      | false =>
        obtain ⟨_, _, _, _, seen', released', _⟩ := withoutGrant_kept update.observation now
          (observedRecord record update.observation false now)
        exact ⟨seen'.trans seen, released'.trans released⟩

theorem applySessionInvalidation_advanced
    (applied : applySessionInvalidation encoding record update now = .ok (next, changed)) :
    (changed = false ∧ next = record) ∨ (changed = true ∧ Advanced record next now ∧
      next.reservationsReleased = record.reservationsReleased) := by
  unfold applySessionInvalidation at applied
  obtain ⟨_, _, applied⟩ := ok_bind applied
  obtain ⟨_, numbered, applied⟩ := ok_bind applied
  split at applied
  · obtain ⟨_, _, applied⟩ := ok_bind applied
    cases applied
    exact Or.inl ⟨rfl, rfl⟩
  · rename_i current
    iterate 3 obtain ⟨_, _, applied⟩ := ok_bind applied
    cases applied
    have same : record.revision = update.expectedRevision := by simpa using current
    exact Or.inr ⟨rfl, ⟨rfl, rfl, rfl, rfl, same ▸ revision_ok numbered⟩, rfl⟩

theorem assertNewSession_ok (new : assertNewSession encoding record now = .ok ()) :
    record.actor.accountId = record.compiled.ownerAccountId ∧ canReadSession record record.actor = true ∧
      isPositive record.compiled.generation = true ∧ record.createdAt ≤ now ∧ isTime record.createdAt = true ∧
      record.updatedAt = record.createdAt ∧ record.revision = 0 ∧ encoding.record record ≤ maximumBytes := by
  unfold assertNewSession at new
  iterate 3 obtain ⟨_, _, new⟩ := ok_bind new
  obtain ⟨creator, new⟩ := ok_refuse new
  obtain ⟨shape, new⟩ := ok_refuse new
  iterate 2 obtain ⟨_, _, new⟩ := ok_bind new
  obtain ⟨initial, new⟩ := ok_refuse new
  iterate 2 obtain ⟨_, _, new⟩ := ok_bind new
  obtain ⟨_, cloned, _⟩ := except_map_ok new
  obtain ⟨small, _⟩ := ok_refuse cloned
  simp only [Bool.or_eq_false_iff, decide_eq_false_iff_not, not_not, Bool.not_eq_false'] at creator shape initial small
  obtain ⟨⟨⟨⟨⟨⟨⟨⟨⟨⟨⟨_, positive⟩, _⟩, _⟩, _⟩, _⟩, _⟩, _⟩, _⟩, _⟩, _⟩, _⟩ := shape
  obtain ⟨⟨⟨⟨⟨⟨⟨⟨⟨⟨⟨⟨⟨_, time⟩, created⟩, updated⟩, _⟩, _⟩, _⟩, revision⟩, _⟩, _⟩, _⟩, _⟩, _⟩, _⟩ := initial
  exact ⟨creator.1, creator.2, positive, by omega, time, by simpa using updated, by simpa using revision, by omega⟩

/-- The reservation rows belong to stored records, and the unreleased ones say which of them reserve. -/
structure Rows (records : OrderedMap String StoredSession) (p : Postgres) : Prop where
  owned : ∀ row ∈ p.reservations, ∃ record, records.get row.sessionId = some record ∧
    row.chainId = record.compiled.chainId ∧ row.walletAddress = toLowerCase record.compiled.wallet ∧
    (row.releasedAt.isSome = true → record.reservationsReleased = true)
  held : ∀ id record, records.get id = some record → p.holds id = record.reserves

variable {records : OrderedMap String StoredSession} {p q : Postgres}

theorem Rows.of_reservations (rows : Rows records p) (same : q.reservations = p.reservations) : Rows records q := by
  refine ⟨?_, ?_⟩
  · rw [same]
    exact rows.owned
  · intro id record found
    rw [← rows.held id record found]
    unfold Postgres.holds
    rw [same]

theorem released_unreserved (released : record.reservationsReleased = true) : record.reserves = false := by
  simp [StoredSession.reserves, released]

theorem Rows.insert (rows : Rows records p) (fresh : records.get record.id = none)
    (unreserved : record.reserves = false) : Rows (records.set record.id record) p := by
  have other : ∀ row ∈ p.reservations, row.sessionId ≠ record.id := by
    intro row member same
    obtain ⟨owner, found, _⟩ := rows.owned row member
    rw [same, fresh] at found
    cases found
  refine ⟨?_, ?_⟩
  · intro row member
    rw [OrderedMap.get_set_ne _ _ (other row member)]
    exact rows.owned row member
  · intro id stored found
    rw [get_set] at found
    split at found
    · rename_i same
      cases found
      rw [unreserved, ← Bool.not_eq_true, Postgres.holds_iff]
      rintro ⟨row, member, own, _⟩
      exact other row member (own.trans same)
    · exact rows.held id stored found

theorem Rows.rewrite (rows : Rows records p) (found : records.get id = some record) (carried : Carried record next)
    (kept : ∀ row ∈ q.reservations, row ∈ p.reservations ∨ (row.sessionId = id ∧
      row.chainId = record.compiled.chainId ∧ row.walletAddress = toLowerCase record.compiled.wallet ∧
      (row.releasedAt.isSome = true → next.reservationsReleased = true)))
    (others : ∀ other, other ≠ id → q.holds other = p.holds other) (own : q.holds id = next.reserves) :
    Rows (records.set id next) q := by
  refine ⟨?_, ?_⟩
  · intro row member
    rw [get_set]
    split
    · rename_i same
      refine ⟨next, rfl, ?_⟩
      rw [carried.compiled]
      obtain before | ⟨_, rest⟩ := kept row member
      · obtain ⟨owner, stored, chain, wallet, released⟩ := rows.owned row before
        rw [same, found] at stored
        cases stored
        exact ⟨chain, wallet, fun ended => carried.released (released ended)⟩
      · exact rest
    · rename_i differ
      obtain before | ⟨same, _⟩ := kept row member
      · exact rows.owned row before
      · exact absurd same differ
  · intro other stored held
    rw [get_set] at held
    split at held
    · rename_i same
      cases held
      rw [same]
      exact own
    · rename_i differ
      rw [others other differ]
      exact rows.held other stored held

theorem Rows.same (rows : Rows records p) (found : records.get id = some record) (carried : Carried record next)
    (reserves : next.reserves = record.reserves) : Rows (records.set id next) p :=
  rows.rewrite found carried (fun _ member => Or.inl member) (fun _ _ => rfl)
    ((rows.held id record found).trans reserves.symm)

theorem Rows.reserve (rows : Rows records p) (found : records.get id = some record) (key : record.id = id)
    (carried : Carried record next) (reserver : StoredSession) (named : reserver.id = record.id)
    (compiled : reserver.compiled = record.compiled) (reserved : p.reserveAuthority reserver = .ok q)
    (unreleased : record.reservationsReleased = false) (reserves : next.reserves = true) :
    Rows (records.set id next) q := by
  obtain ⟨_, rfl⟩ := Postgres.reserveAuthority_ok reserved
  refine rows.rewrite found carried ?_ ?_ ?_
  · intro row member
    obtain before | ⟨own, chain, wallet, live⟩ := Postgres.reserved_mem member
    · exact Or.inl before
    · refine Or.inr ⟨own.trans (named.trans key), by rw [chain, compiled], by rw [wallet, compiled], fun ended => ?_⟩
      rw [live] at ended
      cases ended
  · intro other differ
    rw [Bool.eq_iff_iff, Postgres.holds_iff, Postgres.holds_iff]
    refine ⟨?_, ?_⟩
    · rintro ⟨row, member, own, live⟩
      obtain before | ⟨own', _⟩ := Postgres.reserved_mem member
      · exact ⟨row, before, own, live⟩
      · exact absurd (own.symm.trans (own'.trans (named.trans key))) differ
    · rintro ⟨row, member, own, live⟩
      exact ⟨row, Postgres.reserved_kept member, own, live⟩
  · rw [reserves, Postgres.holds_iff]
    obtain ⟨row, member, own⟩ := Postgres.reserved_own reserver p.reservations
    refine ⟨row, member, own.trans (named.trans key), ?_⟩
    obtain before | ⟨_, _, _, live⟩ := Postgres.reserved_mem member
    · obtain ⟨owner, stored, _, _, released⟩ := rows.owned row before
      rw [own, named, key, found] at stored
      cases stored
      by_contra live
      have ended := released (Option.isSome_iff_ne_none.mpr live)
      rw [unreleased] at ended
      cases ended
    · exact live

theorem Rows.release (rows : Rows records p) (found : records.get id = some record) (carried : Carried record next)
    (released : next.reservationsReleased = true) : Rows (records.set id next) (p.release id now) := by
  have unheld : (p.release id now).holds id = false := by
    rw [← Bool.not_eq_true, Postgres.holds_iff]
    rintro ⟨row, member, own, live⟩
    obtain ⟨_, _, _, _, _, _, _, ended⟩ := Postgres.release_mem member
    have some := ended own
    rw [live] at some
    cases some
  refine rows.rewrite found carried ?_ ?_ (unheld.trans (released_unreserved released).symm)
  · intro row member
    obtain ⟨before, stored, session, chain, wallet, _, other, _⟩ := Postgres.release_mem member
    by_cases same : row.sessionId = id
    · obtain ⟨owner, kept, chain', wallet', _⟩ := rows.owned before stored
      rw [← session, same, found] at kept
      cases kept
      exact Or.inr ⟨same, chain.trans chain', wallet.trans wallet', fun _ => released⟩
    · rw [other same]
      exact Or.inl stored
  · intro other differ
    rw [Bool.eq_iff_iff, Postgres.holds_iff, Postgres.holds_iff]
    refine ⟨?_, ?_⟩
    · rintro ⟨row, member, own, live⟩
      obtain ⟨before, stored, session, _, _, live', _⟩ := Postgres.release_mem member
      exact ⟨before, stored, session.symm.trans own, live' live⟩
    · rintro ⟨row, member, own, live⟩
      refine ⟨row, List.mem_map.mpr ⟨row, member, ?_⟩, own, live⟩
      simp [own, differ]

structure Stored (encoding : Encoding) (clock : Int) (record : StoredSession) : Prop where
  owner : record.actor.accountId = record.compiled.ownerAccountId
  generation : isPositive record.compiled.generation = true
  small : encoding.record record ≤ maximumBytes
  created : record.createdAt ≤ clock

theorem Stored.later (stored : Stored encoding earlier record) (later : earlier ≤ clock) : Stored encoding clock record :=
  { stored with created := Int.le_trans stored.created later }

/-- The stores hold the same documents and bindings, and the rows say which sessions reserve. -/
structure Agrees (encoding : Encoding) (clock : Int) (m : Memory) (p : Postgres) : Prop where
  sessions : p.sessions = m.records
  idempotency : p.idempotency = m.idempotency
  keyed : ∀ id record, m.records.get id = some record → record.id = id
  stored : ∀ id record, m.records.get id = some record → Stored encoding clock record
  rows : Rows m.records p

variable {m n : Memory} {earlier : Int} {actor : RestActor}

theorem Agrees.later (agrees : Agrees encoding earlier m p) (later : earlier ≤ clock) : Agrees encoding clock m p :=
  { agrees with stored := fun id record found => (agrees.stored id record found).later later }

theorem mem_values_iff : record ∈ records.values ↔ ∃ id, records.get id = some record := by
  refine ⟨fun member => ?_, fun ⟨id, found⟩ => mem_values (s := ⟨records, .empty⟩) found⟩
  obtain ⟨⟨id, stored⟩, entry, rfl⟩ := List.mem_map.mp member
  exact ⟨id, OrderedMap.get_of_mem entry⟩

/-- Who may read a record belongs to its account. -/
theorem Agrees.selectSession (agrees : Agrees encoding earlier m p) :
    p.selectSession encoding actor id = m.required actor id := by
  unfold Postgres.selectSession Memory.required
  rw [agrees.sessions]
  congr 1
  funext _
  congr 1
  funext _
  cases found : m.records.get id with
  | none => rfl
  | some record =>
    have stored := agrees.stored id record found
    have copied : cloneSession encoding.record record = .ok record := by
      simp [cloneSession, refuse, Nat.not_lt.mpr stored.small, bind, Except.bind, pure, Except.pure]
    by_cases readable : canReadSession record actor = true
    · have owner : record.actor.accountId = actor.accountId := by
        simp only [canReadSession, Bool.and_eq_true, decide_eq_true_eq] at readable
        rw [stored.owner, readable.1]
      simp [Option.filter, owner, readable, copied]
    · by_cases owner : record.actor.accountId = actor.accountId
      · simp [Option.filter, owner, readable]
      · simp [Option.filter, owner, readable]

theorem Agrees.overlap (agrees : Agrees encoding earlier m p) (record : StoredSession) :
    p.overlap record = m.records.values.any (reservationConflicts record) := by
  rw [Bool.eq_iff_iff, List.any_eq_true]
  unfold Postgres.overlap
  rw [List.any_eq_true]
  refine ⟨?_, ?_⟩
  · rintro ⟨row, member, conflicts⟩
    simp only [Bool.and_eq_true, decide_eq_true_eq, Option.isNone_iff_eq_none] at conflicts
    obtain ⟨⟨⟨chain, wallet⟩, live⟩, differ⟩ := conflicts
    obtain ⟨owner, found, chain', wallet', _⟩ := agrees.rows.owned row member
    have reserves := agrees.rows.held _ owner found
    rw [Postgres.holds_iff.mpr ⟨row, member, rfl, live⟩] at reserves
    have key := agrees.keyed _ owner found
    refine ⟨owner, mem_values_iff.mpr ⟨_, found⟩, ?_⟩
    rw [← key] at differ
    simp [reservationConflicts, sameWallet, same, ← chain, ← chain', ← wallet, ← wallet', ← reserves, Ne.symm differ]
  · rintro ⟨other, member, conflicts⟩
    obtain ⟨id, found⟩ := mem_values_iff.mp member
    simp only [reservationConflicts, sameWallet, same, Bool.and_eq_true, decide_eq_true_eq] at conflicts
    obtain ⟨⟨differ, chain, wallet⟩, reserves⟩ := conflicts
    have holds := agrees.rows.held id other found
    rw [reserves, Postgres.holds_iff] at holds
    obtain ⟨row, stored, own, live⟩ := holds
    obtain ⟨owner, found', chain', wallet', _⟩ := agrees.rows.owned row stored
    rw [own, found] at found'
    cases found'
    have key := agrees.keyed id other found
    refine ⟨row, stored, ?_⟩
    simp [chain', wallet', chain, wallet, live, own, ← key, Ne.symm differ]

theorem isPositive_uint256 (positive : isPositive value = true) : isUint256 value = true := by
  simp only [isPositive, Bool.and_eq_true] at positive
  exact positive.1

theorem Agrees.unique (agrees : Agrees encoding earlier m p) (positive : isPositive record.compiled.generation = true) :
    p.sessions.values.any (uniqueConflicts record) =
      (m.records.has record.id || m.records.values.any (identityConflicts record)) := by
  rw [agrees.sessions, Bool.eq_iff_iff, Bool.or_eq_true, List.any_eq_true, List.any_eq_true, has_iff]
  have generations : ∀ id other, m.records.get id = some other →
      (decimalValue record.compiled.generation = decimalValue other.compiled.generation ↔
        record.compiled.generation = other.compiled.generation) := by
    intro id other found
    have digits := isPositive_uint256 (agrees.stored id other found).generation
    exact ⟨fun equal => decimalValue_inj (isPositive_uint256 positive) digits equal, fun equal => by rw [equal]⟩
  refine ⟨?_, ?_⟩
  · rintro ⟨other, member, conflicts⟩
    obtain ⟨id, found⟩ := mem_values_iff.mp member
    by_cases equal : record.id = other.id
    · exact Or.inl ⟨other, by rw [equal, agrees.keyed id other found, found]⟩
    · refine Or.inr ⟨other, member, ?_⟩
      simpa [uniqueConflicts, identityConflicts, equal, generations id other found] using conflicts
  · rintro (⟨other, found⟩ | ⟨other, member, conflicts⟩)
    · refine ⟨other, mem_values_iff.mpr ⟨_, found⟩, ?_⟩
      simp [uniqueConflicts, agrees.keyed _ other found]
    · obtain ⟨id, found⟩ := mem_values_iff.mp member
      refine ⟨other, member, ?_⟩
      simp only [identityConflicts, ne_eq, Bool.and_eq_true, decide_eq_true_eq] at conflicts
      simpa [uniqueConflicts, conflicts.1.1, conflicts.1.2, generations id other found] using conflicts.2

theorem assertRow_ok (created : record.createdAt ≤ record.updatedAt) (time : isTime record.updatedAt = true)
    (nonnegative : 0 ≤ record.revision) (bounded : record.revision < maxSafeInteger) (accepted : jsonb record = true) :
    Postgres.assertRow jsonb record = .ok () := by
  refine refuse_ok.mpr ?_
  simp [time, accepted]
  omega

/-- What an operation would store and answer is within the bounds of both stores. -/
structure Fits (encoding : Encoding) (jsonb : StoredSession → Bool) (result : StoredSession × Bool) : Prop where
  answer : encoding.result result ≤ maximumBytes
  record : encoding.record result.1 ≤ maximumBytes
  row : result.2 = true → jsonb result.1 = true ∧ result.1.revision < maxSafeInteger

/-- Equal answers, and stores that agree after them. -/
def Same (encoding : Encoding) (clock : Int) (a : α × Memory) (b : α × Postgres) : Prop :=
  a.1 = b.1 ∧ Agrees encoding clock a.2 b.2

theorem cloneSession_small {size : α → Nat} {value : α} (small : size value ≤ maximumBytes) :
    cloneSession size value = .ok value := by
  simp [cloneSession, refuse, Nat.not_lt.mpr small, bind, Except.bind, pure, Except.pure]

theorem store_matches {result : StoredSession × Bool} (fits : Fits encoding jsonb result)
    (row : result.2 = true → Postgres.assertRow jsonb result.1 = .ok ())
    (agrees : Agrees encoding clock { n with records := if result.2 then n.records.set id result.1 else n.records }
      { q with sessions := if result.2 then q.sessions.set result.1.id result.1 else q.sessions }) :
    Matches (Same encoding clock)
      (toExcept (modify (fun s => { s with records := if result.2 then s.records.set id result.1 else s.records }) >>=
        fun _ => check (cloneSession encoding.result result)) n)
      (q.saveResult encoding jsonb result) := by
  obtain ⟨next, changed⟩ := result
  rw [toExcept_modify_bind, toExcept_check, cloneSession_small fits.answer]
  unfold Postgres.saveResult
  cases changed with
  | true =>
    have saved : q.save encoding jsonb next = .ok (next, { q with sessions := q.sessions.set next.id next }) := by
      unfold Postgres.save
      exact bind_run (cloneSession_small fits.record) (bind_run (row rfl) rfl)
    simp only [saved]
    exact ⟨rfl, agrees⟩
  | false => exact ⟨rfl, agrees⟩

theorem Agrees.store (agrees : Agrees encoding earlier m p) (later : earlier ≤ clock) (found : m.records.get id = some record)
    (carried : Carried record next) (advanced : Advanced record next clock) (small : encoding.record next ≤ maximumBytes)
    (rows : Rows (m.records.set id next) q) (sessions : q.sessions = p.sessions) (records : n.records = m.records)
    (idempotency : q.idempotency = n.idempotency) :
    Agrees encoding clock { n with records := n.records.set id next } { q with sessions := q.sessions.set next.id next } := by
  have key := carried.id.trans (agrees.keyed id record found)
  have before := agrees.stored id record found
  refine ⟨?_, idempotency, ?_, ?_, ?_⟩
  · rw [sessions, agrees.sessions, records, key]
  · intro other stored held
    rw [records, get_set] at held
    split at held
    · rename_i same
      cases held
      exact key.trans same.symm
    · exact agrees.keyed other stored held
  · intro other stored held
    rw [records, get_set] at held
    split at held
    · cases held
      refine ⟨?_, ?_, small, ?_⟩
      · rw [advanced.actor, carried.compiled]
        exact before.owner
      · rw [carried.compiled]
        exact before.generation
      · rw [advanced.createdAt]
        exact Int.le_trans before.created later
    · exact (agrees.stored other stored held).later later
  · rw [records]
    exact rows.of_reservations rfl

theorem Agrees.rewritten (agrees : Agrees encoding earlier m p) (later : earlier ≤ clock) (time : isTime clock = true)
    (found : m.records.get id = some record) (advanced : Advanced record next clock) (accepted : jsonb next = true)
    (bounded : next.revision < maxSafeInteger) : Postgres.assertRow jsonb next = .ok () := by
  have created := (agrees.stored id record found).created
  have nonnegative := advanced.nonnegative
  refine assertRow_ok ?_ ?_ ?_ bounded accepted
  · rw [advanced.createdAt, advanced.updatedAt]
    exact Int.le_trans created later
  · rw [advanced.updatedAt]
    exact time
  · rw [advanced.revision]
    omega

theorem Agrees.stores (agrees : Agrees encoding earlier m p) (later : earlier ≤ clock) (time : isTime clock = true)
    (found : m.records.get id = some record) (carried : Carried record next) (fits : Fits encoding jsonb (next, changed))
    (written : (changed = false ∧ next = record ∧ q.reservations = p.reservations) ∨
      (changed = true ∧ Advanced record next clock ∧ Rows (m.records.set id next) q))
    (sessions : q.sessions = p.sessions) (records : n.records = m.records) (idempotency : q.idempotency = n.idempotency) :
    Matches (Same encoding clock)
      (toExcept (modify (fun s => { s with records := if changed then s.records.set id next else s.records }) >>=
        fun _ => check (cloneSession encoding.result (next, changed))) n)
      (q.saveResult encoding jsonb (next, changed)) := by
  obtain ⟨rfl, rfl, rows⟩ | ⟨rfl, advanced, rows⟩ := written
  · refine store_matches fits nofun ⟨?_, idempotency, ?_, ?_, ?_⟩
    · exact sessions.trans (agrees.sessions.trans records.symm)
    · simp only [records]
      exact agrees.keyed
    · simp only [records]
      exact fun other stored held => (agrees.stored other stored held).later later
    · simp only [records]
      exact agrees.rows.of_reservations rows
  · obtain ⟨accepted, bounded⟩ := fits.row rfl
    exact store_matches fits (fun _ => agrees.rewritten later time found advanced accepted bounded)
      (agrees.store later found carried advanced fits.record rows sessions records idempotency)

theorem idempotency_matches {binding : SessionIdempotency} {operation : SessionOperation}
    (same : q.idempotency = m.idempotency) :
    Matches (fun a t =>
        a.2 = { m with idempotency := m.idempotency.set (Memory.key actor binding.key) ⟨operation, id, binding.requestHash⟩ } ∧
        t = { q with idempotency := m.idempotency.set (Memory.key actor binding.key) ⟨operation, id, binding.requestHash⟩ })
      (toExcept (Memory.reserve actor binding operation id) m) (q.reserveIdempotency actor binding operation id) := by
  unfold Memory.reserve Postgres.reserveIdempotency
  rw [toExcept_get_bind, toExcept_check_bind, same]
  exact Matches.refuse rfl fun _ => ⟨rfl, rfl⟩

theorem reservation_matches {needed : Bool} {candidate reserver : StoredSession}
    (conflicts : m.records.values.any (reservationConflicts candidate) = p.overlap reserver) :
    Matches (fun _ q => Postgres.reserveWhen needed p reserver = .ok q)
      (if needed then m.checkReservation candidate else .ok ()) (Postgres.reserveWhen needed p reserver) := by
  cases needed with
  | false => exact rfl
  | true =>
    have alike : Matches (fun _ _ => True) (m.checkReservation candidate) (p.reserveAuthority reserver) := by
      unfold Memory.checkReservation Postgres.reserveAuthority
      rw [conflicts]
      cases p.overlap reserver <;> trivial
    obtain ⟨_, q, free, reserved, _⟩ | ⟨_, _, taken, refused⟩ := alike.cases
    · simp only [if_true, free, Postgres.reserveWhen, reserved]
      exact rfl
    · simp only [if_true, taken, Postgres.reserveWhen, refused]
      trivial

theorem checkAuthority_ofActivation (kind : LifecycleKind) (guards : Guards) (current : StoredSession) (clock : Int) :
    (if kind = .activation then Memory.checkAuthority guards current clock else .ok ()) =
      (Postgres.ofActivation kind (guards.assertBinding current) >>= fun _ =>
        Postgres.ofActivation kind (assertSessionGrant current (guards.grant current) (clock / 1000))) := by
  cases kind <;> rfl

theorem claim_rows {kind : LifecycleKind} {supersede : Bool} {request : SessionClaim} (agrees : Agrees encoding earlier m p)
    (found : m.records.get id = some record)
    (applied : applySessionClaim encoding record request kind clock supersede = .ok (next, changed))
    (reserved : Postgres.reserveWhen (changed && kind = .activation) p record = .ok q) :
    (changed = false ∧ next = record ∧ q.reservations = p.reservations) ∨
      (changed = true ∧ Advanced record next clock ∧ Rows (m.records.set id next) q) := by
  have carried := (applySessionClaim_carried applied).1
  obtain ⟨rfl, rfl⟩ | ⟨rfl, advanced, observation, released, activated, withdrawn⟩ := applySessionClaim_advanced applied
  · obtain ⟨impossible, _⟩ | ⟨_, rfl⟩ := Postgres.reserveWhen_ok reserved
    · cases impossible
    · exact Or.inl ⟨rfl, rfl, rfl⟩
  · refine Or.inr ⟨rfl, advanced, ?_⟩
    obtain ⟨needed, reserved⟩ | ⟨unneeded, rfl⟩ := Postgres.reserveWhen_ok reserved
    · have activation : kind = .activation := by simpa using needed
      obtain ⟨active, unreleased⟩ := activated activation
      refine agrees.rows.reserve found (agrees.keyed id record found) carried record rfl rfl reserved unreleased ?_
      simp [StoredSession.reserves, released, unreleased, active]
    · have revocation : kind = .revocation := by cases kind <;> simp_all
      refine agrees.rows.same found carried ?_
      simp [StoredSession.reserves, StoredSession.enabled, released, observation, withdrawn revocation]

theorem claim_matches {request : SessionClaim} {kind : LifecycleKind} {guards : Guards} {authority : Except RestError Unit}
    (agrees : Agrees encoding earlier m p) (later : earlier ≤ clock) (time : isTime clock = true)
    (fits : ∀ current supersede result, m.records.get request.id = some current →
      applySessionClaim encoding current request kind clock supersede = .ok result → Fits encoding jsonb result) :
    Matches (Same encoding clock) (toExcept (Memory.claim encoding request kind authority clock guards) m)
      (Postgres.claim encoding jsonb request kind authority clock guards p) := by
  unfold Memory.claim Postgres.claim
  refine check_same fun request cloned => ?_
  cases cloneSession_ok cloned
  refine check_same fun _ _ => check_same fun _ _ => ?_
  refine check_same fun _ authorized => ?_
  rw [toExcept_get_bind, toExcept_check_bind, agrees.selectSession]
  refine Matches.same fun current required => ?_
  have found := required_ok required
  have key := agrees.keyed _ _ found
  simp only [agrees.idempotency]
  refine check_same fun _ _ => ?_
  split
  · rw [toExcept_check_bind, cloneSession_small (agrees.stored _ _ found).small]
    exact ⟨rfl, agrees.later later⟩
  · rw [toExcept_check_bind, checkAuthority_ofActivation, bind_assoc]
    refine Matches.same fun _ _ => Matches.same fun _ granted => ?_
    refine check_same fun _ _ => ?_
    refine check_same ?_
    rintro ⟨next, changed⟩ applied
    rw [toExcept_check_bind]
    refine Matches.bind (reservation_matches (agrees.overlap current).symm) fun _ q _ _ reserved => ?_
    have kept := Postgres.reserveWhen_kept reserved
    rw [toExcept_bind]
    refine Matches.bind (idempotency_matches (kept.2.trans agrees.idempotency)) ?_
    rintro ⟨_, n⟩ t _ _ written
    obtain ⟨rfl, rfl⟩ := written
    refine Matches.right authorized (Matches.right granted (Matches.right applied ?_))
    rw [← key] at found
    refine agrees.stores later time found (applySessionClaim_carried applied).1 (fits current _ _ (key ▸ found) applied)
      ?_ kept.1 rfl rfl
    obtain ⟨unclaimed, same, rows⟩ | ⟨claimed, advanced, rows⟩ := claim_rows agrees found applied reserved
    · exact Or.inl ⟨unclaimed, same, rows⟩
    · exact Or.inr ⟨claimed, advanced, rows.of_reservations rfl⟩

/-- An accepted observation that shows, as disabled and not finally retired, a session without an activation
that was last seen enabled: the in-memory store forgets that the session reserves its wallet. -/
def forgets (encoding : Encoding) (record : StoredSession) (update : SessionObservationUpdate) (now : Int) : Prop :=
  record.activation = none ∧ record.enabled = true ∧ record.reservationsReleased = false ∧
    update.observation.installed.enabled = false ∧
    (update.observation.finalized && retired record.compiled update.observation.installed) = false ∧
    record.revision = update.expectedRevision ∧
    record.observation.map SessionCanonicalObservation.proofHash = update.expectedObservationHash ∧
    assertObservation encoding record update.observation now = .ok ()

theorem observe_rows {update : SessionObservationUpdate} {grantActive : Bool} {t : Postgres}
    (agrees : Agrees encoding earlier m p) (found : m.records.get id = some record)
    (applied : applySessionObservation encoding record update grantActive clock = .ok (next, changed))
    (remembered : ¬ forgets encoding record update clock)
    (reserved : Postgres.reserveWhen (changed && next.enabled && !next.reservationsReleased) p next = .ok q)
    (released : t = if changed && !record.reservationsReleased && next.reservationsReleased then q.release record.id clock
      else q) :
    (changed = false ∧ next = record ∧ t.reservations = p.reservations) ∨
      (changed = true ∧ Advanced record next clock ∧ Rows (m.records.set id next) t) := by
  have carried := applySessionObservation_carried applied
  have key := agrees.keyed id record found
  obtain ⟨rfl, rfl⟩ | ⟨rfl, advanced, ⟨revision, hash, accepted⟩, activation, observation, ended⟩ :=
    applySessionObservation_advanced applied
  · simp only [Bool.false_and] at released reserved
    obtain ⟨impossible, _⟩ | ⟨_, rfl⟩ := Postgres.reserveWhen_ok reserved
    · cases impossible
    · exact Or.inl ⟨rfl, rfl, by rw [released]; rfl⟩
  · refine Or.inr ⟨rfl, advanced, ?_⟩
    simp only [Bool.true_and] at released reserved
    cases after : next.reservationsReleased with
    | true =>
      rw [after, Bool.not_true, Bool.and_false] at reserved
      obtain ⟨impossible, _⟩ | ⟨_, rfl⟩ := Postgres.reserveWhen_ok reserved
      · cases impossible
      cases before : record.reservationsReleased with
      | true =>
        simp only [before, after, Bool.not_true, Bool.false_and] at released
        rw [released]
        exact agrees.rows.same found carried ((released_unreserved after).trans (released_unreserved before).symm)
      | false =>
        simp only [before, after, Bool.not_false, Bool.and_self, if_true] at released
        rw [released, key]
        exact agrees.rows.release found carried after
    | false =>
      have before : record.reservationsReleased = false := by
        rw [after] at ended
        exact (Bool.or_eq_false_iff.mp ended.symm).1
      have unretired := (Bool.or_eq_false_iff.mp (after ▸ ended).symm).2
      simp only [before, after, Bool.not_false, Bool.and_true, Bool.true_and] at released reserved
      rw [if_neg (by simp)] at released
      rw [released]
      obtain ⟨enabled, reserved⟩ | ⟨disabled, rfl⟩ := Postgres.reserveWhen_ok reserved
      · refine agrees.rows.reserve found key carried next carried.id carried.compiled reserved before ?_
        simp [StoredSession.reserves, after, enabled]
      · refine agrees.rows.same found carried ?_
        rw [StoredSession.reserves, StoredSession.reserves, after, before, activation, disabled]
        by_contra differ
        have inactive : record.activation = none := by
          by_contra active
          exact differ (by simp [Option.isSome_iff_ne_none.mpr active])
        have enabled : record.enabled = true := by
          by_contra off
          exact differ (by simp [off])
        rw [StoredSession.enabled, observation] at disabled
        exact remembered ⟨inactive, enabled, before, disabled, unretired, revision, hash, accepted⟩

theorem overlap_congr (named : next.id = record.id) (compiled : next.compiled = record.compiled) :
    p.overlap next = p.overlap record := by
  unfold Postgres.overlap
  rw [named, compiled]

theorem observe_matches {update : SessionObservationUpdate} {guards : Guards} (agrees : Agrees encoding earlier m p)
    (later : earlier ≤ clock) (time : isTime clock = true)
    (fits : ∀ current result, m.records.get update.id = some current →
      applySessionObservation encoding current update (Memory.grantActive guards current clock) clock = .ok result →
        Fits encoding jsonb result)
    (remembered : ∀ current, m.records.get update.id = some current → ¬ forgets encoding current update clock) :
    Matches (Same encoding clock) (toExcept (Memory.observe encoding update clock guards) m)
      (Postgres.observe encoding jsonb update clock guards p) := by
  unfold Memory.observe Postgres.observe
  refine check_same fun update cloned => ?_
  cases cloneSession_ok cloned
  rw [toExcept_get_bind, toExcept_check_bind, agrees.selectSession]
  refine Matches.same fun current required => ?_
  have found := required_ok required
  have key := agrees.keyed _ _ found
  refine check_same fun ⟨next, changed⟩ applied => ?_
  have carried := applySessionObservation_carried applied
  have conflicts : m.records.values.any (reservationConflicts current) = p.overlap next := by
    rw [overlap_congr carried.id carried.compiled, agrees.overlap]
  rw [toExcept_check_bind]
  refine Matches.bind (reservation_matches conflicts) fun _ q _ _ reserved => ?_
  have kept := Postgres.reserveWhen_kept reserved
  have stored := fits current _ found applied
  have spared := remembered current found
  rw [← key] at found
  refine agrees.stores later time found carried stored (observe_rows agrees found applied spared reserved rfl) ?_ rfl ?_
  · split
    · exact kept.1
    · exact kept.1
  · split
    · exact kept.2.trans agrees.idempotency
    · exact kept.2.trans agrees.idempotency

theorem markStale_matches {update : SessionInvalidationUpdate} (agrees : Agrees encoding earlier m p)
    (later : earlier ≤ clock) (time : isTime clock = true)
    (fits : ∀ current result, m.records.get update.id = some current →
      applySessionInvalidation encoding current update clock = .ok result → Fits encoding jsonb result) :
    Matches (Same encoding clock) (toExcept (Memory.markStale encoding update clock) m)
      (Postgres.markStale encoding jsonb update clock p) := by
  unfold Memory.markStale Postgres.markStale
  refine check_same fun update cloned => ?_
  cases cloneSession_ok cloned
  rw [toExcept_get_bind, toExcept_check_bind, agrees.selectSession]
  refine Matches.same fun current required => ?_
  have found := required_ok required
  have key := agrees.keyed _ _ found
  refine check_same fun ⟨next, changed⟩ applied => ?_
  have carried := applySessionInvalidation_carried applied
  have reserves := invalidation_reserves applied
  have stored := fits current _ found applied
  rw [← key] at found
  refine agrees.stores later time found carried stored ?_ rfl rfl agrees.idempotency
  obtain ⟨unmarked, same⟩ | ⟨marked, advanced, _⟩ := applySessionInvalidation_advanced applied
  · exact Or.inl ⟨unmarked, same, rfl⟩
  · exact Or.inr ⟨marked, advanced, agrees.rows.same found carried reserves⟩

theorem create_matches {input : StoredSession} {binding : SessionIdempotency} {authority : Except RestError Unit}
    {guards : Guards} (agrees : Agrees encoding earlier m p) (later : earlier ≤ clock) (accepted : jsonb input = true) :
    Matches (Same encoding clock) (toExcept (Memory.create encoding input binding now authority clock guards) m)
      (Postgres.create encoding jsonb input binding now authority clock guards p) := by
  unfold Memory.create Postgres.create
  refine check_same fun _ _ => check_same fun _ _ => ?_
  refine check_same fun record cloned => ?_
  cases cloneSession_ok cloned
  refine check_same fun claim copied => ?_
  cases cloneSession_ok copied
  refine check_same fun _ authorized => ?_
  rw [toExcept_get_bind]
  simp only [agrees.idempotency]
  refine check_same fun _ _ => ?_
  cases m.idempotency.get (Memory.key input.actor binding.key) with
  | some existing =>
    simp only [agrees.selectSession]
    refine check_same fun stored required => ?_
    rw [toExcept_check, cloneSession_small (agrees.stored _ _ (required_ok required)).small]
    exact ⟨rfl, agrees.later later⟩
  | none =>
    rw [toExcept_check_bind]
    -- Only the order of the checks differs: the in-memory store looks at the record and at its identity first.
    refine Matches.first (fun _ new => ?_) fun refuses => .after fun _ _ => .after fun _ _ => refuses.bind
    obtain ⟨owner, readable, positive, created, time, updated, revision, small⟩ := assertNewSession_ok new
    have unreserved := assertNewSession_unreserved new
    refine Matches.right (b := ()) (refuse_ok.mpr (by simp [readable])) ?_
    rw [toExcept_check_bind, Memory.checkAuthority, bind_assoc]
    refine Matches.same fun _ _ => Matches.right new (Matches.same fun _ granted => ?_)
    rw [toExcept_check_bind, ← agrees.unique positive]
    refine Matches.refuse_first (fun apart => ?_) fun taken => .after fun _ _ => .bind (.after fun _ _ => .refuse taken)
    have inserted : p.insertSession jsonb input = .ok { p with sessions := p.sessions.set input.id input } := by
      refine bind_run (assertRow_ok ?_ ?_ ?_ ?_ accepted) (bind_run (refuse_ok.mpr apart) rfl)
      · omega
      · rw [updated]
        exact time
      · omega
      · rw [revision]
        decide
    have counted : p.sessions.values.filter (fun other => other.actor.accountId = input.actor.accountId) =
        m.records.values.filter (fun other => other.compiled.ownerAccountId = input.compiled.ownerAccountId) := by
      rw [agrees.sessions]
      refine List.filter_congr fun other member => ?_
      obtain ⟨id, found⟩ := mem_values_iff.mp member
      rw [(agrees.stored id other found).owner, owner]
    rw [toExcept_check_bind, counted]
    refine Matches.refuse rfl fun _ => Matches.right inserted ?_
    rw [toExcept_bind]
    refine Matches.bind (idempotency_matches (q := { p with sessions := p.sessions.set input.id input }) agrees.idempotency)
      ?_
    rintro ⟨_, n⟩ t _ _ written
    obtain ⟨rfl, rfl⟩ := written
    refine Matches.right authorized (Matches.right new (Matches.right granted (Matches.right cloned ?_)))
    rw [toExcept_modify_bind, toExcept_check, cloned]
    rw [agrees.unique positive, Bool.or_eq_false_iff] at apart
    have fresh := OrderedMap.not_has_iff.mp apart.1
    refine ⟨rfl, congrArg (fun records => records.set input.id input) agrees.sessions, rfl, ?_, ?_, ?_⟩
    · intro id record found
      rw [get_set] at found
      split at found
      · rename_i same
        cases found
        exact same.symm
      · exact agrees.keyed id record found
    · intro id record found
      rw [get_set] at found
      split at found
      · cases found
        exact ⟨owner, positive, small, created⟩
      · exact (agrees.stored id record found).later later
    · exact (agrees.rows.insert fresh unreserved).of_reservations rfl

end JBCenter.Sessions
