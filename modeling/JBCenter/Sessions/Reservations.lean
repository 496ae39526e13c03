import JBCenter.Rest.Decimals
import JBCenter.Sessions.Postgres
import JBCenter.Sessions.Wallets

/-! The reservation rows of the durable store: what each operation makes of them, that the unreleased ones of
a wallet are always of one session, and when they say what the in-memory store recomputes. -/
namespace JBCenter.Sessions
open Rest
variable {encoding : Encoding} {jsonb : StoredSession → Bool} {record next : StoredSession} {p q : Postgres} {id : String}

namespace Postgres

theorem holds_iff : p.holds id = true ↔ ∃ row ∈ p.reservations, row.sessionId = id ∧ row.releasedAt = none := by
  simp [holds]

variable {rows : List ReservationRow}

theorem insertReservation_mem {coordinate : ReservationKind × String}
    (member : row ∈ insertReservation record rows coordinate) :
    row ∈ rows ∨ row = ⟨record.id, coordinate.1, coordinate.2, record.compiled.chainId,
      toLowerCase record.compiled.wallet, none⟩ := by
  unfold insertReservation at member
  split at member
  · exact Or.inl member
  · obtain before | last := List.mem_append.mp member
    · exact Or.inl before
    · exact Or.inr (List.mem_singleton.mp last)

theorem insertReservation_kept (coordinate : ReservationKind × String)
    (member : row ∈ rows) : row ∈ insertReservation record rows coordinate := by
  unfold insertReservation
  split
  · exact member
  · exact List.mem_append_left _ member

theorem insertReservation_own (record : StoredSession) (rows : List ReservationRow) (coordinate : ReservationKind × String) :
    ∃ row ∈ insertReservation record rows coordinate, row.sessionId = record.id := by
  unfold insertReservation
  split
  · rename_i found
    obtain ⟨row, member, same⟩ := List.any_eq_true.mp found
    simp only [Bool.and_eq_true, decide_eq_true_eq] at same
    exact ⟨row, member, same.1.1⟩
  · exact ⟨_, List.mem_append_right _ (List.mem_singleton_self _), rfl⟩

theorem reserved_mem {coordinates : List (ReservationKind × String)}
    (member : row ∈ coordinates.foldl (insertReservation record) rows) :
    row ∈ rows ∨ (row.sessionId = record.id ∧ row.chainId = record.compiled.chainId ∧
      row.walletAddress = toLowerCase record.compiled.wallet ∧ row.releasedAt = none) := by
  induction coordinates generalizing rows with
  | nil => exact Or.inl member
  | cons coordinate rest ih =>
    obtain before | new := ih member
    · obtain before | rfl := insertReservation_mem before
      · exact Or.inl before
      · exact Or.inr ⟨rfl, rfl, rfl, rfl⟩
    · exact Or.inr new

theorem reserved_kept {coordinates : List (ReservationKind × String)} (member : row ∈ rows) :
    row ∈ coordinates.foldl (insertReservation record) rows := by
  induction coordinates generalizing rows with
  | nil => exact member
  | cons coordinate rest ih => exact ih (insertReservation_kept coordinate member)

theorem reserved_own (record : StoredSession) (rows : List ReservationRow) :
    ∃ row ∈ (coordinates record).foldl (insertReservation record) rows, row.sessionId = record.id := by
  obtain ⟨row, member, same⟩ := insertReservation_own record rows (.key, toLowerCase record.compiled.sessionKey)
  exact ⟨row, by rw [coordinates, List.foldl_cons]; exact reserved_kept member, same⟩

theorem reserveAuthority_ok (reserved : p.reserveAuthority record = .ok q) :
    p.overlap record = false ∧
      q = { p with reservations := (coordinates record).foldl (insertReservation record) p.reservations } := by
  unfold reserveAuthority at reserved
  obtain ⟨clear, reserved⟩ := ok_refuse reserved
  cases reserved
  exact ⟨clear, rfl⟩

theorem reserveWhen_ok (reserved : reserveWhen needed p record = .ok q) :
    (needed = true ∧ p.reserveAuthority record = .ok q) ∨ (needed = false ∧ q = p) := by
  unfold reserveWhen at reserved
  split at reserved
  · exact Or.inl ⟨by assumption, reserved⟩
  · cases reserved
    exact Or.inr ⟨by simpa using ‹¬ needed = true›, rfl⟩

theorem reserveWhen_kept (reserved : reserveWhen needed p record = .ok q) :
    q.sessions = p.sessions ∧ q.idempotency = p.idempotency := by
  obtain ⟨_, reserved⟩ | ⟨_, rfl⟩ := reserveWhen_ok reserved
  · obtain ⟨_, rfl⟩ := reserveAuthority_ok reserved
    exact ⟨rfl, rfl⟩
  · exact ⟨rfl, rfl⟩

/-- The unreleased rows of one wallet are of one session. -/
def Single (p : Postgres) : Prop :=
  ∀ row ∈ p.reservations, ∀ other ∈ p.reservations, row.releasedAt = none → other.releasedAt = none →
    row.chainId = other.chainId → row.walletAddress = other.walletAddress → row.sessionId = other.sessionId

theorem Single.of_rows (single : p.Single) (rows : q.reservations = p.reservations) : q.Single := by
  unfold Single
  rw [rows]
  exact single

theorem overlap_clear (clear : p.overlap record = false) (member : row ∈ p.reservations)
    (chain : row.chainId = record.compiled.chainId) (wallet : row.walletAddress = toLowerCase record.compiled.wallet)
    (unreleased : row.releasedAt = none) : row.sessionId = record.id := by
  have apart := List.any_eq_false.mp clear row member
  by_contra differ
  exact apart (by simp [chain, wallet, unreleased, differ])

theorem Single.reserve (single : p.Single) (reserved : p.reserveAuthority record = .ok q) : q.Single := by
  obtain ⟨clear, rfl⟩ := reserveAuthority_ok reserved
  intro row member other member' live live' chain wallet
  obtain before | ⟨own, chain₁, wallet₁, _⟩ := reserved_mem member
  · obtain before' | ⟨own', chain₂, wallet₂, _⟩ := reserved_mem member'
    · exact single row before other before' live live' chain wallet
    · rw [own']
      exact overlap_clear clear before (chain.trans chain₂) (wallet.trans wallet₂) live
  · obtain before' | ⟨own', _⟩ := reserved_mem member'
    · rw [own]
      exact (overlap_clear clear before' (chain.symm.trans chain₁) (wallet.symm.trans wallet₁) live').symm
    · rw [own, own']

theorem Single.reserveWhen (single : p.Single) (reserved : reserveWhen needed p record = .ok q) : q.Single := by
  obtain ⟨_, reserved⟩ | ⟨_, rfl⟩ := reserveWhen_ok reserved
  · exact single.reserve reserved
  · exact single

theorem release_mem (member : row ∈ (p.release id now).reservations) :
    ∃ before ∈ p.reservations, row.sessionId = before.sessionId ∧ row.chainId = before.chainId ∧
      row.walletAddress = before.walletAddress ∧ (row.releasedAt = none → before.releasedAt = none) ∧
      (row.sessionId ≠ id → row = before) ∧ (row.sessionId = id → row.releasedAt.isSome = true) := by
  obtain ⟨before, stored, rfl⟩ := List.mem_map.mp member
  refine ⟨before, stored, ?_⟩
  split
  · rename_i chosen
    simp only [Bool.and_eq_true, decide_eq_true_eq] at chosen
    exact ⟨rfl, rfl, rfl, nofun, fun differ => absurd chosen.1 differ, fun _ => rfl⟩
  · rename_i kept
    refine ⟨rfl, rfl, rfl, fun live => live, fun _ => rfl, fun same => ?_⟩
    by_contra live
    exact kept (by simp [same, Option.isNone_iff_eq_none.mpr (by simpa using live)])

theorem Single.release (single : p.Single) : (p.release id now).Single := by
  intro row member other member' live live' chain wallet
  obtain ⟨before, here, session, chain₁, wallet₁, live₁, _⟩ := release_mem member
  obtain ⟨before', here', session', chain₂, wallet₂, live₂, _⟩ := release_mem member'
  rw [session, session']
  exact single before here before' here' (live₁ live) (live₂ live') (by rw [← chain₁, chain, chain₂])
    (by rw [← wallet₁, wallet, wallet₂])

theorem save_ok (saved : p.save encoding jsonb record = .ok (copy, q)) :
    copy = record ∧ encoding.record record ≤ maximumBytes ∧ assertRow jsonb record = .ok () ∧
      q = { p with sessions := p.sessions.set record.id record } := by
  unfold save at saved
  obtain ⟨stored, cloned, saved⟩ := ok_bind saved
  obtain ⟨_, fits, saved⟩ := ok_bind saved
  cases cloneSession_ok cloned
  cases saved
  obtain ⟨small, _⟩ := ok_refuse cloned
  exact ⟨rfl, by simpa using small, fits, rfl⟩

theorem saveResult_ok {result : StoredSession × Bool} (saved : p.saveResult encoding jsonb result = .ok (answer, q)) :
    answer = result ∧ ((result.2 = false ∧ q = p) ∨ (result.2 = true ∧ encoding.record result.1 ≤ maximumBytes ∧
      assertRow jsonb result.1 = .ok () ∧ q = { p with sessions := p.sessions.set result.1.id result.1 })) := by
  obtain ⟨next, changed⟩ := result
  unfold saveResult at saved
  cases changed with
  | true =>
    obtain ⟨⟨copy, t⟩, stored, same⟩ := except_map_ok saved
    cases same
    obtain ⟨rfl, small, fits, rfl⟩ := save_ok stored
    exact ⟨rfl, Or.inr ⟨rfl, small, fits, rfl⟩⟩
  | false =>
    cases saved
    exact ⟨rfl, Or.inl ⟨rfl, rfl⟩⟩

theorem saveResult_rows {result : StoredSession × Bool} (saved : p.saveResult encoding jsonb result = .ok (answer, q)) :
    q.reservations = p.reservations := by
  obtain ⟨_, ⟨_, rfl⟩ | ⟨_, _, _, rfl⟩⟩ := saveResult_ok saved <;> rfl

theorem reserveIdempotency_ok {binding : SessionIdempotency}
    (bound : p.reserveIdempotency actor binding operation id = .ok q) :
    (p.idempotency.entries.filter (fun entry => entry.1.1 = actor.accountId)).length < idempotencyPerAccount ∧
      q = { p with idempotency := p.idempotency.set (Memory.key actor binding.key) ⟨operation, id, binding.requestHash⟩ } := by
  unfold reserveIdempotency at bound
  obtain ⟨room, bound⟩ := ok_refuse bound
  cases bound
  exact ⟨by simpa using room, rfl⟩

theorem insertSession_ok (inserted : p.insertSession jsonb record = .ok q) :
    assertRow jsonb record = .ok () ∧ p.sessions.values.any (uniqueConflicts record) = false ∧
      q = { p with sessions := p.sessions.set record.id record } := by
  unfold insertSession at inserted
  obtain ⟨_, fits, inserted⟩ := ok_bind inserted
  obtain ⟨apart, inserted⟩ := ok_refuse inserted
  cases inserted
  exact ⟨fits, apart, rfl⟩

theorem create_rows {binding : SessionIdempotency}
    (created : create encoding jsonb input binding now authority clock guards p = .ok (answer, q)) :
    q.reservations = p.reservations := by
  unfold create at created
  iterate 2 obtain ⟨_, _, created⟩ := ok_bind created
  obtain ⟨record, _, created⟩ := ok_bind created
  obtain ⟨claim, _, created⟩ := ok_bind created
  iterate 2 obtain ⟨_, _, created⟩ := ok_bind created
  split at created
  · obtain ⟨_, _, created⟩ := ok_bind created
    cases created
    rfl
  · iterate 5 obtain ⟨_, _, created⟩ := ok_bind created
    obtain ⟨_, inserted, created⟩ := ok_bind created
    obtain ⟨_, bound, created⟩ := ok_bind created
    iterate 4 obtain ⟨_, _, created⟩ := ok_bind created
    cases created
    obtain ⟨_, _, rfl⟩ := insertSession_ok inserted
    obtain ⟨_, rfl⟩ := reserveIdempotency_ok bound
    rfl

theorem Single.claim (single : p.Single)
    (claimed : claim encoding jsonb request kind authority clock guards p = .ok (answer, q)) : q.Single := by
  unfold Postgres.claim at claimed
  iterate 4 obtain ⟨_, _, claimed⟩ := ok_bind claimed
  obtain ⟨current, _, claimed⟩ := ok_bind claimed
  obtain ⟨_, _, claimed⟩ := ok_bind claimed
  split at claimed
  · cases claimed
    exact single
  · iterate 4 obtain ⟨_, _, claimed⟩ := ok_bind claimed
    obtain ⟨_, reserved, claimed⟩ := ok_bind claimed
    obtain ⟨_, bound, claimed⟩ := ok_bind claimed
    iterate 3 obtain ⟨_, _, claimed⟩ := ok_bind claimed
    obtain ⟨_, rfl⟩ := reserveIdempotency_ok bound
    have rows := saveResult_rows claimed
    exact (single.reserveWhen reserved).of_rows rows

theorem Single.observe (single : p.Single)
    (observed : observe encoding jsonb update clock guards p = .ok (answer, q)) : q.Single := by
  unfold Postgres.observe at observed
  obtain ⟨_, _, observed⟩ := ok_bind observed
  obtain ⟨current, _, observed⟩ := ok_bind observed
  obtain ⟨_, _, observed⟩ := ok_bind observed
  obtain ⟨_, reserved, observed⟩ := ok_bind observed
  refine Single.of_rows ?_ (saveResult_rows observed)
  split
  · exact (single.reserveWhen reserved).release
  · exact single.reserveWhen reserved

theorem markStale_rows (marked : markStale encoding jsonb update clock p = .ok (answer, q)) :
    q.reservations = p.reservations := by
  unfold markStale at marked
  iterate 3 obtain ⟨_, _, marked⟩ := ok_bind marked
  exact saveResult_rows marked

theorem Single.execute (single : p.Single) (executed : execute encoding jsonb op p = .ok (outcome, q)) : q.Single := by
  cases op with
  | create input idempotency now authority clock guards =>
    obtain ⟨done, ran, same⟩ := except_map_ok executed
    cases same
    exact single.of_rows (create_rows ran)
  | claim request kind authority clock guards =>
    obtain ⟨done, ran, same⟩ := except_map_ok executed
    cases same
    exact single.claim ran
  | observe update clock guards =>
    obtain ⟨done, ran, same⟩ := except_map_ok executed
    cases same
    exact single.observe ran
  | markStale update clock =>
    obtain ⟨done, ran, same⟩ := except_map_ok executed
    cases same
    exact single.of_rows (markStale_rows ran)

/-- However the calls interleave, a wallet's unreleased reservations are always of one session. -/
theorem single_run (run : Run (Performs (perform encoding jsonb)) Postgres.empty history p) : p.Single := by
  refine run.state_invariant (P := Single) (fun row member => nomatch member) fun single performed => ?_
  obtain ⟨outcome, _, executed⟩ | ⟨rfl, _⟩ := performed.transaction_cases
  · exact single.execute executed
  · exact single

end Postgres
end JBCenter.Sessions
