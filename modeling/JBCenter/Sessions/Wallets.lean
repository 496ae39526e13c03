import JBCenter.Sessions.Evidence
import JBCenter.Sessions.Memory

/-! A wallet has one session at a time. A record reserves its wallet from its activation, or
from its first observation as enabled, until its removal is final; each operation that could
add a reservation first checks that no other record of the wallet holds one, and no operation
changes the identity a record was created with. -/
namespace JBCenter.Sessions
open Rest Fallible
open OrderedMap (get_set get_set_ne get_set_self)
variable {encoding : Encoding} {s t : Memory} {id : String} {record next : StoredSession}

/-- What the stored records of one wallet may share. -/
structure Exclusive (s : Memory) : Prop where
  keyed : ∀ id record, s.records.get id = some record → record.id = id
  reserved : ∀ id record id' other, s.records.get id = some record → s.records.get id' = some other →
    sameWallet record other = true → record.reserves = true → other.reserves = true → id = id'
  identities : ∀ id record id' other, s.records.get id = some record → s.records.get id' = some other →
    identityConflicts record other = false

theorem Exclusive.of_records (exclusive : Exclusive s) (same : t.records = s.records) : Exclusive t := by
  refine ⟨?_, ?_, ?_⟩
  · intro id record
    rw [same]
    exact exclusive.keyed id record
  · intro id record id' other
    rw [same]
    exact exclusive.reserved id record id' other
  · intro id record id' other
    rw [same]
    exact exclusive.identities id record id' other

theorem sameWallet_comm (a b : StoredSession) : sameWallet a b = sameWallet b a := by
  unfold sameWallet same
  rw [decide_eq_decide.mpr (eq_comm (a := a.compiled.chainId)),
    decide_eq_decide.mpr (eq_comm (a := toLowerCase a.compiled.wallet))]

theorem identityConflicts_comm (a b : StoredSession) : identityConflicts a b = identityConflicts b a := by
  unfold identityConflicts
  rw [sameWallet_comm a b]
  unfold same
  simp only [eq_comm, ne_eq]

theorem sameWallet_congr (compiled : next.compiled = record.compiled) (other : StoredSession) :
    sameWallet next other = sameWallet record other := by
  unfold sameWallet
  rw [compiled]

theorem identityConflicts_congr (id : next.id = record.id) (compiled : next.compiled = record.compiled)
    (other : StoredSession) : identityConflicts next other = identityConflicts record other := by
  unfold identityConflicts
  rw [sameWallet_congr compiled, compiled, id]

/-- No other stored record of the wallet holds a reservation. -/
def Memory.Free (s : Memory) (record : StoredSession) : Prop :=
  ∀ id other, s.records.get id = some other → id ≠ record.id → sameWallet record other = true → other.reserves = false

theorem mem_values (found : s.records.get id = some record) : record ∈ s.records.values :=
  List.mem_map.mpr ⟨(id, record), OrderedMap.mem_of_get found, rfl⟩

theorem checkReservation_free (exclusive : Exclusive s) (checked : s.checkReservation record = .ok ()) :
    s.Free record := by
  intro id other found differ wallet
  have clear := refuse_ok.mp checked
  rw [List.any_eq_false] at clear
  have apart := clear other (mem_values found)
  have other_id := exclusive.keyed id other found
  by_contra reserves
  apply apart
  simp only [Bool.not_eq_false] at reserves
  simp [reservationConflicts, wallet, reserves, other_id, Ne.symm differ]

/-- A record may be rewritten if it keeps its identity, and gains a reservation only while its
wallet is free. -/
theorem Exclusive.rewrite (exclusive : Exclusive s) (found : s.records.get id = some record)
    (carried : Carried record next) (gained : next.reserves = true → record.reserves = true ∨ s.Free record)
    (records : t.records = s.records.set id next) : Exclusive t := by
  have key := exclusive.keyed id record found
  have free : next.reserves = true → ∀ id' other, id' ≠ id → s.records.get id' = some other →
      sameWallet record other = true → other.reserves = true → False := by
    intro reserves id' other differ held wallet reserved
    rcases gained reserves with before | free
    · exact differ (exclusive.reserved id record id' other found held wallet before reserved).symm
    · rw [free id' other held (by rw [key]; exact differ) wallet] at reserved
      cases reserved
  refine ⟨?_, ?_, ?_⟩
  · intro id' other held
    rw [records, get_set] at held
    split at held
    · rename_i same
      cases held
      rw [carried.id, key, same]
    · exact exclusive.keyed id' other held
  · intro id₁ a id₂ b first second wallet left right
    rw [records, get_set] at first second
    split at first
    · rename_i here
      cases first
      split at second
      · rename_i there
        rw [here, there]
      · rename_i differ
        rw [sameWallet_congr carried.compiled] at wallet
        exact False.elim (free left id₂ b differ second wallet right)
    · rename_i differ
      split at second
      · cases second
        rw [sameWallet_comm, sameWallet_congr carried.compiled] at wallet
        exact False.elim (free right id₁ a differ first wallet left)
      · exact exclusive.reserved id₁ a id₂ b first second wallet left right
  · intro id₁ a id₂ b first second
    have self : ∀ id' other, s.records.get id' = some other → identityConflicts next other = false := by
      intro id' other held
      rw [identityConflicts_congr carried.id carried.compiled]
      exact exclusive.identities id record id' other found held
    rw [records, get_set] at first second
    split at first
    · cases first
      split at second
      · cases second
        simp [identityConflicts]
      · exact self id₂ b second
    · split at second
      · cases second
        rw [identityConflicts_comm]
        exact self id₁ a first
      · exact exclusive.identities id₁ a id₂ b first second

/-- A new record has no reservation, and conflicts with no stored one. -/
theorem Exclusive.insert (exclusive : Exclusive s) (fresh : s.records.has record.id = false)
    (apart : s.records.values.any (identityConflicts record) = false) (unreserved : record.reserves = false)
    (records : t.records = s.records.set record.id record) : Exclusive t := by
  have absent := OrderedMap.not_has_iff.mp fresh
  rw [List.any_eq_false] at apart
  refine ⟨?_, ?_, ?_⟩
  · intro id other held
    rw [records, get_set] at held
    split at held
    · rename_i same
      cases held
      exact same.symm
    · exact exclusive.keyed id other held
  · intro id₁ a id₂ b first second wallet left right
    rw [records, get_set] at first second
    split at first
    · cases first
      rw [unreserved] at left
      cases left
    · split at second
      · cases second
        rw [unreserved] at right
        cases right
      · exact exclusive.reserved id₁ a id₂ b first second wallet left right
  · intro id₁ a id₂ b first second
    have self : ∀ id other, s.records.get id = some other → identityConflicts record other = false :=
      fun id other held => by simpa using apart other (mem_values held)
    rw [records, get_set] at first second
    split at first
    · cases first
      split at second
      · cases second
        simp [identityConflicts]
      · exact self id₂ b second
    · split at second
      · cases second
        rw [identityConflicts_comm]
        exact self id₁ a first
      · exact exclusive.identities id₁ a id₂ b first second

theorem assertNewSession_unreserved (new : assertNewSession encoding record now = .ok ()) :
    record.reserves = false := by
  unfold assertNewSession at new
  iterate 7 obtain ⟨_, _, new⟩ := ok_bind new
  obtain ⟨initial, _⟩ := ok_refuse new
  simp only [Bool.or_eq_false_iff, Option.isSome_eq_false_iff, Option.isNone_iff_eq_none] at initial
  obtain ⟨⟨⟨⟨⟨⟨_, _⟩, inactive⟩, _⟩, unobserved⟩, _⟩, _⟩ := initial
  simp [StoredSession.reserves, StoredSession.enabled, inactive, unobserved]

/-- A claim of an activation is made for an unreleased record; one of a revocation leaves the
reservation as it was. -/
theorem claim_reserves (applied : applySessionClaim encoding record claim kind now supersede = .ok (next, changed)) :
    next.reserves = true → record.reserves = true ∨ (changed = true ∧ kind = .activation) := by
  unfold applySessionClaim at applied
  iterate 4 obtain ⟨_, _, applied⟩ := ok_bind applied
  simp only at applied
  split at applied
  · obtain ⟨_, _, applied⟩ := ok_bind applied
    cases applied
    exact Or.inl
  · iterate 7 obtain ⟨_, _, applied⟩ := ok_bind applied
    cases applied
    cases kind with
    | activation => exact fun _ => Or.inr ⟨rfl, rfl⟩
    | revocation => exact Or.inl

theorem observation_activation
    (applied : applySessionObservation encoding record update grantActive now = .ok (next, changed)) :
    next.activation = record.activation := by
  unfold applySessionObservation at applied
  iterate 2 obtain ⟨_, _, applied⟩ := ok_bind applied
  split at applied
  · obtain ⟨_, _, applied⟩ := ok_bind applied
    cases applied
    rfl
  · iterate 5 obtain ⟨_, _, applied⟩ := ok_bind applied
    cases applied
    obtain ⟨_, activation⟩ := observedRecord_kept record update.observation grantActive now
    cases grantActive with
    | true => exact activation
    | false =>
      obtain ⟨_, _, kept, _⟩ := withoutGrant_kept update.observation now
        (observedRecord record update.observation false now)
      exact kept.trans activation

/-- An observation adds a reservation only as an enabled policy that is not released. -/
theorem observation_reserves
    (applied : applySessionObservation encoding record update grantActive now = .ok (next, changed))
    (reserves : next.reserves = true) :
    record.reserves = true ∨ (next.enabled = true ∧ next.reservationsReleased = false) := by
  have carried := applySessionObservation_carried applied
  have activation := observation_activation applied
  simp only [StoredSession.reserves, Bool.and_eq_true, Bool.not_eq_true', Bool.or_eq_true] at reserves ⊢
  have unreleased : record.reservationsReleased = false := by
    by_contra released
    rw [carried.released (by simpa using released)] at reserves
    cases reserves.1
  rcases reserves.2 with activated | enabled
  · rw [activation] at activated
    exact Or.inl ⟨unreleased, Or.inl activated⟩
  · exact Or.inr ⟨enabled, reserves.1⟩

theorem invalidation_reserves
    (applied : applySessionInvalidation encoding record update now = .ok (next, changed)) :
    next.reserves = record.reserves := by
  unfold applySessionInvalidation at applied
  iterate 2 obtain ⟨_, _, applied⟩ := ok_bind applied
  split at applied
  · obtain ⟨_, _, applied⟩ := ok_bind applied
    cases applied
    rfl
  · iterate 3 obtain ⟨_, _, applied⟩ := ok_bind applied
    cases applied
    rfl

theorem required_ok (found : s.required actor id = .ok record) : s.records.get id = some record := by
  unfold Memory.required at found
  iterate 2 obtain ⟨_, _, found⟩ := ok_bind found
  split at found
  · cases found
  · split at found
    · cases found
      assumption
    · cases found

theorem reserve_exclusive (exclusive : Exclusive s) : Leaves (Memory.reserve actor claim operation id) s Exclusive := by
  apply leaves_get_bind
  apply leaves_check_bind exclusive
  intro _ _
  exact leaves_modify (g := fun _ => _) (exclusive.of_records rfl)

theorem reserve_records (reserved : (Memory.reserve actor claim operation id).run s = .ok a t) : t.records = s.records := by
  unfold Memory.reserve at reserved
  obtain ⟨_, _, read, reserved⟩ := bind_ok reserved
  cases read
  obtain ⟨_, _, reserved⟩ := check_bind_ok reserved
  cases reserved
  rfl

theorem create_exclusive (exclusive : Exclusive s) :
    Leaves (Memory.create encoding input idempotency now authority clock guards) s Exclusive := by
  iterate 2
    apply leaves_check_bind exclusive
    intro _ _
  apply leaves_check_bind exclusive
  intro record _
  apply leaves_check_bind exclusive
  intro claim _
  apply leaves_check_bind exclusive
  intro _ _
  apply leaves_get_bind
  apply leaves_check_bind exclusive
  intro _ _
  split
  · apply leaves_check_bind exclusive
    intro _ _
    exact leaves_check exclusive
  · apply leaves_check_bind exclusive
    intro _ new
    apply leaves_check_bind exclusive
    intro _ _
    apply leaves_check_bind exclusive
    intro _ fresh
    apply leaves_check_bind exclusive
    intro _ _
    apply leaves_bind (reserve_exclusive exclusive)
    intro _ u reserved kept
    have clear := refuse_ok.mp fresh
    simp only [Bool.or_eq_false_iff] at clear
    rw [← reserve_records reserved] at clear
    apply leaves_modify_bind
    exact leaves_check (kept.insert clear.1 clear.2 (assertNewSession_unreserved new) rfl)

/-- Both kinds of result are stored alike, when there is something to store. -/
theorem Exclusive.store (exclusive : Exclusive s) (found : s.records.get id = some record)
    (carried : Carried record next) (changed : Bool)
    (gained : changed = true → next.reserves = true → record.reserves = true ∨ s.Free record)
    (records : t.records = if changed then s.records.set id next else s.records) : Exclusive t := by
  cases changed with
  | true => exact exclusive.rewrite found carried (gained rfl) records
  | false => exact exclusive.of_records records

theorem claim_exclusive (exclusive : Exclusive s) :
    Leaves (Memory.claim encoding claim kind authority clock guards) s Exclusive := by
  apply leaves_check_bind exclusive
  intro claim _
  iterate 3
    apply leaves_check_bind exclusive
    intro _ _
  apply leaves_get_bind
  apply leaves_check_bind exclusive
  intro current required
  have found := required_ok required
  have key := exclusive.keyed _ _ found
  apply leaves_check_bind exclusive
  intro _ _
  split
  · apply leaves_check_bind exclusive
    intro _ _
    exact leaves_pure exclusive
  · apply leaves_check_bind exclusive
    intro _ _
    apply leaves_check_bind exclusive
    intro _ _
    apply leaves_check_bind exclusive
    rintro ⟨next, changed⟩ applied
    apply leaves_check_bind exclusive
    intro _ checked
    apply leaves_bind (reserve_exclusive exclusive)
    intro _ u reserved kept
    apply leaves_modify_bind
    apply leaves_check
    have records := reserve_records reserved
    refine exclusive.store found (applySessionClaim_carried applied).1 changed ?_ (by rw [key, records])
    intro claimed reserves
    rcases claim_reserves applied reserves with before | ⟨_, rfl⟩
    · exact Or.inl before
    · simp only [claimed, decide_true, Bool.and_self, if_true] at checked
      exact Or.inr (checkReservation_free exclusive checked)

theorem observe_exclusive (exclusive : Exclusive s) :
    Leaves (Memory.observe encoding update clock guards) s Exclusive := by
  apply leaves_check_bind exclusive
  intro update _
  apply leaves_get_bind
  apply leaves_check_bind exclusive
  intro current required
  have found := required_ok required
  have key := exclusive.keyed _ _ found
  apply leaves_check_bind exclusive
  rintro ⟨next, changed⟩ applied
  apply leaves_check_bind exclusive
  intro _ checked
  apply leaves_modify_bind
  apply leaves_check
  refine exclusive.store found (applySessionObservation_carried applied) changed ?_ (by rw [key])
  intro stored reserves
  rcases observation_reserves applied reserves with before | ⟨enabled, unreleased⟩
  · exact Or.inl before
  · simp only [stored, enabled, unreleased, Bool.not_false, Bool.and_self, if_true] at checked
    exact Or.inr (checkReservation_free exclusive checked)

theorem markStale_exclusive (exclusive : Exclusive s) :
    Leaves (Memory.markStale encoding update clock) s Exclusive := by
  apply leaves_check_bind exclusive
  intro update _
  apply leaves_get_bind
  apply leaves_check_bind exclusive
  intro current required
  have found := required_ok required
  have key := exclusive.keyed _ _ found
  apply leaves_check_bind exclusive
  rintro ⟨next, changed⟩ applied
  apply leaves_modify_bind
  apply leaves_check
  refine exclusive.store found (applySessionInvalidation_carried applied) changed ?_ (by rw [key])
  intro _ reserves
  rw [invalidation_reserves applied] at reserves
  exact Or.inl reserves

theorem perform_exclusive (exclusive : Exclusive s) (op : Op) : Leaves (perform encoding op) s Exclusive := by
  cases op with
  | create => exact leaves_map (create_exclusive exclusive)
  | claim => exact leaves_map (claim_exclusive exclusive)
  | observe => exact leaves_map (observe_exclusive exclusive)
  | markStale => exact leaves_map (markStale_exclusive exclusive)

theorem run_exclusive (run : MemoryRuns encoding history s) : Exclusive s := by
  refine run.state_invariant (P := Exclusive) ⟨?_, ?_, ?_⟩
    (fun kept performed => performed.leaves (perform_exclusive kept _))
  · intro id record found
    cases found
  · intro id record id' other found
    cases found
  · intro id record id' other found
    cases found

/-- In every state the store reaches, two records of one wallet are never both unreleased and
activated or last seen enabled, and they differ in their permission, their salt, their nonce,
and in their key or its generation. -/
theorem wallet_sessions_exclusive (run : MemoryRuns encoding history s)
    (found : s.records.get id = some record) (found' : s.records.get id' = some other) (differ : id ≠ id')
    (wallet : sameWallet record other = true) :
    ¬ (record.reserves = true ∧ other.reserves = true) ∧
    same record.compiled.permissionId other.compiled.permissionId = false ∧
    same record.compiled.salt other.compiled.salt = false ∧
    same record.compiled.nonce other.compiled.nonce = false ∧
    ¬ (same record.compiled.sessionKey other.compiled.sessionKey = true ∧
      record.compiled.generation = other.compiled.generation) := by
  have exclusive := run_exclusive run
  refine ⟨?_, ?_⟩
  · rintro ⟨left, right⟩
    exact differ (exclusive.reserved id record id' other found found' wallet left right)
  · have apart := exclusive.identities id record id' other found found'
    have ids : record.id ≠ other.id := by
      rw [exclusive.keyed id record found, exclusive.keyed id' other found']
      exact differ
    simp only [identityConflicts, wallet, ne_eq, ids, not_false_eq_true, decide_true, Bool.true_and,
      Bool.or_eq_false_iff, Bool.and_eq_false_iff, decide_eq_false_iff_not] at apart
    obtain ⟨⟨⟨permission, salt⟩, nonce⟩, key⟩ := apart
    refine ⟨permission, salt, nonce, ?_⟩
    rintro ⟨sameKey, generation⟩
    rcases key with key | key
    · rw [sameKey] at key
      cases key
    · exact key generation

/-- When a record is admitted, what is stored. -/
theorem create_stores (new : assertNewSession encoding record now = .ok ())
    (valid : assertSessionIdempotency claim = .ok ()) (small : ∀ value, encoding.idempotency value ≤ maximumBytes)
    (small' : ∀ value, encoding.record value ≤ maximumBytes)
    (unbound : s.idempotency.get (Memory.key record.actor claim.key) = none)
    (granted : Memory.checkAuthority guards record now = .ok ()) (fresh : s.records.has record.id = false)
    (apart : s.records.values.any (identityConflicts record) = false)
    (room : s.records.values.length < sessionsPerAccount)
    (room' : s.idempotency.entries.length < idempotencyPerAccount) :
    (perform encoding (.create record claim now (.ok ()) now guards)).run s = .ok (.record record)
      ⟨s.records.set record.id record, s.idempotency.set (Memory.key record.actor claim.key)
        ⟨.create, record.id, claim.requestHash⟩⟩ := by
  have copied : cloneSession encoding.record record = .ok record := by
    simp [cloneSession, refuse, Nat.not_lt.mpr (small' record), bind, Except.bind, pure, Except.pure]
  have copied' : cloneSession encoding.idempotency claim = .ok claim := by
    simp [cloneSession, refuse, Nat.not_lt.mpr (small claim), bind, Except.bind, pure, Except.pure]
  have matched : assertIdempotencyMatch none claim .create none = .ok () := by
    simp [assertIdempotencyMatch, valid, refuse, bind, Except.bind]
  have clear : refuse (s.records.has record.id || s.records.values.any (identityConflicts record))
      (sessionError "SESSION_CONFLICT"
        "The immutable permission, salt, nonce or key generation is already recorded." 409) = .ok () := by
    rw [fresh, apart]
    rfl
  have spare : refuse (sessionsPerAccount ≤ (s.records.values.filter (fun other =>
        other.compiled.ownerAccountId = record.compiled.ownerAccountId)).length)
      (sessionError "SESSION_STORAGE_LIMIT" "Account session record capacity reached." 429) = .ok () := by
    refine refuse_ok.mpr (decide_eq_false ?_)
    have below := List.length_filter_le (fun other : StoredSession =>
      decide (other.compiled.ownerAccountId = record.compiled.ownerAccountId)) s.records.values
    omega
  have spare' : refuse (idempotencyPerAccount ≤ (s.idempotency.entries.filter (fun entry =>
        entry.1.1 = record.actor.accountId)).length)
      (sessionError "SESSION_STORAGE_LIMIT" "Account session idempotency capacity reached." 429) = .ok () := by
    refine refuse_ok.mpr (decide_eq_false ?_)
    have below := List.length_filter_le (fun entry : (String × String × String) × StoredIdempotency =>
      decide (entry.1.1 = record.actor.accountId)) s.idempotency.entries
    omega
  refine run_map_ok ?_
  unfold Memory.create
  rw [run_check_bind new, run_check_bind valid, run_check_bind copied, run_check_bind copied', run_check_bind rfl]
  change (check _ >>= _ : StoreM StoredSession).run s = _
  rw [unbound, run_check_bind matched]
  change (check _ >>= _ : StoreM StoredSession).run s = _
  rw [run_check_bind new, run_check_bind granted, run_check_bind clear, run_check_bind spare]
  have bound : (Memory.reserve record.actor claim .create record.id).run s = .ok () { s with
      idempotency := s.idempotency.set (Memory.key record.actor claim.key)
        ⟨.create, record.id, claim.requestHash⟩ } := by
    unfold Memory.reserve
    change (check _ >>= _ : StoreM Unit).run s = _
    rw [run_check_bind spare']
    rfl
  rw [run_bind_ok bound]
  change (check _ : StoreM StoredSession).run _ = _
  rw [copied]
  rfl

def sampleOwner : String := "eip155:1:0x1111111111111111111111111111111111111111"
def sampleUuid : String := "11111111-1111-1111-8111-111111111111"
def otherUuid : String := "22222222-1111-1111-8111-111111111111"
def otherHash : String := "0x2222222222222222222222222222222222222222222222222222222222222222"

/-- A new record of the sample wallet. -/
def sampleIdentity (id word generation : String) : StoredSession :=
  { sampleRecord .prepared 0 none none with
    id
    actor := ⟨sampleOwner, "owner:" ++ sampleOwner⟩
    compiled := { sampleCompiled with
      ownerAccountId := sampleOwner
      grantId := sampleUuid
      generation
      nonce := word
      salt := word
      permissionId := word
      validUntil := 604800
      reviewedPolicy := { samplePolicy with
        ownerAccountId := sampleOwner
        grantId := sampleUuid
        generation
        nonce := word
        salt := word
        validUntil := 604800 } } }

def sampleGuards : Guards where
  assertBinding := fun _ => .ok ()
  grant := fun record => some ⟨record.compiled.grantId, record.compiled.ownerAccountId, record.compiled.sessionKey,
    Auth.allBotScopes, "", 0, record.compiled.validUntil, none⟩
  assertSupersedablePlan := none

theorem identity_texts : isAccountId sampleOwner = true ∧ (isUuid sampleUuid = true ∧ isUuid otherUuid = true) ∧
    (isNonzeroHash sampleHash = true ∧ isNonzeroHash otherHash = true) ∧ same otherHash sampleHash = false ∧
    (isPositive "1" = true ∧ isPositive "2" = true) ∧ assertSessionIdempotency ⟨"first", "request"⟩ = .ok () ∧
    assertSessionIdempotency ⟨"second", "request"⟩ = .ok () := by
  decide +kernel

theorem sampleIdentity_new (uuid : isUuid id = true) (nonzero : isNonzeroHash word = true)
    (positive : isPositive generation = true) :
    assertNewSession sampleEncoding (sampleIdentity id word generation) 1000 = .ok () := by
  have zero : isUint256 "0" = true := by decide
  have hex : isHex 64 word = true := by
    simp only [isNonzeroHash, Bool.and_eq_true] at nonzero
    exact nonzero.1
  have reviewed : (reviewedFields (sampleIdentity id word generation).compiled).forM (fun field =>
      refuse (!field.2) (invalid ("Compiled " ++ field.1 ++ " differs from its reviewed policy."))) = .ok () := by
    refine forM_refuse_ok ?_
    simp [reviewedFields, sampleIdentity, sampleCompiled, samplePolicy, same_self]
  have intact : assertCompiledSessionIntegrity sampleEncoding (sampleIdentity id word generation).compiled = .ok () := by
    simp [sampleIdentity, sampleCompiled, samplePolicy, sampleEncoding, sampleHash_isHex,
      assertCompiledSessionIntegrity, same_self, refuse]
  have groups : allocationGroups (sampleIdentity id word generation).compiled = .ok [] := by
    simp [sampleIdentity, sampleCompiled, samplePolicy, allocationGroups, refuse, bind, Except.bind, discard,
      Functor.mapConst, Except.map, pure, Except.pure]
  obtain ⟨owner, ⟨granted, _⟩, _⟩ := identity_texts
  refine bind_run (refuse_ok.mpr ?_) (bind_run (refuse_ok.mpr ?_) (bind_run (refuse_ok.mpr ?_)
    (bind_run (refuse_ok.mpr ?_) (bind_run (refuse_ok.mpr ?_) (bind_run intact
    (bind_run reviewed (bind_run rfl (bind_run groups (bind_run (refuse_ok.mpr ?_) rfl)))))))))
  · simpa [sampleIdentity] using uuid
  · simp [sampleIdentity, sampleRecord, zero, sampleHash_isHex]
  · simp [sampleIdentity, owner]
  · simp [sampleIdentity, canReadSession]
  · simp [sampleIdentity, sampleCompiled, zero, sampleHash_isHex, sampleAddress_isAddress, granted, nonzero, hex, positive,
      isSafeInteger, maxSafeInteger, isTime]
  · simp [sampleIdentity, sampleRecord, sampleEncoding, same_self]

theorem sampleIdentity_granted :
    Memory.checkAuthority sampleGuards (sampleIdentity id word generation) 1000 = .ok () := by
  have all : Auth.allBotScopes.all (fun scope => scope ∈ Auth.allBotScopes) = true := by decide
  simp [Memory.checkAuthority, assertSessionGrant, sampleGuards, sampleIdentity, same_self, refuse, all, bind,
    Except.bind]

def sampleFirst : StoredSession := sampleIdentity sampleUuid sampleHash "1"
def sampleSecond : StoredSession := sampleIdentity otherUuid otherHash "2"

/-- The store with the first of them. -/
def sampleStored : Memory where
  records := Memory.empty.records.set sampleUuid sampleFirst
  idempotency := Memory.empty.idempotency.set (Memory.key sampleFirst.actor "first") ⟨.create, sampleUuid, "request"⟩

theorem sampleFirst_new : assertNewSession sampleEncoding sampleFirst 1000 = .ok () := by
  obtain ⟨_, ⟨uuid, _⟩, ⟨nonzero, _⟩, _, ⟨positive, _⟩, _⟩ := identity_texts
  exact sampleIdentity_new uuid nonzero positive

theorem sampleSecond_new : assertNewSession sampleEncoding sampleSecond 1000 = .ok () := by
  obtain ⟨_, ⟨_, uuid⟩, ⟨_, nonzero⟩, _, ⟨_, positive⟩, _⟩ := identity_texts
  exact sampleIdentity_new uuid nonzero positive

theorem sampleFirst_stored : (perform sampleEncoding (.create sampleFirst ⟨"first", "request"⟩ 1000 (.ok ()) 1000
    sampleGuards)).run Memory.empty = .ok (.record sampleFirst) sampleStored := by
  obtain ⟨_, _, _, _, _, valid, _⟩ := identity_texts
  exact create_stores sampleFirst_new valid (by simp [sampleEncoding]) (by simp [sampleEncoding]) rfl
    sampleIdentity_granted rfl rfl (by decide) (by decide)

/-- The store with both. -/
def sampleBoth : Memory where
  records := sampleStored.records.set otherUuid sampleSecond
  idempotency := sampleStored.idempotency.set (Memory.key sampleSecond.actor "second")
    ⟨.create, otherUuid, "request"⟩

theorem sampleSecond_stored : (perform sampleEncoding (.create sampleSecond ⟨"second", "request"⟩ 1000 (.ok ()) 1000
    sampleGuards)).run sampleStored = .ok (.record sampleSecond) sampleBoth := by
  obtain ⟨_, _, _, apart, _, _, valid⟩ := identity_texts
  have only : sampleStored.records.values = [sampleFirst] := rfl
  have alone : sampleStored.records.values.any (identityConflicts sampleSecond) = false := by
    simp [only, identityConflicts, sampleFirst, sampleSecond, sampleIdentity, apart]
  have unbound : sampleStored.idempotency.get (Memory.key sampleSecond.actor "second") = none := by
    unfold sampleStored
    rw [get_set_ne]
    · rfl
    · simp [Memory.key]
  have fresh : sampleStored.records.has sampleSecond.id = false := by
    refine OrderedMap.not_has_iff.mpr ?_
    unfold sampleStored
    rw [get_set_ne _ _ (show sampleSecond.id ≠ sampleUuid by decide)]
    rfl
  exact create_stores sampleSecond_new valid (by simp [sampleEncoding]) (by simp [sampleEncoding]) unbound
    sampleIdentity_granted fresh alone (by rw [only]; decide) (by decide)

/-- The store admits both. -/
theorem sampleBoth_reached : ∃ history, MemoryRuns sampleEncoding history sampleBoth := by
  have first : Performs (perform sampleEncoding) Memory.empty ⟨.create sampleFirst ⟨"first", "request"⟩ 1000 (.ok ())
    1000 sampleGuards, .ok (.record sampleFirst)⟩ sampleStored :=
    Performs.of_ok sampleFirst_stored
  have second : Performs (perform sampleEncoding) sampleStored ⟨.create sampleSecond ⟨"second", "request"⟩ 1000 (.ok ())
    1000 sampleGuards, .ok (.record sampleSecond)⟩ sampleBoth :=
    Performs.of_ok sampleSecond_stored
  have start : MemoryRuns sampleEncoding [] Memory.empty := .nil
  have one := start.snoc first
  have two := one.snoc second
  exact ⟨_, two⟩

theorem sampleBoth_first : sampleBoth.records.get sampleUuid = some sampleFirst := by
  unfold sampleBoth
  rw [get_set_ne _ _ (show sampleUuid ≠ otherUuid by decide)]
  exact get_set_self ..

theorem sampleBoth_second : sampleBoth.records.get otherUuid = some sampleSecond := get_set_self ..

theorem sample_sameWallet : sameWallet sampleFirst sampleSecond = true := by
  simp [sameWallet, sampleFirst, sampleSecond, sampleIdentity, same_self]

theorem wallet_sessions_exclusive_sample : (∃ history, MemoryRuns sampleEncoding history sampleBoth) ∧
    sampleBoth.records.get sampleUuid = some sampleFirst ∧ sampleBoth.records.get otherUuid = some sampleSecond ∧
    sameWallet sampleFirst sampleSecond = true ∧ ¬ (sampleFirst.reserves = true ∧ sampleSecond.reserves = true) := by
  obtain ⟨history, run⟩ := sampleBoth_reached
  exact ⟨⟨history, run⟩, sampleBoth_first, sampleBoth_second, sample_sameWallet,
    (wallet_sessions_exclusive run sampleBoth_first sampleBoth_second (by decide) sample_sameWallet).1⟩

/-- The enable nonce a session was compiled for is the chain's own count for its permission, and
two sessions of one wallet may start from the same. -/
theorem enable_nonce_shared : (∃ history, MemoryRuns sampleEncoding history sampleBoth) ∧
    sampleBoth.records.get sampleUuid = some sampleFirst ∧ sampleBoth.records.get otherUuid = some sampleSecond ∧
    sampleUuid ≠ otherUuid ∧ sameWallet sampleFirst sampleSecond = true ∧
    sampleFirst.compiled.activationEnableNonce = sampleSecond.compiled.activationEnableNonce :=
  ⟨sampleBoth_reached, sampleBoth_first, sampleBoth_second, by decide, sample_sameWallet, rfl⟩

end JBCenter.Sessions
