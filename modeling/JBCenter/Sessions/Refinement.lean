import JBCenter.Sessions.Concord

/-! The in-memory session store and the durable one asked the same calls one after another. They answer alike
and keep the same documents, bindings and reservations as long as no observation makes the in-memory store
forget a reservation and what they would store stays within the bounds of both. -/
namespace JBCenter.Sessions
open Rest Fallible
variable {encoding : Encoding} {jsonb : StoredSession → Bool} {record next : StoredSession} {m : Memory} {p : Postgres}
  {id : String} {earlier : Int}

def Op.clock : Op → Int
  | .create _ _ _ _ clock _ => clock
  | .claim _ _ _ clock _ => clock
  | .observe _ clock _ => clock
  | .markStale _ clock => clock

/-- Before an operation: what it would store and answer fits, and it makes no reservation forgotten. -/
def Remembers (encoding : Encoding) (jsonb : StoredSession → Bool) (m : Memory) : Op → Prop
  | .create input _ _ _ _ _ => jsonb input = true
  | .claim request kind _ clock _ => ∀ current supersede result, m.records.get request.id = some current →
      applySessionClaim encoding current request kind clock supersede = .ok result → Fits encoding jsonb result
  | .observe update clock guards => ∀ current, m.records.get update.id = some current →
      ¬ forgets encoding current update clock ∧ ∀ result,
        applySessionObservation encoding current update (Memory.grantActive guards current clock) clock = .ok result →
          Fits encoding jsonb result
  | .markStale update clock => ∀ current result, m.records.get update.id = some current →
      applySessionInvalidation encoding current update clock = .ok result → Fits encoding jsonb result

theorem perform_matches (agrees : Agrees encoding earlier m p) {op : Op} (later : earlier ≤ op.clock)
    (time : isTime op.clock = true) (remembers : Remembers encoding jsonb m op) :
    Matches (Same encoding op.clock) (toExcept (perform encoding op) m) (toExcept (Postgres.perform encoding jsonb op) p) := by
  rw [Postgres.perform, toExcept_transaction]
  cases op with
  | create input binding now authority clock guards =>
    rw [perform, toExcept_map]
    exact (create_matches agrees later remembers).map fun a b same => ⟨congrArg Outcome.record same.1, same.2⟩
  | claim request kind authority clock guards =>
    rw [perform, toExcept_map]
    exact (claim_matches agrees later time remembers).map fun a b same => ⟨congrArg Outcome.ofResult same.1, same.2⟩
  | observe update clock guards =>
    rw [perform, toExcept_map]
    exact (observe_matches agrees later time (fun current result found => (remembers current found).2 result)
      fun current found => (remembers current found).1).map fun a b same => ⟨congrArg Outcome.ofResult same.1, same.2⟩
  | markStale update clock =>
    rw [perform, toExcept_map]
    exact (markStale_matches agrees later time remembers).map fun a b same => ⟨congrArg Outcome.ofResult same.1, same.2⟩

theorem reserve_atomic {actor : RestActor} {binding : SessionIdempotency} {operation : SessionOperation} :
    Atomic (Memory.reserve actor binding operation id) m := by
  refine atomic_get_bind (atomic_check_bind fun _ _ => atomic_of_succeeds ?_)
  intro e t failed
  cases failed

theorem create_atomic {input : StoredSession} {binding : SessionIdempotency} {now clock : Int}
    {authority : Except RestError Unit} {guards : Guards} :
    Atomic (Memory.create encoding input binding now authority clock guards) m := by
  refine atomic_check_bind fun _ _ => atomic_check_bind fun _ _ => atomic_check_bind fun record cloned => ?_
  cases cloneSession_ok cloned
  refine atomic_check_bind fun claim _ => atomic_check_bind fun _ _ => atomic_get_bind (atomic_check_bind fun _ _ => ?_)
  split
  · exact atomic_check_bind fun _ _ => atomic_check
  · exact atomic_check_bind fun _ _ => atomic_check_bind fun _ _ => atomic_check_bind fun _ _ =>
      atomic_check_bind fun _ _ => atomic_bind reserve_atomic fun _ _ _ => succeeds_modify_bind (succeeds_check cloned)

/-- Only the copy of the answer follows the write, and an answer that fits is copied. -/
theorem perform_atomic {op : Op} (remembers : Remembers encoding jsonb m op) : Atomic (perform encoding op) m := by
  cases op with
  | create => exact atomic_map create_atomic
  | claim request kind authority clock guards =>
    refine atomic_map (atomic_check_bind fun request cloned => ?_)
    cases cloneSession_ok cloned
    refine atomic_check_bind fun _ _ => atomic_check_bind fun _ _ => atomic_check_bind fun _ _ => atomic_get_bind
      (atomic_check_bind fun current required => atomic_check_bind fun _ _ => ?_)
    split
    · exact atomic_check_bind fun _ _ => fun e t failed => by cases failed
    · refine atomic_check_bind fun _ _ => atomic_check_bind fun _ _ => atomic_check_bind fun result applied => ?_
      have copied := cloneSession_small (remembers current _ result (required_ok required) applied).answer
      exact atomic_check_bind fun _ _ => atomic_bind reserve_atomic fun _ _ _ =>
        succeeds_modify_bind (succeeds_check copied)
  | observe update clock guards =>
    refine atomic_map (atomic_check_bind fun update cloned => ?_)
    cases cloneSession_ok cloned
    refine atomic_get_bind (atomic_check_bind fun current required => atomic_check_bind fun result applied => ?_)
    have copied := cloneSession_small ((remembers current (required_ok required)).2 result applied).answer
    exact atomic_check_bind fun _ _ => atomic_of_succeeds (succeeds_modify_bind (succeeds_check copied))
  | markStale update clock =>
    refine atomic_map (atomic_check_bind fun update cloned => ?_)
    cases cloneSession_ok cloned
    refine atomic_get_bind (atomic_check_bind fun current required => atomic_check_bind fun result applied => ?_)
    have copied := cloneSession_small (remembers current result (required_ok required) applied).answer
    exact atomic_of_succeeds (succeeds_modify_bind (succeeds_check copied))

structure Stores where
  memory : Memory
  postgres : Postgres
  clock : Int

def Stores.empty : Stores := ⟨.empty, .empty, 0⟩

/-- A call, and what each store answers it. -/
structure Call where
  op : Op
  memory : Except RestError Outcome
  postgres : Except RestError Outcome

/-- Both stores perform the call at one reading of a clock that does not run back. -/
structure Stores.Step (encoding : Encoding) (jsonb : StoredSession → Bool) (s : Stores) (call : Call) (t : Stores) :
    Prop where
  memory : Performs (perform encoding) s.memory ⟨call.op, call.memory⟩ t.memory
  postgres : Performs (Postgres.perform encoding jsonb) s.postgres ⟨call.op, call.postgres⟩ t.postgres
  time : isTime call.op.clock = true
  later : s.clock ≤ call.op.clock
  clock : t.clock = call.op.clock

/-- A step before which nothing is forgotten. -/
def Stores.Kept (encoding : Encoding) (jsonb : StoredSession → Bool) (s : Stores) (call : Call) (t : Stores) : Prop :=
  Stores.Step encoding jsonb s call t ∧ Remembers encoding jsonb s.memory call.op

theorem Stores.Kept.agrees {s t : Stores} {call : Call} (step : Stores.Kept encoding jsonb s call t)
    (agrees : Agrees encoding s.clock s.memory s.postgres) :
    call.memory.toOption = call.postgres.toOption ∧ Agrees encoding t.clock t.memory t.postgres := by
  obtain ⟨step, remembers⟩ := step
  rw [step.clock]
  exact Matches.performs (agrees.later step.later) (perform_matches agrees step.later step.time remembers)
    (perform_atomic remembers) atomic_transaction step.memory step.postgres

theorem Agrees.empty : Agrees encoding earlier .empty .empty := by
  refine ⟨rfl, rfl, ?_, ?_, ?_, ?_⟩
  · intro id record found
    cases found
  · intro id record found
    cases found
  · intro row member
    cases member
  · intro id record found
    cases found

/-- In a run whose observations make no reservation forgotten and whose documents fit, both stores accept the
same calls with the same answers and hold the same documents and bindings, and a session has an unreleased row
exactly when the in-memory store takes its wallet for reserved. In every run of the durable store a wallet's
unreleased rows are of one session. -/
theorem session_stores_agree {history : List Call} {s : Stores}
    (run : Run (Stores.Kept encoding jsonb) Stores.empty history s) :
    (∀ call ∈ history, call.memory.toOption = call.postgres.toOption) ∧
      s.postgres.sessions = s.memory.records ∧ s.postgres.idempotency = s.memory.idempotency ∧
      (∀ id existing, s.memory.records.get id = some existing → ∀ candidate, reservationConflicts candidate existing =
        (candidate.id ≠ existing.id && sameWallet candidate existing && s.postgres.holds id)) ∧
      ∀ (calls : List (Answer Op RestError Outcome)) (p : Postgres),
        Run (Performs (Postgres.perform encoding jsonb)) Postgres.empty calls p → p.Single := by
  have start : Agrees encoding Stores.empty.clock Stores.empty.memory Stores.empty.postgres := .empty
  have agrees := run.state_invariant (P := fun s => Agrees encoding s.clock s.memory s.postgres) start
    fun agrees step => (step.agrees agrees).2
  refine ⟨?_, agrees.sessions, agrees.idempotency, ?_, fun calls p => Postgres.single_run⟩
  · exact run.events (P := fun s => Agrees encoding s.clock s.memory s.postgres) start
      (fun agrees step => (step.agrees agrees).2) fun agrees step => (step.agrees agrees).1
  · intro id existing found candidate
    rw [agrees.rows.held id existing found]
    rfl

theorem Agrees.proceeds {s : Stores} {op : Op} {outcome : Outcome} {m' : Memory}
    (agrees : Agrees encoding s.clock s.memory s.postgres) (time : isTime op.clock = true) (later : s.clock ≤ op.clock)
    (remembers : Remembers encoding jsonb s.memory op) (ran : (perform encoding op).run s.memory = .ok outcome m') :
    ∃ p', Stores.Kept encoding jsonb s ⟨op, .ok outcome, .ok outcome⟩ ⟨m', p', op.clock⟩ ∧
      Agrees encoding op.clock m' p' := by
  obtain ⟨result, p', performed⟩ := Performs.total (Postgres.perform encoding jsonb) op s.postgres
  have kept : Stores.Kept encoding jsonb s ⟨op, .ok outcome, result⟩ ⟨m', p', op.clock⟩ :=
    ⟨⟨.of_ok ran, performed, time, later, rfl⟩, remembers⟩
  obtain ⟨same, agrees'⟩ := kept.agrees agrees
  cases result with
  | ok answer =>
    cases same
    exact ⟨p', kept, agrees'⟩
  | error e => cases same

variable {update : SessionObservationUpdate}

theorem observe_forgotten {clock : Int} {guards : Guards}
    (agrees : Agrees encoding earlier m p) (later : earlier ≤ clock) (time : isTime clock = true)
    (small : encoding.observationUpdate update ≤ maximumBytes) (required : m.required update.actor update.id = .ok record)
    (applied : applySessionObservation encoding record update (Memory.grantActive guards record clock) clock =
      .ok (next, true))
    (fits : Fits encoding jsonb (next, true)) (forgotten : forgets encoding record update clock) :
    ∃ q, Postgres.observe encoding jsonb update clock guards p = .ok ((next, true), q) ∧
      q.holds update.id = true ∧ next.reserves = false := by
  obtain ⟨inactive, enabled, unreleased, disabled, unretired, _⟩ := forgotten
  have found := required_ok required
  obtain ⟨impossible, _⟩ | ⟨_, advanced, _, activation, observation, released⟩ := applySessionObservation_advanced applied
  · cases impossible
  have off : next.enabled = false := by
    rw [StoredSession.enabled, observation]
    exact disabled
  have kept : next.reservationsReleased = false := by rw [released, unreleased, unretired]; rfl
  have copied : p.selectSession encoding update.actor update.id = .ok record := agrees.selectSession.trans required
  obtain ⟨accepted, bounded⟩ := fits.row rfl
  have saved : p.save encoding jsonb next = .ok (next, { p with sessions := p.sessions.set next.id next }) :=
    bind_run (cloneSession_small fits.record)
      (bind_run (agrees.rewritten later time found advanced accepted bounded) rfl)
  refine ⟨{ p with sessions := p.sessions.set next.id next }, ?_, ?_, ?_⟩
  · refine bind_run (cloneSession_small small) (bind_run copied (bind_run applied ?_))
    refine bind_run (a := p) (by rw [off]; rfl) ?_
    simp only [kept, Bool.and_false, Bool.false_eq_true, if_false]
    unfold Postgres.saveResult
    simp only [if_true, saved]
    rfl
  · change p.holds update.id = true
    rw [agrees.rows.held _ record found]
    simp [StoredSession.reserves, unreleased, enabled]
  · simp [StoredSession.reserves, kept, activation, inactive, off]

theorem observe_stores {clock : Int} {guards : Guards}
    (small : encoding.observationUpdate update ≤ maximumBytes) (required : m.required update.actor update.id = .ok record)
    (applied : applySessionObservation encoding record update (Memory.grantActive guards record clock) clock =
      .ok (next, true))
    (free : m.records.values.any (reservationConflicts record) = false)
    (answer : encoding.result (next, true) ≤ maximumBytes) :
    (perform encoding (.observe update clock guards)).run m =
      .ok (.result next true) { m with records := m.records.set record.id next } := by
  have checked : (if (true && next.enabled && !next.reservationsReleased) = true then m.checkReservation record
      else .ok ()) = .ok () := by
    split
    · exact refuse_ok.mpr free
    · rfl
  refine run_map_ok (a := (next, true)) ?_
  unfold Memory.observe
  rw [run_check_bind (cloneSession_small small)]
  change (check _ >>= _ : StoreM (StoredSession × Bool)).run m = _
  rw [run_check_bind required, run_check_bind applied, run_check_bind checked]
  change (check _ : StoreM (StoredSession × Bool)).run _ = _
  rw [cloneSession_small answer]
  rfl

theorem assertObservation_congr {observation : SessionCanonicalObservation} {now : Int}
    (chain : next.compiled.chainId = record.compiled.chainId) (wallet : next.compiled.wallet = record.compiled.wallet)
    (hash : next.compiled.compiledHash = record.compiled.compiledHash)
    (permission : next.compiled.permissionId = record.compiled.permissionId)
    (fresh : next.observation.any (fun previous =>
      blockConflicts observation.installed.evidence previous.installed.evidence) = false)
    (fresh' : record.observation = none) :
    assertObservation encoding next observation now = assertObservation encoding record observation now := by
  unfold assertObservation
  simp only [chain, wallet, hash, permission, fresh, fresh', Option.any_none, Bool.and_false]

def sampleObserved (record : StoredSession) (observation : SessionCanonicalObservation) : StoredSession :=
  { observedRecord record observation true 1000 with
    revision := (observedRecord record observation true 1000).revision + 1
    updatedAt := 1000 }

def sampleEnabled : SessionCanonicalObservation := sampleObservation true "0" "0" "1"
def sampleDisabled : SessionCanonicalObservation := sampleObservation false "0" "0" "2"
def sampleActive : StoredSession := sampleObserved sampleFirst sampleEnabled
def sampleForgotten : StoredSession := sampleObserved sampleActive sampleDisabled

def sampleCreate : Op := .create sampleFirst ⟨"first", "request"⟩ 1000 (.ok ()) 1000 sampleGuards
def sampleEnable : SessionObservationUpdate := ⟨sampleFirst.actor, sampleUuid, 0, none, sampleEnabled⟩
def sampleDisable : SessionObservationUpdate := ⟨sampleFirst.actor, sampleUuid, 1, some sampleHash, sampleDisabled⟩

theorem sample_fits (result : StoredSession × Bool) (bounded : result.1.revision < maxSafeInteger) :
    Fits sampleEncoding (fun _ => true) result :=
  ⟨Nat.zero_le _, Nat.zero_le _, fun _ => ⟨rfl, bounded⟩⟩

theorem sampleObserved_kept (record : StoredSession) (observation : SessionCanonicalObservation) :
    (sampleObserved record observation).id = record.id ∧ (sampleObserved record observation).compiled = record.compiled ∧
      (sampleObserved record observation).activation = record.activation ∧
      (sampleObserved record observation).observation = some observation ∧
      (sampleObserved record observation).revision = record.revision + 1 := by
  obtain ⟨id, activation⟩ := observedRecord_kept record observation true 1000
  obtain ⟨_, _, revision, seen⟩ := observedRecord_frame record observation true 1000
  refine ⟨id, ?_, activation, seen, congrArg (· + 1) revision⟩
  unfold sampleObserved observedRecord
  simp only
  split
  · split <;> rfl
  · rfl

theorem sample_grantActive (compiled : record.compiled = sampleFirst.compiled) :
    Memory.grantActive sampleGuards record 1000 = true := by
  have all : Auth.allBotScopes.all (fun scope => scope ∈ Auth.allBotScopes) = true := by decide
  have granted : Memory.checkAuthority sampleGuards record 1000 = .ok () := by
    simp [Memory.checkAuthority, assertSessionGrant, sampleGuards, compiled, sampleFirst, sampleIdentity, same_self, refuse,
      all, bind, Except.bind]
  rw [Memory.grantActive, granted]

theorem sample_accepted {enabled : Bool} {block : String} (compiled : record.compiled = sampleFirst.compiled)
    (digits : isUint256 block = true) (fresh : record.observation.any (fun previous =>
      blockConflicts (sampleObservation enabled "0" "0" block).installed.evidence previous.installed.evidence) = false) :
    assertObservation sampleEncoding record (sampleObservation enabled "0" "0" block) 1000 = .ok () := by
  have zero : isUint256 "0" = true := by decide
  have none : decimalValue "0" ≤ 9 := by decide
  have like : assertObservation sampleEncoding record (sampleObservation enabled "0" "0" block) 1000 =
      assertObservation sampleEncoding (sampleRecord .prepared 0 .none .none) (sampleObservation enabled "0" "0" block) 1000 := by
    apply assertObservation_congr _ _ _ _ fresh rfl
    all_goals
      rw [compiled]
      rfl
  exact like.trans (sample_assertObservation zero zero none digits nofun)

theorem sample_applied {enabled : Bool} {block : String} {number : Int} {hash : Option String}
    (compiled : record.compiled = sampleFirst.compiled)
    (digits : isUint256 block = true) (fresh : record.observation.any (fun previous =>
      blockConflicts (sampleObservation enabled "0" "0" block).installed.evidence previous.installed.evidence) = false)
    (named : record.revision = number) (numbered : revision number = .ok ())
    (seen : record.observation.map SessionCanonicalObservation.proofHash = hash)
    (unreleased : record.reservationsReleased = false) :
    applySessionObservation sampleEncoding record
      ⟨sampleFirst.actor, sampleUuid, number, hash, sampleObservation enabled "0" "0" block⟩
      (Memory.grantActive sampleGuards record 1000) 1000 =
      .ok (sampleObserved record (sampleObservation enabled "0" "0" block), true) := by
  rw [sample_grantActive compiled]
  refine applySessionObservation_accepted ?_ numbered named seen (sample_accepted compiled digits fresh) unreleased
    (fun _ => Nat.zero_le _) (Nat.zero_le _)
  have readable : canReadSession record sampleFirst.actor = true := by
    rw [canReadSession, compiled]
    simp [sampleFirst, sampleIdentity]
  simp [assertSessionActor, readable, refuse]

theorem sample_only : sampleStored.records.values = [sampleFirst] := rfl

theorem sampleActive_kept : sampleActive.compiled = sampleFirst.compiled ∧ sampleActive.activation = none ∧
    sampleActive.observation = some sampleEnabled ∧ sampleActive.revision = 1 ∧
    sampleActive.reservationsReleased = false := by
  obtain ⟨_, compiled, activation, seen, revision⟩ := sampleObserved_kept sampleFirst sampleEnabled
  exact ⟨compiled, activation, seen, revision, observedRecord_released sampleFirst sampleEnabled true 1000⟩

theorem sample_enabled : applySessionObservation sampleEncoding sampleFirst sampleEnable
    (Memory.grantActive sampleGuards sampleFirst 1000) 1000 = .ok (sampleActive, true) :=
  sample_applied rfl (by decide) rfl rfl rfl rfl rfl

theorem sample_later : sampleActive.observation.any (fun previous =>
    blockConflicts sampleDisabled.installed.evidence previous.installed.evidence) = false := by
  rw [sampleActive_kept.2.2.1]
  decide

theorem sample_disabled : applySessionObservation sampleEncoding sampleActive sampleDisable
    (Memory.grantActive sampleGuards sampleActive 1000) 1000 = .ok (sampleForgotten, true) := by
  obtain ⟨compiled, _, seen, revision, unreleased⟩ := sampleActive_kept
  refine sample_applied compiled (by decide) sample_later revision rfl ?_ unreleased
  rw [seen]
  rfl

theorem sample_forgets : forgets sampleEncoding sampleActive sampleDisable 1000 := by
  obtain ⟨compiled, inactive, seen, revision, unreleased⟩ := sampleActive_kept
  refine ⟨inactive, ?_, unreleased, rfl, rfl, revision, ?_, sample_accepted compiled (by decide) sample_later⟩
  · rw [StoredSession.enabled, seen]
    rfl
  · rw [seen]
    rfl

theorem sample_bounded {result : StoredSession × Bool} (low : record.revision ≤ 1)
    (applied : applySessionObservation sampleEncoding record update grantActive now = .ok result) :
    Fits sampleEncoding (fun _ => true) result := by
  obtain ⟨next, changed⟩ := result
  refine sample_fits _ ?_
  have bound : (2 : Int) < maxSafeInteger := by decide
  obtain ⟨_, rfl⟩ | ⟨_, advanced, _⟩ := applySessionObservation_advanced applied
  · change next.revision < _
    omega
  · change next.revision < _
    rw [advanced.revision]
    omega

/-- The store after the first observation. -/
def sampleSeen : Memory := { sampleStored with records := sampleStored.records.set sampleUuid sampleActive }

theorem sample_required : sampleStored.required sampleFirst.actor sampleUuid = .ok sampleFirst ∧
    sampleSeen.required sampleFirst.actor sampleUuid = .ok sampleActive := by
  obtain ⟨_, ⟨uuid, _⟩, _⟩ := identity_texts
  have actor : Transactions.assertActor sampleFirst.actor = .ok () := by decide +kernel
  have named : assertSessionId sampleUuid = .ok () := by
    unfold assertSessionId
    rw [uuid]
    rfl
  have stored : sampleStored.records.get sampleUuid = some sampleFirst := OrderedMap.get_set_self ..
  have seen : sampleSeen.records.get sampleUuid = some sampleActive := OrderedMap.get_set_self ..
  have readable : canReadSession sampleFirst sampleFirst.actor = true := by
    simp [canReadSession, sampleFirst, sampleIdentity]
  have readable' : canReadSession sampleActive sampleFirst.actor = true := by
    rw [canReadSession, sampleActive_kept.1]
    exact readable
  unfold Memory.required
  simp [actor, named, stored, seen, readable, readable', bind, Except.bind]

theorem sample_free : sampleStored.records.values.any (reservationConflicts sampleFirst) = false := by
  rw [sample_only]
  simp [reservationConflicts]

theorem sample_created : ∃ p, Stores.Kept sampleEncoding (fun _ => true) Stores.empty
    ⟨sampleCreate, .ok (.record sampleFirst), .ok (.record sampleFirst)⟩ ⟨sampleStored, p, 1000⟩ ∧
    Agrees sampleEncoding 1000 sampleStored p := by
  have agrees : Agrees sampleEncoding Stores.empty.clock Stores.empty.memory Stores.empty.postgres := .empty
  have remembers : Remembers sampleEncoding (fun _ => true) Stores.empty.memory sampleCreate := by
    simp [Remembers, sampleCreate]
  have time : isTime 1000 = true := by decide
  have later : (0 : Int) ≤ 1000 := by decide
  exact agrees.proceeds time later remembers sampleFirst_stored

theorem sample_remembers : Remembers sampleEncoding (fun _ => true) sampleStored
    (.observe sampleEnable 1000 sampleGuards) := by
  intro current found
  cases found.symm.trans (required_ok sample_required.1)
  refine ⟨fun forgotten => ?_, fun result applied => sample_bounded (by decide) applied⟩
  have enabled := forgotten.2.1
  simp [sampleFirst, sampleIdentity, sampleRecord, StoredSession.enabled] at enabled

theorem sample_run : ∃ history p, Run (Stores.Kept sampleEncoding fun _ => true) Stores.empty history ⟨sampleSeen, p, 1000⟩ ∧
    history.map Call.op = [sampleCreate, .observe sampleEnable 1000 sampleGuards] ∧
    Agrees sampleEncoding 1000 sampleSeen p := by
  obtain ⟨p, created, agrees⟩ := sample_created
  have required : sampleStored.required sampleEnable.actor sampleEnable.id = .ok sampleFirst := by
    simp only [sampleEnable]
    exact sample_required.1
  have ran : (perform sampleEncoding (.observe sampleEnable 1000 sampleGuards)).run sampleStored =
      .ok (.result sampleActive true) sampleSeen :=
    observe_stores (Nat.zero_le _) required sample_enabled sample_free (Nat.zero_le _)
  have before : Agrees sampleEncoding (Stores.mk sampleStored p 1000).clock (Stores.mk sampleStored p 1000).memory
    (Stores.mk sampleStored p 1000).postgres := agrees
  have time : isTime (Op.clock (.observe sampleEnable 1000 sampleGuards)) = true := by decide
  obtain ⟨q, observed, after⟩ := before.proceeds time (Int.le_refl 1000) sample_remembers ran
  have start : Run (Stores.Kept sampleEncoding fun _ => true) Stores.empty [] Stores.empty := .nil
  exact ⟨_, q, (start.snoc created).snoc observed, rfl, after⟩

theorem session_stores_agree_sample : ∃ (history : List Call) (s : Stores),
    history.map Call.op = [sampleCreate, .observe sampleEnable 1000 sampleGuards] ∧
    (∀ call ∈ history, call.memory.toOption = call.postgres.toOption) ∧ s.postgres.sessions = s.memory.records := by
  obtain ⟨history, p, run, ops, _⟩ := sample_run
  have agree := session_stores_agree run
  exact ⟨history, ⟨sampleSeen, p, 1000⟩, ops, agree.1, agree.2.1⟩

/-- A session without an activation is seen enabled and then disabled, not finally: its row stays unreleased
and the in-memory store no longer takes its wallet for reserved. -/
theorem reservation_forgotten : ∃ (history : List Call) (s : Stores),
    Run (Stores.Step sampleEncoding fun _ => true) Stores.empty history s ∧
    history.map Call.op = [sampleCreate, .observe sampleEnable 1000 sampleGuards,
      .observe sampleDisable 1000 sampleGuards] ∧
    s.memory.records.get sampleUuid = some sampleForgotten ∧ s.postgres.holds sampleUuid = true ∧
    sampleSecond.id ≠ sampleForgotten.id ∧ sameWallet sampleSecond sampleForgotten = true ∧
    reservationConflicts sampleSecond sampleForgotten = false := by
  obtain ⟨history, p, run, ops, agrees⟩ := sample_run
  have required : sampleSeen.required sampleDisable.actor sampleDisable.id = .ok sampleActive := by
    simp only [sampleDisable]
    exact sample_required.2
  have fits : Fits sampleEncoding (fun _ => true) (sampleForgotten, true) :=
    sample_bounded (Int.le_of_eq sampleActive_kept.2.2.2.1) sample_disabled
  have time : isTime 1000 = true := by decide
  have kept : ∃ q, Postgres.observe sampleEncoding (fun _ => true) sampleDisable 1000 sampleGuards p =
      .ok ((sampleForgotten, true), q) ∧ q.holds sampleUuid = true ∧ sampleForgotten.reserves = false :=
    observe_forgotten agrees (Int.le_refl 1000) time (Nat.zero_le _) required sample_disabled fits sample_forgets
  obtain ⟨q, observed, holds, unreserved⟩ := kept
  have only : sampleSeen.records.values = [sampleActive] := by
    simp only [sampleSeen, sampleStored]
    rfl
  have free : sampleSeen.records.values.any (reservationConflicts sampleActive) = false := by
    rw [only]
    simp [reservationConflicts]
  have ran : (perform sampleEncoding (.observe sampleDisable 1000 sampleGuards)).run sampleSeen =
      .ok (.result sampleForgotten true) { sampleSeen with records := sampleSeen.records.set sampleUuid sampleForgotten } :=
    observe_stores (Nat.zero_le _) required sample_disabled free (Nat.zero_le _)
  have ran' : (Postgres.perform sampleEncoding (fun _ => true) (.observe sampleDisable 1000 sampleGuards)).run p =
      .ok (.result sampleForgotten true) q := by
    rw [← toExcept_ok, Postgres.perform, toExcept_transaction, Postgres.execute, observed]
    rfl
  have step : Stores.Step sampleEncoding (fun _ => true) ⟨sampleSeen, p, 1000⟩
      ⟨.observe sampleDisable 1000 sampleGuards, .ok (.result sampleForgotten true), .ok (.result sampleForgotten true)⟩
      ⟨{ sampleSeen with records := sampleSeen.records.set sampleUuid sampleForgotten }, q, 1000⟩ :=
    ⟨.of_ok ran, .of_ok ran', time, Int.le_refl 1000, rfl⟩
  have past := run.mono (fun kept => kept.1)
  have same : sampleForgotten.id = sampleUuid ∧ sampleForgotten.compiled = sampleFirst.compiled := by
    obtain ⟨id, compiled, _⟩ := sampleObserved_kept sampleActive sampleDisabled
    exact ⟨id.trans (sampleObserved_kept sampleFirst sampleEnabled).1, compiled.trans sampleActive_kept.1⟩
  refine ⟨_, _, past.snoc step, ?_, OrderedMap.get_set_self .., holds, ?_, ?_, ?_⟩
  · rw [List.map_append, ops]
    rfl
  · rw [same.1]
    decide
  · rw [sameWallet_comm, sameWallet_congr same.2]
    exact sample_sameWallet
  · simp [reservationConflicts, unreserved]

end JBCenter.Sessions
