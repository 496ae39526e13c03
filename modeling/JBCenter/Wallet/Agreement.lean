import Mathlib.Logic.Relation
import JBCenter.Wallet.Shapes

/-! The authority of a wallet is decided three times: by the reducer, by the validator of its
results, and by the constraints and the trigger of the stored row. They agree: what the reducer
makes of a stored row is admitted by the other two. -/
namespace JBCenter.Wallet
open Rest
open Deployments (Word Address RestBlockEvidence wellFormedBlock isReason maximumQuantity positiveTime)
open Bool (and_eq_true)

/-- A snapshot that a stored row may hold. -/
structure Sound (v : WalletAuthoritySnapshot) : Prop where
  shape : snapshotShape v = true
  fenced : ∀ fence, v.activeFence = some fence → v.readiness = .fenced
  replaced : ∀ fence, v.activeFence = some fence → observedBlock v fence.replacementAnchor = true

/-- Generations that fit their columns. -/
structure Bounded (v : WalletAuthoritySnapshot) : Prop where
  revision : v.revision ≤ walletAuthorityMaximumEpoch
  authorityEpoch : v.authorityEpoch ≤ walletAuthorityMaximumEpoch
  sessionEpoch : v.sessionEpoch ≤ walletAuthorityMaximumEpoch

variable {rules : Rules} {context : WalletAuthorityContext} {prior next before : WalletAuthoritySnapshot} {nowMs : Int}
  {o : WalletAuthorityObservation} {head : RestBlockEvidence} {row old new : AuthorityRow} {value result : Nat}
  {error : RestError} {accountId : Address}

theorem advanceWhen_error {advances : Bool} (failed : advanceWhen advances value = .error error) : error = conflict := by
  unfold advanceWhen at failed
  split at failed
  · exact advance_error failed
  · cases failed

theorem advanceWhen_le {advances : Bool} (advanced : advanceWhen advances value = .ok result)
    (within : value ≤ walletAuthorityMaximumEpoch) : result ≤ walletAuthorityMaximumEpoch := by
  unfold advanceWhen at advanced
  split at advanced
  · obtain ⟨rfl, below⟩ := advance_ok advanced
    exact below
  · cases advanced
    exact within

theorem replaced_blocks (shape : observationShape o = true) (replaced : o.priorAnchor.status = .replaced) :
    ∃ abandoned replacement, o.priorAnchor.expected = some abandoned ∧ o.priorAnchor.observed = some replacement ∧
      wellFormedBlock abandoned = true ∧ wellFormedBlock replacement = true ∧
      abandoned.blockNumber = replacement.blockNumber ∧ abandoned.blockHash ≠ replacement.blockHash := by
  simp only [observationShape, priorAnchorShape, replaced, and_eq_true, Option.all_eq_true] at shape
  obtain ⟨⟨_, ⟨wellFormed, wellFormed'⟩, blocks⟩, _⟩ := shape
  split at blocks
  · rename_i abandoned replacement expected observed
    simp only [and_eq_true, decide_eq_true_eq, bne_iff_ne] at blocks
    exact ⟨abandoned, replacement, expected, observed, wellFormed _ expected, wellFormed' _ observed, blocks.1, blocks.2⟩
  · cases blocks

theorem standingFence_error {authorityEpoch sessionEpoch : Nat} (shape : observationShape o = true) :
    standingFence rules prior o authorityEpoch sessionEpoch head ≠ .error error := by
  unfold standingFence
  split
  · rename_i opens
    rw [newFence, and_eq_true, decide_eq_true_eq] at opens
    obtain ⟨abandoned, replacement, expected, observed, _⟩ := replaced_blocks shape opens.1
    rw [expected, observed]
    rintro ⟨⟩
  · rintro ⟨⟩

theorem settled_error (failed : settled prior o head = .error error) : error = conflict := by
  obtain rfl | ⟨_, impossible⟩ := refuse_bind_error failed
  · rfl
  · cases impossible

theorem observedHead_error (shape : observationShape o = true) (failed : observedHead rules prior next o head = .error error) :
    error = conflict := by
  obtain rfl | ⟨_, failed⟩ := refuse_bind_error failed
  · rfl
  iterate 2
    obtain failed | ⟨_, _, failed⟩ := except_bind_error failed
    · exact advanceWhen_error failed
  obtain failed | ⟨standing, _, failed⟩ := except_bind_error failed
  · exact absurd failed (standingFence_error shape)
  cases standing with
  | none => exact settled_error failed
  | some fence =>
    dsimp only at failed
    split at failed
    · exact settled_error failed
    · cases failed

theorem candidate_error (shape : observationShape o = true) (failed : candidate rules context o nowMs = .error error) :
    error = conflict := by
  unfold candidate at failed
  split at failed
  · obtain rfl | ⟨_, failed⟩ := refuse_bind_error failed
    · rfl
    obtain failed | ⟨_, _, failed⟩ := except_bind_error failed
    · exact advance_error failed
    have advanced (select : WalletAuthoritySnapshot → Nat)
        (failed : context.prior.elim (.ok 1) (fun prior => advance (select prior)) = .error error) : error = conflict := by
      cases isPrior : context.prior with
      | none => simp [isPrior] at failed
      | some prior =>
        rw [isPrior] at failed
        exact advance_error failed
    iterate 2
      obtain failed | ⟨_, _, failed⟩ := except_bind_error failed
      · exact advanced _ failed
    cases failed
  · obtain failed | ⟨_, _, failed⟩ := except_bind_error failed
    · exact advance_error failed
    dsimp only at failed
    split at failed
    · cases failed
    · exact observedHead_error shape failed

theorem observedHead_bounded (ran : observedHead rules prior before o head = .ok next)
    (revision : before.revision ≤ walletAuthorityMaximumEpoch) (authority : prior.authorityEpoch ≤ walletAuthorityMaximumEpoch)
    (session : prior.sessionEpoch ≤ walletAuthorityMaximumEpoch) : Bounded next := by
  obtain ⟨_, ran⟩ := ok_refuse ran
  obtain ⟨authorityEpoch, advanced, ran⟩ := ok_bind ran
  obtain ⟨sessionEpoch, advanced', ran⟩ := ok_bind ran
  obtain ⟨standing, _, ran⟩ := ok_bind ran
  have authority := advanceWhen_le advanced authority
  have session := advanceWhen_le advanced' session
  have decided_bounded {base : WalletAuthoritySnapshot} (bounded : Bounded base) : Bounded (decided base o head) := by
    unfold decided
    split <;> exact ⟨bounded.revision, bounded.authorityEpoch, bounded.sessionEpoch⟩
  cases standing with
  | none =>
    obtain ⟨_, _, rfl⟩ := settled_ok ran
    exact decided_bounded ⟨revision, authority, session⟩
  | some fence =>
    dsimp only at ran
    split at ran
    · obtain ⟨_, _, rfl⟩ := settled_ok ran
      exact decided_bounded ⟨revision, authority, session⟩
    · cases ran
      exact ⟨revision, authority, session⟩

theorem candidate_bounded (ran : candidate rules context o nowMs = .ok next)
    (within : ∀ prior, context.prior = some prior → Bounded prior) : Bounded next := by
  unfold candidate at ran
  split at ran
  · obtain ⟨_, ran⟩ := ok_refuse ran
    obtain ⟨_, revision, ran⟩ := ok_bind ran
    obtain ⟨_, authority, ran⟩ := ok_bind ran
    obtain ⟨_, session, ran⟩ := ok_bind ran
    have first (select : WalletAuthoritySnapshot → Nat) {result : Nat}
        (ran : context.prior.elim (.ok 1) (fun prior => advance (select prior)) = .ok result) :
        result ≤ walletAuthorityMaximumEpoch := by
      cases isPrior : context.prior with
      | none =>
        rw [isPrior] at ran
        cases ran
        decide
      | some prior =>
        rw [isPrior] at ran
        obtain ⟨rfl, below⟩ := advance_ok ran
        exact below
    obtain ⟨rfl, below⟩ := advance_ok revision
    cases ran
    exact ⟨below, first _ authority, first _ session⟩
  · rename_i prior ready
    have bounded := within prior (Option.filter_eq_some_iff.mp ready).1
    obtain ⟨_, revision, ran⟩ := ok_bind ran
    obtain ⟨rfl, below⟩ := advance_ok revision
    dsimp only at ran
    split at ran
    · cases ran
      exact ⟨below, bounded.authorityEpoch, bounded.sessionEpoch⟩
    · exact observedHead_bounded ran below bounded.authorityEpoch bounded.sessionEpoch

theorem epochShape_of (positive : 1 ≤ value) (within : value ≤ walletAuthorityMaximumEpoch) : epochShape value = true := by
  rw [epochShape, and_eq_true, decide_eq_true_eq, decide_eq_true_eq]
  exact ⟨positive, within⟩

theorem epochShape_pos (shape : epochShape value = true) : 1 ≤ value := by
  rw [epochShape, and_eq_true, decide_eq_true_eq] at shape
  exact shape.1

variable {identity : WalletAuthorityIdentity} {v : WalletAuthoritySnapshot}

theorem eligibility_ok (shape : observationShape o = true) (seen : o.head = some head)
    (isShown : o.identity = some identity) : eligibilityShape o head = true := by
  simp only [observationShape, seen, isShown, and_eq_true] at shape
  exact shape.2.2.2

theorem matched_valid (shape : observationShape o = true) (seen : o.head = some head)
    (isShown : o.identity = some identity) (matched : o.eligibility = some .matched) :
    ∃ validUntilMs, o.validUntilMs = some validUntilMs ∧ o.observedAtMs < validUntilMs ∧
      validUntilMs ≤ o.observedAtMs + 900000 ∧ validUntilMs ≤ headMs head + 900000 := by
  have eligible := eligibility_ok shape seen isShown
  rw [eligibilityShape, matched] at eligible
  cases isValid : o.validUntilMs with
  | none => simp [isValid] at eligible
  | some validUntilMs =>
    simp only [isValid, and_eq_true, decide_eq_true_eq] at eligible
    obtain ⟨_, ⟨⟨_, after⟩, within⟩, within'⟩ := eligible
    exact ⟨validUntilMs, rfl, after, within, within'⟩

theorem headed_shaped (sound : Sound prior) (ready : prior.bootstrapRequired = false) (shape : observationShape o = true)
    (same : o.accountId = prior.accountId) (now : positiveTime nowMs = true) (observedAt : o.observedAtMs ≤ nowMs)
    (later : prior.updatedAtMs ≤ nowMs) (seen : o.head = some head)
    (above : ∀ highest, prior.highestObservedBlock = some highest → highest ≤ head.blockNumber)
    (bounded : Bounded (headed prior o nowMs head)) : Shaped (headed prior o nowMs head) := by
  obtain ⟨shaped, _⟩ := snapshotShape_iff.mp sound.shape
  obtain ⟨heads, identities, _⟩ := observed_shapes shape
  have rises : Rises prior (headed prior o nowMs head) := headed_rises head above
  have wellFormed := heads head seen
  simp only [wellFormedBlock, and_eq_true, decide_eq_true_eq] at wellFormed
  refine shaped.carry rises later rfl rfl rfl rfl rfl ready bounded.revision
    (epochShape_of ((epochShape_pos shaped.authorityEpoch).trans rises.authorityEpoch) bounded.authorityEpoch)
    (epochShape_of ((epochShape_pos shaped.sessionEpoch).trans rises.sessionEpoch) bounded.sessionEpoch)
    now ?_ ?_ ?_ (by rintro _ ⟨⟩)
  · intro identity isIdentity
    obtain isShown | ⟨_, isIdentity⟩ := Option.or_eq_some_iff.mp isIdentity
    · exact ⟨(identities identity isShown).1, (identities identity isShown).2.trans same⟩
    · exact shaped.identity identity isIdentity
  · rintro block ⟨⟩
    exact wellFormed.1.1
  · rintro observation ⟨⟩
    refine ⟨shape, same, observedAt, ?_⟩
    intro other isHead
    cases seen.symm.trans isHead
    simp [observedBlock, headed]

theorem headed_head (wellFormed : wellFormedBlock head = true) :
    wellFormedBlock head = true ∧ observedBlock (headed prior o nowMs head) head = true :=
  ⟨wellFormed, by simp [observedBlock, headed]⟩

theorem Shaped.refine {readiness : Readiness} {historical : Option WalletAuthorityIdentity}
    {accepted : Option RestBlockEvidence} {active closed : Option WalletAuthorityFence} {validUntil : Option Int}
    (base : Shaped v) (ready : v.bootstrapRequired = false)
    (historicalShape : ∀ identity, historical = some identity → identityShape identity = true ∧ identity.accountId = v.accountId)
    (acceptedShape : ∀ anchor, accepted = some anchor → wellFormedBlock anchor = true ∧ observedBlock v anchor = true)
    (activeShape : ∀ fence, active = some fence → Fenced v fence) (closedShape : ∀ fence, closed = some fence → Fenced v fence)
    (validShape : ∀ validUntilMs, validUntil = some validUntilMs → positiveTime validUntilMs = true) :
    Shaped { v with
      readiness
      historicalVerifiedIdentity := historical
      acceptedAnchor := accepted
      activeFence := active
      lastClosedFence := closed
      validUntilMs := validUntil } where
  account := base.account
  revision := base.revision
  authorityEpoch := base.authorityEpoch
  sessionEpoch := base.sessionEpoch
  updatedAt := base.updatedAt
  identity := base.identity
  historical := historicalShape
  highest := base.highest
  accepted := acceptedShape
  active fence isActive := ⟨(activeShape fence isActive).within, (activeShape fence isActive).recovery⟩
  closed fence isClosed := ⟨(closedShape fence isClosed).within, (closedShape fence isClosed).recovery⟩
  latest := base.latest
  validUntil := validShape
  bare bootstrap := absurd (bootstrap.symm.trans ready) (by decide)

theorem decided_sound (base : Shaped v)
    (ready : v.bootstrapRequired = false) (shape : observationShape o = true) (seen : o.head = some head)
    (isShown : o.identity = some identity) (latest : v.latestObservation = some o) (stands : v.identity = some identity)
    (clear : v.activeFence = none) (untimed : v.validUntilMs = none) (within : observedBlock v head = true) :
    Sound (decided v o head) := by
  obtain ⟨heads, identities, times⟩ := observed_shapes shape
  have anchored : ∀ anchor, some head = some anchor → wellFormedBlock anchor = true ∧ observedBlock v anchor = true := by
    rintro anchor ⟨⟩
    exact ⟨heads head seen, within⟩
  have clearSound (next : WalletAuthoritySnapshot)
    (still : next.activeFence = v.activeFence) (shape : snapshotShape next = true) :
      Sound next := by
    refine ⟨shape, ?_, ?_⟩ <;> intro fence isActive <;> cases (clear.symm.trans still.symm).trans isActive
  unfold decided
  split
  · rename_i matched
    obtain ⟨validUntilMs, isValid, _⟩ := matched_valid shape seen isShown matched
    refine clearSound _ rfl (snapshotShape_iff.mpr ⟨base.refine ready ?_ anchored base.active base.closed times, ?_⟩)
    · intro other isHistorical
      exact base.identity other (stands.trans (isShown.symm.trans isHistorical))
    · simp [readinessShape, verifiedShape, ready, stands, isShown, clear, isValid, latest, matched, seen]
  · refine clearSound _ rfl (snapshotShape_iff.mpr
      ⟨base.refine ready base.historical anchored base.active base.closed base.validUntil, ?_⟩)
    simp [readinessShape, untimed, stands, clear]

theorem Standing.fenced {fence : WalletAuthorityFence} (standing : Standing rules prior o head fence)
    (sound : Sound prior) (shape : observationShape o = true) (seen : o.head = some head)
    (above : ∀ highest, prior.highestObservedBlock = some highest → highest ≤ head.blockNumber)
    (observedAt : o.observedAtMs ≤ nowMs) (later : prior.updatedAtMs ≤ nowMs)
    (base : Shaped (headed prior o nowMs head)) (hashed : rules.observationDigest o ≠ 0) :
    Fenced (headed prior o nowMs head) fence ∧ observedBlock (headed prior o nowMs head) fence.replacementAnchor = true := by
  have recovers := standing.recoveryAnchor shape seen
  have atHead : ∀ anchor, fence.recoveryAnchor = some anchor → anchor = head := by
    intro anchor isAnchor
    rw [recovers] at isAnchor
    obtain ⟨_, _, rfl⟩ := Option.map_eq_some_iff.mp isAnchor
    rfl
  have headShape := (observed_shapes shape).1 head seen
  have recovery : ∀ anchor, fence.recoveryAnchor = some anchor → observedBlock (headed prior o nowMs head) anchor = true := by
    intro anchor isAnchor
    rw [atHead anchor isAnchor]
    exact (headed_head headShape).2
  cases standing with
  | @opened abandoned replacement opens expected observed =>
    rw [newFence, and_eq_true, decide_eq_true_eq] at opens
    obtain ⟨_, _, expected', observed', wellFormed, wellFormed', sameNumber, otherHash⟩ := replaced_blocks shape opens.1
    cases expected.symm.trans expected'
    cases observed.symm.trans observed'
    have below : replacement.blockNumber ≤ head.blockNumber := by
      simp only [observationShape, seen, Deployments.wellFormedBlock, JBCenter.Wallet.headShape, and_eq_true, observed,
        Option.all_some, decide_eq_true_eq] at shape
      exact shape.2.1.1.1.2.1
    have opened : positiveTime o.observedAtMs = true := by
      simp only [observationShape, and_eq_true] at shape
      exact shape.1.1.1.1.2
    refine ⟨⟨?_, recovery⟩, ?_⟩
    · simp only [fenceWithin, fenceShape, and_eq_true, decide_eq_true_eq, bne_iff_ne]
      refine ⟨⟨⟨⟨⟨⟨⟨⟨⟨⟨⟨hashed, base.authorityEpoch⟩, base.sessionEpoch⟩, opened⟩, wellFormed⟩, wellFormed'⟩, sameNumber⟩,
        otherHash⟩, ?_⟩, le_rfl⟩, le_rfl⟩, observedAt⟩
      rw [Option.all_eq_true]
      intro anchor isAnchor
      rw [atHead anchor isAnchor, and_eq_true, decide_eq_true_eq]
      exact ⟨headShape, below⟩
    · simpa [observedBlock, headed] using below
  | @held before old stood =>
    have rises : Rises prior (headed prior o nowMs head) := headed_rises head above
    obtain ⟨shaped, _⟩ := snapshotShape_iff.mp sound.shape
    have replaced := observedBlock_mono rises (sound.replaced before stood)
    have within := ((shaped.active before stood).mono rises later).within
    refine ⟨⟨?_, recovery⟩, replaced⟩
    simp only [fenceWithin, fenceShape, and_eq_true, decide_eq_true_eq, bne_iff_ne] at within ⊢
    obtain ⟨⟨⟨⟨blocks, _⟩, authority⟩, session⟩, opened⟩ := within
    refine ⟨⟨⟨⟨blocks, ?_⟩, authority⟩, session⟩, opened⟩
    rw [Option.all_eq_true]
    intro anchor isAnchor
    rw [atHead anchor isAnchor, and_eq_true, decide_eq_true_eq]
    exact ⟨headShape, by simpa [observedBlock, headed] using replaced⟩

theorem Observed.sound (observed : Observed rules prior o nowMs next) (sound : Sound prior)
    (ready : prior.bootstrapRequired = false) (shape : observationShape o = true) (same : o.accountId = prior.accountId)
    (now : positiveTime nowMs = true) (observedAt : o.observedAtMs ≤ nowMs) (later : prior.updatedAtMs ≤ nowMs)
    (hashed : rules.observationDigest o ≠ 0) (bounded : Bounded next) :
    Sound next ∧ next.bootstrapRequired = false ∧ next.latestObservation = some o := by
  obtain ⟨shaped, _⟩ := snapshotShape_iff.mp sound.shape
  obtain ⟨heads, _, _⟩ := observed_shapes shape
  have decided_fields (base : WalletAuthoritySnapshot) (head : RestBlockEvidence) :
      (decided base o head).revision = base.revision ∧ (decided base o head).authorityEpoch = base.authorityEpoch ∧
      (decided base o head).sessionEpoch = base.sessionEpoch ∧
      (decided base o head).bootstrapRequired = base.bootstrapRequired ∧
      (decided base o head).latestObservation = base.latestObservation := by
    unfold decided
    split <;> exact ⟨rfl, rfl, rfl, rfl, rfl⟩
  cases observed with
  | unseen unseen =>
    have rises : Rises prior { prior with
        revision := prior.revision + 1
        latestObservation := some o
        updatedAtMs := nowMs
        validUntilMs := none
        readiness := if prior.activeFence.isSome then .fenced else .unknown } :=
      ⟨le_rfl, le_rfl, Nat.le_succ _, fun block highest => ⟨block, highest, le_rfl⟩⟩
    refine ⟨⟨snapshotShape_iff.mpr ⟨?_, ?_⟩, ?_, fun fence stood => sound.replaced fence stood⟩, ready, rfl⟩
    · refine shaped.carry rises later rfl rfl rfl rfl rfl ready bounded.revision shaped.authorityEpoch shaped.sessionEpoch now
        shaped.identity shaped.highest ?_ (by rintro _ ⟨⟩)
      rintro observation ⟨⟩
      refine ⟨shape, same, observedAt, ?_⟩
      intro head seen
      cases unseen.symm.trans seen
    · cases prior.activeFence <;> simp [readinessShape]
    · intro fence stood
      simp [show prior.activeFence = some fence from stood]
  | @settled head identity seen above isShown old unfenced =>
    obtain ⟨revision, authority, session, bootstrap, latest⟩ := decided_fields (headed prior o nowMs head) head
    have base := headed_shaped sound ready shape same now observedAt later seen above
      ⟨revision ▸ bounded.revision, authority ▸ bounded.authorityEpoch, session ▸ bounded.sessionEpoch⟩
    refine ⟨decided_sound base ready shape seen isShown rfl ?_ unfenced rfl (headed_head (heads head seen)).2, ?_, latest⟩
    · simp [headed, isShown]
    · exact bootstrap.trans ready
  | @recovered head anchor identity fence seen above isShown stood anchored standing matched unchanged =>
    obtain ⟨revision, authority, session, bootstrap, latest⟩ := decided_fields
      { headed prior o nowMs head with lastClosedFence := some fence, activeFence := none } head
    have base := headed_shaped sound ready shape same now observedAt later seen above
      ⟨revision ▸ bounded.revision, authority ▸ bounded.authorityEpoch, session ▸ bounded.sessionEpoch⟩
    have closed : Shaped { headed prior o nowMs head with lastClosedFence := some fence, activeFence := none } := by
      refine base.refine ready base.historical base.accepted (by rintro _ ⟨⟩) ?_ base.validUntil
      rintro other ⟨⟩
      exact base.active fence stood
    refine ⟨decided_sound closed ready shape seen isShown rfl ?_ rfl rfl (by simp [observedBlock, headed]), ?_, latest⟩
    · simp [headed, isShown]
    · exact bootstrap.trans ready
  | @fenced head fence seen above standing =>
    have base := headed_shaped sound ready shape same now observedAt later seen above
      ⟨bounded.revision, bounded.authorityEpoch, bounded.sessionEpoch⟩
    obtain ⟨within, replaced⟩ := standing.fenced sound shape seen above observedAt later base hashed
    refine ⟨⟨snapshotShape_iff.mpr ⟨base.refine ready base.historical base.accepted ?_ base.closed base.validUntil, ?_⟩,
      fun _ _ => rfl, ?_⟩, ready, rfl⟩
    · rintro other ⟨⟩
      exact within
    · simp [readinessShape, headed]
    · rintro other ⟨⟩
      exact replaced

theorem Reconciled.sound {prior : Option WalletAuthoritySnapshot} (reconciled : Reconciled rules accountId o nowMs prior next)
    (named : account accountId = true) (shape : observationShape o = true) (same : o.accountId = accountId)
    (now : positiveTime nowMs = true) (observedAt : o.observedAtMs ≤ nowMs) (hashed : rules.observationDigest o ≠ 0)
    (before : ∀ v, prior = some v → Sound v ∧ v.accountId = accountId ∧ v.updatedAtMs ≤ nowMs) (bounded : Bounded next) :
    Sound next ∧ next.bootstrapRequired = false ∧ next.latestObservation = some o := by
  cases reconciled with
  | @bootstrapped _ head identity unready seen isShown matched first =>
    obtain ⟨heads, identities, times⟩ := observed_shapes shape
    obtain ⟨validUntilMs, isValid, _⟩ := matched_valid shape seen isShown matched
    have wellFormed := heads head seen
    have within := wellFormed
    simp only [wellFormedBlock, and_eq_true, decide_eq_true_eq] at within
    have identified : ∀ other, some identity = some other → identityShape other = true ∧ other.accountId = accountId := by
      rintro other ⟨⟩
      exact ⟨(identities identity isShown).1, (identities identity isShown).2.trans same⟩
    refine ⟨⟨snapshotShape_iff.mpr ⟨⟨named, bounded.revision, epochShape_of (Nat.le_add_left 1 _) bounded.authorityEpoch,
      epochShape_of (Nat.le_add_left 1 _) bounded.sessionEpoch, now, identified, identified, ?_, ?_,
      (by rintro _ ⟨⟩), (by rintro _ ⟨⟩), ?_, times, (by rintro ⟨⟩)⟩, ?_⟩, (by rintro _ ⟨⟩), (by rintro _ ⟨⟩)⟩, rfl, rfl⟩
    · rintro block ⟨⟩
      exact within.1.1
    · rintro anchor ⟨⟩
      exact ⟨wellFormed, by simp [observedBlock]⟩
    · rintro observation ⟨⟩
      refine ⟨shape, same, observedAt, ?_⟩
      intro other isHead
      cases seen.symm.trans isHead
      simp [observedBlock]
    · simp [readinessShape, verifiedShape, isValid, matched, isShown, seen]
  | @observed v next ready observed =>
    obtain ⟨sound, sameAccount, later⟩ := before v rfl
    exact observed.sound sound ready shape (same.trans sameAccount.symm) now observedAt later hashed bounded

theorem unready_untimed (shape : readinessShape v = true) (unready : v.readiness ≠ .verified) :
    v.validUntilMs = none := by
  cases readiness : v.readiness with
  | verified => exact absurd readiness unready
  | changed =>
    simp only [readinessShape, readiness, and_eq_true, Option.isNone_iff_eq_none] at shape
    exact shape.1.1
  | unknown =>
    simp only [readinessShape, readiness, Option.isNone_iff_eq_none] at shape
    exact shape
  | fenced =>
    simp only [readinessShape, readiness, and_eq_true, Option.isNone_iff_eq_none] at shape
    exact shape.1

theorem verified_ready (shape : snapshotShape v = true) (verified : v.readiness = .verified) :
    v.bootstrapRequired = false ∧ v.activeFence = none ∧ v.identity.isSome = true ∧
    v.identity = v.historicalVerifiedIdentity ∧ ∀ row : AuthorityRow,
    row.readyUntilMs = v.validUntilMs → readyCheck row v = true := by
  obtain ⟨shaped, ready⟩ := snapshotShape_iff.mp shape
  simp only [readinessShape, verified, verifiedShape, and_eq_true, Bool.not_eq_true', decide_eq_true_eq,
    Option.isNone_iff_eq_none, Option.any_eq_true] at ready
  obtain ⟨⟨⟨⟨⟨⟨bootstrap, identified⟩, historical⟩, anchored⟩, clear⟩, timed⟩, observation,
    latest, ⟨⟨matched, isIdentity⟩, isHead⟩, isValid⟩ :=
    ready
  refine ⟨bootstrap, clear, identified, historical.symm, ?_⟩
  intro row same
  obtain ⟨anchor, isAnchor⟩ := Option.isSome_iff_exists.mp anchored
  obtain ⟨identity, hasIdentity⟩ := Option.isSome_iff_exists.mp identified
  obtain ⟨validUntilMs, hasValid, after, within, within'⟩ := matched_valid (shaped.latest observation latest).1
    (isHead.trans isAnchor) (isIdentity.trans hasIdentity) matched
  have hasValid' := isValid.symm.trans hasValid
  simp only [readyCheck, latest, isAnchor, same, hasValid', hasValid, isIdentity, isHead, matched, and_eq_true,
    decide_eq_true_eq, true_and]
  unfold headMs at within'
  exact ⟨⟨after, within⟩, by omega⟩

theorem written_check (sound : Sound next) (latest : next.latestObservation = some o) (current : Option AuthorityRow)
    (digest : Word) : snapshotCheck (writtenRow current next digest) = true := by
  obtain ⟨shaped, ready⟩ := snapshotShape_iff.mp sound.shape
  have updatedAt := shaped.updatedAt
  obtain ⟨shape, accountId, observedAt, _⟩ := shaped.latest o latest
  have positive : positiveTime o.observedAtMs = true := by
    simp only [observationShape, and_eq_true] at shape
    exact shape.1.1.1.1.2
  simp only [positiveTime, isSafeInteger, and_eq_true, decide_eq_true_eq] at updatedAt positive
  simp only [snapshotCheck, writtenRow, and_eq_true, decide_eq_true_eq, latest, Option.all_eq_true]
  refine ⟨⟨⟨⟨⟨⟨⟨⟨⟨⟨⟨⟨shaped.octets, trivial⟩, trivial⟩, trivial⟩, trivial⟩, updatedAt.2⟩, updatedAt.1.2⟩, shaped.highest⟩,
    ⟨⟨rfl, decide_eq_true accountId⟩, positive.2⟩, observedAt⟩, ?_⟩,
    fun identity isHistorical => decide_eq_true (shaped.historical identity isHistorical).2⟩, ?_⟩, ?_⟩
  · split
    · rename_i absent
      simp [absent]
    · rename_i identity isIdentity
      simp [isIdentity, (shaped.identity identity isIdentity).2]
  · cases stood : next.activeFence with
    | none => rfl
    | some fence => simp [sound.fenced fence stood]
  · split
    · rename_i verified
      obtain ⟨bootstrap, clear, identified, historical, readied⟩ := verified_ready sound.shape verified
      simp [bootstrap, clear, identified, ← historical, readied]
    · rename_i unready
      simp [unready_untimed ready unready]

theorem retains_of (later : prior.updatedAtMs ≤ next.updatedAtMs)
    (ready : next.bootstrapRequired = false) (rises : Rises prior next)
    (historical : prior.historicalVerifiedIdentity.isNone = true ∨ next.historicalVerifiedIdentity.isSome = true)
    (closed : prior.lastClosedFence.isNone = true ∨ next.lastClosedFence.isSome = true)
    (accepted : prior.acceptedAnchor.isNone = true ∨ next.acceptedAnchor.isSome = true) : retains prior next = true := by
  simp only [retains, and_eq_true, Bool.or_eq_true, Bool.not_eq_true', decide_eq_true_eq, Option.all_eq_true]
  refine ⟨⟨⟨⟨⟨later, Or.inr ready⟩, historical⟩, closed⟩, ?_⟩, accepted⟩
  intro block highest
  obtain ⟨higher, isHigher, above⟩ := rises.highest block highest
  simpa [isHigher] using above

theorem kept_or_absent (value : Option α) : value.isNone = true ∨ value.isSome = true := by
  cases value <;> simp

theorem Observed.kept (observed : Observed rules prior o nowMs next) (ready : next.bootstrapRequired = false)
    (later : prior.updatedAtMs ≤ nowMs) :
    retains prior next = true ∧ latched prior next = true ∧ closesOnce prior next = true := by
  have rises := observed.rises
  cases observed with
  | unseen =>
    refine ⟨retains_of later ready rises (kept_or_absent _) (kept_or_absent _) (kept_or_absent _), ?_, ?_⟩
    · unfold latched
      cases prior.activeFence <;> simp
    · simp [closesOnce]
  | @settled head identity seen above isShown old unfenced =>
    refine ⟨retains_of ?_ ready rises ?_ ?_ ?_, by simp [latched, unfenced], ?_⟩
    · unfold decided
      split <;> exact later
    · unfold decided
      split
      · exact Or.inr (by simp [isShown])
      · exact kept_or_absent _
    · unfold decided
      split <;> exact kept_or_absent _
    · unfold decided
      split <;> exact Or.inr rfl
    · unfold closesOnce decided
      split <;> simp [headed]
  | @recovered head anchor identity fence seen above isShown stood anchored same matched unchanged =>
    have decides (base : WalletAuthoritySnapshot) : decided base o head = { base with
        acceptedAnchor := some head
        readiness := .verified
        validUntilMs := o.validUntilMs
        historicalVerifiedIdentity := o.identity } := if_pos matched
    rw [decides] at ready rises ⊢
    refine ⟨retains_of later ready rises (Or.inr ?_) (Or.inr rfl) (Or.inr rfl), ?_, ?_⟩
    · rw [isShown]
      rfl
    · simp [latched, stood]
    · simp [closesOnce, stood]
  | fenced seen above standing =>
    refine ⟨retains_of later ready rises (kept_or_absent _) (kept_or_absent _) (kept_or_absent _), ?_, ?_⟩
    · cases standing with
      | opened opens =>
        rw [newFence, and_eq_true, Option.isNone_iff_eq_none] at opens
        simp [latched, opens.2]
      | held old stood => simp [latched, stood]
    · simp [closesOnce, headed]

variable {atMs : Int} {state : Option AuthorityRow}

/-- What the reducer makes of a stored row, the trigger lets through as it is. -/
theorem written_transition {digest : Word} (coherent : Coherent old)
    (reconciled : Reconciled rules accountId o nowMs (some (snapshotOf old)) next) (shape : snapshotShape (snapshotOf old) = true)
    (named : old.accountId = accountId) (ready : next.bootstrapRequired = false) (later : (snapshotOf old).updatedAtMs ≤ nowMs)
    (fresh : old.observationDigest ≠ some digest) :
    authorityTransition old (writtenRow (some old) next digest) atMs = some (writtenRow (some old) next digest) := by
  have rises := reconciled.rises rfl shape
  have authority := rises.authorityEpoch
  have session := rises.sessionEpoch
  rw [coherent.authorityEpoch] at authority
  rw [coherent.sessionEpoch] at session
  have facts : next.accountId = old.accountId ∧ next.revision = old.revision + 1 ∧
      (unbootstrapped old = true → next.authorityEpoch = old.authorityEpoch + 1 ∧ next.sessionEpoch = old.sessionEpoch + 1) ∧
      old.snapshot.all (retains · next) = true ∧
      old.snapshot.all (fun prior => latched prior next && closesOnce prior next) = true := by
    cases reconciled with
    | bootstrapped unready =>
      have bare := unready _ rfl
      refine ⟨named.symm, ?_, ?_, ?_, ?_⟩
      · exact congrArg (· + 1) coherent.revision
      · exact fun _ => ⟨congrArg (· + 1) coherent.authorityEpoch, congrArg (· + 1) coherent.sessionEpoch⟩
      all_goals
        cases observed : old.snapshot with
        | none => rfl
        | some v =>
          rw [show snapshotOf old = v by simp [snapshotOf, observed]] at bare shape later
          obtain ⟨shaped, _⟩ := snapshotShape_iff.mp shape
          obtain ⟨_, _, historical, accepted, highest, active, closed⟩ := shaped.bare bare
          simp [retains, latched, closesOnce, highest, active, closed, later]
    | @observed _ _ started observed =>
      have sameAccount : next.accountId = (snapshotOf old).accountId := by
        cases observed with
        | settled | recovered => unfold decided; split <;> rfl
        | _ => rfl
      have revision : next.revision = (snapshotOf old).revision + 1 := by
        cases observed with
        | settled | recovered => unfold decided; split <;> rfl
        | _ => rfl
      obtain ⟨v, stored⟩ : ∃ v, old.snapshot = some v := by
        cases observed' : old.snapshot with
        | none => rw [snapshotOf_unobserved observed'] at started; cases started
        | some v => exact ⟨v, rfl⟩
      have held : snapshotOf old = v := by simp [snapshotOf, stored]
      obtain ⟨retained, latches, closes⟩ := observed.kept ready later
      rw [held] at retained latches closes started
      refine ⟨sameAccount.trans coherent.accountId, revision.trans (congrArg (· + 1) coherent.revision), ?_, ?_, ?_⟩
      · intro bare
        rw [unbootstrapped, stored, Option.all_some, started] at bare
        cases bare
      · rw [stored, Option.all_some, retained]
      · rw [stored, Option.all_some, latches, closes]
        rfl
  obtain ⟨sameAccount, revision, first, retained, kept⟩ := facts
  have other : (writtenRow (some old) next digest).snapshot ≠ old.snapshot := by
    intro same
    have held : snapshotOf old = next := by simp [snapshotOf, ← same, writtenRow]
    have := coherent.revision
    rw [held] at this
    omega
  unfold authorityTransition
  rw [guard_bind_run ⟨sameAccount, authority, session, le_max_left _ _⟩]
  dsimp only
  rw [if_neg other]
  change (guard _ >>= _ : Option AuthorityRow) = _
  rw [guard_bind_run ⟨revision, fun same => fresh same.symm⟩, guard_bind_run retained, guard_bind_run ?_, guard_bind_run kept]
  · rfl
  · intro bare
    rw [and_eq_true] at bare
    exact first bare.1

/-- What the methods of the store make of an account's row: a reconciliation inserts it or updates
it, a logout and an advance of the epochs update the epochs only. -/
inductive StoreStep (rules : Rules) : Option AuthorityRow → Option AuthorityRow → Prop where
  | inserted {context : WalletAuthorityContext} {o : WalletAuthorityObservation} {nowMs : Int}
      {candidate : WalletAuthoritySnapshot} (captured : context.prior = none)
      (reconciled : reconcileWalletAuthority rules context o nowMs = .ok candidate)
      (checked : columnCheck (writtenRow none candidate (rules.observationDigest o)) = true ∧
        snapshotCheck (writtenRow none candidate (rules.observationDigest o)) = true) :
      StoreStep rules none (some (writtenRow none candidate (rules.observationDigest o)))
  | updated {old new : AuthorityRow} {context : WalletAuthorityContext} {o : WalletAuthorityObservation} {nowMs atMs : Int}
      {candidate : WalletAuthoritySnapshot} (captured : context.prior = some (snapshotOf old))
      (reconciled : reconcileWalletAuthority rules context o nowMs = .ok candidate)
      (fresh : old.observationDigest ≠ some (rules.observationDigest o))
      (stored : updateRow old (writtenRow (some old) candidate (rules.observationDigest o)) atMs = some new) :
      StoreStep rules (some old) (some new)
  | advanced {old new : AuthorityRow} {authorityEpoch : Nat} {seconds atMs : Int}
      (authority : authorityEpoch = old.authorityEpoch ∨ authorityEpoch = old.authorityEpoch + 1)
      (clock : positiveTime atMs = true)
      (stored : updateRow old (advancedRow old authorityEpoch (old.sessionEpoch + 1) seconds) atMs = some new) :
      StoreStep rules (some old) (some new)

abbrev StoreRuns (rules : Rules) := Relation.ReflTransGen (StoreStep rules)

def EpochOnly (state : Option AuthorityRow) : Prop :=
  ∀ row, state = some row → row.snapshot = none ∧ account row.accountId = true ∧ columnCheck row = true ∧ snapshotCheck row = true

/-- What every stored row keeps. -/
structure Kept (row : AuthorityRow) : Prop where
  coherent : Coherent row
  sound : Sound (snapshotOf row)
  account : account row.accountId = true
  columns : columnCheck row = true
  check : snapshotCheck row = true
  ready : ∀ v, row.snapshot = some v → v.bootstrapRequired = false

theorem updateRow_some {updated : AuthorityRow} (stored : updateRow old updated atMs = some new) :
    authorityTransition old updated atMs = some new ∧ columnCheck new = true ∧ snapshotCheck new = true := by
  obtain ⟨row, transitioned, rest⟩ := some_bind stored
  obtain ⟨checked, rest⟩ := guard_bind_some rest
  cases rest
  rw [and_eq_true] at checked
  exact ⟨transitioned, checked⟩

theorem unobserved_sound (unobserved : row.snapshot = none) (named : account row.accountId = true)
    (columns : columnCheck row = true) : Sound (snapshotOf row) := by
  simp only [columnCheck, and_eq_true, decide_eq_true_eq] at columns
  obtain ⟨⟨⟨⟨⟨authority, session⟩, revision⟩, positive⟩, within⟩, _⟩ := columns
  have time : positiveTime (row.updatedAt * 1000) = true := by
    simp only [positiveTime, isSafeInteger, and_eq_true, decide_eq_true_eq]
    unfold maxSafeInteger
    omega
  rw [snapshotOf_unobserved unobserved]
  exact ⟨snapshotShape_iff.mpr ⟨⟨named, revision, authority, session, time, none_some, none_some, none_some, none_some, none_some,
    none_some, none_some, none_some, fun _ => ⟨rfl, rfl, rfl, rfl, rfl, rfl, rfl⟩⟩, rfl⟩, none_some, none_some⟩

theorem rewritten_sound (kept : Kept old) (authority : old.authorityEpoch ≤ new.authorityEpoch)
    (session : old.sessionEpoch ≤ new.sessionEpoch) (sameAccount : new.accountId = old.accountId)
    (named : columnCheck (rewrittenRow old new nowMs) = true) (clock : positiveTime nowMs = true) :
    Sound (snapshotOf (rewrittenRow old new nowMs)) := by
  have advances : Advances (snapshotOf old) (snapshotOf (rewrittenRow old new nowMs)) :=
    rewritten_advances kept.coherent authority session
  cases observed : old.snapshot with
  | none =>
    refine unobserved_sound (by simp [rewrittenRow, observed]) ?_ named
    exact (congrArg account sameAccount).trans kept.account
  | some v =>
    have held : snapshotOf old = v := by simp [snapshotOf, observed]
    have rewritten : snapshotOf (rewrittenRow old new nowMs) = rewrittenSnapshot old new nowMs v := by
      simp [snapshotOf, rewrittenRow, observed]
    have sound := kept.sound
    rw [held] at sound advances
    rw [rewritten] at advances ⊢
    obtain ⟨shaped, ready⟩ := snapshotShape_iff.mp sound.shape
    simp only [columnCheck, rewrittenRow, and_eq_true, decide_eq_true_eq] at named
    obtain ⟨⟨⟨⟨⟨authorityShape, sessionShape⟩, revision⟩, _⟩, _⟩, _⟩ := named
    have later : v.updatedAtMs ≤ max v.updatedAtMs nowMs := le_max_left _ _
    have time : positiveTime (max v.updatedAtMs nowMs) = true := by
      rcases le_total v.updatedAtMs nowMs with before | after
      · rw [max_eq_right before]
        exact clock
      · rw [max_eq_left after]
        exact shaped.updatedAt
    have latest : ∀ observation, v.latestObservation = some observation → observationShape observation = true ∧
        observation.accountId = v.accountId ∧ observation.observedAtMs ≤ max v.updatedAtMs nowMs ∧
        ∀ head, observation.head = some head → observedBlock v head = true := by
      intro observation isLatest
      obtain ⟨shape, accountId, observedAt, seen⟩ := shaped.latest observation isLatest
      exact ⟨shape, accountId, observedAt.trans later, seen⟩
    have rises := advances.rises
    unfold rewrittenSnapshot at rises ⊢
    split
    · rename_i moved
      rw [if_pos moved] at rises
      refine ⟨snapshotShape_iff.mpr ⟨shaped.carry rises later rfl rfl rfl rfl rfl (kept.ready v observed) revision authorityShape
        sessionShape time shaped.identity shaped.highest latest (by rintro _ ⟨⟩), ?_⟩,
          ?_, fun fence stood => sound.replaced fence stood⟩
      · cases v.activeFence <;> simp [readinessShape]
      · intro fence stood
        simp [show v.activeFence = some fence from stood]
    · rename_i still
      rw [if_neg still] at rises
      exact ⟨snapshotShape_iff.mpr ⟨shaped.carry rises later rfl rfl rfl rfl rfl (kept.ready v observed) revision authorityShape
        sessionShape time shaped.identity shaped.highest latest shaped.validUntil, ready⟩, sound.fenced, sound.replaced⟩

theorem rewritten_check (kept : Kept old) (sound : Sound (snapshotOf (rewrittenRow old new nowMs)))
    (sameAccount : new.accountId = old.accountId) (evidence : sameEvidence old new = true) :
    snapshotCheck (rewrittenRow old new nowMs) = true := by
  have check := kept.check
  simp only [sameEvidence, and_eq_true, decide_eq_true_eq] at evidence
  obtain ⟨⟨⟨⟨_, sameDigest⟩, sameReady⟩, sameBinding⟩, sameAuthorization⟩ := evidence
  cases observed : old.snapshot with
  | none =>
    simp only [snapshotCheck, observed] at check
    simpa [snapshotCheck, rewrittenRow, observed, sameDigest, sameReady, sameBinding, sameAuthorization] using check
  | some v =>
    have rewritten : snapshotOf (rewrittenRow old new nowMs) = rewrittenSnapshot old new nowMs v := by
      simp [snapshotOf, rewrittenRow, observed]
    rw [rewritten] at sound
    obtain ⟨shaped, ready⟩ := snapshotShape_iff.mp sound.shape
    have updatedAt := shaped.updatedAt
    simp only [positiveTime, isSafeInteger, and_eq_true, decide_eq_true_eq] at updatedAt
    have octets := shaped.octets
    simp only [snapshotCheck, observed, and_eq_true, decide_eq_true_eq] at check
    obtain ⟨⟨⟨⟨⟨⟨⟨⟨⟨⟨⟨⟨_, account⟩, _⟩, _⟩, _⟩, _⟩, _⟩, highest⟩, latest⟩, identity⟩, historical⟩, active⟩, verified⟩ := check
    have later : v.updatedAtMs ≤ max v.updatedAtMs nowMs := le_max_left _ _
    have latest' : v.latestObservation.elim old.observationDigest.isNone (fun observation =>
        old.observationDigest.isSome && decide (observation.accountId = old.accountId) &&
          decide (1 ≤ observation.observedAtMs) && decide (observation.observedAtMs ≤ max v.updatedAtMs nowMs)) = true := by
      cases isLatest : v.latestObservation with
      | none => simpa [isLatest] using latest
      | some observation =>
        simp only [isLatest, Option.elim_some, and_eq_true, decide_eq_true_eq] at latest ⊢
        exact ⟨latest.1, latest.2.trans later⟩
    by_cases moved : new.authorityEpoch = old.authorityEpoch
    · have still : rewrittenSnapshot old new nowMs v = { v with
          revision := old.revision + 1
          authorityEpoch := new.authorityEpoch
          sessionEpoch := new.sessionEpoch
          updatedAtMs := max v.updatedAtMs nowMs } := if_neg (not_not.mpr moved)
      rw [still] at octets updatedAt
      simp only [snapshotCheck, rewrittenRow, observed, Option.map_some, still, and_eq_true, decide_eq_true_eq, moved, ne_eq,
        not_true_eq_false, decide_false, Bool.false_and, Bool.false_eq_true, if_false, sameAccount, sameDigest, sameReady,
        sameBinding, sameAuthorization]
      rw [moved] at octets
      refine ⟨⟨⟨⟨⟨⟨⟨⟨⟨⟨⟨⟨octets, account⟩, trivial⟩, trivial⟩, trivial⟩, updatedAt.2⟩, updatedAt.1.2⟩, highest⟩, ?_⟩, identity⟩,
        historical⟩, active⟩, verified⟩
      cases isLatest : v.latestObservation <;> simpa [isLatest] using latest'
    · have unready : rewrittenSnapshot old new nowMs v = { v with
          revision := old.revision + 1
          authorityEpoch := new.authorityEpoch
          sessionEpoch := new.sessionEpoch
          updatedAtMs := max v.updatedAtMs nowMs
          readiness := if v.activeFence.isNone then .unknown else .fenced
          validUntilMs := none } := if_pos moved
      rw [unready] at octets updatedAt
      simp only [snapshotCheck, rewrittenRow, observed, Option.map_some, unready, and_eq_true, decide_eq_true_eq, moved, ne_eq,
        not_false_eq_true, decide_true, Option.isSome_some, Bool.and_self, if_true, sameAccount, sameDigest, sameBinding,
        sameAuthorization]
      refine ⟨⟨⟨⟨⟨⟨⟨⟨⟨⟨⟨⟨octets, account⟩, trivial⟩, trivial⟩, trivial⟩, updatedAt.2⟩, updatedAt.1.2⟩, highest⟩, ?_⟩, identity⟩,
        historical⟩, ?_⟩, ?_⟩
      · cases isLatest : v.latestObservation <;> simpa [isLatest] using latest'
      · cases v.activeFence <;> simp
      · cases v.activeFence <;> simp

theorem bounded_of_shape (shape : snapshotShape v = true) : Bounded v := by
  obtain ⟨shaped, _⟩ := snapshotShape_iff.mp shape
  have authority := shaped.authorityEpoch
  have session := shaped.sessionEpoch
  simp only [epochShape, and_eq_true, decide_eq_true_eq] at authority session
  exact ⟨shaped.revision, authority.2, session.2⟩

theorem captured_sound (kept : ∀ row, state = some row → Kept row)
    (captured : context.prior = state.map snapshotOf) (isPrior : context.prior = some prior) :
    ∃ row, state = some row ∧ Kept row ∧ snapshotOf row = prior := by
  obtain ⟨row, isRow, same⟩ := Option.map_eq_some_iff.mp (captured.symm.trans isPrior)
  exact ⟨row, isRow, kept row isRow, same⟩

theorem contextShape_account (valid : contextShape rules context = true) : account context.accountId = true := by
  simp only [contextShape, and_eq_true] at valid
  exact valid.1.1.1.1

theorem made_sound (hashed : rules.observationDigest o ≠ 0)
    (kept : ∀ row, state = some row → Kept row) (captured : context.prior = state.map snapshotOf)
    (admitted : Admitted rules context o nowMs) (made : Reconciled rules context.accountId o nowMs context.prior next)
    (bounded : Bounded next) : Sound next ∧ next.bootstrapRequired = false ∧ next.latestObservation = some o := by
  refine made.sound (contextShape_account admitted.valid) admitted.shape admitted.accountId admitted.now admitted.observedAt
    hashed ?_ bounded
  intro v isPrior
  obtain ⟨row, _, holds, rfl⟩ := captured_sound kept captured isPrior
  exact ⟨holds.sound, (admitted.priorShape isPrior).2, admitted.updated _ isPrior⟩

theorem reconcile_cases {observation : WalletAuthorityObservation} (valid : contextShape rules context = true)
    (validated : validateWalletAuthorityObservation rules observation context = .ok o) (clock : positiveTime nowMs = true) :
    reconcileWalletAuthority rules context observation nowMs = .error conflict ∨
    reconcileWalletAuthority rules context observation nowMs = .error expired ∨
    (Admitted rules context o nowMs ∧ ∃ next, candidate rules context o nowMs = .ok next ∧
      reconcileWalletAuthority rules context observation nowMs = validateWalletAuthoritySnapshot next) := by
  obtain ⟨_, shape, accountId, _, expected⟩ := observation_ok validated
  have steps (result : Except RestError WalletAuthoritySnapshot)
      (rest : (refuse (nowMs < o.observedAtMs || context.prior.any (fun prior => nowMs < prior.updatedAtMs ||
        o.observedAtMs < prior.latestObservation.elim 0 (·.observedAtMs))) conflict >>= fun _ =>
        refuse (outlived o nowMs) expired >>= fun _ => candidate rules context o nowMs >>=
          validateWalletAuthoritySnapshot) = result) :
      reconcileWalletAuthority rules context observation nowMs = result := by
    refine bind_run (refuse_ok.mpr (by rw [valid]; rfl)) (bind_run validated ?_)
    exact bind_run (refuse_ok.mpr (by rw [clock]; rfl)) rest
  cases ordered : (nowMs < o.observedAtMs || context.prior.any (fun prior => nowMs < prior.updatedAtMs ||
      o.observedAtMs < prior.latestObservation.elim 0 (·.observedAtMs)) : Bool) with
  | true => exact Or.inl (steps _ (by rw [ordered]; rfl))
  | false =>
    cases timely : outlived o nowMs with
    | true => exact Or.inr (Or.inl (steps _ (by rw [ordered, timely]; rfl)))
    | false =>
      cases computed : candidate rules context o nowMs with
      | error error =>
        cases candidate_error shape computed
        exact Or.inl (steps _ (by rw [ordered, timely, computed]; rfl))
      | ok next =>
        refine Or.inr (Or.inr ⟨⟨valid, shape, accountId, expected, clock, ?_, ?_, timely⟩, next, rfl, ?_⟩)
        · rw [Bool.or_eq_false_iff, decide_eq_false_iff_not] at ordered
          exact Int.not_lt.mp ordered.1
        · intro prior isPrior
          rw [isPrior, Option.any_some, Bool.or_eq_false_iff, Bool.or_eq_false_iff, decide_eq_false_iff_not,
            decide_eq_false_iff_not] at ordered
          exact Int.not_lt.mp ordered.2.1
        · exact steps _ (by rw [ordered, timely, computed]; rfl)

theorem validateSnapshot_ok (shape : snapshotShape v = true) :
    validateWalletAuthoritySnapshot v = .ok v :=
  bind_run (refuse_ok.mpr (by rw [shape]; rfl)) rfl

theorem written_kept {current : Option AuthorityRow} {digest : Word} (sound : Sound next) (ready : next.bootstrapRequired = false)
    (latest : next.latestObservation = some o) (columns : columnCheck (writtenRow current next digest) = true) :
    Kept (writtenRow current next digest) where
  coherent := .written (verified_unfenced sound.shape) current digest
  sound := sound
  account := (snapshotShape_iff.mp sound.shape).1.account
  columns := columns
  check := written_check sound latest current digest
  ready := by
    rintro v ⟨⟩
    exact ready

/-- What the store wrote is what it computed. -/
theorem updated_written (kept : Kept old) (hashed : rules.observationDigest o ≠ 0)
    (captured : context.prior = some (snapshotOf old)) (admitted : Admitted rules context o nowMs)
    (made : Reconciled rules context.accountId o nowMs context.prior next) (bounded : Bounded next)
    (fresh : old.observationDigest ≠ some (rules.observationDigest o)) :
    authorityTransition old (writtenRow (some old) next (rules.observationDigest o)) atMs =
      some (writtenRow (some old) next (rules.observationDigest o)) := by
  have holds : ∀ row, some old = some row → Kept row := by
    rintro row ⟨⟩
    exact kept
  obtain ⟨sound, ready, _⟩ := made_sound hashed holds captured admitted made bounded
  rw [captured] at made
  have shape := (admitted.priorShape captured).1
  exact written_transition kept.coherent made shape (kept.coherent.accountId.symm.trans (admitted.priorShape captured).2) ready
    (admitted.updated _ captured) fresh

theorem rewritten_kept (kept : Kept old) (authority : old.authorityEpoch ≤ new.authorityEpoch)
    (session : old.sessionEpoch ≤ new.sessionEpoch) (sameAccount : new.accountId = old.accountId)
    (columns : columnCheck (rewrittenRow old new atMs) = true) (check : snapshotCheck (rewrittenRow old new atMs) = true)
    (clock : positiveTime atMs = true) : Kept (rewrittenRow old new atMs) where
  coherent := rewritten_coherent kept.coherent (rewritten_advances kept.coherent authority session) sameAccount
  sound := rewritten_sound kept authority session sameAccount columns clock
  account := (congrArg JBCenter.Wallet.account sameAccount).trans kept.account
  columns := columns
  check := check
  ready := by
    intro v isSnapshot
    obtain ⟨before, observed, rfl⟩ := Option.map_eq_some_iff.mp isSnapshot
    have ready := kept.ready before observed
    unfold rewrittenSnapshot
    split <;> exact ready

theorem StoreStep.kept {before after : Option AuthorityRow} (hashed : ∀ o, rules.observationDigest o ≠ 0)
    (kept : ∀ row, before = some row → Kept row) (taken : StoreStep rules before after) :
    ∀ row, after = some row → Kept row := by
  cases taken with
  | @inserted context o nowMs candidate captured reconciled checked =>
    rintro row ⟨⟩
    obtain ⟨admitted, made, shape⟩ := reconcile_ok reconciled
    obtain ⟨sound, ready, latest⟩ := made_sound (hashed o) kept captured admitted made (bounded_of_shape shape)
    exact written_kept sound ready latest checked.1
  | @updated old new context o nowMs atMs candidate captured reconciled fresh stored =>
    rintro row ⟨⟩
    obtain ⟨admitted, made, shape⟩ := reconcile_ok reconciled
    obtain ⟨transitioned, columns, _⟩ := updateRow_some stored
    have bounded := bounded_of_shape shape
    obtain ⟨sound, ready, latest⟩ := made_sound (hashed o) kept captured admitted made bounded
    cases (updated_written (kept old rfl) (hashed o) captured admitted made bounded fresh).symm.trans transitioned
    exact written_kept sound ready latest columns
  | @advanced old new authorityEpoch seconds atMs _ clock stored =>
    rintro row ⟨⟩
    obtain ⟨transitioned, columns, check⟩ := updateRow_some stored
    obtain ⟨authority, session, ⟨_, rfl⟩ | ⟨_, still, _⟩⟩ := transition_advanced transitioned
    · exact rewritten_kept (kept old rfl) authority session rfl columns check clock
    · exact absurd still (Nat.succ_ne_self _)

theorem kept_runs {start : Option AuthorityRow} (hashed : ∀ o, rules.observationDigest o ≠ 0) (began : EpochOnly start)
    (reached : StoreRuns rules start state) : ∀ row, state = some row → Kept row := by
  induction reached with
  | refl =>
    intro row isRow
    obtain ⟨unobserved, named, columns, check⟩ := began row isRow
    exact ⟨.unobserved unobserved, unobserved_sound unobserved named columns, named, columns, check, by simp [unobserved]⟩
  | tail _ taken ih => exact taken.kept hashed ih

/-- Reducer, validator and database agree. Whatever valid observation and clock meet a stored row,
the reducer refuses it as a conflict or as expired, or its result passes the validator, meets the
constraint and is let through by the trigger; and an update of the epochs leaves a row that passes
the validator and meets the constraint. -/
theorem reducer_validator_and_database_agree {rules : Rules} {start state : Option AuthorityRow}
    (hashed : ∀ o, rules.observationDigest o ≠ 0) (began : EpochOnly start) (reached : StoreRuns rules start state) :
    (∀ (context : WalletAuthorityContext) (o : WalletAuthorityObservation) (nowMs : Int),
      context.prior = state.map snapshotOf → contextShape rules context = true →
      validateWalletAuthorityObservation rules o context = .ok o → positiveTime nowMs = true →
      reconcileWalletAuthority rules context o nowMs = .error conflict ∨
      reconcileWalletAuthority rules context o nowMs = .error expired ∨
      ∃ next, reconcileWalletAuthority rules context o nowMs = .ok next ∧
        validateWalletAuthoritySnapshot next = .ok next ∧
        snapshotCheck (writtenRow state next (rules.observationDigest o)) = true ∧
        ∀ old atMs, state = some old → old.observationDigest ≠ some (rules.observationDigest o) →
          authorityTransition old (writtenRow state next (rules.observationDigest o)) atMs =
            some (writtenRow state next (rules.observationDigest o))) ∧
    (∀ (old new : AuthorityRow) (authorityEpoch sessionEpoch : Nat) (seconds atMs : Int), state = some old →
      authorityTransition old (advancedRow old authorityEpoch sessionEpoch seconds) atMs = some new →
      columnCheck new = true → positiveTime atMs = true →
      validateWalletAuthoritySnapshot (snapshotOf new) = .ok (snapshotOf new) ∧ snapshotCheck new = true) := by
  have kept := kept_runs hashed began reached
  refine ⟨?_, ?_⟩
  · intro context o nowMs captured valid validated clock
    obtain conflicts | expires | ⟨admitted, next, computed, result⟩ := reconcile_cases valid validated clock
    · exact Or.inl conflicts
    · exact Or.inr (Or.inl expires)
    · have made := candidate_ok admitted.shape computed
      have bounded : Bounded next := by
        refine candidate_bounded computed ?_
        intro v isPrior
        obtain ⟨row, _, holds, rfl⟩ := captured_sound kept captured isPrior
        exact bounded_of_shape holds.sound.shape
      obtain ⟨sound, ready, latest⟩ := made_sound (hashed o) kept captured admitted made bounded
      have validates := validateSnapshot_ok sound.shape
      refine Or.inr (Or.inr ⟨next, result.trans validates, validates, written_check sound latest _ _, ?_⟩)
      rintro old atMs rfl fresh
      exact updated_written (kept old rfl) (hashed o) captured admitted made bounded fresh
  · rintro old new authorityEpoch sessionEpoch seconds atMs rfl transitioned columns clock
    have holds := kept old rfl
    obtain ⟨authority, session, ⟨_, rfl⟩ | ⟨rfl, rfl, rfl⟩⟩ := transition_advanced transitioned
    · have sound : Sound (snapshotOf (rewrittenRow old (advancedRow old authorityEpoch sessionEpoch seconds) atMs)) :=
        rewritten_sound holds authority session rfl columns clock
      refine ⟨validateSnapshot_ok sound.shape, rewritten_check holds sound rfl ?_⟩
      simp [sameEvidence, advancedRow]
    · refine ⟨validateSnapshot_ok ?_, holds.check⟩
      cases observed : old.snapshot with
      | none =>
        have unobserved : (advancedRow old old.authorityEpoch old.sessionEpoch seconds).snapshot = none := observed
        exact (unobserved_sound unobserved holds.account columns).shape
      | some v =>
        have shape := holds.sound.shape
        rw [show snapshotOf old = v by simp [snapshotOf, observed]] at shape
        rwa [show snapshotOf (advancedRow old old.authorityEpoch old.sessionEpoch seconds) = v by
          simp [snapshotOf, advancedRow, observed]]

theorem sample_hashed (o : WalletAuthorityObservation) : sampleRules.observationDigest o ≠ 0 := by
  intro zero
  have odd := congrArg (·.getLsbD 0) zero
  simp [sampleRules] at odd

theorem sample_admitted : contextShape sampleRules (sampleContext none) = true ∧
    validateWalletAuthorityObservation sampleRules sampleBootstrap (sampleContext none) = .ok sampleBootstrap ∧
    columnCheck sampleRow = true ∧ columnCheck sampleLoggedOut = true := by decide +kernel

/-- The row of an account that logs out is one the validator admits. -/
theorem reducer_validator_and_database_agree_sample :
    validateWalletAuthoritySnapshot (snapshotOf sampleLoggedOut) = .ok (snapshotOf sampleLoggedOut) ∧
    snapshotCheck sampleLoggedOut = true := by
  obtain ⟨valid, validated, columns, columns'⟩ := sample_admitted
  have nothing : EpochOnly none := none_some
  have inserted : snapshotCheck sampleRow = true := by
    obtain conflicts | expires | ⟨next, ran, _, check, _⟩ := (reducer_validator_and_database_agree sample_hashed nothing .refl).1
      (sampleContext none) sampleBootstrap 1022000 rfl valid validated rfl
    · cases sample_steps.1.symm.trans conflicts
    · cases sample_steps.1.symm.trans expires
    · cases sample_steps.1.symm.trans ran
      exact check
  have reached : StoreRuns sampleRules none (some sampleRow) :=
    .single (.inserted rfl sample_steps.1 ⟨columns, inserted⟩)
  exact (reducer_validator_and_database_agree sample_hashed nothing reached).2 _ _ 1 2 1030 1030000 rfl
    sample_steps.2.1 columns' rfl

end JBCenter.Wallet
