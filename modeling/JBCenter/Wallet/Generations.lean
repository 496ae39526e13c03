import Mathlib
import JBCenter.Base.Generations
import JBCenter.Wallet.AuthorityRows

/-! Generations of a wallet's authority. An epoch stands for one identity: it advances when the
identity changes and when the chain drops the block the identity was accepted at, so that an
authority that was verified twice in one epoch was the same all the time between. -/
namespace JBCenter.Wallet
open Rest
open Deployments (Word Address RestBlockEvidence wellFormedBlock isReason maximumQuantity positiveTime)

inductive AuthorityEvent where
  | observed (context : WalletAuthorityContext) (observation : WalletAuthorityObservation) (nowMs : Int)
  | advanced (authorityEpoch sessionEpoch : Nat) (seconds nowMs : Int)

/-- An observation is reconciled with the row it was captured from; an update of the epochs is
what the trigger makes of it. -/
inductive AuthorityStep (rules : Rules) : Option AuthorityRow → AuthorityEvent → Option AuthorityRow → Prop where
  | observed {row : Option AuthorityRow} {context : WalletAuthorityContext} {o : WalletAuthorityObservation} {nowMs : Int}
      {candidate : WalletAuthoritySnapshot} (captured : context.prior = row.map snapshotOf)
      (reconciled : reconcileWalletAuthority rules context o nowMs = .ok candidate) :
      AuthorityStep rules row (.observed context o nowMs) (some (writtenRow row candidate (rules.observationDigest o)))
  | advanced {old new : AuthorityRow} {authorityEpoch sessionEpoch : Nat} {seconds nowMs : Int}
      (updated : authorityTransition old (advancedRow old authorityEpoch sessionEpoch seconds) nowMs = some new) :
      AuthorityStep rules (some old) (.advanced authorityEpoch sessionEpoch seconds nowMs) (some new)

abbrev AuthorityRuns (rules : Rules) := Run (AuthorityStep rules)

def Started (row : Option AuthorityRow) : Prop := ∀ stored, row = some stored → stored.snapshot = none

/-- What an update of the epochs leaves of a snapshot. -/
structure Advances (prior next : WalletAuthoritySnapshot) : Prop where
  authorityEpoch : prior.authorityEpoch ≤ next.authorityEpoch
  sessionEpoch : prior.sessionEpoch ≤ next.sessionEpoch
  revision : prior.revision ≤ next.revision
  identity : next.identity = prior.identity
  highest : next.highestObservedBlock = prior.highestObservedBlock
  fence : next.activeFence = prior.activeFence
  readiness : next.readiness = .verified → prior.readiness = .verified

/-- No generation falls. -/
structure Rises (before after : WalletAuthoritySnapshot) : Prop where
  authorityEpoch : before.authorityEpoch ≤ after.authorityEpoch
  sessionEpoch : before.sessionEpoch ≤ after.sessionEpoch
  revision : before.revision ≤ after.revision
  highest : ∀ block, before.highestObservedBlock = some block →
    ∃ higher, after.highestObservedBlock = some higher ∧ block ≤ higher

/-- A snapshot says what the columns of its row say, and none is verified against a fence. -/
structure Coherent (row : AuthorityRow) : Prop where
  accountId : (snapshotOf row).accountId = row.accountId
  authorityEpoch : (snapshotOf row).authorityEpoch = row.authorityEpoch
  sessionEpoch : (snapshotOf row).sessionEpoch = row.sessionEpoch
  revision : (snapshotOf row).revision = row.revision
  unfenced : (snapshotOf row).readiness = .verified → (snapshotOf row).activeFence = none

variable {rules : Rules} {context : WalletAuthorityContext} {prior next : WalletAuthoritySnapshot} {nowMs : Int}
  {o : WalletAuthorityObservation} {row old new : AuthorityRow} {value : Nat} {event : AuthorityEvent}
  {state after start first second : Option AuthorityRow} {history later : List AuthorityEvent}

@[simp] theorem snapshotOf_writtenRow (current : Option AuthorityRow) (candidate : WalletAuthoritySnapshot) (digest : Word) :
    snapshotOf (writtenRow current candidate digest) = candidate := rfl

theorem snapshotOf_unobserved (unobserved : row.snapshot = none) : snapshotOf row = row.unobserved := by
  simp [snapshotOf, unobserved]

theorem Coherent.unobserved (unobserved : row.snapshot = none) : Coherent row := by
  constructor <;> rw [snapshotOf_unobserved unobserved] <;> first | rfl | exact fun _ => rfl

theorem Coherent.written {candidate : WalletAuthoritySnapshot}
    (unfenced : candidate.readiness = .verified → candidate.activeFence = none) (current : Option AuthorityRow)
    (digest : Word) : Coherent (writtenRow current candidate digest) := ⟨rfl, rfl, rfl, rfl, unfenced⟩

/-- An update that keeps the snapshot coherent with the columns keeps the row coherent. -/
theorem Advances.unfenced (advances : Advances prior next) (unfenced : prior.readiness = .verified → prior.activeFence = none) :
    next.readiness = .verified → next.activeFence = none :=
  fun verified => advances.fence.trans (unfenced (advances.readiness verified))

theorem transition_advanced {authorityEpoch sessionEpoch : Nat} {seconds : Int}
    (updated : authorityTransition old (advancedRow old authorityEpoch sessionEpoch seconds) nowMs = some new) :
    old.authorityEpoch ≤ authorityEpoch ∧ old.sessionEpoch ≤ sessionEpoch ∧
    ((old.revision + 1 ≤ walletAuthorityMaximumEpoch ∧
        new = rewrittenRow old (advancedRow old authorityEpoch sessionEpoch seconds) nowMs) ∨
      authorityEpoch = old.authorityEpoch ∧ sessionEpoch = old.sessionEpoch ∧
        new = advancedRow old authorityEpoch sessionEpoch seconds) := by
  obtain ⟨⟨_, authority, session, _⟩, updated⟩ := guard_bind_some updated
  refine ⟨authority, session, ?_⟩
  dsimp only at updated
  rw [if_pos (show (advancedRow old authorityEpoch sessionEpoch seconds).snapshot = old.snapshot from rfl)] at updated
  obtain ⟨_, updated⟩ := guard_bind_some updated
  split at updated
  · obtain ⟨within, updated⟩ := guard_bind_some updated
    cases updated
    exact Or.inl ⟨within, rfl⟩
  · rename_i unchanged
    cases updated
    rw [not_or, not_not, not_not] at unchanged
    exact Or.inr ⟨unchanged.1, unchanged.2, rfl⟩

theorem rewritten_advances (coherent : Coherent old) (authority : old.authorityEpoch ≤ new.authorityEpoch)
    (session : old.sessionEpoch ≤ new.sessionEpoch) :
    Advances (snapshotOf old) (snapshotOf (rewrittenRow old new nowMs)) := by
  cases observed : old.snapshot with
  | none =>
    have unobserved : (rewrittenRow old new nowMs).snapshot = none := by simp [rewrittenRow, observed]
    rw [snapshotOf_unobserved unobserved, snapshotOf_unobserved observed]
    exact ⟨authority, session, Nat.le_succ _, rfl, rfl, rfl, fun impossible => impossible⟩
  | some v =>
    have held : snapshotOf old = v := by simp [snapshotOf, observed]
    have rewritten : snapshotOf (rewrittenRow old new nowMs) = rewrittenSnapshot old new nowMs v := by
      simp [snapshotOf, rewrittenRow, observed]
    have authorityEpoch := coherent.authorityEpoch
    have sessionEpoch := coherent.sessionEpoch
    have revision := coherent.revision
    rw [held] at authorityEpoch sessionEpoch revision ⊢
    rw [rewritten]
    unfold rewrittenSnapshot
    split
    · constructor
      · exact authorityEpoch.trans_le authority
      · exact sessionEpoch.trans_le session
      · exact revision.trans_le (Nat.le_succ _)
      · rfl
      · rfl
      · rfl
      · intro verified
        cases fenced : v.activeFence <;> simp [fenced] at verified
    · exact ⟨authorityEpoch.trans_le authority, sessionEpoch.trans_le session, revision.trans_le (Nat.le_succ _),
        rfl, rfl, rfl, fun verified => verified⟩

theorem rewritten_coherent (coherent : Coherent old)
    (advances : Advances (snapshotOf old) (snapshotOf (rewrittenRow old new nowMs)))
    (kept : new.accountId = old.accountId) : Coherent (rewrittenRow old new nowMs) := by
  cases observed : old.snapshot with
  | none => exact .unobserved (by simp [rewrittenRow, observed])
  | some v =>
    have rewritten : snapshotOf (rewrittenRow old new nowMs) = rewrittenSnapshot old new nowMs v := by
      simp [snapshotOf, rewrittenRow, observed]
    have accountId := coherent.accountId
    rw [show snapshotOf old = v by simp [snapshotOf, observed]] at accountId
    refine ⟨?_, ?_, ?_, ?_, advances.unfenced coherent.unfenced⟩
    · rw [rewritten]
      unfold rewrittenSnapshot
      split <;> exact accountId.trans kept.symm
    all_goals
      rw [rewritten]
      unfold rewrittenSnapshot
      split <;> rfl

theorem advanced_snapshot (coherent : Coherent old) {authorityEpoch sessionEpoch : Nat} {seconds : Int}
    (updated : authorityTransition old (advancedRow old authorityEpoch sessionEpoch seconds) nowMs = some new) :
    Coherent new ∧ Advances (snapshotOf old) (snapshotOf new) := by
  obtain ⟨authority, session, ⟨_, rfl⟩ | ⟨rfl, rfl, rfl⟩⟩ := transition_advanced updated
  · have advances : Advances (snapshotOf old)
        (snapshotOf (rewrittenRow old (advancedRow old authorityEpoch sessionEpoch seconds) nowMs)) :=
      rewritten_advances coherent authority session
    exact ⟨rewritten_coherent coherent advances rfl, advances⟩
  · cases observed : old.snapshot with
    | none =>
      have unobserved : (advancedRow old old.authorityEpoch old.sessionEpoch seconds).snapshot = none := observed
      refine ⟨.unobserved unobserved, ?_⟩
      rw [snapshotOf_unobserved unobserved, snapshotOf_unobserved observed]
      exact ⟨le_rfl, le_rfl, le_rfl, rfl, rfl, rfl, fun impossible => impossible⟩
    | some v =>
      have same : snapshotOf (advancedRow old old.authorityEpoch old.sessionEpoch seconds) = snapshotOf old := by
        simp [snapshotOf, advancedRow, observed]
      rw [same]
      refine ⟨?_, le_rfl, le_rfl, le_rfl, rfl, rfl, rfl, fun verified => verified⟩
      constructor <;> rw [same]
      · exact coherent.accountId
      · exact coherent.authorityEpoch
      · exact coherent.sessionEpoch
      · exact coherent.revision
      · exact coherent.unfenced

theorem Advances.rises (advances : Advances prior next) : Rises prior next :=
  ⟨advances.authorityEpoch, advances.sessionEpoch, advances.revision,
    fun block highest => ⟨block, advances.highest.trans highest, le_rfl⟩⟩

theorem headed_rises (head : RestBlockEvidence)
    (above : ∀ highest, prior.highestObservedBlock = some highest → highest ≤ head.blockNumber) :
    Rises prior (headed prior o nowMs head) :=
  ⟨le_epochAfter, le_epochAfter, Nat.le_succ _, fun block highest => ⟨head.blockNumber, rfl, above block highest⟩⟩

variable {head : RestBlockEvidence}

theorem decided_rises {base : WalletAuthoritySnapshot} (rises : Rises prior base) :
    Rises prior (decided base o head) := by
  unfold decided
  split
  · exact ⟨rises.authorityEpoch, rises.sessionEpoch, rises.revision, rises.highest⟩
  · exact ⟨rises.authorityEpoch, rises.sessionEpoch, rises.revision, rises.highest⟩

theorem Observed.rises (observed : Observed rules prior o nowMs next) : Rises prior next := by
  cases observed with
  | unseen => exact ⟨le_rfl, le_rfl, Nat.le_succ _, fun block highest => ⟨block, highest, le_rfl⟩⟩
  | settled seen above => exact decided_rises (headed_rises _ above)
  | @recovered head _ _ _ seen above =>
    have rises : Rises prior (headed prior o nowMs head) := headed_rises head above
    exact decided_rises ⟨rises.authorityEpoch, rises.sessionEpoch, rises.revision, rises.highest⟩
  | @fenced head _ seen above =>
    have rises : Rises prior (headed prior o nowMs head) := headed_rises head above
    exact ⟨rises.authorityEpoch, rises.sessionEpoch, rises.revision, rises.highest⟩

theorem Reconciled.rises {accountId : Address} {before : Option WalletAuthoritySnapshot}
    (reconciled : Reconciled rules accountId o nowMs before next) (held : before = some prior)
    (shape : snapshotShape prior = true) : Rises prior next := by
  cases reconciled with
  | bootstrapped unready =>
    subst held
    have bare := shape
    simp only [snapshotShape, unready prior rfl, Bool.and_eq_true, Bool.not_true, Bool.false_or, Option.isNone_iff_eq_none]
      at bare
    refine ⟨Nat.le_succ _, Nat.le_succ _, Nat.le_succ _, ?_⟩
    intro block highest
    cases highest.symm.trans bare.2.1.1.2
  | observed ready observed =>
    cases held
    exact observed.rises

def CoherentState (state : Option AuthorityRow) : Prop := ∀ stored, state = some stored → Coherent stored

def generation (state : Option AuthorityRow) : Nat := state.elim 0 (fun stored => (snapshotOf stored).authorityEpoch)

/-- The identity that stands, with no fence against it. -/
def Unfenced (identity : Option WalletAuthorityIdentity) (state : Option AuthorityRow) : Prop :=
  ∃ stored, state = some stored ∧ (snapshotOf stored).identity = identity ∧ (snapshotOf stored).activeFence = none

def shown : AuthorityEvent → Option (RestBlockEvidence × WalletAuthorityIdentity)
  | .observed _ o _ => o.head.bind (fun head => o.identity.map (head, ·))
  | .advanced .. => none

def lastShown (history : List AuthorityEvent) : Option (RestBlockEvidence × WalletAuthorityIdentity) :=
  (history.filterMap shown).getLast?

theorem started_none : Started none := by
  rintro stored ⟨⟩

theorem Started.coherent (started : Started start) : CoherentState start :=
  fun stored isStart => .unobserved (started stored isStart)

theorem verified_unfenced (shape : snapshotShape next = true) (verified : next.readiness = .verified) :
    next.activeFence = none := by
  simp only [snapshotShape, readinessShape, verified, verifiedShape, Bool.and_eq_true, Option.isNone_iff_eq_none] at shape
  exact shape.1.2.1.1.2

theorem AuthorityStep.coherent (coherent : CoherentState state) (taken : AuthorityStep rules state event after) :
    CoherentState after := by
  intro stored isAfter
  cases taken with
  | observed captured reconciled =>
    cases isAfter
    exact .written (verified_unfenced (reconcile_ok reconciled).2.2) _ _
  | advanced updated =>
    cases isAfter
    exact (advanced_snapshot (coherent _ rfl) updated).1

theorem Admitted.priorShape (admitted : Admitted rules context o nowMs) (isPrior : context.prior = some prior) :
    snapshotShape prior = true ∧ prior.accountId = context.accountId := by
  have valid := admitted.valid
  rw [contextShape, isPrior, Option.all_some] at valid
  simp only [Bool.and_eq_true, decide_eq_true_eq] at valid
  exact valid.2

theorem AuthorityStep.rises (coherent : CoherentState (some old)) (taken : AuthorityStep rules (some old) event after) :
    ∃ stored, after = some stored ∧ Rises (snapshotOf old) (snapshotOf stored) := by
  cases taken with
  | observed captured reconciled =>
    obtain ⟨admitted, made, _⟩ := reconcile_ok reconciled
    exact ⟨_, rfl, made.rises captured (admitted.priorShape captured).1⟩
  | advanced updated => exact ⟨_, rfl, (advanced_snapshot (coherent _ rfl) updated).2.rises⟩

theorem epochAfter_steady (steady : epochAfter prior o value = value) :
    newFence prior o = false ∧ changedIdentity prior o = false := by
  unfold epochAfter at steady
  split at steady
  · omega
  · rename_i still
    rw [Bool.not_eq_true, Bool.or_eq_false_iff] at still
    exact still

@[simp] theorem decided_identity (base : WalletAuthoritySnapshot) (head : RestBlockEvidence) :
    (decided base o head).identity = base.identity := by
  unfold decided
  split <;> rfl

@[simp] theorem decided_activeFence (base : WalletAuthoritySnapshot) (head : RestBlockEvidence) :
    (decided base o head).activeFence = base.activeFence := by
  unfold decided
  split <;> rfl

@[simp] theorem decided_authorityEpoch (base : WalletAuthoritySnapshot) (head : RestBlockEvidence) :
    (decided base o head).authorityEpoch = base.authorityEpoch := by
  unfold decided
  split <;> rfl

theorem Observed.unfenced (observed : Observed rules prior o nowMs next) (unfenced : prior.activeFence = none)
    (steady : next.authorityEpoch = prior.authorityEpoch) : next.identity = prior.identity ∧ next.activeFence = none := by
  cases observed with
  | unseen => exact ⟨rfl, unfenced⟩
  | @settled head identity seen above isShown old _ =>
    rw [decided_authorityEpoch] at steady
    have unchanged : prior.identity = some identity := by
      simpa [changedIdentity, isShown] using (epochAfter_steady steady).2
    refine ⟨?_, by simpa [headed] using unfenced⟩
    rw [decided_identity, headed, isShown]
    exact unchanged.symm
  | recovered _ _ _ stood => cases unfenced.symm.trans stood
  | fenced _ _ standing =>
    cases standing with
    | opened opens => exact absurd opens (by rw [(epochAfter_steady steady).1]; decide)
    | held _ stood => cases unfenced.symm.trans stood

theorem AuthorityStep.unfenced {identity : Option WalletAuthorityIdentity} (coherent : CoherentState state)
    (taken : AuthorityStep rules state event after) (steady : generation after = generation state)
    (unfenced : Unfenced identity state) : Unfenced identity after := by
  obtain ⟨stored, rfl, isIdentity, clear⟩ := unfenced
  cases taken with
  | observed captured reconciled =>
    refine ⟨_, rfl, ?_⟩
    obtain ⟨_, made, _⟩ := reconcile_ok reconciled
    rw [Option.map_some] at captured
    rw [captured] at made
    simp only [generation, Option.elim_some, snapshotOf_writtenRow] at steady
    cases made with
    | bootstrapped => exact absurd steady (Nat.succ_ne_self _)
    | observed _ observed =>
      obtain ⟨same, still⟩ := observed.unfenced clear steady
      exact ⟨same.trans isIdentity, still⟩
  | advanced updated =>
    have advances := (advanced_snapshot (coherent _ rfl) updated).2
    exact ⟨_, rfl, advances.identity.trans isIdentity, advances.fence.trans clear⟩

/-- A fence recovers only where the last identity was seen. -/
def Recoverable (history : List AuthorityEvent) (state : Option AuthorityRow) : Prop :=
  ∀ stored fence anchor, state = some stored → (snapshotOf stored).activeFence = some fence →
    fence.recoveryAnchor = some anchor →
    ∃ identity, (snapshotOf stored).identity = some identity ∧ lastShown history = some (anchor, identity)

theorem lastShown_hidden (hidden : shown event = none) : lastShown (history ++ [event]) = lastShown history := by
  rw [lastShown, filterMap_snoc, hidden, Option.toList_none, List.append_nil, lastShown]

theorem lastShown_shown {seen : RestBlockEvidence × WalletAuthorityIdentity} (isShown : shown event = some seen) :
    lastShown (history ++ [event]) = some seen := by
  rw [lastShown, filterMap_snoc, isShown, Option.toList_some, List.getLast?_append, List.getLast?_singleton]
  rfl

theorem hidden_replaced (shape : observationShape o = true) (seen : o.head = some head)
    (hidden : o.identity = none) : o.priorAnchor.status = .replaced := by
  simp only [observationShape, seen, hidden, Bool.and_eq_true, decide_eq_true_eq] at shape
  exact shape.2.2.1.2

variable {fence : WalletAuthorityFence}

theorem Standing.recoveryAnchor
    (standing : Standing rules prior o head fence) (shape : observationShape o = true) (seen : o.head = some head) :
    fence.recoveryAnchor = o.identity.map (fun _ => head) := by
  cases standing with
  | opened => rfl
  | held old stood =>
    unfold movedAnchor
    dsimp only
    rw [old]
    cases hidden : o.identity with
    | none => simp [hidden_replaced shape seen hidden]
    | some identity => simp

theorem Observed.recoverable
    {anchor : RestBlockEvidence} (observed : Observed rules prior o nowMs next) (shape : observationShape o = true)
    (fenced : next.activeFence = some fence) (anchored : fence.recoveryAnchor = some anchor) :
    (o.head = none ∧ prior.activeFence = some fence ∧ next.identity = prior.identity) ∨
      ∃ identity, o.head = some anchor ∧ o.identity = some identity ∧ next.identity = some identity := by
  cases observed with
  | unseen unseen => exact Or.inl ⟨unseen, fenced, rfl⟩
  | settled _ _ _ _ unfenced =>
    rw [decided_activeFence] at fenced
    cases unfenced.symm.trans fenced
  | recovered =>
    rw [decided_activeFence] at fenced
    cases fenced
  | @fenced head standing' seen _ standing =>
    cases fenced
    rw [standing.recoveryAnchor shape seen] at anchored
    obtain ⟨identity, isShown, rfl⟩ := Option.map_eq_some_iff.mp anchored
    exact Or.inr ⟨identity, seen, isShown, by simp [headed, isShown]⟩

theorem AuthorityStep.recoverable (coherent : CoherentState state) (recoverable : Recoverable history state)
    (taken : AuthorityStep rules state event after) : Recoverable (history ++ [event]) after := by
  intro stored fence anchor isAfter fenced anchored
  cases taken with
  | @observed row context o nowMs candidate captured reconciled =>
    cases isAfter
    obtain ⟨admitted, made, _⟩ := reconcile_ok reconciled
    rw [snapshotOf_writtenRow] at fenced ⊢
    cases priorIs : context.prior with
    | none =>
      rw [priorIs] at made
      cases made
      cases fenced
    | some prior =>
      rw [priorIs] at made
      obtain ⟨held, rfl, rfl⟩ := Option.map_eq_some_iff.mp (captured.symm.trans priorIs)
      cases made with
      | bootstrapped => cases fenced
      | observed _ observed =>
        obtain ⟨unseen, stood, same⟩ | ⟨identity, seen, isShown, isIdentity⟩ :=
          observed.recoverable admitted.shape fenced anchored
        · rw [lastShown_hidden (by simp [shown, unseen]), same]
          exact recoverable held fence anchor rfl stood anchored
        · exact ⟨identity, isIdentity, lastShown_shown (by simp [shown, seen, isShown])⟩
  | advanced updated =>
    cases isAfter
    have advances := (advanced_snapshot (coherent _ rfl) updated).2
    rw [lastShown_hidden rfl, advances.identity]
    exact recoverable _ fence anchor rfl (advances.fence.symm.trans fenced) anchored

def WalletAuthorityFence.episode (fence : WalletAuthorityFence) : WalletAuthorityFence := { fence with recoveryAnchor := none }

/-- A fence is closed by an observation that shows, on a chain that still has the fence's recovery
anchor, the identity that was seen there. -/
def ClosesFence (history : List AuthorityEvent) (fence : WalletAuthorityFence) : AuthorityEvent → Prop
  | .observed _ o _ => ∃ anchor identity, fence.recoveryAnchor = some anchor ∧ o.eligibility = some .matched ∧
      o.priorAnchor = ⟨.same, some anchor, some anchor⟩ ∧ o.identity = some identity ∧
      lastShown history = some (anchor, identity)
  | .advanced .. => False

theorem bootstrap_bare (shape : snapshotShape prior = true) (bootstrap : prior.bootstrapRequired = true) :
    prior.highestObservedBlock = none ∧ prior.activeFence = none := by
  simp only [snapshotShape, bootstrap, Bool.and_eq_true, Bool.not_true, Bool.false_or, Option.isNone_iff_eq_none] at shape
  exact ⟨shape.2.1.1.2, shape.2.1.2⟩

theorem Observed.closes (observed : Observed rules prior o nowMs next)
    (fenced : prior.activeFence = some fence) :
    next.activeFence.map (·.episode) = some fence.episode ∨ (o.priorAnchor.status = .same ∧
      o.eligibility = some .matched ∧ fence.recoveryAnchor.isSome = true ∧
      o.identity.isSome = true ∧ prior.identity = o.identity) := by
  cases observed with
  | unseen => exact Or.inl (by rw [fenced, Option.map_some])
  | settled _ _ _ _ unfenced => cases unfenced.symm.trans fenced
  | recovered _ _ isShown stood anchored same matched unchanged =>
    cases fenced.symm.trans stood
    exact Or.inr ⟨same, matched, by rw [anchored]; rfl, by rw [isShown]; rfl, unchanged.trans isShown.symm⟩
  | fenced _ _ standing =>
    cases standing with
    | opened opens => simp [newFence, fenced] at opens
    | held _ stood =>
      cases fenced.symm.trans stood
      exact Or.inl rfl

theorem same_anchor {anchor : RestBlockEvidence} (shape : observationShape o = true) (same : o.priorAnchor.status = .same)
    (expected : o.priorAnchor.expected = some anchor) : o.priorAnchor = ⟨.same, some anchor, some anchor⟩ := by
  simp only [observationShape, priorAnchorShape, same, Bool.and_eq_true, decide_eq_true_eq] at shape
  have found := shape.1.2.2.2.trans expected
  calc o.priorAnchor = ⟨o.priorAnchor.status, o.priorAnchor.expected, o.priorAnchor.observed⟩ := rfl
    _ = ⟨.same, some anchor, some anchor⟩ := by rw [same, expected, found]

theorem AuthorityStep.closes (coherent : CoherentState (some old))
    (recoverable : Recoverable history (some old)) (taken : AuthorityStep rules (some old) event (some new))
    (fenced : (snapshotOf old).activeFence = some fence) :
    (snapshotOf new).activeFence.map (·.episode) = some fence.episode ∨ ClosesFence history fence event := by
  generalize isAfter : some new = after at taken
  cases taken with
  | @observed _ context o nowMs candidate captured reconciled =>
    cases isAfter
    obtain ⟨admitted, made, _⟩ := reconcile_ok reconciled
    have shape := (admitted.priorShape captured).1
    rw [captured, Option.map_some] at made
    rw [snapshotOf_writtenRow]
    cases made with
    | bootstrapped unready => cases fenced.symm.trans (bootstrap_bare shape (unready _ rfl)).2
    | observed _ observed =>
      obtain kept | ⟨same, matched, anchored, isShown, unchanged⟩ := observed.closes fenced
      · exact Or.inl kept
      · obtain ⟨anchor, anchored⟩ := Option.isSome_iff_exists.mp anchored
        obtain ⟨identity, isIdentity, last⟩ := recoverable old fence anchor rfl fenced anchored
        have expected : o.priorAnchor.expected = some anchor := by
          rw [admitted.expected, walletAuthorityExpectedAnchor, captured]
          simp [fenced, anchored]
        exact Or.inr ⟨anchor, identity, anchored, matched, same_anchor admitted.shape same expected,
          unchanged.symm.trans isIdentity, last⟩
  | advanced updated =>
    cases isAfter
    exact Or.inl (by rw [(advanced_snapshot (coherent _ rfl) updated).2.fence, fenced, Option.map_some])

theorem coherent_runs (started : Started start) (run : AuthorityRuns rules start history state) : CoherentState state :=
  run.state_invariant started.coherent (fun coherent taken => taken.coherent coherent)

theorem recoverable_runs (started : Started start) (run : AuthorityRuns rules start history state) :
    Recoverable history state := by
  refine (Run.invariant (P := fun history state => CoherentState state ∧ Recoverable history state) run
    ⟨started.coherent, ?_⟩ ?_).2
  · intro stored fence anchor isStart fenced
    rw [snapshotOf_unobserved (started stored isStart)] at fenced
    cases fenced
  · rintro history state event next _ ⟨coherent, recoverable⟩ taken
    exact ⟨taken.coherent coherent, taken.recoverable coherent recoverable⟩

theorem rises_runs (coherent : CoherentState (some old)) (run : AuthorityRuns rules (some old) history state) :
    ∃ stored, state = some stored ∧ Rises (snapshotOf old) (snapshotOf stored) := by
  refine (Run.state_invariant (P := fun state => CoherentState state ∧
    ∃ stored, state = some stored ∧ Rises (snapshotOf old) (snapshotOf stored)) run ⟨coherent, old, rfl, ?_⟩ ?_).2
  · exact ⟨le_rfl, le_rfl, le_rfl, fun block highest => ⟨block, highest, le_rfl⟩⟩
  · rintro state event next ⟨holds, stored, rfl, before⟩ taken
    obtain ⟨stored', rfl, rises⟩ := taken.rises holds
    refine ⟨taken.coherent holds, stored', rfl, before.authorityEpoch.trans rises.authorityEpoch,
      before.sessionEpoch.trans rises.sessionEpoch, before.revision.trans rises.revision, ?_⟩
    intro block highest
    obtain ⟨higher, isHigher, below⟩ := before.highest block highest
    obtain ⟨highest', isHighest, above⟩ := rises.highest higher isHigher
    exact ⟨highest', isHighest, below.trans above⟩

theorem generation_rises (coherent : CoherentState state) (taken : AuthorityStep rules state event after) :
    generation state ≤ generation after := by
  cases state with
  | none => exact Nat.zero_le _
  | some stored =>
    obtain ⟨_, rfl, rises⟩ := taken.rises coherent
    exact rises.authorityEpoch

/-- No generation ever falls; two verified snapshots of one epoch show one identity, with no fence
between them; and a fence is closed only at its recovery anchor, by the identity seen there. -/
theorem authority_generations {rules : Rules} {start first middle last : Option AuthorityRow}
    {history earlier later : List AuthorityEvent} (started : Started start) (begun : AuthorityRuns rules start history first)
    (between : AuthorityRuns rules first earlier middle) (ended : AuthorityRuns rules middle later last) :
    (∀ a, first = some a → ∃ b, last = some b ∧ Rises (snapshotOf a) (snapshotOf b)) ∧
    (∀ a b, first = some a → last = some b → (snapshotOf a).readiness = .verified → (snapshotOf b).readiness = .verified →
      (snapshotOf b).authorityEpoch = (snapshotOf a).authorityEpoch →
      (snapshotOf b).identity = (snapshotOf a).identity ∧
      ∃ stored, middle = some stored ∧ (snapshotOf stored).activeFence = none) ∧
    (∀ a b fence event, first = some a → AuthorityStep rules first event (some b) →
      (snapshotOf a).activeFence = some fence →
      (snapshotOf b).activeFence.map (·.episode) = some fence.episode ∨ ClosesFence history fence event) := by
  have coherent := coherent_runs started begun
  refine ⟨?_, ?_, ?_⟩
  · rintro a rfl
    exact rises_runs coherent (between.append ended)
  · rintro a b rfl rfl verified _ same
    have unfenced : Unfenced (snapshotOf a).identity (some a) := ⟨a, rfl, rfl, (coherent a rfl).unfenced verified⟩
    have begins := between.assuming coherent (fun holds taken => taken.coherent holds)
    have ends := ended.assuming (coherent_runs started (begun.append between)) (fun holds taken => taken.coherent holds)
    have still := begins.generation_between ends (fun taken => generation_rises taken.1 taken.2) same
    have kept := begins.steady (fun taken => generation_rises taken.1 taken.2)
      (fun taken steady => taken.2.unfenced taken.1 steady) still unfenced
    obtain ⟨_, isLast, identity, _⟩ := ends.steady (fun taken => generation_rises taken.1 taken.2)
      (fun taken steady => taken.2.unfenced taken.1 steady) (same.trans still.symm) kept
    obtain ⟨stored, isMiddle, _, clear⟩ := kept
    cases isLast
    exact ⟨identity, stored, isMiddle, clear⟩
  · rintro a b fence event rfl taken fenced
    exact taken.closes coherent (recoverable_runs started begun) fenced

/-- An account that is verified, logs out, and is verified again. -/
def sampleRules : Rules where
  lineage _ := true
  payloadDigest _ := 3
  enrollmentDigest _ := 4
  credentialDigest _ _ := 5
  contextDigest context := context.prior.elim 1 (fun prior => BitVec.ofNat 256 (prior.revision + 1))
  observationDigest o := BitVec.ofInt 256 o.observedAtMs ||| 1

def sampleContext (prior : Option WalletAuthoritySnapshot) : WalletAuthorityContext where
  accountId := 2
  enrollment := ⟨"enrollment", "manifest", 6, "creation", 7, "center", "https://center", ""⟩
  credential := ⟨"enrollment", "center", "credential", "user", "key", true, 1, none⟩
  devices := []
  binding := ⟨8, 9, ""⟩
  prior

def sampleIdentity : WalletAuthorityIdentity where
  accountId := 2
  manifestCommitment := 3
  manifestRevision := 6
  enrollmentCommitment := 4
  credentialCommitment := 5
  bindingId := 8
  bindingAuthorizationDigest := 9
  creationCommitment := 3
  initializerHash := 7
  creationTransaction := 10
  stateHash := 11
  sessionAdministration := ⟨0, 12⟩

def sampleHead (blockNumber : Nat) : RestBlockEvidence := ⟨blockNumber, BitVec.ofNat 256 (blockNumber + 1), 1000 + blockNumber⟩

def sampleObservation (contextDigest : Word) (anchor : WalletAuthorityPriorAnchor) (blockNumber : Nat) (atMs : Int) :
    WalletAuthorityObservation where
  accountId := 2
  contextDigest
  observedAtMs := atMs
  validUntilMs := some (atMs + 60000)
  head := some (sampleHead blockNumber)
  priorAnchor := anchor
  identity := some sampleIdentity
  eligibility := some .matched
  reason := none

def sampleBootstrap : WalletAuthorityObservation := sampleObservation 1 ⟨.none, none, none⟩ 20 1021000

def sampleVerified : WalletAuthoritySnapshot where
  accountId := 2
  revision := 1
  authorityEpoch := 1
  sessionEpoch := 1
  bootstrapRequired := false
  readiness := .verified
  identity := some sampleIdentity
  historicalVerifiedIdentity := some sampleIdentity
  acceptedAnchor := some (sampleHead 20)
  highestObservedBlock := some 20
  activeFence := none
  lastClosedFence := none
  latestObservation := some sampleBootstrap
  validUntilMs := some 1081000
  updatedAtMs := 1022000

def sampleRow : AuthorityRow := writtenRow none sampleVerified (sampleRules.observationDigest sampleBootstrap)

def sampleLoggedOut : AuthorityRow := rewrittenRow sampleRow (advancedRow sampleRow 1 2 1030) 1030000

def sampleRenewal : WalletAuthorityObservation :=
  sampleObservation 3 ⟨.same, some (sampleHead 20), some (sampleHead 20)⟩ 30 1031000

def sampleReverified : WalletAuthoritySnapshot := { sampleVerified with
  revision := 3
  sessionEpoch := 2
  acceptedAnchor := some (sampleHead 30)
  highestObservedBlock := some 30
  latestObservation := some sampleRenewal
  validUntilMs := some 1091000
  updatedAtMs := 1032000 }

theorem sample_steps :
    reconcileWalletAuthority sampleRules (sampleContext none) sampleBootstrap 1022000 = .ok sampleVerified ∧
    authorityTransition sampleRow (advancedRow sampleRow 1 2 1030) 1030000 = some sampleLoggedOut ∧
    reconcileWalletAuthority sampleRules (sampleContext (some (snapshotOf sampleLoggedOut))) sampleRenewal 1032000 =
      .ok sampleReverified := by decide +kernel

theorem authority_generations_sample :
    (snapshotOf (writtenRow (some sampleLoggedOut) sampleReverified (sampleRules.observationDigest sampleRenewal))).identity =
      (snapshotOf sampleRow).identity := by
  have begun : AuthorityRuns sampleRules none [.observed (sampleContext none) sampleBootstrap 1022000] (some sampleRow) :=
    Run.nil.snoc (.observed rfl sample_steps.1)
  have between : AuthorityRuns sampleRules (some sampleRow) [.advanced 1 2 1030 1030000] (some sampleLoggedOut) :=
    Run.nil.snoc (.advanced sample_steps.2.1)
  have ended : AuthorityRuns sampleRules (some sampleLoggedOut)
      [.observed (sampleContext (some (snapshotOf sampleLoggedOut))) sampleRenewal 1032000] _ :=
    Run.nil.snoc (.observed rfl sample_steps.2.2)
  exact ((authority_generations started_none begun between ended).2.1 _ _ rfl rfl rfl rfl rfl).1

end JBCenter.Wallet
