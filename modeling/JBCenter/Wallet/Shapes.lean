import JBCenter.Wallet.Generations

/-! What the validator of snapshots asks, field by field, and what carries it from one snapshot to
the next; and that nothing it admits is too large to store. -/
namespace JBCenter.Wallet
open Rest
open Deployments (Word Address RestBlockEvidence wellFormedBlock isReason maximumQuantity positiveTime)
open Bool (and_eq_true)

/-- A fence that was opened by now, and recovers no higher than what was observed. -/
structure Fenced (v : WalletAuthoritySnapshot) (fence : WalletAuthorityFence) : Prop where
  within : fenceWithin v fence = true
  recovery : ∀ anchor, fence.recoveryAnchor = some anchor → observedBlock v anchor = true

/-- The validator, but for what the readiness asks. -/
structure Shaped (v : WalletAuthoritySnapshot) : Prop where
  account : account v.accountId = true
  revision : v.revision ≤ walletAuthorityMaximumEpoch
  authorityEpoch : epochShape v.authorityEpoch = true
  sessionEpoch : epochShape v.sessionEpoch = true
  updatedAt : positiveTime v.updatedAtMs = true
  identity : ∀ identity, v.identity = some identity → identityShape identity = true ∧ identity.accountId = v.accountId
  historical : ∀ identity, v.historicalVerifiedIdentity = some identity →
    identityShape identity = true ∧ identity.accountId = v.accountId
  highest : ∀ block, v.highestObservedBlock = some block → block ≤ maximumQuantity
  accepted : ∀ anchor, v.acceptedAnchor = some anchor → wellFormedBlock anchor = true ∧ observedBlock v anchor = true
  active : ∀ fence, v.activeFence = some fence → Fenced v fence
  closed : ∀ fence, v.lastClosedFence = some fence → Fenced v fence
  latest : ∀ observation, v.latestObservation = some observation → observationShape observation = true ∧
    observation.accountId = v.accountId ∧ observation.observedAtMs ≤ v.updatedAtMs ∧
    ∀ head, observation.head = some head → observedBlock v head = true
  validUntil : ∀ validUntilMs, v.validUntilMs = some validUntilMs → positiveTime validUntilMs = true
  bare : v.bootstrapRequired = true → v.readiness = .unknown ∧ v.identity = none ∧ v.historicalVerifiedIdentity = none ∧
    v.acceptedAnchor = none ∧ v.highestObservedBlock = none ∧ v.activeFence = none ∧ v.lastClosedFence = none

variable {v w : WalletAuthoritySnapshot} {fence : WalletAuthorityFence} {block : RestBlockEvidence}

theorem snapshotShape_iff : snapshotShape v = true ↔ Shaped v ∧ readinessShape v = true := by
  simp only [snapshotShape, and_eq_true, Option.all_eq_true, Bool.or_eq_true, Bool.not_eq_true', decide_eq_true_eq,
    Option.isNone_iff_eq_none, Option.bind_eq_some_iff]
  constructor
  · rintro ⟨⟨⟨⟨⟨⟨⟨⟨⟨⟨⟨⟨⟨⟨⟨⟨⟨account, revision⟩, authorityEpoch⟩, sessionEpoch⟩, updatedAt⟩, identity⟩, historical⟩, highest⟩,
      accepted⟩, active⟩, closed⟩, observed⟩, activeRecovery⟩, closedRecovery⟩, latest⟩, validUntil⟩, readiness⟩, bare⟩
    refine ⟨⟨account, revision, authorityEpoch, sessionEpoch, updatedAt, identity, historical, highest,
      fun anchor isAccepted => ⟨accepted anchor isAccepted, observed anchor isAccepted⟩,
      fun fence isActive => ⟨active fence isActive, fun anchor isAnchor => activeRecovery anchor ⟨fence, isActive, isAnchor⟩⟩,
      fun fence isClosed => ⟨closed fence isClosed, fun anchor isAnchor => closedRecovery anchor ⟨fence, isClosed, isAnchor⟩⟩,
      ?_, validUntil, ?_⟩, readiness⟩
    · intro observation isLatest
      obtain ⟨⟨⟨shape, accountId⟩, observedAt⟩, seen⟩ := latest observation isLatest
      exact ⟨shape, accountId, observedAt, seen⟩
    · intro bootstrap
      obtain impossible | ⟨⟨⟨⟨⟨⟨unknown, identity⟩, historical⟩, accepted⟩, highest⟩, active⟩, closed⟩ := bare
      · exact absurd (bootstrap.symm.trans impossible) (by decide)
      · exact ⟨unknown, identity, historical, accepted, highest, active, closed⟩
  · rintro ⟨shaped, readiness⟩
    refine ⟨⟨⟨⟨⟨⟨⟨⟨⟨⟨⟨⟨⟨⟨⟨⟨⟨shaped.account, shaped.revision⟩, shaped.authorityEpoch⟩, shaped.sessionEpoch⟩, shaped.updatedAt⟩,
      shaped.identity⟩, shaped.historical⟩, shaped.highest⟩, fun anchor isAccepted => (shaped.accepted anchor isAccepted).1⟩,
      fun fence isActive => (shaped.active fence isActive).within⟩, fun fence isClosed => (shaped.closed fence isClosed).within⟩,
      fun anchor isAccepted => (shaped.accepted anchor isAccepted).2⟩, ?_⟩, ?_⟩, ?_⟩, shaped.validUntil⟩, readiness⟩, ?_⟩
    · rintro anchor ⟨fence, isActive, isAnchor⟩
      exact (shaped.active fence isActive).recovery anchor isAnchor
    · rintro anchor ⟨fence, isClosed, isAnchor⟩
      exact (shaped.closed fence isClosed).recovery anchor isAnchor
    · intro observation isLatest
      obtain ⟨shape, accountId, observedAt, seen⟩ := shaped.latest observation isLatest
      exact ⟨⟨⟨shape, accountId⟩, observedAt⟩, seen⟩
    · cases bootstrap : v.bootstrapRequired with
      | false => exact Or.inl rfl
      | true =>
        obtain ⟨unknown, identity, historical, accepted, highest, active, closed⟩ := shaped.bare bootstrap
        exact Or.inr ⟨⟨⟨⟨⟨⟨unknown, identity⟩, historical⟩, accepted⟩, highest⟩, active⟩, closed⟩

theorem observedBlock_mono (rises : Rises v w) (observed : observedBlock v block = true) : observedBlock w block = true := by
  rw [observedBlock, Option.any_eq_true] at observed
  obtain ⟨highest, isHighest, below⟩ := observed
  obtain ⟨higher, isHigher, above⟩ := rises.highest highest isHighest
  rw [observedBlock, isHigher, Option.any_some, decide_eq_true_eq]
  exact (of_decide_eq_true below).trans above

theorem Fenced.mono (fenced : Fenced v fence) (rises : Rises v w) (later : v.updatedAtMs ≤ w.updatedAtMs) : Fenced w fence := by
  have within := fenced.within
  simp only [fenceWithin, and_eq_true, decide_eq_true_eq] at within
  obtain ⟨⟨⟨shape, authority⟩, session⟩, opened⟩ := within
  refine ⟨?_, fun anchor isAnchor => observedBlock_mono rises (fenced.recovery anchor isAnchor)⟩
  simp only [fenceWithin, and_eq_true, decide_eq_true_eq]
  exact ⟨⟨⟨shape, authority.trans rises.authorityEpoch⟩, session.trans rises.sessionEpoch⟩, opened.trans later⟩

theorem Shaped.carry (shaped : Shaped v) (rises : Rises v w) (later : v.updatedAtMs ≤ w.updatedAtMs)
    (sameAccount : w.accountId = v.accountId) (sameHistorical : w.historicalVerifiedIdentity = v.historicalVerifiedIdentity)
    (sameAccepted : w.acceptedAnchor = v.acceptedAnchor) (sameActive : w.activeFence = v.activeFence)
    (sameClosed : w.lastClosedFence = v.lastClosedFence) (ready : w.bootstrapRequired = false)
    (revision : w.revision ≤ walletAuthorityMaximumEpoch) (authorityEpoch : epochShape w.authorityEpoch = true)
    (sessionEpoch : epochShape w.sessionEpoch = true) (updatedAt : positiveTime w.updatedAtMs = true)
    (identity : ∀ identity, w.identity = some identity → identityShape identity = true ∧ identity.accountId = w.accountId)
    (highest : ∀ block, w.highestObservedBlock = some block → block ≤ maximumQuantity)
    (latest : ∀ observation, w.latestObservation = some observation → observationShape observation = true ∧
      observation.accountId = w.accountId ∧ observation.observedAtMs ≤ w.updatedAtMs ∧
      ∀ head, observation.head = some head → observedBlock w head = true)
    (validUntil : ∀ validUntilMs, w.validUntilMs = some validUntilMs → positiveTime validUntilMs = true) : Shaped w where
  account := sameAccount ▸ shaped.account
  revision := revision
  authorityEpoch := authorityEpoch
  sessionEpoch := sessionEpoch
  updatedAt := updatedAt
  identity := identity
  historical := by
    rw [sameHistorical, sameAccount]
    exact shaped.historical
  highest := highest
  accepted := by
    intro anchor isAccepted
    obtain ⟨wellFormed, observed⟩ := shaped.accepted anchor (sameAccepted ▸ isAccepted)
    exact ⟨wellFormed, observedBlock_mono rises observed⟩
  active fence isActive := (shaped.active fence (sameActive ▸ isActive)).mono rises later
  closed fence isClosed := (shaped.closed fence (sameClosed ▸ isClosed)).mono rises later
  latest := latest
  validUntil := validUntil
  bare bootstrap := absurd (bootstrap.symm.trans ready) (by decide)

theorem decimalOctets_le {value bound digits : Nat} (within : value ≤ bound) (fits : bound < 10 ^ (digits + 1)) :
    decimalOctets value ≤ digits + 1 := by
  unfold decimalOctets
  rcases Nat.eq_zero_or_pos value with rfl | positive
  · simp
  · have := Nat.log_lt_of_lt_pow positive.ne' (within.trans_lt fits)
    omega

theorem quantityOctets_le {value : Nat} (within : value ≤ maximumQuantity) : quantityOctets value ≤ 80 := by
  have := decimalOctets_le within (show maximumQuantity < 10 ^ (77 + 1) by decide)
  unfold quantityOctets textOctets
  omega

theorem epochOctets_le {value : Nat} (within : value ≤ walletAuthorityMaximumEpoch) : quantityOctets value ≤ 80 :=
  quantityOctets_le (within.trans (by decide))

theorem clockOctets_le {value : Int} (positive : positiveTime value = true) : clockOctets value ≤ 16 := by
  simp only [positiveTime, isSafeInteger, and_eq_true, decide_eq_true_eq] at positive
  obtain ⟨⟨_, above⟩, _⟩ := positive
  unfold maxSafeInteger at above
  exact decimalOctets_le (show value.natAbs ≤ 9007199254740991 by omega) (by decide)

theorem nullable_le {octets : α → Nat} {bound : Nat} {value : Option α} (room : 4 ≤ bound)
    (within : ∀ some', value = some some' → octets some' ≤ bound) : nullable octets value ≤ bound := by
  cases value with
  | none => exact room
  | some inner => exact within inner rfl

theorem objectOctets_nil : objectOctets [] = 0 := rfl

theorem objectOctets_cons (key : String) (octets : Nat) (rest : List (String × Nat)) :
    objectOctets ((key, octets) :: rest) = key.length + 6 + octets + objectOctets rest := by
  simp only [objectOctets, List.map_cons, List.sum_cons, List.length_cons]
  omega

theorem blockOctets_le (shape : wellFormedBlock block = true) : blockOctets block ≤ 400 := by
  simp only [wellFormedBlock, and_eq_true, decide_eq_true_eq] at shape
  have number := quantityOctets_le shape.1.1
  have timestamp := quantityOctets_le shape.1.2
  simp +arith only [blockOctets, objectOctets_cons, objectOctets_nil, wordOctets, textOctets, ← String.length_toList,
    String.reduceToList, List.length_cons, List.length_nil, Nat.reduceAdd]
  omega

theorem identityOctets_le {identity : WalletAuthorityIdentity} (shape : identityShape identity = true) :
    identityOctets identity ≤ 1600 := by
  simp only [identityShape, and_eq_true, decide_eq_true_eq] at shape
  have epoch := quantityOctets_le shape.1.2
  simp +arith only [identityOctets, objectOctets_cons, objectOctets_nil, wordOctets,
    accountOctets, textOctets, ← String.length_toList,
    String.reduceToList, List.length_cons, List.length_nil, Nat.reduceAdd]
  omega

theorem fenceOctets_le (shape : fenceShape fence = true) : fenceOctets fence ≤ 1800 := by
  simp only [fenceShape, epochShape, and_eq_true, decide_eq_true_eq, Option.all_eq_true] at shape
  obtain ⟨⟨⟨⟨⟨⟨⟨⟨_, _, authority⟩, _, session⟩, opened⟩, abandoned⟩, replacement⟩, _⟩, _⟩, recovery⟩ := shape
  have := clockOctets_le opened
  have := epochOctets_le session
  have := epochOctets_le authority
  have := blockOctets_le abandoned
  have := blockOctets_le replacement
  have : nullable blockOctets fence.recoveryAnchor ≤ 400 :=
    nullable_le (by decide) (fun anchor isAnchor => blockOctets_le (recovery anchor isAnchor).1)
  simp +arith only [fenceOctets, objectOctets_cons, objectOctets_nil, wordOctets, textOctets, ← String.length_toList,
    String.reduceToList, List.length_cons, List.length_nil, Nat.reduceAdd]
  omega

theorem priorAnchorOctets_le {p : WalletAuthorityPriorAnchor} (shape : priorAnchorShape p = true) :
    priorAnchorOctets p ≤ 900 := by
  simp only [priorAnchorShape, and_eq_true, Option.all_eq_true] at shape
  have : nullable blockOctets p.expected ≤ 400 :=
    nullable_le (by decide) (fun anchor isAnchor => blockOctets_le (shape.1.1 anchor isAnchor))
  have : nullable blockOctets p.observed ≤ 400 :=
    nullable_le (by decide) (fun anchor isAnchor => blockOctets_le (shape.1.2 anchor isAnchor))
  have : anchorStatusOctets p.status ≤ 13 := by cases p.status <;> decide
  simp +arith only [priorAnchorOctets, objectOctets_cons, objectOctets_nil, ← String.length_toList,
    String.reduceToList, List.length_cons, List.length_nil, Nat.reduceAdd]
  omega

theorem observed_shapes {o : WalletAuthorityObservation} (shape : observationShape o = true) :
    (∀ head, o.head = some head → wellFormedBlock head = true) ∧
    (∀ identity, o.identity = some identity → identityShape identity = true ∧ identity.accountId = o.accountId) ∧
    (∀ validUntilMs, o.validUntilMs = some validUntilMs → positiveTime validUntilMs = true) := by
  simp only [observationShape, and_eq_true] at shape
  obtain ⟨_, shape⟩ := shape
  cases seen : o.head with
  | none =>
    simp only [seen, and_eq_true, Option.isNone_iff_eq_none] at shape
    obtain ⟨⟨⟨⟨hidden, _⟩, open'⟩, _⟩, _⟩ := shape
    simp [hidden, open']
  | some head =>
    simp only [seen, headShape, and_eq_true] at shape
    obtain ⟨⟨⟨⟨⟨wellFormed, _⟩, _⟩, _⟩, _⟩, shape⟩ := shape
    cases isShown : o.identity with
    | none =>
      simp only [isShown, and_eq_true, Option.isNone_iff_eq_none] at shape
      simp [shape.1.1.2, wellFormed]
    | some identity =>
      simp only [isShown, eligibilityShape, and_eq_true, decide_eq_true_eq] at shape
      obtain ⟨identified, eligible⟩ := shape
      refine ⟨by simpa using wellFormed, by simpa using identified, ?_⟩
      intro validUntilMs isValid
      rw [isValid] at eligible
      split at eligible
      · cases eligible
      · simp at eligible
      · simp only [and_eq_true] at eligible
        exact eligible.2.1.1.1

theorem observationOctets_le {o : WalletAuthorityObservation} (shape : observationShape o = true) :
    observationOctets o ≤ 4000 := by
  obtain ⟨heads, identities, times⟩ := observed_shapes shape
  simp only [observationShape, and_eq_true, Option.all_eq_true] at shape
  obtain ⟨⟨⟨⟨⟨_, observedAt⟩, _⟩, reasons⟩, anchor⟩, _⟩ := shape
  have := clockOctets_le observedAt
  have := priorAnchorOctets_le anchor
  have : nullable blockOctets o.head ≤ 400 := nullable_le (by decide) (fun head isHead => blockOctets_le (heads head isHead))
  have : nullable identityOctets o.identity ≤ 1600 :=
    nullable_le (by decide) (fun identity isShown => identityOctets_le (identities identity isShown).1)
  have : nullable clockOctets o.validUntilMs ≤ 16 :=
    nullable_le (by decide) (fun time isTime => clockOctets_le (times time isTime))
  have : nullable (fun reason => textOctets reason.length) o.reason ≤ 130 := by
    refine nullable_le (by decide) ?_
    intro reason isReason
    have short := reasons reason isReason
    simp only [Deployments.isReason, and_eq_true, decide_eq_true_eq] at short
    exact Nat.add_le_add_right short.1 2
  have : nullable (fun _ => textOctets 7) o.eligibility ≤ 9 := nullable_le (by decide) (fun _ _ => le_rfl)
  simp +arith only [observationOctets, objectOctets_cons, objectOctets_nil, wordOctets, accountOctets, textOctets,
    ← String.length_toList, String.reduceToList, List.length_cons, List.length_nil, Nat.reduceAdd] at *
  omega

theorem Shaped.octets (shaped : Shaped v) : snapshotOctets v ≤ 32768 := by
  have := clockOctets_le shaped.updatedAt
  have := epochOctets_le shaped.revision
  have authorityEpoch := shaped.authorityEpoch
  have sessionEpoch := shaped.sessionEpoch
  simp only [epochShape, and_eq_true, decide_eq_true_eq] at authorityEpoch sessionEpoch
  have := epochOctets_le authorityEpoch.2
  have := epochOctets_le sessionEpoch.2
  have fences (fence : WalletAuthorityFence) (fenced : Fenced v fence) : fenceOctets fence ≤ 1800 := by
    have within := fenced.within
    simp only [fenceWithin, and_eq_true] at within
    exact fenceOctets_le within.1.1.1
  have : nullable identityOctets v.identity ≤ 1600 :=
    nullable_le (by decide) (fun identity isIdentity => identityOctets_le (shaped.identity identity isIdentity).1)
  have : nullable identityOctets v.historicalVerifiedIdentity ≤ 1600 :=
    nullable_le (by decide) (fun identity isIdentity => identityOctets_le (shaped.historical identity isIdentity).1)
  have : nullable blockOctets v.acceptedAnchor ≤ 400 :=
    nullable_le (by decide) (fun anchor isAnchor => blockOctets_le (shaped.accepted anchor isAnchor).1)
  have : nullable fenceOctets v.activeFence ≤ 1800 :=
    nullable_le (by decide) (fun fence isActive => fences fence (shaped.active fence isActive))
  have : nullable fenceOctets v.lastClosedFence ≤ 1800 :=
    nullable_le (by decide) (fun fence isClosed => fences fence (shaped.closed fence isClosed))
  have : nullable observationOctets v.latestObservation ≤ 4000 :=
    nullable_le (by decide) (fun observation isLatest => observationOctets_le (shaped.latest observation isLatest).1)
  have : nullable quantityOctets v.highestObservedBlock ≤ 80 :=
    nullable_le (by decide) (fun block isHighest => quantityOctets_le (shaped.highest block isHighest))
  have : nullable clockOctets v.validUntilMs ≤ 16 :=
    nullable_le (by decide) (fun time isTime => clockOctets_le (shaped.validUntil time isTime))
  have : readinessOctets v.readiness ≤ 10 := by cases v.readiness <;> decide
  have : (if v.bootstrapRequired then 4 else 5) ≤ 5 := by split <;> decide
  simp +arith only [snapshotOctets, objectOctets_cons, objectOctets_nil, accountOctets, textOctets, ← String.length_toList,
    String.reduceToList, List.length_cons, List.length_nil, Nat.reduceAdd]
  omega

end JBCenter.Wallet
