import JBCenter.Transactions.Documents

/-! What one operation of the store can do, and that a refused one does nothing. Every
result about runs of the store is derived from `perform_ok` and `perform_atomic`. -/
namespace JBCenter.Transactions
open Rest Fallible
variable {bytes : JsonBytes} {id : String}

/-- The submission an operation claims, if it is one. -/
def Op.submission : Op → Option (SubmissionClaim × Nat)
  | .claimSubmission claim waited _ => some (claim, waited)
  | _ => none

/-- No stored plan is too large to read back. -/
def Memory.Bounded (bytes : JsonBytes) (s : Memory) : Prop :=
  ∀ id plan, s.plans.get id = some plan → bytes.plan plan ≤ maximumPlanBytes

/-- What an operation other than a claim may leave of the plan it names. -/
def Next (bytes : JsonBytes) (s : Memory) (id : String) (current after : StoredPlan) : Prop :=
  after = current ∨ Rewrites bytes (s.transports.reservation id) current after

inductive Effect (bytes : JsonBytes) (s : Memory) : Op → Outcome → Memory → Prop where
  | created (plan : StoredPlan) (new : NewPlan bytes plan) (absent : s.plans.get plan.id = none) :
    Effect bytes s (.create plan claim now authority) (.plan plan)
      { s with plans := s.plans.set plan.id plan, idempotency := bindings }
  | rewritten (id : String) (other : op.submission = none) (found : s.plans.get id = some current)
      (next : Next bytes s id current after)
      (saved : ∀ actor key expected steps, op = .save actor key expected steps →
        key = id ∧ current.revision = expected ∧
          after = { current with revision := current.revision + 1, steps }) :
    Effect bytes s op (.plan after) { s with plans := s.plans.set id after }
  | claimed (claim : SubmissionClaim) (found : s.plans.get claim.planId = some current)
      (prepared : prepareClaim bytes current (claim.after waited) = .ok result)
      (free : ∀ held, s.nonces.get (nonceKey claim.attempt) = some held →
        held = ⟨claim.planId, claim.stepIndex⟩)
      (reserved : (Transports.claim claim.planId [claim.stepIndex] .direct
        (toLowerCase claim.attempt.hash)).run s.transports = .ok () transports) :
    Effect bytes s (.claimSubmission claim waited authority) (.claimed result.plan result.dispatch)
      { plans := result.stored s.plans claim.planId
        idempotency := bindings
        nonces := s.nonces.set (nonceKey claim.attempt) ⟨claim.planId, claim.stepIndex⟩
        transports }
  | reserved (reserved : (Transports.claim planId stepIndexes transport bindingId).run s.transports =
        .ok () transports) :
    Effect bytes s (.transportClaim planId stepIndexes transport bindingId) .reserved { s with transports }

variable {s t : Memory}

theorem require_ok (required : s.require actor id = .ok plan) : s.plans.get id = some plan := by
  unfold Memory.require at required
  iterate 2 obtain ⟨_, _, required⟩ := ok_bind required
  split at required
  · cases required
  · rename_i found
    split at required
    · cases required
      exact found
    · cases required

theorem reserveIdempotency_ok
    (reserved : (reserveIdempotency actor claim planId stepIndex).run s = .ok result t) :
    ∃ bindings, t = { s with idempotency := bindings } := by
  unfold reserveIdempotency at reserved
  obtain ⟨_, _, read, reserved⟩ := bind_ok reserved
  cases read
  split at reserved
  · cases reserved
    exact ⟨s.idempotency, rfl⟩
  · obtain ⟨_, _, reserved⟩ := check_bind_ok reserved
    cases reserved
    exact ⟨_, rfl⟩

/-- An operation that answers with a stored plan and leaves it alone. -/
theorem Effect.unchanged (other : op.submission = none)
    (unsaved : ∀ actor key expected steps, op ≠ .save actor key expected steps)
    (found : s.plans.get id = some plan) : Effect bytes s op (.plan plan) s := by
  have effect : Effect bytes s op (.plan plan) { s with plans := s.plans.set id plan } :=
    .rewritten id other found (Or.inl rfl) (fun actor key expected steps same =>
      False.elim (unsaved actor key expected steps same))
  rwa [OrderedMap.set_get found] at effect

theorem create_ok (created : (create bytes input claim now authority).run s = .ok plan t) :
    Effect bytes s (.create input claim now authority) (.plan plan) t := by
  unfold create at created
  obtain ⟨_, new, created⟩ := check_bind_ok created
  obtain ⟨_, _, created⟩ := check_bind_ok created
  obtain ⟨_, cloned, created⟩ := check_bind_ok created
  obtain ⟨rfl, _⟩ := boundedClone_ok cloned
  obtain ⟨_, _, created⟩ := check_bind_ok created
  obtain ⟨_, _, read, created⟩ := bind_ok created
  cases read
  obtain ⟨_, _, created⟩ := check_bind_ok created
  split at created
  · obtain ⟨stored, required, created⟩ := check_bind_ok created
    obtain ⟨cloned, rfl⟩ := check_ok created
    obtain ⟨rfl, _⟩ := boundedClone_ok cloned
    exact .unchanged rfl (by simp) (require_ok required)
  · obtain ⟨_, absent, created⟩ := check_bind_ok created
    obtain ⟨_, _, created⟩ := check_bind_ok created
    obtain ⟨_, _, reserved, created⟩ := bind_ok created
    obtain ⟨bindings, rfl⟩ := reserveIdempotency_ok reserved
    obtain ⟨_, _, written, created⟩ := bind_ok created
    cases written
    obtain ⟨cloned, rfl⟩ := check_ok created
    obtain ⟨rfl, _⟩ := boundedClone_ok cloned
    exact .created _ (assertNewPlan_ok new) (OrderedMap.not_has_iff.mp (refuse_ok.mp absent))

theorem claimSubmission_ok
    (claimed : (claimSubmission bytes claim waited authority).run s = .ok (plan, dispatch) t) :
    Effect bytes s (.claimSubmission claim waited authority) (.claimed plan dispatch) t := by
  unfold claimSubmission at claimed
  iterate 2 obtain ⟨_, _, claimed⟩ := check_bind_ok claimed
  obtain ⟨_, cloned, claimed⟩ := check_bind_ok claimed
  obtain ⟨rfl, _⟩ := boundedClone_ok cloned
  obtain ⟨_, _, claimed⟩ := check_bind_ok claimed
  obtain ⟨_, _, read, claimed⟩ := bind_ok claimed
  cases read
  obtain ⟨current, required, claimed⟩ := check_bind_ok claimed
  obtain ⟨_, _, claimed⟩ := check_bind_ok claimed
  obtain ⟨result, prepared, claimed⟩ := check_bind_ok claimed
  obtain ⟨_, free, claimed⟩ := check_bind_ok claimed
  obtain ⟨_, _, claimed⟩ := check_bind_ok claimed
  obtain ⟨_, _, zoomed, claimed⟩ := bind_ok claimed
  obtain ⟨transports, reserved, rfl⟩ := zoom_ok zoomed
  obtain ⟨_, _, bound, claimed⟩ := bind_ok claimed
  obtain ⟨bindings, rfl⟩ := reserveIdempotency_ok bound
  iterate 2
    obtain ⟨_, _, written, claimed⟩ := bind_ok claimed
    cases written
  obtain ⟨_, cloned, claimed⟩ := check_bind_ok claimed
  obtain ⟨rfl, _⟩ := boundedClone_ok cloned
  cases claimed
  refine .claimed _ (require_ok required) prepared ?_ reserved
  intro held found
  simpa [found] using refuse_ok.mp free

theorem save_ok (saved : (save bytes actor id expected steps).run s = .ok plan t) :
    Effect bytes s (.save actor id expected steps) (.plan plan) t := by
  unfold save at saved
  obtain ⟨_, _, saved⟩ := check_bind_ok saved
  obtain ⟨_, _, read, saved⟩ := bind_ok saved
  cases read
  obtain ⟨current, required, saved⟩ := check_bind_ok saved
  obtain ⟨_, revision, saved⟩ := check_bind_ok saved
  obtain ⟨_, checked, saved⟩ := check_bind_ok saved
  obtain ⟨_, cloned, saved⟩ := check_bind_ok saved
  obtain ⟨rfl, small⟩ := boundedClone_ok cloned
  obtain ⟨_, _, written, saved⟩ := bind_ok saved
  cases written
  obtain ⟨cloned, rfl⟩ := check_ok saved
  obtain ⟨rfl, _⟩ := boundedClone_ok cloned
  have kept : Pointwise (Evolved (s.transports.reservation id)) current.steps steps :=
    (assertSavedSteps_ok checked).mono (fun _ _ _ => Or.inl)
  refine .rewritten id rfl (require_ok required) (Or.inr ⟨rfl, small, kept⟩) ?_
  intro _ _ _ _ same
  cases same
  exact ⟨rfl, by simpa using refuse_ok.mp revision, rfl⟩

/-- Writing only a moved revision is writing always: an unmoved plan is the stored one. -/
theorem storeChanged_ok (found : s.plans.get id = some current)
    (next : Next bytes s id current after)
    (stored : (storeChanged bytes id current after).run s = .ok plan t) :
    plan = after ∧ t = { s with plans := s.plans.set id after } := by
  unfold storeChanged at stored
  obtain ⟨_, _, written, stored⟩ := bind_ok stored
  cases written
  obtain ⟨cloned, rfl⟩ := check_ok stored
  obtain ⟨rfl, _⟩ := boundedClone_ok cloned
  refine ⟨rfl, ?_⟩
  rcases next with rfl | rewritten
  · simp [OrderedMap.set_get found]
  · have moved : after.revision ≠ current.revision := by
      have advanced := rewritten.revision
      omega
    simp only [if_pos moved]

theorem attachClaimed_next
    (claimed : s.transports.assertClaimed id indexes transport bindingId = .ok ())
    (attached : attachExternalExecutions bytes current
      (indexes.map fun index => ⟨index, transport, bindingId⟩) = .ok after) :
    Next bytes s id current after := by
  refine attachExternalExecutions_ok ?_ attached
  intro binding member
  obtain ⟨index, listed, rfl⟩ := List.mem_map.mp member
  exact Transports.assertClaimed_ok claimed index listed

theorem reserveExternalExecution_ok
    (ran : (reserveExternalExecution bytes actor id indexes bindingId).run s = .ok plan t) :
    Effect bytes s (.reserveExternalExecution actor id indexes bindingId) (.plan plan) t := by
  unfold reserveExternalExecution at ran
  obtain ⟨_, _, read, ran⟩ := bind_ok ran
  cases read
  obtain ⟨current, required, ran⟩ := check_bind_ok ran
  obtain ⟨_, _, ran⟩ := check_bind_ok ran
  obtain ⟨_, claimed, ran⟩ := check_bind_ok ran
  obtain ⟨after, attached, ran⟩ := check_bind_ok ran
  have found := require_ok required
  have next := attachClaimed_next claimed attached
  obtain ⟨rfl, rfl⟩ := storeChanged_ok found next ran
  exact .rewritten id rfl found next (by simp)

theorem saveExternalExecution_ok
    (ran : (saveExternalExecution bytes actor id expected bindingId updates).run s = .ok plan t) :
    Effect bytes s (.saveExternalExecution actor id expected bindingId updates) (.plan plan) t := by
  unfold saveExternalExecution at ran
  obtain ⟨_, _, ran⟩ := check_bind_ok ran
  obtain ⟨_, _, read, ran⟩ := bind_ok ran
  cases read
  obtain ⟨current, required, ran⟩ := check_bind_ok ran
  obtain ⟨_, _, ran⟩ := check_bind_ok ran
  obtain ⟨after, applied, ran⟩ := check_bind_ok ran
  obtain ⟨_, _, ran⟩ := check_bind_ok ran
  have found := require_ok required
  have next : Next bytes s id current after := applyExternalObservations_ok applied
  obtain ⟨rfl, rfl⟩ := storeChanged_ok found next ran
  exact .rewritten id rfl found next (by simp)

theorem syncExternalExecutions_ok
    (ran : (syncExternalExecutions bytes actor id).run s = .ok plan t) :
    Effect bytes s (.syncExternalExecutions actor id) (.plan plan) t := by
  unfold syncExternalExecutions at ran
  iterate 2 obtain ⟨_, _, ran⟩ := check_bind_ok ran
  obtain ⟨_, _, read, ran⟩ := bind_ok ran
  cases read
  split at ran
  · cases ran
  · rename_i current found
    split at ran
    · cases ran
    · obtain ⟨bindings, listed, ran⟩ := check_bind_ok ran
      obtain ⟨after, attached, ran⟩ := check_bind_ok ran
      have next : Next bytes s id current after :=
        attachExternalExecutions_ok (Transports.list_ok listed) attached
      obtain ⟨rfl, rfl⟩ := storeChanged_ok found next ran
      exact .rewritten id rfl found next (by simp)

theorem settleSubmission_ok
    (ran : (settleSubmission bytes actor id index leaseToken patch).run s = .ok plan t) :
    Effect bytes s (.settleSubmission actor id index leaseToken patch) (.plan plan) t := by
  unfold settleSubmission at ran
  obtain ⟨_, _, read, ran⟩ := bind_ok ran
  cases read
  obtain ⟨current, required, ran⟩ := check_bind_ok ran
  obtain ⟨after, settled, ran⟩ := check_bind_ok ran
  obtain ⟨_, _, written, ran⟩ := bind_ok ran
  cases written
  obtain ⟨cloned, rfl⟩ := check_ok ran
  obtain ⟨rfl, _⟩ := boundedClone_ok cloned
  exact .rewritten id rfl (require_ok required) (settle_ok settled) (by simp)

/-- Every answer of the store comes with one of these four changes. -/
theorem perform_ok (ran : (perform bytes op).run s = .ok outcome t) :
    Effect bytes s op outcome t := by
  cases op with
  | create input claim now authority =>
    obtain ⟨_, answered, rfl⟩ := map_ok ran
    exact create_ok answered
  | claimSubmission claim waited authority =>
    obtain ⟨⟨plan, dispatch⟩, _, ran, done⟩ := bind_ok ran
    cases done
    exact claimSubmission_ok ran
  | save actor id expected steps =>
    obtain ⟨_, answered, rfl⟩ := map_ok ran
    exact save_ok answered
  | reserveExternalExecution actor planId indexes bindingId =>
    obtain ⟨_, answered, rfl⟩ := map_ok ran
    exact reserveExternalExecution_ok answered
  | saveExternalExecution actor planId expected bindingId updates =>
    obtain ⟨_, answered, rfl⟩ := map_ok ran
    exact saveExternalExecution_ok answered
  | syncExternalExecutions actor planId =>
    obtain ⟨_, answered, rfl⟩ := map_ok ran
    exact syncExternalExecutions_ok answered
  | settleSubmission actor id index leaseToken patch =>
    obtain ⟨_, answered, rfl⟩ := map_ok ran
    exact settleSubmission_ok answered
  | transportClaim planId indexes transport bindingId =>
    obtain ⟨_, _, ran, done⟩ := bind_ok ran
    cases done
    obtain ⟨transports, reserved, rfl⟩ := zoom_ok ran
    exact .reserved reserved

theorem reserveIdempotency_atomic :
    Atomic (reserveIdempotency actor claim planId stepIndex) s := by
  apply atomic_get_bind
  split
  · exact atomic_of_succeeds (fun e t failed => by cases failed)
  · apply atomic_check_bind
    intro _ _
    exact atomic_of_succeeds (fun e t failed => by cases failed)

/-- The capacity a claim checked is still there when it binds its key. -/
theorem reserveIdempotency_succeeds (same : t.idempotency = s.idempotency)
    (spare : s.assertSpareBinding actor claim = .ok ()) :
    Succeeds (reserveIdempotency actor claim planId stepIndex) t := by
  unfold Memory.assertSpareBinding Memory.assertIdempotencyCapacity at spare
  rw [← same] at spare
  intro e u failed
  unfold reserveIdempotency at failed
  change (ite _ _ _ : StoreM Unit).run t = _ at failed
  by_cases bound : t.idempotency.has (idemKey actor claim.key) = true
  · rw [if_pos bound] at failed
    cases failed
  · rw [if_neg bound] at failed spare
    unfold Memory.assertIdempotencyCapacity at failed
    rw [spare] at failed
    cases failed

theorem create_atomic : Atomic (create bytes input claim now authority) s := by
  iterate 2
    apply atomic_check_bind
    intro _ _
  apply atomic_check_bind
  intro plan cloned
  have small := boundedClone_ok cloned
  apply atomic_check_bind
  intro _ _
  apply atomic_get_bind
  apply atomic_check_bind
  intro _ _
  split
  · apply atomic_check_bind
    intro _ _
    exact atomic_check
  · apply atomic_check_bind
    intro _ _
    apply atomic_check_bind
    intro _ _
    apply atomic_bind reserveIdempotency_atomic
    intro _ _ _
    apply succeeds_modify_bind
    exact succeeds_check (boundedClone_of_le (small.1 ▸ small.2))

theorem prepareClaim_bounded (prepared : prepareClaim bytes plan claim = .ok result)
    (small : bytes.plan plan ≤ maximumPlanBytes) : bytes.plan result.plan ≤ maximumPlanBytes := by
  obtain ⟨step, _, rfl | ⟨new, _, _, smaller, same⟩⟩ := prepareClaim_ok prepared
  · exact small
  · rw [same]
    exact smaller

theorem claimSubmission_atomic (bounded : s.Bounded bytes) :
    Atomic (claimSubmission bytes claim waited authority) s := by
  iterate 2
    apply atomic_check_bind
    intro _ _
  apply atomic_check_bind
  intro claim _
  apply atomic_check_bind
  intro _ _
  apply atomic_get_bind
  apply atomic_check_bind
  intro current required
  apply atomic_check_bind
  intro _ _
  apply atomic_check_bind
  intro result prepared
  apply atomic_check_bind
  intro _ _
  apply atomic_check_bind
  intro _ spare
  apply atomic_bind (atomic_zoom rfl Transports.claim_atomic)
  intro _ t zoomed
  obtain ⟨transports, _, rfl⟩ := zoom_ok zoomed
  -- every check is behind; what follows only writes, and reads back a plan that fits
  refine succeeds_bind (reserveIdempotency_succeeds (s := s) rfl spare) ?_
  intro _ _ _
  apply succeeds_modify_bind
  apply succeeds_modify_bind
  apply succeeds_bind
    (succeeds_check (boundedClone_of_le (prepareClaim_bounded prepared (bounded _ _ (require_ok required)))))
  intro _ _ _ e t failed
  cases failed

theorem save_atomic : Atomic (save bytes actor id expected steps) s := by
  apply atomic_check_bind
  intro _ _
  apply atomic_get_bind
  iterate 3
    apply atomic_check_bind
    intro _ _
  apply atomic_check_bind
  intro next cloned
  obtain ⟨rfl, small⟩ := boundedClone_ok cloned
  apply atomic_of_succeeds
  apply succeeds_modify_bind
  exact succeeds_check (boundedClone_of_le small)

/-- The document an operation leaves fits, if the one it found did. -/
theorem Next.bounded (next : Next bytes s id current after) (bounded : s.Bounded bytes)
    (found : s.plans.get id = some current) : bytes.plan after ≤ maximumPlanBytes := by
  rcases next with rfl | rewritten
  · exact bounded id after found
  · exact rewritten.bounded

theorem storeChanged_atomic (small : bytes.plan after ≤ maximumPlanBytes) :
    Atomic (storeChanged bytes id current after) s := by
  apply atomic_of_succeeds
  apply succeeds_modify_bind
  exact succeeds_check (boundedClone_of_le small)

theorem reserveExternalExecution_atomic (bounded : s.Bounded bytes) :
    Atomic (reserveExternalExecution bytes actor id indexes bindingId) s := by
  apply atomic_get_bind
  apply atomic_check_bind
  intro current required
  apply atomic_check_bind
  intro _ _
  apply atomic_check_bind
  intro _ claimed
  apply atomic_check_bind
  intro after attached
  have next := attachClaimed_next claimed attached
  exact storeChanged_atomic (next.bounded bounded (require_ok required))

theorem saveExternalExecution_atomic (bounded : s.Bounded bytes) :
    Atomic (saveExternalExecution bytes actor id expected bindingId updates) s := by
  apply atomic_check_bind
  intro _ _
  apply atomic_get_bind
  apply atomic_check_bind
  intro current required
  apply atomic_check_bind
  intro _ _
  apply atomic_check_bind
  intro after applied
  apply atomic_check_bind
  intro _ _
  have next : Next bytes s id current after := applyExternalObservations_ok applied
  exact storeChanged_atomic (next.bounded bounded (require_ok required))

theorem syncExternalExecutions_atomic (bounded : s.Bounded bytes) :
    Atomic (syncExternalExecutions bytes actor id) s := by
  iterate 2
    apply atomic_check_bind
    intro _ _
  apply atomic_get_bind
  split
  · exact atomic_throw
  · rename_i current found
    split
    · exact atomic_throw
    · apply atomic_check_bind
      intro bindings listed
      apply atomic_check_bind
      intro after attached
      have next : Next bytes s id current after :=
        attachExternalExecutions_ok (Transports.list_ok listed) attached
      exact storeChanged_atomic (next.bounded bounded found)

theorem settleSubmission_atomic (bounded : s.Bounded bytes) :
    Atomic (settleSubmission bytes actor id index leaseToken patch) s := by
  apply atomic_get_bind
  apply atomic_check_bind
  intro current required
  apply atomic_check_bind
  intro after settled
  have next : Next bytes s id current after := settle_ok settled
  apply atomic_of_succeeds
  apply succeeds_modify_bind
  exact succeeds_check (boundedClone_of_le (next.bounded bounded (require_ok required)))

/-- A refused operation leaves all four maps as they were. -/
theorem perform_atomic (bounded : s.Bounded bytes) (op : Op) : Atomic (perform bytes op) s := by
  cases op with
  | create => exact atomic_map create_atomic
  | claimSubmission =>
    apply atomic_bind (claimSubmission_atomic bounded)
    intro _ _ _ e t failed
    cases failed
  | save => exact atomic_map save_atomic
  | reserveExternalExecution => exact atomic_map (reserveExternalExecution_atomic bounded)
  | saveExternalExecution => exact atomic_map (saveExternalExecution_atomic bounded)
  | syncExternalExecutions => exact atomic_map (syncExternalExecutions_atomic bounded)
  | settleSubmission => exact atomic_map (settleSubmission_atomic bounded)
  | transportClaim =>
    apply atomic_bind (atomic_zoom rfl Transports.claim_atomic)
    intro _ _ _ e t failed
    cases failed

end JBCenter.Transactions
