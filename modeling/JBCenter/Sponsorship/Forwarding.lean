import JBCenter.Sponsorship.Lifecycle
import JBCenter.Sponsorship.Memory

/-! A forwarding nonce is published once. Whatever the records of any accounts are asked and in
whatever order, a publication holds every nonce it forwards, for good, and a claim that is
refused reserved nothing. -/
namespace JBCenter.Sponsorship
open Rest
open Transactions (Transports)
open Fallible
open OrderedMap (get_set get_set_ne get_set_self)
variable {encoding : Encoding} {s t : Memory} {id : String} {record next : SponsorshipRecord}

theorem forwardNonceKeys_ok {requests : List PreparedForwardRequest} {keys : List ForwardNonceKey}
    (accepted : forwardNonceKeys requests = .ok keys) :
    ∀ key, key ∈ keys ↔ ∃ request ∈ requests, request.nonceKey = key := by
  unfold forwardNonceKeys at accepted
  iterate 3 obtain ⟨_, _, accepted⟩ := ok_bind accepted
  cases accepted
  intro key
  rw [List.mem_insertionSort, List.mem_map]

theorem Memory.require_ok (found : s.require id = .ok record) : s.records.get id = some record := by
  unfold Memory.require at found
  split at found
  · cases found
  · rename_i held
    cases found
    exact held

theorem Memory.assertUnbound_ok {keys : List ForwardNonceKey} (accepted : s.assertUnbound keys id = .ok ()) :
    ∀ key ∈ keys, ∀ owner, s.nonces.get key = some owner → owner = id := by
  intro key member owner found
  have checked := refuse_ok.mp (forM_ok.mp accepted key member)
  simpa [found] using checked

/-- A later version of a record, of the same requests. -/
structure Revises (record next : SponsorshipRecord) : Prop where
  id : next.id = record.id
  requests : next.requests = record.requests

/-- Every record is stored under its own identifier. -/
def Memory.Keyed (s : Memory) : Prop := ∀ id record, s.records.get id = some record → record.id = id

/-- What an operation can make of the store. -/
inductive Effect (s : Memory) : Memory → Prop where
  | kept : Effect s s
  | created (record : SponsorshipRecord) (absent : s.records.get record.id = none)
      (unpublished : record.submission = none) : Effect s { s with records := s.records.set record.id record }
  | rewritten (id : String) (record next : SponsorshipRecord) (found : s.records.get id = some record)
      (revises : Revises record next) (same : next.submission = record.submission) :
      Effect s { s with records := s.records.set id next }
  | published (record next : SponsorshipRecord) (keys : List ForwardNonceKey) (transports : Transports)
      (found : s.records.get record.id = some record) (revises : Revises record next)
      (submitted : next.submission.isSome = true) (keyed : forwardNonceKeys record.requests = .ok keys)
      (unbound : s.assertUnbound keys record.id = .ok ()) :
      Effect s ⟨s.records.set record.id next,
        keys.foldl (fun nonces key => nonces.set key record.id) s.nonces, transports⟩
  | reserved (transports : Transports) : Effect s { s with transports }

variable {authority : Except RestError Unit}

theorem create_leaves {now : Int} {waited : Nat} :
    Fallible.Leaves (Memory.create encoding record now waited authority) s (Effect s) := by
  unfold Memory.create
  apply leaves_check_bind .kept
  intro _ fresh
  apply leaves_check_bind .kept
  intro copy copied
  cases clone_ok copied
  apply leaves_check_bind .kept
  intro _ _
  apply leaves_get_bind
  split
  · apply leaves_check_bind .kept
    intro _ _
    exact leaves_check .kept
  · apply leaves_check_bind .kept
    intro _ absent
    iterate 2
      apply leaves_check_bind .kept
      intro _ _
    apply leaves_modify_bind
    apply leaves_check
    obtain ⟨_, unpublished, _⟩ := assertNew_ok fresh
    exact .created record (OrderedMap.not_has_iff.mp (refuse_ok.mp absent)) unpublished

theorem settles_revises (settles : Settles encoding record next) :
    Revises record next ∧ next.submission = record.submission := by
  cases settles <;> exact ⟨⟨rfl, rfl⟩, rfl⟩

theorem settle_leaves {submissionHash : String} {quote : Option RelayrQuote} {runtimeVerified bindingVerified : Bool} :
    Fallible.Leaves (Memory.settle encoding id submissionHash quote runtimeVerified bindingVerified) s (Effect s) := by
  unfold Memory.settle
  apply leaves_get_bind
  apply leaves_check_bind .kept
  intro record found
  apply leaves_check_bind .kept
  intro next accepted
  apply leaves_modify_bind
  apply leaves_check
  obtain ⟨revises, same⟩ := settles_revises (settled_ok accepted).2
  exact .rewritten id record next (Memory.require_ok found) revises same

theorem observe_leaves {revision : Int} {observations : List Payload} :
    Fallible.Leaves (Memory.observe encoding id revision observations) s (Effect s) := by
  unfold Memory.observe
  apply leaves_get_bind
  apply leaves_check_bind .kept
  intro record found
  split
  · exact leaves_check .kept
  · apply leaves_check_bind .kept
    intro next accepted
    apply leaves_modify_bind
    apply leaves_check
    obtain rfl | rfl := observed_ok accepted
    · exact .rewritten id _ _ (Memory.require_ok found) ⟨rfl, rfl⟩ rfl
    · exact .rewritten id record _ (Memory.require_ok found) ⟨rfl, rfl⟩ rfl

theorem reserve_atomic : Fallible.Atomic (Memory.reserve record) s := by
  unfold Memory.reserve
  apply atomic_check_bind
  intro keys _
  apply atomic_get_bind
  apply atomic_check_bind
  intro _ _
  apply atomic_bind
  · exact atomic_zoom rfl Transports.claim_atomic
  · intro _ u _ e t failed
    cases failed

/-- A refused claim leaves nothing behind, whatever the state it was refused in. -/
theorem claim_atomic {input : SponsorshipClaim} {waited : Nat} :
    Fallible.Atomic (Memory.claim encoding input waited authority) s := by
  unfold Memory.claim
  apply atomic_check_bind
  intro _ _
  apply atomic_check_bind
  intro input _
  apply atomic_check_bind
  intro _ _
  apply atomic_get_bind
  apply atomic_check_bind
  intro record _
  apply atomic_check_bind
  intro _ _
  apply atomic_check_bind
  intro result _
  apply atomic_check_bind
  intro stored _
  split
  · apply atomic_bind reserve_atomic
    intro _ u _ e t failed
    cases failed
  · apply Fallible.atomic_of_succeeds
    intro e t failed
    cases failed

theorem reserve_ok (reserved : (Memory.reserve record).run s = .ok ⟨⟩ t) :
    ∃ keys, forwardNonceKeys record.requests = .ok keys ∧ s.assertUnbound keys record.id = .ok () ∧
      t.records = s.records ∧ t.nonces = keys.foldl (fun nonces key => nonces.set key record.id) s.nonces := by
  unfold Memory.reserve at reserved
  obtain ⟨keys, keyed, reserved⟩ := check_bind_ok reserved
  obtain ⟨_, unbound, reserved⟩ := check_bind_ok (s := s) reserved
  obtain ⟨_, u, claimed, reserved⟩ := bind_ok reserved
  obtain ⟨transports, _, rfl⟩ := zoom_ok claimed
  cases reserved
  exact ⟨keys, keyed, unbound, rfl, rfl⟩

def Memory.Submitted (s : Memory) (id : String) : Prop :=
  ∃ record, s.records.get id = some record ∧ record.submission.isSome = true

theorem claim_ok (keyed : s.Keyed) {input : SponsorshipClaim} {waited : Nat}
    {result : SponsorshipRecord × Bool} (ran : (Memory.claim encoding input waited authority).run s = .ok result t) :
    Effect s t ∧ (result.2 = true → ¬ s.Submitted input.id ∧ t.Submitted input.id) := by
  unfold Memory.claim at ran
  obtain ⟨_, _, ran⟩ := check_bind_ok ran
  obtain ⟨copy, copied, ran⟩ := check_bind_ok ran
  cases clone_ok copied
  obtain ⟨_, _, ran⟩ := check_bind_ok ran
  obtain ⟨record, found, ran⟩ := check_bind_ok (s := s) ran
  obtain ⟨_, _, ran⟩ := check_bind_ok ran
  obtain ⟨outcome, accepted, ran⟩ := check_bind_ok ran
  obtain ⟨stored, copied, ran⟩ := check_bind_ok ran
  cases clone_ok copied
  replace found := Memory.require_ok found
  have isKey : input.id = record.id := (keyed _ _ found).symm
  rw [isKey] at found ⊢
  cases claimed_ok accepted with
  | replayed submission held sameKey =>
    cases ran
    exact ⟨.rewritten record.id record record found ⟨rfl, rfl⟩ rfl, by simp⟩
  | published unpublished prepared =>
    obtain ⟨_, u, reserved, ran⟩ := bind_ok ran
    obtain ⟨keys, keyed, unbound, records, nonces⟩ := reserve_ok reserved
    cases ran
    constructor
    · have effect := Effect.published (s := s) record { record with
        revision := record.revision + 1
        state := .submitting
        submission := some ⟨input.key, input.hash, input.entries, input.now + waited⟩ } keys u.transports found
        ⟨rfl, rfl⟩ rfl keyed unbound
      rw [← nonces, ← records] at effect
      exact effect
    · intro _
      refine ⟨?_, _, get_set_self _ _ _, rfl⟩
      rintro ⟨held, found', submitted⟩
      rw [found] at found'
      cases found'
      rw [unpublished] at submitted
      cases submitted

theorem perform_leaves (keyed : s.Keyed) (op : Op) : Fallible.Leaves (perform encoding op) s (Effect s) := by
  cases op with
  | create record now waited authority => exact leaves_map create_leaves
  | claim input waited authority =>
    refine leaves_bind (P := Effect s) ⟨fun _ t ran => (claim_ok keyed ran).1, ?_⟩ ?_
    · intro e t failed
      rw [claim_atomic e t failed]
      exact .kept
    · exact fun _ _ _ effect => leaves_pure effect
  | settle id submissionHash quote runtimeVerified bindingVerified => exact leaves_map settle_leaves
  | observe id revision observations => exact leaves_map observe_leaves
  | transportClaim planId stepIndexes transport bindingId =>
    exact leaves_bind (leaves_zoom Effect.reserved) fun _ _ _ effect => leaves_pure effect

/-- Every published record holds all its nonces. -/
structure Memory.Bound (s : Memory) : Prop where
  keyed : s.Keyed
  held : ∀ id record, s.records.get id = some record → record.submission.isSome = true →
    ∀ request ∈ record.requests, s.nonces.get request.nonceKey = some id

theorem Memory.empty_bound : Memory.empty.Bound where
  keyed _ _ found := nomatch found
  held _ _ found := nomatch found

theorem bound_effect (bound : s.Bound) (effect : Effect s t) : t.Bound := by
  cases effect with
  | kept => exact bound
  | reserved transports => exact ⟨bound.keyed, bound.held⟩
  | created record absent unpublished =>
    constructor
    · intro id held found
      rw [get_set] at found
      split at found
      · rename_i same
        cases found
        exact same.symm
      · exact bound.keyed id held found
    · intro id held found submitted
      rw [get_set] at found
      split at found
      · cases found
        rw [unpublished] at submitted
        cases submitted
      · exact bound.held id held found submitted
  | rewritten id record next stored revises same =>
    constructor
    · intro other held found
      rw [get_set] at found
      split at found
      · rename_i isThis
        cases found
        rw [revises.id, bound.keyed id record stored, isThis]
      · exact bound.keyed other held found
    · intro other held found submitted
      rw [get_set] at found
      split at found
      · rename_i isThis
        cases found
        rw [revises.requests, isThis]
        exact bound.held id record stored (same ▸ submitted)
      · exact bound.held other held found submitted
  | published record next keys transports stored revises submitted keyed unbound =>
    have members := forwardNonceKeys_ok keyed
    constructor
    · intro other held found
      rw [get_set] at found
      split at found
      · rename_i isThis
        cases found
        rw [revises.id, isThis]
      · exact bound.keyed other held found
    · intro other held found published request member
      rw [get_set] at found
      rw [OrderedMap.get_foldl_set]
      split at found
      · rename_i isThis
        cases found
        rw [revises.requests] at member
        rw [if_pos ((members _).mpr ⟨request, member, rfl⟩), isThis]
      · -- A nonce that another publication holds is none of this one's.
        have owned := bound.held other held found published request member
        rename_i differ
        rw [if_neg fun shared => differ (Memory.assertUnbound_ok unbound _ shared other owned), owned]

theorem submitted_effect (effect : Effect s t) (submitted : s.Submitted id) : t.Submitted id := by
  obtain ⟨record, found, published⟩ := submitted
  cases effect with
  | kept => exact ⟨record, found, published⟩
  | reserved transports => exact ⟨record, found, published⟩
  | created new absent unpublished =>
    have differ : id ≠ new.id := by
      intro same
      rw [← same, found] at absent
      cases absent
    exact ⟨record, (get_set_ne _ _ differ).trans found, published⟩
  | rewritten other old next stored revises same =>
    by_cases isThis : id = other
    · subst isThis
      rw [found] at stored
      cases stored
      exact ⟨next, get_set_self _ _ _, same ▸ published⟩
    · exact ⟨record, (get_set_ne _ _ isThis).trans found, published⟩
  | published old next keys transports stored revises submitted keyed unbound =>
    by_cases isThis : id = old.id
    · exact ⟨next, isThis ▸ get_set_self _ _ _, submitted⟩
    · exact ⟨record, (get_set_ne _ _ isThis).trans found, published⟩

/-- The record a claim told its caller to dispatch. -/
def dispatched (answer : Answer Op RestError Outcome) : Option String :=
  match answer.op, answer.result with
  | .claim input _ _, .ok (.claimed _ true) => some input.id
  | _, _ => none

theorem dispatched_step {answer : Answer Op RestError Outcome} (bound : s.Bound)
    (performed : Performs (perform encoding) s answer t) (asked : dispatched answer = some id) :
    ¬ s.Submitted id ∧ t.Submitted id := by
  obtain ⟨op, result⟩ := answer
  unfold dispatched at asked
  split at asked
  · rename_i input waited authority record claimed answered
    cases asked
    dsimp only at claimed answered
    cases claimed
    cases answered
    obtain ⟨⟨record', dispatch⟩, u, ran, returned⟩ := bind_ok performed.answered
    cases returned
    exact (claim_ok bound.keyed ran).2 rfl
  · cases asked

theorem performs_effect {answer : Answer Op RestError Outcome} (bound : s.Bound)
    (performed : Performs (perform encoding) s answer t) : Effect s t :=
  performed.leaves (perform_leaves bound.keyed answer.op)

theorem run_bound {history : List (Answer Op RestError Outcome)} (run : Runs encoding history s) : s.Bound :=
  run.state_invariant Memory.empty_bound fun bound performed => bound_effect bound (performs_effect bound performed)

/-- In every run: a record is dispatched at most once; two published records share no nonce of
a forwarder; and a claim that throws, in any state, leaves the whole store as it was. -/
theorem forward_nonce_exclusive {history : List (Answer Op RestError Outcome)} (run : Runs encoding history s) :
    (history.filterMap dispatched).Nodup ∧
    (∀ first second one two, s.records.get first = some one → s.records.get second = some two → first ≠ second →
      one.submission.isSome = true → two.submission.isSome = true →
      ∀ request ∈ one.requests, ∀ other ∈ two.requests, request.nonceKey ≠ other.nonceKey) ∧
    ∀ input waited authority error t,
      (perform encoding (.claim input waited authority)).run s = .error error t → t = s := by
  have bound := run_bound run
  refine ⟨?_, ?_, ?_⟩
  · exact run.marks_nodup Memory.empty_bound
      (fun bound performed => bound_effect bound (performs_effect bound performed))
      (fun bound performed asked => (dispatched_step bound performed asked).1)
      (fun bound performed asked => (dispatched_step bound performed asked).2)
      (fun bound performed submitted => submitted_effect (performs_effect bound performed) submitted)
  · intro first second one two found found' differ submitted submitted' request member other member' same
    have owner := bound.held first one found submitted request member
    rw [same, bound.held second two found' submitted' other member'] at owner
    cases owner
    exact differ rfl
  · intro input waited authority error t failed
    refine atomic_bind claim_atomic ?_ error t failed
    intro _ u _ e t failed
    cases failed

/-- Two preparations of one nonce: the first is published, and the second is refused. -/
def sampleRun : List (Answer Op RestError Outcome) × Memory :=
  let claim : SponsorshipClaim := { sampleClaim with hash := sampleHash }
  performAll (perform sampleEncoding) Memory.empty
    [.create sampleRecord 2 0 (.ok ()),
     .create { sampleRecord with id := "other", planId := "later", preparationKey := "again" } 2 0 (.ok ()),
     .claim claim 1 (.ok ()),
     .claim { claim with id := "other", key := "second" } 1 (.ok ())]

theorem sampleRun_published : sampleRun.1.filterMap dispatched = ["sponsorship"] ∧
    (sampleRun.2.records.get "sponsorship").any
      (fun one => one.submission.isSome && decide (one.requests = sampleRecord.requests)) = true := by decide +kernel

theorem forward_nonce_exclusive_sample : sampleRun.1.filterMap dispatched = ["sponsorship"] ∧
    ∀ second two, sampleRun.2.records.get second = some two → "sponsorship" ≠ second →
      two.submission.isSome = true → ∀ other ∈ two.requests,
      ∀ request ∈ sampleRecord.requests, request.nonceKey ≠ other.nonceKey := by
  obtain ⟨once, published⟩ := sampleRun_published
  refine ⟨once, fun second two found differ submitted other member request member' => ?_⟩
  rw [Option.any_eq_true] at published
  obtain ⟨one, held, checked⟩ := published
  rw [Bool.and_eq_true, decide_eq_true_eq] at checked
  rw [← checked.2] at member'
  exact (forward_nonce_exclusive (performAll_run _ _)).2.1 _ second one two held found differ checked.1 submitted
    request member' other member

end JBCenter.Sponsorship
