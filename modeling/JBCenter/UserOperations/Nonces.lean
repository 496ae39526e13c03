import JBCenter.UserOperations.Memory

/-! The sender nonce of a published operation. Every operation that is published and can still
execute owns its nonce, alone; only its proven expiry gives the nonce back, and what was
published of it stays as it was signed. -/
namespace JBCenter.UserOperations
open Rest
open Transactions (Transports)
open Fallible
open OrderedMap (get_delete get_set get_set_ne get_set_self)
variable {encoding : Encoding} {codec : UserOperationCodec} {s t : Memory} {id : String}
  {record next : UserOperationRecord}

theorem clone_ok {α : Type} {bytes : α → Nat} {value copy : α} (copied : clone bytes value = .ok copy) : copy = value := by
  unfold clone at copied
  obtain ⟨_, copied⟩ := ok_refuse copied
  cases copied
  rfl

theorem assertNew_ok {now : Int} (accepted : assertNew encoding codec record now = .ok ()) :
    record.state = .prepared ∧ record.submission = none := by
  unfold assertNew at accepted
  iterate 6 obtain ⟨_, _, accepted⟩ := ok_bind accepted
  obtain ⟨checked, _⟩ := ok_refuse accepted
  simp only [Bool.or_eq_false_iff, decide_eq_false_iff_not, ne_eq, Decidable.not_not, Option.isSome_eq_false_iff,
    Option.isNone_iff_eq_none] at checked
  exact ⟨by tauto, by tauto⟩

/-- What a claim can make of a record: itself again, or its one publication, committed to as
the claim says. -/
inductive Claims (record : UserOperationRecord) (input : UserOperationClaim) : UserOperationRecord × Bool → Prop where
  | replayed (submitted : record.submission.isSome = true) : Claims record input (record, false)
  | published (submission : Submission) (absent : record.submission = none) (prepared : record.state = .prepared)
      (committed : same input.signedCommitment submission.commitment = true) :
      Claims record input ({ record with
        revision := record.revision + 1, state := .submitting, submission := some submission }, true)

variable {authority : Except RestError Unit} {input : UserOperationClaim}

theorem claimed_ok {result : UserOperationRecord × Bool}
    (accepted : claimed encoding codec record input = .ok result) : Claims record input result := by
  unfold claimed at accepted
  obtain ⟨_, accepted⟩ := ok_refuse accepted
  obtain ⟨operation, _, accepted⟩ := ok_bind accepted
  obtain ⟨fullCommitment, _, accepted⟩ := ok_bind accepted
  obtain ⟨agree, accepted⟩ := ok_refuse accepted
  iterate 2 obtain ⟨_, _, accepted⟩ := ok_bind accepted
  simp only [Bool.or_eq_false_iff, Bool.not_eq_false'] at agree
  cases held : record.submission with
  | some submission =>
    simp only [held] at accepted
    obtain ⟨_, accepted⟩ := ok_refuse accepted
    obtain ⟨copy, copied, accepted⟩ := ok_bind accepted
    cases accepted
    rw [clone_ok copied]
    exact .replayed (by rw [held]; rfl)
  | none =>
    simp only [held] at accepted
    obtain ⟨live, accepted⟩ := ok_refuse accepted
    iterate 2 obtain ⟨_, _, accepted⟩ := ok_bind accepted
    obtain ⟨copy, copied, accepted⟩ := ok_bind accepted
    simp only [Bool.or_eq_false_iff, decide_eq_false_iff_not, ne_eq, Decidable.not_not] at live
    cases accepted
    rw [clone_ok copied]
    refine .published _ held live.1 ?_
    unfold same at agree ⊢
    rw [decide_eq_true_eq] at agree ⊢
    exact agree.2.symm

theorem settled_ok {commitment : String} {state : UserOperationState}
    (accepted : settled encoding record commitment state = .ok next) :
    next = record ∨ record.observation = none ∧ state ≠ .observed .expired ∧
      next = { record with state, revision := record.revision + 1 } := by
  unfold settled at accepted
  obtain ⟨_, accepted⟩ := ok_refuse accepted
  obtain ⟨valid, accepted⟩ := ok_refuse accepted
  split at accepted
  · exact Or.inl (clone_ok accepted)
  · rename_i unseen
    simp only [Bool.or_eq_true, not_or, Bool.not_eq_true, Option.isSome_eq_false_iff, Option.isNone_iff_eq_none] at unseen
    refine Or.inr ⟨unseen.1, ?_, clone_ok accepted⟩
    rintro rfl
    simp at valid

theorem observed_ok {revision : Int} {observation : UserOperationObservation}
    (accepted : observed encoding record revision observation = .ok next) :
    record.state ≠ .observed .expired ∧ record.submission.isSome = true ∧
      next = { record with
        state := .observed observation.state, revision := record.revision + 1, observation := some observation } := by
  unfold observed at accepted
  iterate 2 obtain ⟨_, accepted⟩ := ok_refuse accepted
  obtain ⟨live, accepted⟩ := ok_refuse accepted
  obtain ⟨submitted, accepted⟩ := ok_refuse accepted
  obtain ⟨_, _, accepted⟩ := ok_bind accepted
  simp only [Bool.or_eq_false_iff, Option.isNone_eq_false_iff] at submitted
  exact ⟨of_decide_eq_false live, submitted.1, clone_ok accepted⟩

/-- A later version of a record: the same operation under the same identifier. -/
structure Revises (record next : UserOperationRecord) : Prop where
  id : next.id = record.id
  nonce : nonceKey next = nonceKey record

/-- What an operation can make of the store. -/
inductive Effect (s : Memory) : Memory → Prop where
  | kept : Effect s s
  | reserved (transports : Transports) : Effect s { s with transports }
  | created (record : UserOperationRecord) (preparations : OrderedMap (String × String × String) String)
      (absent : s.records.get record.id = none) (unpublished : record.submission = none)
      (prepared : record.state = .prepared) :
      Effect s { s with preparations, records := s.records.set record.id record }
  | rewritten (id : String) (record next : UserOperationRecord) (found : s.records.get id = some record)
      (revises : Revises record next) (same : next.submission = record.submission)
      (steady : record.state = .observed .expired ∨ next.state = .observed .expired → next = record) :
      Effect s { s with records := s.records.set id next }
  | expired (id : String) (record next : UserOperationRecord) (found : s.records.get id = some record)
      (live : record.state ≠ .observed .expired) (submitted : record.submission.isSome = true)
      (revises : Revises record next) (same : next.submission = record.submission)
      (expires : next.state = .observed .expired) (seen : next.observation.isSome = true) :
      Effect s { s with nonces := s.nonces.delete (nonceKey next), records := s.records.set id next }
  | published (record next : UserOperationRecord) (submission : Submission) (entry : NonceEntry)
      (submissions : OrderedMap (String × String × String) String) (transports : Transports)
      (found : s.records.get record.id = some record) (unpublished : record.submission = none)
      (prepared : record.state = .prepared) (revises : Revises record next) (submitted : next.submission = some submission)
      (live : next.state ≠ .observed .expired) (free : s.nonces.get (nonceKey record) = none)
      (owner : entry.id = record.id) (committed : same entry.commitment submission.commitment = true) :
      Effect s { s with
        nonces := s.nonces.set (nonceKey record) entry, submissions, transports
        records := s.records.set record.id next }

/-- Who owns a nonce, both ways: a published record that has not expired, and the entry that
names it. -/
structure Memory.Owned (s : Memory) : Prop where
  keyed : ∀ id record, s.records.get id = some record → record.id = id
  seen : ∀ id record, s.records.get id = some record → record.state = .observed .expired →
    record.observation.isSome = true
  owns : ∀ id record submission, s.records.get id = some record → record.submission = some submission →
    record.state ≠ .observed .expired → ∃ entry, s.nonces.get (nonceKey record) = some entry ∧ entry.id = id ∧
      same entry.commitment submission.commitment = true
  owner : ∀ key entry, s.nonces.get key = some entry → ∃ record, s.records.get entry.id = some record ∧
    nonceKey record = key ∧ record.submission.isSome = true ∧ record.state ≠ .observed .expired

theorem Memory.empty_owned : Memory.empty.Owned where
  keyed _ _ found := nomatch found
  seen _ _ found := nomatch found
  owns _ _ _ found := nomatch found
  owner _ _ found := nomatch found

theorem Memory.required_ok {actor : RestActor} (found : s.required actor id = .ok record) :
    s.records.get id = some record := by
  unfold Memory.required at found
  iterate 2 obtain ⟨_, _, found⟩ := ok_bind found
  split at found
  · cases found
  · rename_i held
    split at found
    · cases found
      exact held
    · cases found

theorem Memory.find_ok (found : s.find id = .ok record) : s.records.get id = some record := by
  unfold Memory.find at found
  split at found
  · cases found
  · rename_i held
    cases found
    exact held

variable {session : Except RestError Unit}

theorem create_leaves {now clock : Int} :
    Fallible.Leaves (Memory.create encoding codec record now clock authority session) s (Effect s) := by
  unfold Memory.create
  apply leaves_check_bind .kept
  intro _ fresh
  apply leaves_check_bind .kept
  intro copy copied
  cases clone_ok copied
  apply leaves_check_bind .kept
  intro _ _
  apply leaves_get_bind
  split
  · apply leaves_check_bind .kept
    intro stored _
    apply leaves_check_bind .kept
    intro _ _
    exact leaves_check .kept
  · apply leaves_check_bind .kept
    intro _ _
    apply leaves_check_bind .kept
    intro _ _
    apply leaves_check_bind .kept
    intro _ absent
    apply leaves_check_bind .kept
    intro _ _
    apply leaves_modify_bind
    apply leaves_modify_bind
    apply leaves_check
    obtain ⟨prepared, unpublished⟩ := assertNew_ok fresh
    exact .created record _ (OrderedMap.not_has_iff.mp (refuse_ok.mp absent)) unpublished prepared

theorem settle_leaves (owned : s.Owned) {commitment : String} {state : UserOperationState} :
    Fallible.Leaves (Memory.settle encoding id commitment state) s (Effect s) := by
  unfold Memory.settle
  apply leaves_check_bind .kept
  intro _ _
  apply leaves_get_bind
  apply leaves_check_bind .kept
  intro record found
  replace found := Memory.find_ok found
  apply leaves_check_bind .kept
  intro next accepted
  apply leaves_modify_bind
  apply leaves_check
  obtain rfl | ⟨unseen, live, rfl⟩ := settled_ok accepted
  · exact .rewritten id _ _ found ⟨rfl, rfl⟩ rfl fun _ => rfl
  · refine .rewritten id record _ found ⟨rfl, rfl⟩ rfl ?_
    rintro (expired | expired)
    · have seen := owned.seen id record found expired
      rw [unseen] at seen
      cases seen
    · exact absurd expired live

theorem observe_leaves {revision : Int} {observation : UserOperationObservation} :
    Fallible.Leaves (Memory.observe encoding id revision observation) s (Effect s) := by
  unfold Memory.observe
  apply leaves_check_bind .kept
  intro _ _
  apply leaves_get_bind
  apply leaves_check_bind .kept
  intro record found
  replace found := Memory.find_ok found
  apply leaves_check_bind .kept
  intro copy copied
  apply leaves_check_bind .kept
  intro next accepted
  apply leaves_modify_bind
  apply leaves_modify_bind
  apply leaves_check
  obtain ⟨live, submitted, rfl⟩ := observed_ok accepted
  split
  · rename_i expires
    exact .expired id record _ found live submitted ⟨rfl, rfl⟩ rfl expires rfl
  · rename_i stays
    refine .rewritten id record _ found ⟨rfl, rfl⟩ rfl ?_
    rintro (expired | expired)
    · exact absurd expired live
    · exact absurd expired stays

theorem publish_atomic {stored : UserOperationRecord} :
    Fallible.Atomic (Memory.publish record stored input) s := by
  unfold Memory.publish
  apply atomic_bind
  · exact atomic_zoom rfl Transports.claim_atomic
  · intro _ u _ e t failed
    cases failed

/-- A refused claim leaves nothing behind, whatever the state it was refused in. -/
theorem claim_atomic {first second : Int} :
    Fallible.Atomic (Memory.claim encoding codec input first second authority session) s := by
  unfold Memory.claim
  apply atomic_check_bind
  intro _ _
  apply atomic_check_bind
  intro input _
  apply atomic_check_bind
  intro _ _
  apply Fallible.atomic_get_bind
  apply atomic_check_bind
  intro record _
  apply atomic_check_bind
  intro _ _
  apply atomic_check_bind
  intro result _
  split
  · apply Fallible.atomic_of_succeeds
    intro e t failed
    cases failed
  · apply atomic_check_bind
    intro _ _
    iterate 2
      apply atomic_check_bind
      intro _ _
    apply atomic_check_bind
    intro result _
    apply atomic_check_bind
    intro stored _
    apply atomic_bind publish_atomic
    intro _ u _ e t failed
    cases failed

def Memory.Submitted (s : Memory) (id : String) : Prop :=
  ∃ record, s.records.get id = some record ∧ record.submission.isSome = true

theorem assertNonce_ok (owned : s.Owned) (accepted : s.assertNonce record input = .ok ())
    (found : s.records.get record.id = some record) (unpublished : record.submission = none) :
    s.nonces.get (nonceKey record) = none := by
  cases held : s.nonces.get (nonceKey record) with
  | none => rfl
  | some entry =>
    have checked := refuse_ok.mp accepted
    simp only [held, Option.any_some, Bool.or_eq_false_iff, decide_eq_false_iff_not, ne_eq, Decidable.not_not] at checked
    obtain ⟨owner, stored, _, submitted, _⟩ := owned.owner _ _ held
    rw [checked.1, found] at stored
    cases stored
    rw [unpublished] at submitted
    cases submitted

theorem publish_ok {stored : UserOperationRecord}
    (ran : (Memory.publish record stored input).run s = .ok ⟨⟩ t) : ∃ submissions transports, t = { s with
      nonces := s.nonces.set (nonceKey record) ⟨record.id, input.signedCommitment⟩, submissions, transports
      records := s.records.set record.id stored } := by
  unfold Memory.publish at ran
  obtain ⟨_, u, claimed, ran⟩ := bind_ok ran
  obtain ⟨transports, _, rfl⟩ := zoom_ok claimed
  cases ran
  exact ⟨_, transports, rfl⟩

theorem claim_ok (owned : s.Owned) {first second : Int}
    {result : UserOperationRecord × Bool}
    (ran : (Memory.claim encoding codec input first second authority session).run s = .ok result t) :
    Effect s t ∧ (result.2 = true → ¬ s.Submitted input.id ∧ t.Submitted input.id) := by
  unfold Memory.claim at ran
  obtain ⟨_, _, ran⟩ := check_bind_ok ran
  obtain ⟨copy, copied, ran⟩ := check_bind_ok ran
  cases clone_ok copied
  obtain ⟨_, _, ran⟩ := check_bind_ok ran
  obtain ⟨record, found, ran⟩ := check_bind_ok (s := s) ran
  obtain ⟨_, _, ran⟩ := check_bind_ok ran
  obtain ⟨outcome, asked, ran⟩ := check_bind_ok ran
  replace found := Memory.required_ok found
  have isKey : input.id = record.id := (owned.keyed _ _ found).symm
  rw [isKey] at found ⊢
  cases claimed_ok asked with
  | replayed submitted =>
    cases ran
    exact ⟨.kept, by simp⟩
  | published earlier unpublished prepared _ =>
    iterate 2 obtain ⟨_, _, ran⟩ := check_bind_ok ran
    obtain ⟨_, reserved, ran⟩ := check_bind_ok ran
    obtain ⟨outcome, accepted, ran⟩ := check_bind_ok ran
    obtain ⟨stored, copied, ran⟩ := check_bind_ok ran
    cases clone_ok copied
    have free := assertNonce_ok owned reserved found unpublished
    obtain ⟨_, u, wrote, ran⟩ := bind_ok ran
    obtain ⟨submissions, transports, rfl⟩ := publish_ok wrote
    cases ran
    cases claimed_ok accepted with
    | replayed submitted =>
      rw [unpublished] at submitted
      cases submitted
    | published submission _ _ committed =>
      constructor
      · exact .published record _ submission ⟨record.id, input.signedCommitment⟩ submissions transports found unpublished
          prepared ⟨rfl, rfl⟩ rfl (by simp) free rfl committed
      · intro _
        refine ⟨?_, _, get_set_self _ _ _, rfl⟩
        rintro ⟨held, found', submitted⟩
        rw [found] at found'
        cases found'
        rw [unpublished] at submitted
        cases submitted

theorem perform_leaves (owned : s.Owned) (op : Op) : Fallible.Leaves (perform encoding codec op) s (Effect s) := by
  cases op with
  | create input now clock authority session => exact leaves_map create_leaves
  | claim input first second authority session =>
    refine leaves_bind (P := Effect s) ⟨fun _ t ran => (claim_ok owned ran).1, ?_⟩ ?_
    · intro e t failed
      rw [claim_atomic e t failed]
      exact .kept
    · exact fun _ _ _ effect => leaves_pure effect
  | settle id commitment state => exact leaves_map (settle_leaves owned)
  | observe id revision observation => exact leaves_map observe_leaves
  | transportClaim planId stepIndexes transport bindingId =>
    exact leaves_bind (leaves_zoom Effect.reserved) fun _ _ _ effect => leaves_pure effect

theorem performs_effect {answer : Answer Op RestError Outcome} (owned : s.Owned)
    (performed : Performs (perform encoding codec) s answer t) : Effect s t :=
  performed.leaves (perform_leaves owned answer.op)

theorem owned_created (owned : s.Owned) {preparations : OrderedMap (String × String × String) String}
    (absent : s.records.get record.id = none) (unpublished : record.submission = none)
    (prepared : record.state = .prepared) :
    Memory.Owned { s with preparations, records := s.records.set record.id record } where
  keyed id held found := by
    rw [get_set] at found
    split at found
    · rename_i isThis
      cases found
      exact isThis.symm
    · exact owned.keyed id held found
  seen id held found expired := by
    rw [get_set] at found
    split at found
    · cases found
      rw [prepared] at expired
      cases expired
    · exact owned.seen id held found expired
  owns id held submission found submitted live := by
    rw [get_set] at found
    split at found
    · cases found
      rw [unpublished] at submitted
      cases submitted
    · exact owned.owns id held submission found submitted live
  owner key entry found := by
    obtain ⟨holder, stored, rest⟩ := owned.owner key entry found
    have differ : entry.id ≠ record.id := by
      intro isThis
      rw [isThis, absent] at stored
      cases stored
    exact ⟨holder, (get_set_ne _ _ differ).trans stored, rest⟩

theorem owned_rewritten (owned : s.Owned) (stored : s.records.get id = some record) (revises : Revises record next)
    (same : next.submission = record.submission)
    (steady : record.state = .observed .expired ∨ next.state = .observed .expired → next = record) :
    Memory.Owned { s with records := s.records.set id next } where
  keyed other held found := by
    rw [get_set] at found
    split at found
    · rename_i isThis
      cases found
      rw [revises.id, owned.keyed id record stored, isThis]
    · exact owned.keyed other held found
  seen other held found expired := by
    rw [get_set] at found
    split at found
    · cases found
      have unchanged := steady (Or.inr expired)
      rw [unchanged] at expired ⊢
      exact owned.seen id record stored expired
    · exact owned.seen other held found expired
  owns other held submission found submitted live := by
    rw [get_set] at found
    split at found
    · rename_i isThis
      cases found
      rw [revises.nonce, isThis]
      refine owned.owns id record submission stored (same ▸ submitted) fun expired => live ?_
      rw [steady (Or.inl expired), expired]
    · exact owned.owns other held submission found submitted live
  owner key entry found := by
    obtain ⟨holder, held, isKey, submitted, live⟩ := owned.owner key entry found
    by_cases isThis : entry.id = id
    · rw [isThis, stored] at held
      cases held
      refine ⟨next, isThis ▸ get_set_self _ _ _, revises.nonce.trans isKey, same ▸ submitted, fun expired => ?_⟩
      rw [steady (Or.inr expired)] at expired
      exact live expired
    · exact ⟨holder, (get_set_ne _ _ isThis).trans held, isKey, submitted, live⟩

theorem Memory.Owned.exclusive (owned : s.Owned) {other : String} {one two : UserOperationRecord}
    (found : s.records.get id = some one) (found' : s.records.get other = some two)
    (submitted : one.submission.isSome = true) (submitted' : two.submission.isSome = true)
    (live : one.state ≠ .observed .expired) (live' : two.state ≠ .observed .expired)
    (shared : nonceKey one = nonceKey two) : id = other := by
  obtain ⟨submission, held⟩ := Option.isSome_iff_exists.mp submitted
  obtain ⟨submission', held'⟩ := Option.isSome_iff_exists.mp submitted'
  obtain ⟨entry, bound, rfl, _⟩ := owned.owns id one submission found held live
  obtain ⟨entry', bound', rfl, _⟩ := owned.owns other two submission' found' held' live'
  rw [shared, bound'] at bound
  cases bound
  rfl

theorem owned_expired (owned : s.Owned) (stored : s.records.get id = some record)
    (live : record.state ≠ .observed .expired) (submitted : record.submission.isSome = true)
    (revises : Revises record next) (expires : next.state = .observed .expired)
    (seen : next.observation.isSome = true) :
    Memory.Owned { s with nonces := s.nonces.delete (nonceKey next), records := s.records.set id next } where
  keyed other held found := by
    rw [get_set] at found
    split at found
    · rename_i isThis
      cases found
      rw [revises.id, owned.keyed id record stored, isThis]
    · exact owned.keyed other held found
  seen other held found expired := by
    rw [get_set] at found
    split at found
    · cases found
      exact seen
    · exact owned.seen other held found expired
  owns other held submission found published live' := by
    rw [get_set] at found
    split at found
    · cases found
      exact absurd expires live'
    · rename_i differ
      obtain ⟨entry, bound, rest⟩ := owned.owns other held submission found published live'
      refine ⟨entry, ?_, rest⟩
      have isPublished : held.submission.isSome = true := by rw [published]; rfl
      rw [get_delete, revises.nonce, if_neg, bound]
      exact fun shared => differ (owned.exclusive found stored isPublished submitted live' live shared)
  owner key entry found := by
    rw [get_delete, revises.nonce] at found
    split at found
    · cases found
    · rename_i otherKey
      obtain ⟨holder, held, isKey, rest⟩ := owned.owner key entry found
      have differ : entry.id ≠ id := by
        intro isThis
        rw [isThis, stored] at held
        cases held
        exact otherKey isKey.symm
      exact ⟨holder, (get_set_ne _ _ differ).trans held, isKey, rest⟩

theorem owned_published (owned : s.Owned) {submission : Submission} {entry : NonceEntry}
    {submissions : OrderedMap (String × String × String) String} {transports : Transports}
    (stored : s.records.get record.id = some record) (unpublished : record.submission = none)
    (revises : Revises record next) (submitted : next.submission = some submission)
    (live : next.state ≠ .observed .expired) (free : s.nonces.get (nonceKey record) = none)
    (owner : entry.id = record.id) (committed : same entry.commitment submission.commitment = true) :
    Memory.Owned { s with
      nonces := s.nonces.set (nonceKey record) entry, submissions, transports
      records := s.records.set record.id next } where
  keyed other held found := by
    rw [get_set] at found
    split at found
    · rename_i isThis
      cases found
      rw [revises.id, isThis]
    · exact owned.keyed other held found
  seen other held found expired := by
    rw [get_set] at found
    split at found
    · cases found
      exact absurd expired live
    · exact owned.seen other held found expired
  owns other held submission' found published live' := by
    rw [get_set] at found
    split at found
    · rename_i isThis
      cases found
      rw [submitted] at published
      cases published
      refine ⟨entry, ?_, owner.trans isThis.symm, committed⟩
      rw [revises.nonce]
      exact get_set_self _ _ _
    · obtain ⟨entry', bound, rest⟩ := owned.owns other held submission' found published live'
      refine ⟨entry', ?_, rest⟩
      have otherKey : nonceKey held ≠ nonceKey record := by
        intro shared
        rw [shared, free] at bound
        cases bound
      exact (get_set_ne _ _ otherKey).trans bound
  owner key entry' found := by
    rw [get_set] at found
    split at found
    · rename_i isKey
      cases found
      exact ⟨next, owner ▸ get_set_self _ _ _, revises.nonce.trans isKey.symm, by rw [submitted]; rfl, live⟩
    · obtain ⟨holder, held, isKey, published, live'⟩ := owned.owner key entry' found
      have differ : entry'.id ≠ record.id := by
        intro isThis
        rw [isThis, stored] at held
        cases held
        rw [unpublished] at published
        cases published
      exact ⟨holder, (get_set_ne _ _ differ).trans held, isKey, published, live'⟩

theorem owned_effect (owned : s.Owned) (effect : Effect s t) : t.Owned := by
  cases effect with
  | kept => exact owned
  | reserved transports => exact ⟨owned.keyed, owned.seen, owned.owns, owned.owner⟩
  | created record preparations absent unpublished prepared => exact owned_created owned absent unpublished prepared
  | rewritten id record next found revises same steady => exact owned_rewritten owned found revises same steady
  | expired id record next found live submitted revises same expires seen =>
    exact owned_expired owned found live submitted revises expires seen
  | published record next submission entry submissions transports found unpublished prepared revises submitted live free
      owner committed =>
    exact owned_published owned found unpublished revises submitted live free owner committed

/-- What a later state keeps of every record: what was published of it, and its expiry. -/
def Memory.Keeps (s t : Memory) : Prop :=
  ∀ id record, s.records.get id = some record → ∃ after, t.records.get id = some after ∧
    (∀ submission, record.submission = some submission → after.submission = some submission) ∧
    (record.state = .observed .expired → after.state = .observed .expired)

theorem Memory.Keeps.refl (s : Memory) : s.Keeps s := fun _ record found => ⟨record, found, fun _ held => held, id⟩

theorem Memory.Keeps.trans {u : Memory} (first : s.Keeps t) (second : t.Keeps u) : s.Keeps u := by
  intro id record found
  obtain ⟨middle, found', submission, expired⟩ := first id record found
  obtain ⟨after, found'', submission', expired'⟩ := second id middle found'
  exact ⟨after, found'', fun held isHeld => submission' held (submission held isHeld), expired' ∘ expired⟩

theorem keeps_set (stored : s.records.get id = some record)
    (kept : ∀ submission, record.submission = some submission → next.submission = some submission)
    (terminal : record.state = .observed .expired → next.state = .observed .expired)
    (written : t.records = s.records.set id next) : s.Keeps t := by
  intro other held found
  rw [written]
  by_cases isThis : other = id
  · subst isThis
    rw [stored] at found
    cases found
    exact ⟨next, get_set_self _ _ _, kept, terminal⟩
  · exact ⟨held, (get_set_ne _ _ isThis).trans found, fun _ isHeld => isHeld, fun isExpired => isExpired⟩

theorem keeps_effect (effect : Effect s t) : s.Keeps t := by
  cases effect with
  | kept => exact .refl s
  | reserved transports => exact .refl s
  | created record preparations absent unpublished prepared =>
    intro id held found
    have differ : id ≠ record.id := by
      rintro rfl
      rw [absent] at found
      cases found
    exact ⟨held, (get_set_ne _ _ differ).trans found, fun _ isHeld => isHeld, fun isExpired => isExpired⟩
  | rewritten id record next found revises same steady =>
    refine keeps_set found (fun submission held => same.trans held) (fun expired => ?_) rfl
    rw [steady (Or.inl expired), expired]
  | expired id record next found live submitted revises same expires seen =>
    exact keeps_set found (fun submission held => same.trans held) (fun _ => expires) rfl
  | published record next submission entry submissions transports found unpublished prepared revises submitted live free
      owner committed =>
    refine keeps_set found ?_ (fun expired => ?_) rfl
    · intro earlier held
      rw [unpublished] at held
      cases held
    · rw [prepared] at expired
      cases expired

theorem release_effect (owned : s.Owned) (effect : Effect s t) {key : Int × String × Nat} {entry : NonceEntry}
    (bound : s.nonces.get key = some entry) (released : t.nonces.get key ≠ some entry) :
    ∃ before after, s.records.get entry.id = some before ∧ nonceKey before = key ∧
      before.state ≠ .observed .expired ∧ t.records.get entry.id = some after ∧ after.state = .observed .expired := by
  cases effect with
  | kept => exact absurd bound released
  | reserved transports => exact absurd bound released
  | created record preparations absent unpublished prepared => exact absurd bound released
  | rewritten id record next found revises same steady => exact absurd bound released
  | expired id record next found live submitted revises same expires seen =>
    have isKey : key = nonceKey next := by
      by_contra other
      exact released ((get_delete _ _ _).trans ((if_neg other).trans bound))
    rw [revises.nonce] at isKey
    obtain ⟨submission, held⟩ := Option.isSome_iff_exists.mp submitted
    obtain ⟨owner, bound', rfl, _⟩ := owned.owns id record submission found held live
    rw [isKey, bound'] at bound
    cases bound
    exact ⟨record, next, found, isKey.symm, live, get_set_self _ _ _, expires⟩
  | published record next submission other submissions transports found unpublished prepared revises submitted live free
      owner committed =>
    have differ : key ≠ nonceKey record := by
      rintro rfl
      rw [free] at bound
      cases bound
    exact absurd ((get_set_ne _ _ differ).trans bound) released

theorem submitted_keeps (keeps : s.Keeps t) (submitted : s.Submitted id) : t.Submitted id := by
  obtain ⟨record, found, published⟩ := submitted
  obtain ⟨submission, held⟩ := Option.isSome_iff_exists.mp published
  obtain ⟨after, found', kept, _⟩ := keeps id record found
  exact ⟨after, found', by rw [kept submission held]; rfl⟩

/-- The record a claim told its caller to dispatch. -/
def dispatched (answer : Answer Op RestError Outcome) : Option String :=
  match answer.op, answer.result with
  | .claim input _ _ _ _, .ok (.claimed _ true) => some input.id
  | _, _ => none

theorem dispatched_step {answer : Answer Op RestError Outcome} (owned : s.Owned)
    (performed : Performs (perform encoding codec) s answer t) (asked : dispatched answer = some id) :
    ¬ s.Submitted id ∧ t.Submitted id := by
  obtain ⟨op, result⟩ := answer
  unfold dispatched at asked
  split at asked
  · rename_i input first second authority session record claimed answered
    cases asked
    dsimp only at claimed answered
    cases claimed
    cases answered
    obtain ⟨⟨record', dispatch⟩, u, ran, returned⟩ := bind_ok performed.answered
    cases returned
    exact (claim_ok owned ran).2 rfl
  · cases asked

theorem run_owned {history : List (Answer Op RestError Outcome)} (run : Runs encoding codec history s) : s.Owned :=
  run.state_invariant Memory.empty_owned fun owned performed => owned_effect owned (performs_effect owned performed)

theorem run_keeps {history : List (Answer Op RestError Outcome)} (owned : s.Owned)
    (run : Run (Performs (perform encoding codec)) s history t) : s.Keeps t := by
  refine (run.state_invariant (P := fun t => t.Owned ∧ s.Keeps t) ⟨owned, .refl s⟩ ?_).2
  intro state answer next holds performed
  have effect := performs_effect holds.1 performed
  exact ⟨owned_effect holds.1 effect, holds.2.trans (keeps_effect effect)⟩

/-- In every run: a record is dispatched at most once; a published record that has not expired
owns its nonce, under its own commitment, and alone; what was published of a record never
changes, and an expired record stays expired; a nonce is given back only as its owner expires;
and a claim that throws, in any state, leaves the whole store as it was. -/
theorem user_operation_nonce_owned {history : List (Answer Op RestError Outcome)}
    (run : Runs encoding codec history s) :
    (history.filterMap dispatched).Nodup ∧
    (∀ id record submission, s.records.get id = some record → record.submission = some submission →
      record.state ≠ .observed .expired → ∃ entry, s.nonces.get (nonceKey record) = some entry ∧ entry.id = id ∧
        same entry.commitment submission.commitment = true) ∧
    (∀ first second one two, s.records.get first = some one → s.records.get second = some two → first ≠ second →
      one.submission.isSome = true → two.submission.isSome = true → one.state ≠ .observed .expired →
      two.state ≠ .observed .expired → nonceKey one ≠ nonceKey two) ∧
    (∀ later t, Run (Performs (perform encoding codec)) s later t → ∀ id record, s.records.get id = some record →
      ∃ after, t.records.get id = some after ∧
        (∀ submission, record.submission = some submission → after.submission = some submission) ∧
        (record.state = .observed .expired → after.state = .observed .expired)) ∧
    (∀ answer t, Performs (perform encoding codec) s answer t → ∀ key entry, s.nonces.get key = some entry →
      t.nonces.get key ≠ some entry → ∃ before after, s.records.get entry.id = some before ∧ nonceKey before = key ∧
        before.state ≠ .observed .expired ∧ t.records.get entry.id = some after ∧ after.state = .observed .expired) ∧
    ∀ input first second authority session error t,
      (perform encoding codec (.claim input first second authority session)).run s = .error error t → t = s := by
  have owned := run_owned run
  refine ⟨?_, owned.owns, ?_, ?_, ?_, ?_⟩
  · exact run.marks_nodup Memory.empty_owned
      (fun owned performed => owned_effect owned (performs_effect owned performed))
      (fun owned performed asked => (dispatched_step owned performed asked).1)
      (fun owned performed asked => (dispatched_step owned performed asked).2)
      (fun owned performed submitted => submitted_keeps (keeps_effect (performs_effect owned performed)) submitted)
  · intro first second one two found found' differ submitted submitted' live live' shared
    exact differ (owned.exclusive found found' submitted submitted' live live' shared)
  · intro later t onwards
    exact run_keeps owned onwards
  · intro answer t performed key entry bound released
    exact release_effect owned (performs_effect owned performed) bound released
  · intro input first second authority session error t failed
    refine atomic_bind claim_atomic ?_ error t failed
    intro _ u _ e t failed
    cases failed

theorem clone_accepts {α : Type} {bytes : α → Nat} {value : α} (room : bytes value ≤ maximumBytes) :
    clone bytes value = .ok value := by
  simp [clone, refuse, Nat.not_lt.mpr room, bind, Except.bind, pure, Except.pure]

theorem create_stores {now : Int} (new : assertNew encoding codec record now = .ok ())
    (room : encoding.record record ≤ maximumBytes)
    (unprepared : s.preparations.get (preparationKey record.actor record.preparationKey) = none)
    (absent : s.records.has record.id = false) (few : s.records.values.length < recordsPerAccount) :
    (perform encoding codec (.create record now now (.ok ()) (.ok ()))).run s = .ok (.record record) { s with
      preparations := s.preparations.set (preparationKey record.actor record.preparationKey) record.id
      records := s.records.set record.id record } := by
  have copied : clone encoding.record record = .ok record := clone_accepts room
  have spare : refuse (recordsPerAccount ≤
        (s.records.values.filter (fun other => other.actor.accountId = record.actor.accountId)).length)
      (fail "USER_OPERATION_STORAGE_LIMIT" "Account UserOperation record capacity reached." 429) = .ok () := by
    refine refuse_ok.mpr (decide_eq_false ?_)
    have below := List.length_filter_le (fun other : UserOperationRecord =>
      decide (other.actor.accountId = record.actor.accountId)) s.records.values
    omega
  have fresh : refuse (s.records.has record.id) conflict = .ok () := refuse_ok.mpr absent
  refine Fallible.run_map_ok ?_
  unfold Memory.create
  rw [run_check_bind new, run_check_bind copied, run_check_bind rfl]
  refine (run_bind_ok (x := get) (a := s) (t := s) rfl).trans ?_
  rw [unprepared]
  change (check _ >>= _ : StoreM UserOperationRecord).run s = _
  rw [run_check_bind new, run_check_bind rfl, run_check_bind fresh, run_check_bind spare]
  refine (run_bind_ok rfl).trans ((run_bind_ok rfl).trans ?_)
  rw [copied]
  rfl

theorem claim_publishes {published : UserOperationRecord}
    (valid : assertClaim encoding input = .ok ()) (room : encoding.claim input ≤ maximumBytes)
    (found : s.required input.actor input.id = .ok record)
    (unused : s.submissions.get (preparationKey input.actor input.key) = none)
    (accepted : claimed encoding codec record input = .ok (published, true))
    (sessionless : dispatchRecord record input = .ok record) (free : s.nonces.get (nonceKey record) = none)
    (room' : encoding.record published ≤ maximumBytes)
    (wrote : (Memory.publish record published input).run s = .ok ⟨⟩ t) :
    (perform encoding codec (.claim input input.now input.now (.ok ()) (.ok ()))).run s =
      .ok (.claimed published true) t := by
  have copied : clone encoding.claim input = .ok input := clone_accepts room
  have copied' : clone encoding.record published = .ok published := clone_accepts room'
  have keyFree : refuse ((s.submissions.get (preparationKey input.actor input.key)).any (· ≠ input.id)) conflict = .ok () := by
    rw [unused]
    rfl
  have nonceFree : s.assertNonce record input = .ok () := by
    unfold Memory.assertNonce
    rw [free]
    rfl
  have claimed : (Memory.claim encoding codec input input.now input.now (.ok ()) (.ok ())).run s =
      .ok (published, true) t := by
    unfold Memory.claim
    rw [run_check_bind valid, run_check_bind copied, run_check_bind rfl]
    refine (run_bind_ok (x := get) (a := s) (t := s) rfl).trans ?_
    rw [run_check_bind found, run_check_bind keyFree, run_check_bind accepted]
    change (check _ >>= _ : StoreM (UserOperationRecord × Bool)).run s = _
    rw [run_check_bind sessionless, run_check_bind rfl, run_check_bind nonceFree,
      run_check_bind accepted, run_check_bind copied']
    exact (run_bind_ok wrote).trans rfl
  exact (run_bind_ok claimed).trans rfl

def sampleHash : String := String.ofList ('0' :: 'x' :: List.replicate 64 'a')

def sampleAddress : String := String.ofList ('0' :: 'x' :: List.replicate 40 'b')

theorem sampleHash_isHash : isHash sampleHash = true := isHex_replicate 64 (by decide)

theorem sampleAddress_isAddress : isAddress sampleAddress = true := isHex_replicate 40 (by decide)

def sampleEncoding : Encoding := ⟨fun _ => 1, fun _ => 1, fun _ => 1⟩

def sampleCodec : UserOperationCodec where
  parse operation := .ok operation
  hash _ _ _ := .ok sampleHash
  signedCommitment _ _ _ := .ok sampleHash

def sampleOperation (signature : String) : UserOperationV07 where
  sender := sampleAddress
  nonce := "0x7"
  callData := "0x"
  callGasLimit := "0x1"
  verificationGasLimit := "0x1"
  preVerificationGas := "0x1"
  maxFeePerGas := "0x1"
  maxPriorityFeePerGas := "0x1"
  signature := signature

def sampleRecord : UserOperationRecord where
  id := "operation"
  actor := ⟨"account", "principal"⟩
  planId := "plan"
  planCommitment := sampleHash
  stepIndexes := [0]
  chainId := 1
  entryPoint := sampleAddress
  sender := sampleAddress
  operation := sampleOperation "0x"
  operationHash := sampleHash
  preparationKey := "prepare"
  inputHash := sampleHash
  commitment := sampleHash
  accountBindingId := sampleHash
  accountStateHash := sampleHash
  session := none
  gasPolicyId := "gas"
  providerId := "bundler"
  createdAt := 1
  expiresAt := 100
  revision := 0
  state := .prepared
  submission := none
  observation := none

def sampleClaim : UserOperationClaim where
  actor := sampleRecord.actor
  id := "operation"
  key := "publish"
  operation := sampleOperation "0x51"
  signedCommitment := sampleHash
  authorization := ⟨0, 60⟩
  sessionObservationHash := none
  now := 2

theorem same_self (text : String) : same text text = true := by simp [same]

theorem sample_texts : (Transactions.assertActor sampleRecord.actor = .ok () ∧
    Transactions.assertText sampleRecord.id 192 = .ok () ∧ Transactions.assertText sampleRecord.planId 192 = .ok ()) ∧
    Transactions.assertText sampleRecord.gasPolicyId 192 = .ok () ∧
    Transactions.assertText sampleRecord.providerId 192 = .ok () ∧
    assertKey sampleRecord.preparationKey = .ok () ∧ assertKey sampleClaim.key = .ok () := by decide +kernel

theorem sampleRecord_new : assertNew sampleEncoding sampleCodec sampleRecord 2 = .ok () := by
  obtain ⟨⟨actor, id, plan⟩, gas, provider, key, _⟩ := sample_texts
  have parsed : sampleCodec.parse sampleRecord.operation = .ok sampleRecord.operation := rfl
  have hashed : sampleCodec.hash sampleRecord.operation sampleRecord.chainId sampleRecord.entryPoint = .ok sampleHash := rfl
  have session : optionally assertSessionBinding sampleRecord.session = .ok () := rfl
  have copied : clone sampleEncoding.record sampleRecord = .ok sampleRecord := rfl
  unfold assertNew
  rw [actor, id, plan, gas, provider, key, parsed, session, copied]
  refine bind_run rfl (bind_run rfl (bind_run rfl (bind_run rfl (bind_run rfl
    (bind_run rfl (bind_run (refuse_ok.mpr ?_) (bind_run rfl (bind_run (refuse_ok.mpr ?_)
    (bind_run hashed (bind_run (refuse_ok.mpr ?_) rfl))))))))))
  · simp [sampleRecord, sampleHash_isHash, sampleAddress_isAddress, isSafeInteger, maxSafeInteger, isTime]
  · simp [sampleRecord, sampleOperation, same_self]
  · simp [sampleRecord, same_self]

def samplePrepared : Memory :=
  { Memory.empty with
    records := OrderedMap.empty.set "operation" sampleRecord
    preparations := OrderedMap.empty.set ("account", "principal", "prepare") "operation" }

theorem sample_created : (perform sampleEncoding sampleCodec (.create sampleRecord 2 2 (.ok ()) (.ok ()))).run Memory.empty =
    .ok (.record sampleRecord) samplePrepared :=
  create_stores sampleRecord_new (by decide) rfl rfl (by decide)

theorem sampleClaim_valid : assertClaim sampleEncoding sampleClaim = .ok () := by
  obtain ⟨⟨actor, id, _⟩, _, _, _, key⟩ := sample_texts
  unfold assertClaim
  rw [show sampleClaim.actor = sampleRecord.actor from rfl, show sampleClaim.id = sampleRecord.id from rfl, actor, id, key]
  simp [bind, Except.bind, sampleClaim, sampleHash_isHash, refuse, discard, Functor.mapConst, Except.map, clone,
    sampleEncoding, maximumBytes, pure, Except.pure, isSafeInteger, maxSafeInteger, isTime]

def samplePublished : UserOperationRecord :=
  { sampleRecord with
    revision := 1
    state := .submitting
    submission := some ⟨"publish", sampleHash, sampleOperation "0x51", 2, none⟩ }

theorem sample_claimed : claimed sampleEncoding sampleCodec sampleRecord sampleClaim = .ok (samplePublished, true) := by
  have owned : owns sampleRecord sampleClaim.actor = true := by decide
  unfold claimed
  rw [owned]
  simp [bind, Except.bind, sampleClaim, sampleRecord, samplePublished, refuse, sampleCodec, sampleOperation, same_self,
    UserOperationV07.unsigned, dispatchRecord, Sponsorship.assertDispatchAuthorization, discard, Functor.mapConst,
    Except.map, clone, sampleEncoding, maximumBytes, pure, Except.pure, isSafeInteger, maxSafeInteger]

def sampleClaimed : Memory :=
  { samplePrepared with
    records := samplePrepared.records.set "operation" samplePublished
    submissions := OrderedMap.empty.set ("account", "principal", "publish") "operation"
    nonces := OrderedMap.empty.set (nonceKey sampleRecord) ⟨"operation", sampleHash⟩
    transports := OrderedMap.empty.set "plan" (OrderedMap.empty.set 0 ⟨.erc4337, "operation"⟩) }

theorem sample_required : samplePrepared.required sampleClaim.actor sampleClaim.id = .ok sampleRecord := by
  unfold Memory.required
  rw [show sampleClaim.actor = sampleRecord.actor from rfl, show sampleClaim.id = sampleRecord.id from rfl,
    sample_texts.1.1, sample_texts.1.2.1]
  rfl

theorem sample_published : (Memory.publish sampleRecord samplePublished sampleClaim).run samplePrepared =
    .ok ⟨⟩ sampleClaimed := by
  have parameters : Transports.parameters sampleRecord.planId sampleRecord.stepIndexes .erc4337 sampleRecord.id = .ok [0] := by
    unfold Transports.parameters
    rw [sample_texts.1.2.2, sample_texts.1.2.1]
    rfl
  have reserved : (Transports.claim sampleRecord.planId sampleRecord.stepIndexes .erc4337 sampleRecord.id).run
      samplePrepared.transports = .ok ⟨⟩ sampleClaimed.transports := by
    unfold Transports.claim
    rw [run_check_bind parameters]
    rfl
  unfold Memory.publish
  exact (run_bind_ok (Fallible.run_zoom_ok reserved)).trans rfl

theorem sample_reached : ∃ history, Runs sampleEncoding sampleCodec history sampleClaimed ∧
    history.filterMap dispatched = ["operation"] := by
  have created : Performs (perform sampleEncoding sampleCodec) Memory.empty
    ⟨.create sampleRecord 2 2 (.ok ()) (.ok ()), .ok (.record sampleRecord)⟩ samplePrepared := .of_ok sample_created
  have published : Performs (perform sampleEncoding sampleCodec) samplePrepared
    ⟨.claim sampleClaim 2 2 (.ok ()) (.ok ()), .ok (.claimed samplePublished true)⟩ sampleClaimed :=
    .of_ok (claim_publishes sampleClaim_valid (by decide) sample_required rfl sample_claimed rfl rfl (by decide)
      sample_published)
  exact ⟨_, (Run.nil.snoc created).snoc published, rfl⟩

theorem user_operation_nonce_owned_sample : ∃ entry, sampleClaimed.nonces.get (nonceKey samplePublished) = some entry ∧
    entry.id = "operation" ∧ same entry.commitment sampleHash = true := by
  obtain ⟨history, reached, _⟩ := sample_reached
  have found : sampleClaimed.records.get "operation" = some samplePublished := get_set_self _ _ _
  have live : samplePublished.state ≠ .observed .expired := by simp [samplePublished]
  obtain ⟨entry, bound, owner, committed⟩ := (user_operation_nonce_owned reached).2.1 "operation" samplePublished
    ⟨"publish", sampleHash, sampleOperation "0x51", 2, none⟩ found rfl live
  exact ⟨entry, bound, owner, committed⟩

end JBCenter.UserOperations