import JBCenter.Base.Runs
import JBCenter.Sponsorship.Store

/-! The life of a sponsorship record. Whatever the relay answers, late, twice or against what it
said before, a record keeps its submission, and a stored quote keeps what it asks to be paid and
what it pays for; which transaction is which entry settles with the first verification. -/
namespace JBCenter.Sponsorship
open Rest
open QuotedEntry (txUuid)
variable {encoding : Encoding} {record next : SponsorshipRecord} {quote : RelayrQuote}

theorem clone_ok {α : Type} {bytes : α → Nat} {value copy : α} (copied : clone bytes value = .ok copy) : copy = value := by
  unfold clone at copied
  obtain ⟨_, copied⟩ := ok_refuse copied
  cases copied
  rfl

/-- A binding or a fundable quote was verified. -/
def SponsorshipRecord.verified (record : SponsorshipRecord) : Bool :=
  record.quoteBindingVerified.getD false || record.quoteRuntimeVerified.getD false

inductive Settles (encoding : Encoding) (record : SponsorshipRecord) : SponsorshipRecord → Prop where
  | kept : Settles encoding record record
  | verified (stored quote : RelayrQuote) (binding runtime : Bool) (found : record.quote = some stored)
      (bound : quote = stored ∨ record.verified = false ∧ ∃ digest,
        quoteIdentity encoding stored = .ok digest ∧ quoteIdentity encoding quote = .ok digest) :
      Settles encoding record { record with
        revision := record.revision + 1
        quote := some quote
        quoteBindingVerified := some (record.quoteBindingVerified.getD false || binding)
        quoteRuntimeVerified := some (record.quoteRuntimeVerified.getD false || runtime) }
  | quoted (quote : RelayrQuote) (binding runtime : Bool) (absent : record.quote = none) :
      Settles encoding record { record with
        revision := record.revision + 1
        state := .quoted
        quote := some quote
        quoteBindingVerified := some binding
        quoteRuntimeVerified := some runtime }
  | unknown (absent : record.quote = none) :
      Settles encoding record { record with revision := record.revision + 1, state := .submissionUnknown }

theorem assertRebinding_ok {stored : RelayrQuote} {bindingVerified : Bool}
    (rebound : assertRebinding encoding record stored quote bindingVerified = .ok ()) :
    record.verified = false ∧ ∃ digest, quoteIdentity encoding stored = .ok digest ∧
      quoteIdentity encoding quote = .ok digest := by
  unfold assertRebinding at rebound
  obtain ⟨provisional, rebound⟩ := ok_refuse rebound
  obtain ⟨before, identified, rebound⟩ := ok_bind rebound
  obtain ⟨after, identified', rebound⟩ := ok_bind rebound
  obtain ⟨agree, _⟩ := ok_refuse rebound
  simp only [Bool.or_eq_false_iff, decide_eq_false_iff_not, ne_eq, Decidable.not_not] at provisional agree
  refine ⟨?_, before, identified, ?_⟩
  · simp [SponsorshipRecord.verified, provisional.1.1, provisional.1.2]
  · rw [identified', agree]

theorem settled_ok {submissionHash : String} {quote : Option RelayrQuote} {runtimeVerified bindingVerified : Bool}
    (accepted : settled encoding record submissionHash quote runtimeVerified bindingVerified = .ok next) :
    record.submission.isSome = true ∧ Settles encoding record next := by
  unfold settled at accepted
  obtain ⟨submitted, accepted⟩ := ok_refuse accepted
  constructor
  · cases held : record.submission with
    | none => simp [held] at submitted
    | some submission => rfl
  · cases found : record.quote with
    | some stored =>
      cases quote with
      | none =>
        simp only [found] at accepted
        rw [clone_ok accepted]
        exact .kept
      | some quote =>
        simp only [found] at accepted
        split at accepted
        · obtain ⟨_, rebound, accepted⟩ := ok_bind accepted
          split at accepted
          · rw [clone_ok accepted]
            exact .verified stored quote _ _ found (Or.inr (assertRebinding_ok rebound))
          · rw [clone_ok accepted]
            exact .kept
        · split at accepted
          · rw [clone_ok accepted]
            exact .verified stored stored _ _ found (Or.inl rfl)
          · rw [clone_ok accepted]
            exact .kept
    | none =>
      cases quote with
      | some quote =>
        simp only [found] at accepted
        rw [clone_ok accepted]
        exact .quoted quote _ _ found
      | none =>
        simp only [found] at accepted
        split at accepted
        · rw [clone_ok accepted]
          exact .kept
        · rw [clone_ok accepted]
          have unknown : Settles encoding record { record with
              revision := record.revision + 1, state := .submissionUnknown } := .unknown found
          rwa [found] at unknown

/-- What a claim can make of a record: itself again, or its one publication. -/
inductive Claims (record : SponsorshipRecord) (input : SponsorshipClaim) : SponsorshipRecord × Bool → Prop where
  | replayed (submission : Submission) (found : record.submission = some submission)
      (sameKey : submission.key = input.key) : Claims record input (record, false)
  | published (absent : record.submission = none) (prepared : record.state = .prepared) :
      Claims record input ({ record with
        revision := record.revision + 1
        state := .submitting
        submission := some ⟨input.key, input.hash, input.entries, input.now⟩ }, true)

theorem claimed_ok {input : SponsorshipClaim} {result : SponsorshipRecord × Bool}
    (accepted : claimed encoding record input = .ok result) : Claims record input result := by
  unfold claimed at accepted
  obtain ⟨_, accepted⟩ := ok_refuse accepted
  cases found : record.submission with
  | some submission =>
    simp only [found] at accepted
    obtain ⟨agree, accepted⟩ := ok_refuse accepted
    obtain ⟨copy, copied, accepted⟩ := ok_bind accepted
    simp only [Bool.or_eq_false_iff, decide_eq_false_iff_not, ne_eq, Decidable.not_not] at agree
    cases accepted
    rw [clone_ok copied]
    exact .replayed submission found agree.1
  | none =>
    simp only [found] at accepted
    obtain ⟨live, accepted⟩ := ok_refuse accepted
    obtain ⟨_, _, accepted⟩ := ok_bind accepted
    obtain ⟨copy, copied, accepted⟩ := ok_bind accepted
    obtain ⟨entries, copied', accepted⟩ := ok_bind accepted
    simp only [Bool.or_eq_false_iff, decide_eq_false_iff_not, ne_eq, Decidable.not_not] at live
    cases accepted
    rw [clone_ok copied, clone_ok copied']
    exact .published found live.1

theorem observed_ok {revision : Int} {observations : List Payload}
    (accepted : observed encoding record revision observations = .ok next) :
    next = record ∨ next = { record with revision := record.revision + 1, observations } := by
  unfold observed at accepted
  split at accepted
  · exact Or.inl (clone_ok accepted)
  · rename_i current
    rw [Decidable.not_not] at current
    rw [clone_ok accepted, ← current]
    exact Or.inr rfl

/-- What can be asked of a record. -/
inductive Transition where
  | claim (input : SponsorshipClaim)
  | settle (submissionHash : String) (quote : Option RelayrQuote) (runtimeVerified bindingVerified : Bool)
  | observe (revision : Int) (observations : List Payload)

def advance (encoding : Encoding) (record : SponsorshipRecord) : Transition → Except RestError SponsorshipRecord
  | .claim input => do
    let result ← claimed encoding record input
    clone encoding.record result.1
  | .settle submissionHash quote runtimeVerified bindingVerified =>
    settled encoding record submissionHash quote runtimeVerified bindingVerified
  | .observe revision observations => observed encoding record revision observations

def Step (encoding : Encoding) (record : SponsorshipRecord) (transition : Transition) (next : SponsorshipRecord) : Prop :=
  advance encoding record transition = .ok next

/-- What a transition can make of a record. -/
inductive Advances (encoding : Encoding) (record : SponsorshipRecord) : SponsorshipRecord → Prop where
  | kept : Advances encoding record record
  | published (submission : Submission) (absent : record.submission = none) (prepared : record.state = .prepared) :
      Advances encoding record
        { record with revision := record.revision + 1, state := .submitting, submission := some submission }
  | settled {after : SponsorshipRecord} (submitted : record.submission.isSome = true)
      (settles : Settles encoding record after) : Advances encoding record after
  | observed (observations : List Payload) :
      Advances encoding record { record with revision := record.revision + 1, observations }

theorem step_advances {transition : Transition} (taken : Step encoding record transition next) :
    Advances encoding record next := by
  cases transition with
  | claim input =>
    obtain ⟨result, accepted, copied⟩ := ok_bind taken
    rw [clone_ok copied]
    cases claimed_ok accepted with
    | replayed submission found sameKey => exact .kept
    | published absent prepared => exact .published _ absent prepared
  | settle submissionHash quote runtimeVerified bindingVerified =>
    obtain ⟨submitted, settles⟩ := settled_ok taken
    exact .settled submitted settles
  | observe revision observations =>
    obtain rfl | rfl := observed_ok taken
    · exact .kept
    · exact .observed observations

/-- A quoted record has its submission and its quote. -/
def SponsorshipRecord.Coherent (record : SponsorshipRecord) : Prop :=
  record.state = .quoted → record.submission.isSome = true ∧ record.quote.isSome = true

theorem coherent_advances (coherent : record.Coherent) (advances : Advances encoding record next) : next.Coherent := by
  cases advances with
  | kept => exact coherent
  | published submission absent prepared =>
    intro quoted
    cases quoted
  | observed observations => exact coherent
  | settled submitted settles =>
    cases settles with
    | kept => exact coherent
    | verified stored quote binding runtime found bound => exact fun _ => ⟨submitted, rfl⟩
    | quoted quote binding runtime absent => exact fun _ => ⟨submitted, rfl⟩
    | unknown absent =>
      intro quoted
      cases quoted

theorem assertNew_ok {now : Int} (accepted : assertNew encoding record now = .ok ()) :
    record.state = .prepared ∧ record.submission = none ∧ record.quote = none := by
  unfold assertNew at accepted
  iterate 4 obtain ⟨_, _, accepted⟩ := ok_bind accepted
  obtain ⟨checked, _⟩ := ok_refuse accepted
  simp only [Bool.or_eq_false_iff, decide_eq_false_iff_not, ne_eq, Decidable.not_not, Option.isSome_eq_false_iff,
    Option.isNone_iff_eq_none] at checked
  exact ⟨by tauto, by tauto, by tauto⟩

structure Keeps (earlier later : SponsorshipRecord) : Prop where
  submission : ∀ submission, earlier.submission = some submission → later.submission = some submission
  quote : ∀ quote, earlier.quote = some quote → ∃ kept, later.quote = some kept ∧ kept.identity = quote.identity ∧
    (earlier.verified = true → kept = quote)
  flags : earlier.quote.isSome = true →
    (earlier.quoteBindingVerified = some true → later.quoteBindingVerified = some true) ∧
    (earlier.quoteRuntimeVerified = some true → later.quoteRuntimeVerified = some true)
  unquoted : later.quote = none → later.quoteBindingVerified = earlier.quoteBindingVerified ∧
    later.quoteRuntimeVerified = earlier.quoteRuntimeVerified
  state : earlier.submission.isSome = true → earlier.quote.isSome = true → later.state = earlier.state

theorem keeps_same (submission : next.submission = record.submission ∨ record.submission = none)
    (quote : next.quote = record.quote) (binding : next.quoteBindingVerified = record.quoteBindingVerified)
    (runtime : next.quoteRuntimeVerified = record.quoteRuntimeVerified)
    (state : record.submission.isSome = true → record.quote.isSome = true → next.state = record.state) :
    Keeps record next where
  submission held found := by
    obtain same | absent := submission
    · rw [same, found]
    · rw [absent] at found
      cases found
  quote stored found := ⟨stored, by rw [quote, found], rfl, fun _ => rfl⟩
  flags _ := by rw [binding, runtime]; exact ⟨id, id⟩
  unquoted _ := ⟨binding, runtime⟩
  state := state

theorem Keeps.refl (record : SponsorshipRecord) : Keeps record record :=
  keeps_same (Or.inl rfl) rfl rfl rfl fun _ _ => rfl

theorem verified_iff : record.verified = true ↔
    record.quoteBindingVerified = some true ∨ record.quoteRuntimeVerified = some true := by
  unfold SponsorshipRecord.verified
  cases record.quoteBindingVerified <;> cases record.quoteRuntimeVerified <;> simp

theorem Keeps.verified (keeps : Keeps record next) (quoted : record.quote.isSome = true)
    (verified : record.verified = true) : next.verified = true := by
  obtain ⟨binding, runtime⟩ := keeps.flags quoted
  rw [verified_iff] at verified ⊢
  exact verified.imp binding runtime

theorem Keeps.trans {first second third : SponsorshipRecord} (before : Keeps first second) (after : Keeps second third) :
    Keeps first third where
  submission held found := after.submission held (before.submission held found)
  quote stored found := by
    obtain ⟨middle, found', same, kept⟩ := before.quote stored found
    obtain ⟨last, found'', same', kept'⟩ := after.quote middle found'
    refine ⟨last, found'', same'.trans same, fun verified => ?_⟩
    have quoted : first.quote.isSome = true := by rw [found]; rfl
    rw [kept' (before.verified quoted verified), kept verified]
  flags quoted := by
    obtain ⟨binding, runtime⟩ := before.flags quoted
    obtain ⟨stored, found⟩ := Option.isSome_iff_exists.mp quoted
    obtain ⟨middle, found', _⟩ := before.quote stored found
    obtain ⟨binding', runtime'⟩ := after.flags (by rw [found']; rfl)
    exact ⟨binding' ∘ binding, runtime' ∘ runtime⟩
  unquoted absent := by
    have absent' : second.quote = none := by
      cases found : second.quote with
      | none => rfl
      | some stored =>
        obtain ⟨_, found', _⟩ := after.quote stored found
        rw [absent] at found'
        cases found'
    obtain ⟨binding, runtime⟩ := before.unquoted absent'
    obtain ⟨binding', runtime'⟩ := after.unquoted absent
    exact ⟨binding'.trans binding, runtime'.trans runtime⟩
  state submitted quoted := by
    obtain ⟨submission, held⟩ := Option.isSome_iff_exists.mp submitted
    obtain ⟨stored, found⟩ := Option.isSome_iff_exists.mp quoted
    obtain ⟨middle, found', _⟩ := before.quote stored found
    rw [after.state (by rw [before.submission submission held]; rfl) (by rw [found']; rfl), before.state submitted quoted]

/-- No two different identities have one digest. -/
def Encoding.CollisionFree (encoding : Encoding) : Prop :=
  ∀ first second digest, encoding.identity first = .ok digest → encoding.identity second = .ok digest → first = second

theorem keeps_settles (collisionFree : encoding.CollisionFree) (settles : Settles encoding record next) :
    Keeps record next := by
  cases settles with
  | kept => exact .refl record
  | verified stored quote binding runtime found bound =>
    constructor
    case submission => exact fun _ held => held
    case quote =>
      intro held found'
      rw [found] at found'
      cases found'
      refine ⟨quote, rfl, ?_⟩
      obtain rfl | ⟨provisional, digest, before, after⟩ := bound
      · exact ⟨rfl, fun _ => rfl⟩
      · refine ⟨collisionFree _ _ digest after before, fun verified => ?_⟩
        rw [provisional] at verified
        cases verified
    case flags =>
      intro _
      constructor
      · intro set
        simp [set]
      · intro set
        simp [set]
    case unquoted =>
      intro absent
      cases absent
    case state => exact fun _ _ => rfl
  | quoted quote binding runtime absent =>
    constructor
    case submission => exact fun _ held => held
    case quote =>
      intro held found
      rw [absent] at found
      cases found
    case flags =>
      intro quoted
      rw [absent] at quoted
      cases quoted
    case unquoted =>
      intro unquoted
      cases unquoted
    case state =>
      intro _ quoted
      rw [absent] at quoted
      cases quoted
  | unknown absent =>
    refine keeps_same (Or.inl rfl) rfl rfl rfl fun _ quoted => ?_
    rw [absent] at quoted
    cases quoted

theorem keeps_advances (collisionFree : encoding.CollisionFree) (advances : Advances encoding record next) :
    Keeps record next := by
  cases advances with
  | kept => exact .refl record
  | published submission absent prepared =>
    refine keeps_same (Or.inr absent) rfl rfl rfl fun submitted _ => ?_
    rw [absent] at submitted
    cases submitted
  | settled submitted settles => exact keeps_settles collisionFree settles
  | observed observations => exact keeps_same (Or.inl rfl) rfl rfl rfl fun _ _ => rfl

theorem keeps_run {history : List Transition} (collisionFree : encoding.CollisionFree)
    (run : Run (Step encoding) record history next) : Keeps record next :=
  run.relates Keeps.refl Keeps.trans fun taken => keeps_advances collisionFree (step_advances taken)

theorem transactionIds_perm {kept : RelayrQuote} (same : kept.identity = quote.identity) :
    (kept.entries.map txUuid).Perm (quote.entries.map txUuid) := by
  have sorted : (kept.entries.map txUuid).insertionSort (· ≤ ·) =
      (quote.entries.map txUuid).insertionSort (· ≤ ·) := congrArg QuoteIdentity.transactionIds same
  have before := List.perm_insertionSort (· ≤ ·) (kept.entries.map txUuid)
  rw [sorted] at before
  exact before.symm.trans (List.perm_insertionSort _ _)

/-- From a record as it is created, between any two points of any run: the submission stays, and
once a quote is stored what it asks to be paid and the calls it pays for stay, in their order.
Which transaction is which entry settles with the first verification, and no verification is
taken back. A flag is compared from the stored quote on, or from a creation without it. -/
theorem record_lifecycle {start final : SponsorshipRecord} {now : Int} {history further : List Transition}
    (collisionFree : encoding.CollisionFree) (created : assertNew encoding start now = .ok ())
    (reached : Run (Step encoding) start history record) (onwards : Run (Step encoding) record further final) :
    (∀ submission, record.submission = some submission → final.submission = some submission) ∧
    (∀ quote, record.quote = some quote → ∃ kept, final.quote = some kept ∧ kept.bundleUuid = quote.bundleUuid ∧
      kept.payments = quote.payments ∧
      kept.entries.map QuotedEntry.entry = quote.entries.map QuotedEntry.entry ∧
      (kept.entries.map txUuid).Perm (quote.entries.map txUuid) ∧
      (record.quoteBindingVerified = some true ∨ record.quoteRuntimeVerified = some true →
        kept.entries = quote.entries)) ∧
    (record.quote.isSome = true ∨ start.quoteBindingVerified ≠ some true →
      record.quoteBindingVerified = some true → final.quoteBindingVerified = some true) ∧
    (record.quote.isSome = true ∨ start.quoteRuntimeVerified ≠ some true →
      record.quoteRuntimeVerified = some true → final.quoteRuntimeVerified = some true) ∧
    (record.state = .quoted → final.state = .quoted) := by
  have earlier := keeps_run collisionFree reached
  have keeps := keeps_run collisionFree onwards
  obtain ⟨prepared, _, _⟩ := assertNew_ok created
  have coherent : record.Coherent :=
    reached.state_invariant (P := SponsorshipRecord.Coherent) (fun quoted => by rw [prepared] at quoted; cases quoted)
      fun coherent taken => coherent_advances coherent (step_advances taken)
  have unquoted : record.quote.isSome = true ∨ record.quoteBindingVerified = start.quoteBindingVerified ∧
      record.quoteRuntimeVerified = start.quoteRuntimeVerified := by
    cases found : record.quote with
    | some stored => exact Or.inl rfl
    | none => exact Or.inr (earlier.unquoted found)
  refine ⟨keeps.submission, ?_, ?_, ?_, ?_⟩
  · intro quote found
    obtain ⟨kept, found', same, settled⟩ := keeps.quote quote found
    refine ⟨kept, found', congrArg QuoteIdentity.bundleUuid same, congrArg QuoteIdentity.payments same,
      congrArg QuoteIdentity.entries same, transactionIds_perm same, fun verified => ?_⟩
    rw [settled (verified_iff.mpr verified)]
  · rintro scope set
    obtain quoted | ⟨same, _⟩ := unquoted
    · exact (keeps.flags quoted).1 set
    · obtain quoted | unset := scope
      · exact (keeps.flags quoted).1 set
      · exact absurd (same ▸ set) unset
  · rintro scope set
    obtain quoted | ⟨_, same⟩ := unquoted
    · exact (keeps.flags quoted).2 set
    · obtain quoted | unset := scope
      · exact (keeps.flags quoted).2 set
      · exact absurd (same ▸ set) unset
  · intro quoted
    obtain ⟨submitted, stored⟩ := coherent quoted
    rw [keeps.state submitted stored, quoted]

def sampleHash : String := "0x" ++ String.ofList (List.replicate 64 'a')

def sampleAddress (digit : Char) : String := "0x" ++ String.ofList (List.replicate 40 digit)

def sampleEntry (chain : Int) : RelayrEntry := ⟨chain, sampleAddress 'f', "0x", "0", 0⟩

/-- A quote of two entries, with their transactions in the order given. -/
def sampleQuote (first second commitment : String) : RelayrQuote where
  bundleUuid := "bundle"
  entries := [⟨first, sampleEntry 1⟩, ⟨second, sampleEntry 10⟩]
  payments := [⟨1, sampleAddress '3', "0x", "7", "9"⟩]
  observedAt := 3
  commitment := commitment

/-- Digests that only the sample identity has. -/
def sampleEncoding : Encoding where
  record _ := 1
  claim _ := 1
  entries _ := 1
  payload payload := .ok (if (payload.entries.map txUuid) = ["a", "b"] then "0xab" else "0xba")
  identity identity :=
    if identity = (sampleQuote "a" "b" "0xab").identity then .ok "0x1d" else .error conflict

theorem sampleEncoding_collisionFree : sampleEncoding.CollisionFree := by
  intro first second digest identified identified'
  simp only [sampleEncoding] at identified identified'
  split at identified
  · split at identified'
    · rename_i same same'
      rw [same, same']
    · cases identified'
  · cases identified

def sampleRecord : SponsorshipRecord where
  id := "sponsorship"
  actor := ⟨"account", "principal"⟩
  planId := "plan"
  planCommitment := sampleHash
  preparationKey := "prepare"
  inputHash := sampleHash
  commitment := sampleHash
  requests := [⟨0, 1, sampleAddress 'f', ⟨sampleAddress '1', sampleAddress '2', "0", "21000", "4", "9", "0x"⟩, "reviewed"⟩]
  createdAt := 1
  expiresAt := 100
  revision := 0
  state := .prepared
  submission := none
  quote := none
  quoteBindingVerified := none
  quoteRuntimeVerified := none
  observations := []

def sampleSubmission : Submission := ⟨"publish", "0xcd", [sampleEntry 1, sampleEntry 10], 2⟩

def sampleQuoted (revision : Int) (quote : RelayrQuote) (verified : Bool) : SponsorshipRecord :=
  { sampleRecord with
    revision, state := .quoted, submission := some sampleSubmission, quote := some quote
    quoteBindingVerified := some verified, quoteRuntimeVerified := some false }

def sampleClaim : SponsorshipClaim :=
  ⟨sampleRecord.actor, sampleRecord.id, "publish", "0xcd", [sampleEntry 1, sampleEntry 10], 2, none⟩

theorem sample_published : Run (Step sampleEncoding) sampleRecord
    [.claim sampleClaim, .settle "0xcd" (some (sampleQuote "b" "a" "0xba")) false false]
    (sampleQuoted 2 (sampleQuote "b" "a" "0xba") false) := by
  have published : Step sampleEncoding sampleRecord (.claim sampleClaim)
      { sampleRecord with revision := 1, state := .submitting, submission := some sampleSubmission } := rfl
  exact (Run.nil.snoc published).snoc rfl

theorem sample_rebound : Run (Step sampleEncoding) (sampleQuoted 2 (sampleQuote "b" "a" "0xba") false)
    [.settle "0xcd" (some (sampleQuote "a" "b" "0xab")) false true]
    (sampleQuoted 3 (sampleQuote "a" "b" "0xab") true) :=
  Run.nil.snoc rfl

theorem record_lifecycle_sample : ∃ kept,
    (sampleQuoted 3 (sampleQuote "a" "b" "0xab") true).quote = some kept ∧
    kept.bundleUuid = "bundle" ∧ kept.payments = (sampleQuote "b" "a" "0xba").payments ∧
    kept.entries.map QuotedEntry.entry = [sampleEntry 1, sampleEntry 10] ∧
    (kept.entries.map txUuid).Perm ["b", "a"] := by
  have created : assertNew sampleEncoding sampleRecord 2 = .ok () := by decide +kernel
  obtain ⟨_, quoted, _⟩ := record_lifecycle sampleEncoding_collisionFree created sample_published sample_rebound
  obtain ⟨kept, found, bundle, payments, entries, permuted, _⟩ := quoted _ rfl
  exact ⟨kept, found, bundle, payments, entries, permuted⟩

end JBCenter.Sponsorship
