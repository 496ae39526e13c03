import JBCenter.Rest.Decimals
import JBCenter.Transactions.Atomicity
import JBCenter.Transactions.Bound
import JBCenter.Transactions.Refresh

/-! The refresh of a plan and the store agree. Whatever the chain and the observers answer, the observations that the
refresh sends have the shape the store asks of them, and a step is settled only with its proof. -/
namespace JBCenter.Transactions
open Rest
variable {service : RefreshService} {bytes : JsonBytes}

theorem hexDigit_value {c : Char} (hexadecimal : isHexDigit c = true) :
    (if isDigit c then c.toNat - '0'.toNat
      else if inRange 'a' 'f' c then c.toNat - 'a'.toNat + 10 else c.toNat - 'A'.toNat + 10) < 16 := by
  have zero : '0'.toNat = 48 := rfl
  have nine : '9'.toNat = 57 := rfl
  have a : 'a'.toNat = 97 := rfl
  have f : 'f'.toNat = 102 := rfl
  have upperA : 'A'.toNat = 65 := rfl
  have upperF : 'F'.toNat = 70 := rfl
  simp only [isHexDigit, isDigit, inRange, Bool.or_eq_true, Bool.and_eq_true, decide_eq_true_eq] at *
  split <;> rename_i first
  · omega
  · split <;> omega

theorem hexFold_lt {digit : Char → Nat} {digits : List Char} (digital : ∀ c ∈ digits, digit c < 16) {value bound : Nat}
    (small : value < bound) :
    digits.foldl (fun value c => 16 * value + digit c) value < bound * 16 ^ digits.length := by
  induction digits generalizing value bound with
  | nil => simpa using small
  | cons c rest ih =>
    obtain ⟨first, others⟩ := List.forall_mem_cons.mp digital
    have grown : 16 * value + digit c < bound * 16 := by omega
    have next := ih others grown
    rwa [Nat.mul_assoc, ← Nat.pow_succ'] at next

theorem utf16Length_ge (text : String) : text.toList.length ≤ utf16Length text := by
  unfold utf16Length
  induction text.toList with
  | nil => exact Nat.le_refl _
  | cons c rest ih =>
    rw [List.map_cons, List.sum_cons, List.length_cons]
    split <;> omega

theorem quantity_ok {value : Option Json} {number : Nat} (read : quantity value = .ok number) : number < 2 ^ 256 := by
  unfold quantity at read
  split at read
  · rename_i text
    split at read
    · cases read
    · rename_i accepted
      cases read
      simp only [Bool.or_eq_true, decide_eq_true_eq, Bool.not_eq_true', not_or, Nat.not_lt, Bool.not_eq_false] at accepted
      have short := (utf16Length_ge text).trans accepted.1
      have shape := accepted.2
      unfold isQuantity at shape
      unfold UserOperations.hexValue
      split at shape
      · rename_i spelled
        rw [spelled]
        decide
      · rename_i first rest _ spelled
        rw [spelled] at short ⊢
        simp only [Bool.and_eq_true, List.all_eq_true, List.length_cons] at shape short
        have hexadecimal : ∀ c ∈ first :: rest, isHexDigit c = true := List.forall_mem_cons.mpr ⟨shape.1.1, shape.2⟩
        refine Nat.lt_of_lt_of_le (hexFold_lt (fun c member => hexDigit_value (hexadecimal c member)) Nat.one_pos) ?_
        rw [Nat.one_mul, List.length_cons]
        calc 16 ^ (rest.length + 1) ≤ 16 ^ 64 := Nat.pow_le_pow_right (by decide) (by omega)
          _ = 2 ^ 256 := by decide
      · cases shape
  · cases read

/-- The clock shows times that the store accepts. -/
def Replies.Timed (replies : Replies) : Prop := ∀ look, isSafeInteger (replies.now look) = true ∧ 0 ≤ replies.now look

theorem countConfirmations_safe (canonical : Bool) (head blockNumber : Nat) :
    isSafeInteger (countConfirmations canonical head blockNumber) = true ∧
      0 ≤ countConfirmations canonical head blockNumber := by
  unfold countConfirmations isSafeInteger maxSafeInteger
  split
  · rename_i counted
    simp only [Bool.and_eq_true, decide_eq_true_eq] at counted ⊢
    omega
  · decide

theorem isHex_nonempty {digits : Nat} {text : String} (hexadecimal : isHex digits text = true) : text ≠ "" := by
  rintro rfl
  cases hexadecimal

variable {receipt : StoredReceipt}

theorem observeReceipt_ok {replies : Replies} {first : Nat} {chainId : Int} {hash : String}
    (timed : replies.Timed) (hexadecimal : isHex 64 hash = true)
    (observed : observeReceipt service replies first chainId hash = .ok (some receipt)) :
    receipt.transactionHash = hash ∧ SoundReceipt (some hash) receipt := by
  unfold observeReceipt at observed
  obtain ⟨reply, _, observed⟩ := ok_bind observed
  iterate 3 obtain ⟨_, _, observed⟩ := ok_bind observed
  split at observed
  · cases observed
  · obtain ⟨placed, found, same⟩ := except_map_ok observed
    cases same
    obtain ⟨chain, read, found⟩ := ok_bind found
    unfold placedReceipt at found
    iterate 4 obtain ⟨_, _, found⟩ := ok_bind found
    cases found
    have shaped : isHex 64 chain.blockHash = true ∧ chain.blockNumber < 2 ^ 256 := by
      unfold readReceipt at read
      split at read
      · split at read
        · rename_i blockHash _ _ _ _ held _ _
          obtain ⟨_, read⟩ := ok_refuse read
          obtain ⟨number, counted, read⟩ := ok_bind read
          cases read
          exact ⟨(Option.filter_eq_some_iff.mp held).2, quantity_ok counted⟩
        · cases read
      · cases read
    exact ⟨rfl, ⟨hash, rfl, isHex_nonempty hexadecimal, rfl⟩, shaped.1, isUint256_toString shaped.2,
      countConfirmations_safe _ _ _, timed first⟩

/-- What settles a step: the canonical receipt of its hash with enough blocks on it, or the observer's verdict that
nothing was ever published. -/
inductive Settled (service : RefreshService) (replies : Replies) (external : ExternalExecution) (new : StoredStep) : Prop where
  | proven (hash : String) (receipt : StoredReceipt) (first : Nat) (required : Int)
    (bound : new.externalExecution = some { external with transactionHash := some hash })
    (observed : observeReceipt service replies first external.chainId hash = .ok (some receipt))
    (stored : new.receipt = some (compactReceipt service receipt)) (canonical : receipt.canonical = true)
    (policy : service.confirmations external.chainId = .ok required) (enough : required ≤ receipt.confirmations)
    (confirmed : new.state = .confirmed → receipt.status = .success)
    (reverted : new.state = .reverted → receipt.status = .reverted ∨
      ∃ details, new.semantic = some ⟨.failed, details⟩)
  | unpublished (observation : ExternalExecutionObservation) (answered : replies.observation = .ok observation)
    (expired : observation.state = .expired) (state : new.state = .reverted)
    (bound : new.externalExecution = some { external with transactionHash := none }) (receipt : new.receipt = none)
    (semantic : ∃ details, new.semantic = some ⟨.failed, details⟩)

structure Carries (external : ExternalExecution) (hash : Option String) (step new : StoredStep) : Prop where
  index : new.index = step.index
  attempt : new.attempt = step.attempt
  bound : new.externalExecution = some { external with transactionHash := hash }
  hexadecimal : ∀ text, hash = some text → isHex 64 text = true
  receipt : ∀ receipt, new.receipt = some receipt → SoundReceipt hash receipt

def Refreshed (service : RefreshService) (replies : Replies) (external : ExternalExecution) (step new : StoredStep) : Prop :=
  (∃ hash, Carries external hash step new) ∧
    (new.state = .confirmed ∨ new.state = .reverted → Settled service replies external new)

section Step
variable {replies : Replies} {plan : StoredPlan} {draft : PlanDraft} {i : Nat} {step base : StoredStep}
  {external : ExternalExecution} {observation : ExternalExecutionObservation} {hash : Option String}

theorem SoundReceipt.compact (sound : SoundReceipt hash receipt) :
    SoundReceipt hash (compactReceipt service receipt) :=
  ⟨sound.bound, sound.blockHash, sound.blockNumber, sound.confirmations, sound.observedAt⟩

theorem SoundReceipt.reorged (sound : SoundReceipt hash receipt) (timed : replies.Timed) :
    SoundReceipt hash (reorgedReceipt replies receipt) :=
  ⟨sound.bound, sound.blockHash, sound.blockNumber, ⟨(by decide : isSafeInteger 0 = true), Int.le_refl 0⟩, timed 8⟩

theorem Carries.with (carries : Carries external hash step base) {receipt : Option StoredReceipt}
    (sound : ∀ held, receipt = some held → SoundReceipt hash held) (state : StepState) (semantic : Option SemanticResult) :
    Carries external hash step { base with state, receipt, semantic } :=
  ⟨carries.index, carries.attempt, carries.bound, carries.hexadecimal, sound⟩

theorem Refreshed.open (carries : Carries external hash step base) {new : StoredStep}
    (same : new = { base with state := new.state, receipt := new.receipt, semantic := new.semantic })
    (sound : ∀ held, new.receipt = some held → SoundReceipt hash held)
    (unsettled : new.state ≠ .confirmed ∧ new.state ≠ .reverted) : Refreshed service replies external step new := by
  refine ⟨⟨hash, ?_⟩, fun settled => absurd settled (not_or.mpr unsettled)⟩
  rw [same]
  exact carries.with sound _ _

theorem SoundBinding.carries (sound : SoundBinding draft i step external) (bound : step.externalExecution = some external) :
    Carries external external.transactionHash step step :=
  ⟨rfl, rfl, bound, sound.hash, sound.receipt⟩

theorem unknownStep_refreshed (sound : SoundBinding draft i step external)
    (bound : step.externalExecution = some external) (details : String) :
    Refreshed service replies external step (unknownStep step details) :=
  .open (sound.carries bound) rfl sound.receipt ⟨nofun, nofun⟩

theorem baseStep_carries (sound : SoundBinding draft i step external) {text : String} (hexadecimal : isHex 64 text = true) :
    Carries external (some text) step (baseStep step external (some text)) := by
  refine ⟨rfl, rfl, rfl, fun other same => by cases same; exact hexadecimal, ?_⟩
  intro receipt held
  obtain ⟨stored, equal⟩ := Option.filter_eq_some_iff.mp held
  have shape := sound.receipt receipt stored
  exact ⟨⟨text, rfl, isHex_nonempty hexadecimal, by simpa [same] using equal⟩, shape.blockHash, shape.blockNumber,
    shape.confirmations, shape.observedAt⟩

theorem baseStep_none (sound : SoundBinding draft i step external) :
    Carries external external.transactionHash step (baseStep step external none) := by
  refine ⟨rfl, rfl, rfl, sound.hash, ?_⟩
  intro receipt held
  obtain ⟨_, equal⟩ := Option.filter_eq_some_iff.mp held
  cases equal

theorem unpublished_refreshed (sound : SoundBinding draft i step external)
    (answered : replies.observation = .ok observation) :
    Refreshed service replies external step (unpublished (baseStep step external none) external observation) := by
  have carries := baseStep_none sound
  have receipt : (baseStep step external none).receipt = none := by
    cases held : (baseStep step external none).receipt with
    | none => rfl
    | some receipt =>
      obtain ⟨_, equal⟩ := Option.filter_eq_some_iff.mp held
      cases equal
  unfold unpublished
  split
  · rename_i expired
    refine ⟨⟨none, rfl, rfl, rfl, nofun, ?_⟩, fun _ => ?_⟩
    · intro held present
      rw [receipt] at present
      cases present
    · exact .unpublished observation answered expired rfl rfl receipt ⟨_, rfl⟩
  · refine .open carries rfl carries.receipt ?_
    simp only
    split <;> exact ⟨nofun, nofun⟩

theorem missingReceipt_refreshed (timed : replies.Timed) (carries : Carries external hash step base) {new : StoredStep}
    (missed : missingReceipt replies base external observation = .ok new) :
    Refreshed service replies external step new := by
  unfold missingReceipt at missed
  split at missed
  · cases missed
    refine .open carries rfl carries.receipt ?_
    simp only
    split <;> exact ⟨nofun, nofun⟩
  · rename_i receipt held
    obtain ⟨replaced, _, missed⟩ := ok_bind missed
    cases replaced with
    | true =>
      cases missed
      refine .open carries rfl ?_ ⟨nofun, nofun⟩
      intro other same
      cases same
      exact (carries.receipt receipt held).reorged timed
    | false =>
      cases missed
      exact .open carries rfl carries.receipt ⟨nofun, nofun⟩

theorem observedExecution_refreshed {text : String} (carries : Carries external (some text) step base)
    {first : Nat} (observed : observeReceipt service replies first external.chainId text = .ok (some receipt))
    (sound : SoundReceipt (some text) receipt) {new : StoredStep}
    (executed : observedExecution service replies base external observation text receipt = .ok new) :
    Refreshed service replies external step new := by
  have compact : ∀ held, some (compactReceipt service receipt) = some held → SoundReceipt (some text) held := by
    intro held same
    cases same
    exact sound.compact
  unfold observedExecution at executed
  simp only at executed
  split at executed
  · cases executed
    exact .open carries rfl compact ⟨nofun, nofun⟩
  rename_i canonical
  simp only [Bool.not_eq_true', Bool.not_eq_false] at canonical
  obtain ⟨required, policy, executed⟩ := ok_bind executed
  split at executed
  · cases executed
    exact .open carries rfl compact ⟨nofun, nofun⟩
  rename_i enough
  split at executed
  · rename_i status
    cases executed
    exact ⟨⟨_, carries.with compact _ _⟩, fun _ => .proven text receipt first required carries.bound observed rfl
      canonical policy (Int.not_lt.mp enough) nofun (fun _ => Or.inl status)⟩
  rename_i unreverted
  split at executed
  · cases executed
    exact .open carries rfl compact ⟨nofun, nofun⟩
  split at executed
  · cases executed
    exact ⟨⟨_, carries.with compact _ _⟩, fun _ => .proven text receipt first required carries.bound observed rfl
      canonical policy (Int.not_lt.mp enough) nofun (fun _ => Or.inr ⟨_, rfl⟩)⟩
  · obtain ⟨semantic, _, executed⟩ := ok_bind executed
    cases executed
    have success : receipt.status = .success := by
      cases status : receipt.status with
      | success => rfl
      | reverted => exact absurd status unreverted
    exact ⟨⟨_, carries.with compact _ _⟩, fun _ => .proven text receipt first required carries.bound observed rfl
      canonical policy (Int.not_lt.mp enough) (fun _ => success) nofun⟩

theorem present_some {text : Option String} {value : String} (set : present text = some value) : text = some value :=
  (Option.filter_eq_some_iff.mp set).1

theorem observedHash_hex (sound : SoundBinding draft i step external)
    (asserted : assertObservation plan step external observation = .ok ()) {text : String}
    (hashed : observedHash external observation = some text) : isHex 64 text = true := by
  unfold observedHash at hashed
  split at hashed
  · cases hashed
  · have either := present_some hashed
    have shape := refuse_ok.mp asserted
    simp only [Bool.or_eq_false_iff] at shape
    cases reported : observation.hash with
    | none =>
      rw [reported, Option.none_or] at either
      exact sound.hash text either
    | some hash =>
      rw [reported] at either shape
      cases either
      simpa using shape.2

theorem retained_refreshed (timed : replies.Timed) (sound : SoundBinding draft i step external)
    (bound : step.externalExecution = some external) {kept : StoredStep}
    (retaining : retainedStep service replies step external hash = .ok (some kept)) :
    Refreshed service replies external step kept := by
  unfold retainedStep at retaining
  split at retaining
  · rename_i earlier found
    obtain ⟨text, receipt⟩ := earlier
    have stored : external.transactionHash = some text := by
      unfold earlierExecution at found
      split at found
      · rename_i held _
        split at found
        · cases found
          exact present_some held
        · cases found
      · cases found
    unfold retained at retaining
    obtain ⟨prior, observed, retaining⟩ := ok_bind retaining
    split at retaining
    · cases retaining
    · rename_i prior' accepted
      obtain ⟨rfl, checks⟩ := Option.filter_eq_some_iff.mp accepted
      simp only [Bool.and_eq_true, decide_eq_true_eq] at checks
      obtain ⟨semantic, _, retaining⟩ := ok_bind retaining
      obtain ⟨required, policy, retaining⟩ := ok_bind retaining
      cases retaining
      have shape := (observeReceipt_ok timed (sound.hash text stored) observed).2
      have carries := sound.carries bound
      rw [stored] at carries
      have compact : ∀ held, some (compactReceipt service prior') = some held → SoundReceipt (some text) held := by
        intro held same
        cases same
        exact shape.compact
      refine ⟨⟨_, carries.with compact _ _⟩, fun settled => ?_⟩
      simp only at settled
      split at settled
      · rcases settled with settled | settled <;> cases settled
      · rename_i enough
        refine .proven text prior' 0 required carries.bound observed rfl checks.1.1 policy (Int.not_lt.mp enough)
          (fun _ => checks.1.2) ?_
        simp only
        rw [if_neg enough]
        exact nofun
  · cases retaining

theorem refreshExternalStep_refreshed (timed : replies.Timed) (sound : SoundBinding draft i step external)
    (bound : step.externalExecution = some external) :
    Refreshed service replies external step (refreshExternalStep service replies plan step external) := by
  unfold refreshExternalStep
  split
  · exact unknownStep_refreshed sound bound _
  split
  · rename_i refreshed verified
    unfold verifyExternalStep at verified
    obtain ⟨observation, answered, verified⟩ := ok_bind verified
    obtain ⟨_, asserted, verified⟩ := ok_bind verified
    obtain ⟨kept, retaining, verified⟩ := ok_bind verified
    split at verified
    · cases verified
      exact retained_refreshed timed sound bound retaining
    · unfold observedStep at verified
      simp only at verified
      split at verified
      · rename_i unhashed
        cases verified
        rw [unhashed]
        exact unpublished_refreshed sound answered
      · rename_i text hashed
        rw [hashed] at verified
        have hexadecimal := observedHash_hex sound asserted hashed
        obtain ⟨receipt, observed, verified⟩ := ok_bind verified
        split at verified
        · exact missingReceipt_refreshed timed (baseStep_carries sound hexadecimal) verified
        · exact observedExecution_refreshed (baseStep_carries sound hexadecimal) observed
            (observeReceipt_ok timed hexadecimal observed).2 verified
  · exact unknownStep_refreshed sound bound _

end Step

/-- Only the size of a document can refuse it. -/
def OnlyTooLarge {α : Type} (answer : Except RestError α) : Prop := ∀ error, answer = .error error → error = storageLimit

variable {α : Type}

theorem OnlyTooLarge.ok {value : α} : OnlyTooLarge (.ok value) := nofun

theorem OnlyTooLarge.bind {β : Type} {answer : Except RestError α} {next : α → Except RestError β}
    (first : OnlyTooLarge answer) (rest : ∀ value, answer = .ok value → OnlyTooLarge (next value)) :
    OnlyTooLarge (answer >>= next) := by
  intro error failed
  obtain refused | ⟨value, accepted, refused⟩ := except_bind_error failed
  · exact first error refused
  · exact rest value accepted error refused

theorem OnlyTooLarge.refuse_bind {β : Type} {bad : Bool} {error : RestError} {next : Unit → Except RestError β}
    (good : bad = false) (rest : OnlyTooLarge (next ())) : OnlyTooLarge (refuse bad error >>= next) := by
  rw [good]
  exact rest

theorem OnlyTooLarge.accepted {β : Type} {check : Except RestError Unit} {next : Unit → Except RestError β}
    (passed : check = .ok ()) (rest : OnlyTooLarge (next ())) : OnlyTooLarge (check >>= next) := by
  rw [passed]
  exact rest

theorem boundedClone_onlyTooLarge (size : α → Nat) (value : α) : OnlyTooLarge (boundedClone size value) := by
  intro error failed
  unfold boundedClone at failed
  obtain same | ⟨_, failed⟩ := refuse_bind_error failed
  · exact same
  · cases failed

theorem discard_onlyTooLarge {answer : Except RestError α} (only : OnlyTooLarge answer) :
    OnlyTooLarge (discard answer) := by
  cases answer with
  | ok => exact nofun
  | error refused =>
    intro error failed
    cases failed
    exact only refused rfl

theorem optionally_onlyTooLarge {check : α → Except RestError Unit} {value : Option α}
    (only : ∀ held, value = some held → OnlyTooLarge (check held)) : OnlyTooLarge (optionally check value) := by
  cases value with
  | none => exact nofun
  | some held => exact only held rfl

/-- An observation in the shape the store asks. -/
structure Acceptable (update : ExternalStepObservation) : Prop where
  state : update.state ≠ .waiting
  hash : ∀ hash, update.transactionHash = some hash → isHex 64 hash = true
  receipt : ∀ receipt, update.receipt = some receipt → SoundReceipt update.transactionHash receipt
  confirmed : update.state = .confirmed →
    update.receipt.any (fun receipt => receipt.canonical && receipt.status = .success) = true
  reverted : update.state = .reverted →
    (update.receipt = none ∧ semanticFailed update = true ∧ update.transactionHash = none) ∨
      update.receipt.any (fun receipt => receipt.canonical && (receipt.status = .reverted || semanticFailed update)) = true

theorem assertExternalReceipt_accepts {hash : Option String} (sound : SoundReceipt hash receipt) :
    OnlyTooLarge (assertExternalReceipt bytes hash receipt) := by
  obtain ⟨text, rfl, nonempty, equal⟩ := sound.bound
  unfold assertExternalReceipt
  refine .refuse_bind ?_ (.accepted ?_ (discard_onlyTooLarge (boundedClone_onlyTooLarge _ _)))
  · have long : ¬ text.length < 1 := by
      intro short
      exact nonempty (String.length_eq_zero_iff.mp (by omega))
    simp only [long, equal, sound.blockHash, sound.blockNumber, sound.confirmations.1, Int.not_lt.mpr sound.confirmations.2,
      decide_false, ne_eq, not_true_eq_false, Bool.or_false, Bool.not_true]
  · exact refuse_ok.mpr (by simp [sound.observedAt.1, sound.observedAt.2])

def recordedStep (bindingId : String) (external : ExternalExecution) (update : ExternalStepObservation) : StoredStep where
  index := update.index
  state := update.state
  externalExecution := some ⟨external.transport, bindingId, external.chainId, update.transactionHash⟩
  receipt := update.receipt
  semantic := update.semantic

section Accepts
variable {saved : StoredPlan} {bindingId : String} {steps : List StoredStep} {update : ExternalStepObservation}
  {previous : StoredStep} {external : ExternalExecution} {i : Nat}

theorem observeStep_accepts (place : at? saved.steps update.index = some previous)
    (bound : previous.externalExecution = some external) (sound : SoundBinding saved.draft i previous external)
    (index : update.index = i) (same : external.bindingId = bindingId) (acceptable : Acceptable update) :
    OnlyTooLarge (observeStep bytes saved bindingId steps update) := by
  unfold observeStep
  refine .refuse_bind (by simpa using acceptable.state) ?_
  simp only [place]
  refine .refuse_bind (by simp [sound.unsigned]) ?_
  simp only [bound]
  refine .refuse_bind ?_ (.refuse_bind ?_ (.bind (optionally_onlyTooLarge fun receipt held =>
    assertExternalReceipt_accepts (acceptable.receipt receipt held)) fun _ _ => .refuse_bind ?_ (.refuse_bind ?_
    (.bind (optionally_onlyTooLarge fun _ _ => discard_onlyTooLarge (boundedClone_onlyTooLarge _ _)) fun _ _ => .ok))))
  · rw [index, at?_natCast, sound.chain]
    simp [sound.forwarded, same]
  · cases given : update.transactionHash with
    | none => rfl
    | some hash => simp [acceptable.hash hash given]
  · by_cases state : update.state = .confirmed
    · simp [acceptable.confirmed state]
    · simp [state]
  · by_cases state : update.state = .reverted
    · obtain ⟨receipt, semantic, hash⟩ | proven := acceptable.reverted state
      · simp [receipt, semantic, hash, state]
      · simp [proven]
    · simp [state]

theorem observeStep_result {after : List StoredStep} (place : at? saved.steps update.index = some previous)
    (bound : previous.externalExecution = some external)
    (observed : observeStep bytes saved bindingId steps update = .ok after) :
    after = steps.set update.index.toNat (recordedStep bindingId external update) := by
  unfold observeStep at observed
  simp only [place] at observed
  iterate 2 obtain ⟨_, observed⟩ := ok_refuse observed
  simp only [bound] at observed
  iterate 6 obtain ⟨_, _, observed⟩ := ok_bind observed
  cases observed
  rfl

end Accepts

theorem present_hex {hash : Option String} (hexadecimal : ∀ text, hash = some text → isHex 64 text = true) :
    present hash = hash := by
  cases hash with
  | none => rfl
  | some text => simp [present, Option.filter, isHex_nonempty (hexadecimal text rfl)]

structure Reports (service : RefreshService) (replies : Int → Replies) (plan : StoredPlan) (bindingId : String) (i : Nat)
    (old new : StoredStep) (external : ExternalExecution) (hash : Option String) (update : ExternalStepObservation) :
    Prop where
  place : plan.steps[i]? = some old
  bound : old.externalExecution = some external
  binding : external.bindingId = bindingId
  carries : Carries external hash old new
  settled : new.state = .confirmed ∨ new.state = .reverted → Settled service (replies i) external new
  update : update = observationOf new { external with transactionHash := hash }

section Reports
variable {replies : Int → Replies} {plan : StoredPlan} {bindingId : String} {i : Nat} {old new : StoredStep}
  {external : ExternalExecution} {hash : Option String} {update : ExternalStepObservation}

theorem Reports.hash_eq (reports : Reports service replies plan bindingId i old new external hash update) :
    update.transactionHash = hash := by
  rw [reports.update]
  exact present_hex reports.carries.hexadecimal

theorem Reports.index_eq (reports : Reports service replies plan bindingId i old new external hash update)
    (sound : SoundPlan plan) : update.index = i := by
  rw [reports.update]
  exact reports.carries.index.trans (sound.steps i old reports.place).index

theorem observationOf_settled {step : StoredStep} {state : StepState} (settled : state = .confirmed ∨ state = .reverted)
    (reported : (observationOf step external).state = state) : step.state = state := by
  simp only [observationOf] at reported
  split at reported
  · rcases settled with rfl | rfl <;> cases reported
  · exact reported

theorem Settled.confirmed {answers : Replies} {step : StoredStep} (settled : Settled service answers external step)
    (state : step.state = .confirmed) :
    step.receipt.any (fun receipt => receipt.canonical && receipt.status = .success) = true := by
  cases settled with
  | proven _ receipt _ _ _ _ stored canonical _ _ confirmed _ =>
    rw [stored]
    simp [compactReceipt, canonical, confirmed state]
  | unpublished _ _ _ reverted =>
    rw [state] at reverted
    cases reverted

theorem Reports.acceptable (reports : Reports service replies plan bindingId i old new external hash update) :
    Acceptable update := by
  have transactionHash := reports.hash_eq
  have same := reports.update
  subst same
  refine ⟨?_, ?_, ?_, ?_, ?_⟩
  · simp only [observationOf]
    split
    · exact nofun
    · assumption
  · rw [transactionHash]
    exact reports.carries.hexadecimal
  · rw [transactionHash]
    exact reports.carries.receipt
  · intro state
    have confirmed := observationOf_settled (Or.inl rfl) state
    exact (reports.settled (Or.inl confirmed)).confirmed confirmed
  · intro state
    have reverted := observationOf_settled (Or.inr rfl) state
    cases reports.settled (Or.inr reverted) with
    | proven _ receipt _ _ _ _ stored canonical _ _ _ failed =>
      refine Or.inr ?_
      simp only [observationOf, stored, Option.any_some, compactReceipt, canonical, Bool.true_and, Bool.or_eq_true,
        decide_eq_true_eq]
      refine (failed reverted).imp_right ?_
      rintro ⟨details, semantic⟩
      simp [semanticFailed, semantic]
    | unpublished _ _ _ _ unbound receipt semantic =>
      obtain ⟨details, semantic⟩ := semantic
      refine Or.inl ⟨receipt, by simp [semanticFailed, observationOf, semantic], ?_⟩
      rw [transactionHash]
      have given := reports.carries.bound.symm.trans unbound
      exact congrArg ExternalExecution.transactionHash (Option.some.inj given)

theorem Reports.recorded (reports : Reports service replies plan bindingId i old new external hash update)
    (settled : update.state = .confirmed ∨ update.state = .reverted) :
    Settled service (replies i) external (recordedStep bindingId external update) := by
  have transactionHash := reports.hash_eq
  have same := reports.update
  have binding : ExternalExecution.mk external.transport bindingId external.chainId hash =
      { external with transactionHash := hash } := by
    rw [← reports.binding]
  have recorded : (recordedStep bindingId external update).externalExecution =
    some { external with transactionHash := hash } := by
    rw [recordedStep, transactionHash, binding]
  have state : new.state = update.state := by
    rw [same] at settled ⊢
    exact observationOf_settled settled rfl
  have receipt : (recordedStep bindingId external update).receipt = new.receipt := by rw [same]; rfl
  have semantic : (recordedStep bindingId external update).semantic = new.semantic := by rw [same]; rfl
  have states : (recordedStep bindingId external update).state = new.state := state.symm
  rw [← state] at settled
  cases reports.settled settled with
  | proven text held first required bound observed stored canonical policy enough confirmed reverted =>
    refine .proven text held first required ?_ observed (receipt.trans stored) canonical policy enough ?_ ?_
    · rw [recorded, ← reports.carries.bound, bound]
    · rwa [states]
    · rwa [states, semantic]
  | unpublished observation answered expired reverted bound missing failed =>
    refine .unpublished observation answered expired (states.trans reverted) ?_ (receipt.trans missing) ?_
    · rw [recorded, ← reports.carries.bound, bound]
    · rwa [semantic]

end Reports

end JBCenter.Transactions
