import Mathlib.Logic.Relation
import JBCenter.Base.Passes
import JBCenter.UserOperations.Semantics

/-! The verification of a sealed plan from transaction references: each step from what its chain answers, and then the order
of the steps that depend on each other. -/
namespace JBCenter.Mcp
open Rest (isSafeInteger Payload)
open UserOperations.Semantics (Text lower isHexText)

structure DomainError where
  code : String
  message : String
  deriving DecidableEq

/-- A block as the reviewed evidence names it; the numbers are the values of their decimal texts. -/
structure BlockEvidence where
  chainId : Nat
  blockNumber : Nat
  blockHash : Text
  timestamp : Nat
  deriving DecidableEq

structure PreparedCall where
  chainId : Nat
  target : Text
  data : Text
  value : Nat
  dependsOn : List Nat

structure PlanDraft where
  account : Text
  calls : List PreparedCall
  evidence : List BlockEvidence

structure PlanEnvelope where
  issuedAt : Int
  expiresAt : Int
  contentHash : Text
  draft : PlanDraft

def maximumCalls : Nat := 32

def maximumTokenBytes : Nat := 192 * 1024

def callAllowed (draft : PlanDraft) (call : PreparedCall) (index : Nat) : Bool :=
  call.dependsOn.length ≤ maximumCalls - 1 && call.dependsOn.all (fun dep => dep ≤ maximumCalls - 1) &&
    call.dependsOn.Nodup && call.dependsOn.all (fun dep => dep < index) &&
    draft.evidence.any (fun evidence => evidence.chainId == call.chainId)

/-- The bounds and the refinement of `draftSchema`. -/
def draftAllowed (draft : PlanDraft) : Bool :=
  1 ≤ draft.calls.length && draft.calls.length ≤ maximumCalls && 1 ≤ draft.evidence.length &&
    draft.evidence.length ≤ maximumCalls && draft.calls.zipIdx.all (fun (call, index) => callAllowed draft call index)

/-- The authentication and the parsing of tokens, and whether a token is the canonical text of an envelope. -/
structure Tokens where
  decode : Text → Except DomainError PlanEnvelope
  canonical : Text → PlanEnvelope → Bool

def invalidPlan : DomainError := ⟨"INVALID_PLAN", "Plan input failed validation."⟩

def notCanonical : DomainError :=
  ⟨"INVALID_PLAN_TOKEN", "Plan content is not canonical or its content hash is invalid."⟩

def invalidTimestamps : DomainError := ⟨"INVALID_PLAN_TOKEN", "Plan timestamps are invalid."⟩

def planExpired : DomainError :=
  ⟨"PLAN_EXPIRED", "The plan expired. Prepare and review a fresh plan before simulating or executing."⟩

def inspect (tokens : Tokens) (now : Int) (token : Text) (allowExpired : Bool := false) : Except DomainError PlanEnvelope := do
  let envelope ← tokens.decode token
  refuse (!draftAllowed envelope.draft) invalidPlan
  refuse (!tokens.canonical token envelope) notCanonical
  refuse (envelope.issuedAt > now + 30000 || envelope.expiresAt ≤ envelope.issuedAt ||
    envelope.expiresAt - envelope.issuedAt > 86400000) invalidTimestamps
  refuse (!allowExpired && now ≥ envelope.expiresAt) planExpired
  return envelope

inductive ReceiptStatus where
  | success
  | reverted
  | other
  deriving DecidableEq

structure Transaction where
  hash : Text
  chainId : Option Nat
  sender : Text
  target : Option Text
  input : Text
  value : Nat
  blockNumber : Option Nat
  blockHash : Option Text

structure Receipt where
  transactionHash : Text
  sender : Text
  target : Option Text
  blockNumber : Nat
  blockHash : Text
  transactionIndex : Nat
  status : ReceiptStatus
  logs : Payload

structure Block where
  hash : Option Text
  number : Option Nat
  timestamp : Nat

/-- An error of the RPC: whether it says that the transaction or the receipt is missing, and its public form. -/
structure RpcError where
  missing : Bool
  publicError : Payload

/-- What the chain of a step answers. -/
structure StepReplies where
  client : Except RpcError Unit
  chainId : Except RpcError Nat
  transaction : Except RpcError Transaction
  receipt : Except RpcError Receipt
  canonical : Except RpcError Block
  head : Except RpcError Block
  code : Except RpcError (Option Text)

inductive StepStatus where
  | pending
  | reverted
  | mismatch
  | confirmed
  | unverified
  deriving DecidableEq

structure StepVerification where
  step : Nat
  hash : Option Text := none
  status : StepStatus
  transactionConfirmed : Bool
  outcomeVerified : Bool
  dependenciesVerified : Option Bool := none
  reason : Option String := none
  confirmations : Option Nat := none
  transactionIndex : Option Nat := none
  evidence : Option BlockEvidence := none
  outcome : Option Payload := none
  error : Option Payload := none
  deriving DecidableEq

def pending (step : Nat) (reason : String) (hash : Option Text := none) : StepVerification :=
  { step, hash, status := .pending, transactionConfirmed := false, outcomeVerified := false, reason := some reason }

/-- An answer before the end of `verifyStep`, or an error that is caught there. -/
inductive Stopped where
  | answer (status : StepStatus) (reason : String) (evidence : Option BlockEvidence) (confirmations : Option Nat)
  | failed (error : RpcError)

/-- What the logs of a receipt say of the planned outcome. -/
structure Outcome where
  verified : Bool
  events : Payload
  reason : Option String

def same (left right : Option Text) : Bool :=
  match left, right with
  | some left, some right => lower left = lower right
  | _, _ => false

def reply (answer : Except RpcError α) : Except Stopped α := answer.mapError .failed

def preparationBlock (draft : PlanDraft) (chainId : Nat) : Int :=
  (draft.evidence.filter (fun item => item.chainId == chainId)).foldl
    (fun highest item => if (item.blockNumber : Int) > highest then item.blockNumber else highest) (-1)

def nestedExecution : String :=
  "Nested wallet execution requires wallet-specific verification. Only direct EOA transactions are supported."

def notExact : String :=
  "Transaction chain, sender, destination, calldata, or value does not exactly match the signed step."

def notCanonicalHistory : String :=
  "Receipt is not in the currently observed canonical history, or RPC observations disagree. Retry after the chain settles."

def predates : String :=
  "This transaction predates the reviewed plan snapshot. A historical matching transaction is not execution of this plan."

def contractSender : String :=
  "The sender has contract/delegation code. Smart-account and nested execution are outside direct EOA verification."

def unavailable : String :=
  "Transaction or receipt is not currently available. This does not prove failure or permit resubmission."

section
variable (operationEvidence : PlanEnvelope → PreparedCall → Receipt → Outcome)

def observeStep (plan : PlanEnvelope) (call : PreparedCall) (step : Nat) (hash : Text) (minimumConfirmations : Nat)
    (replies : StepReplies) : Except Stopped StepVerification := do
  reply replies.client
  let chainId ← reply replies.chainId
  refuse (chainId != call.chainId) (.answer .unverified "RPC chain does not match the signed plan." none none)
  let transaction ← reply replies.transaction
  refuse (!same transaction.hash hash)
    (.answer .mismatch "RPC transaction hash does not match the requested transaction." none none)
  refuse (same transaction.target plan.draft.account && !same transaction.target call.target)
    (.answer .unverified nestedExecution none none)
  refuse (transaction.chainId.any (· != call.chainId) || !same transaction.sender plan.draft.account ||
    !same transaction.target call.target || !same transaction.input call.data || transaction.value != call.value)
    (.answer .mismatch notExact none none)
  refuse (transaction.blockNumber.isNone || transaction.blockHash.isNone)
    (.answer .pending "The matching transaction is not yet mined." none none)
  let receipt ← reply replies.receipt
  refuse (!same receipt.transactionHash hash || !same receipt.sender plan.draft.account || !same receipt.target call.target)
    (.answer .mismatch "Receipt does not match the signed transaction." none none)
  let canonical ← reply replies.canonical
  let head ← reply replies.head
  let code ← reply replies.code
  refuse (!same canonical.hash receipt.blockHash || !same transaction.blockHash receipt.blockHash ||
    transaction.blockNumber != some receipt.blockNumber || head.number.all (· < receipt.blockNumber))
    (.answer .unverified notCanonicalHistory none none)
  let evidence : BlockEvidence := ⟨call.chainId, receipt.blockNumber, receipt.blockHash, canonical.timestamp⟩
  refuse ((receipt.blockNumber : Int) ≤ preparationBlock plan.draft call.chainId)
    (.answer .mismatch predates (some evidence) none)
  let confirmations := head.number.getD 0 - receipt.blockNumber + 1
  refuse (receipt.status == .reverted)
    (.answer .reverted "The exact transaction reverted; it did not complete the planned operation." (some evidence)
      (some confirmations))
  refuse (receipt.status != .success)
    (.answer .unverified "RPC did not return a recognized receipt status." (some evidence) none)
  refuse (code.any (fun code => !code.isEmpty && code != ['0', 'x'])) (.answer .unverified contractSender (some evidence) none)
  refuse (confirmations < minimumConfirmations)
    (.answer .pending "The successful transaction has fewer than the requested confirmations." (some evidence)
      (some confirmations))
  let outcome := operationEvidence plan call receipt
  return { step, hash, status := .confirmed, transactionConfirmed := true, outcomeVerified := outcome.verified,
           evidence := some evidence, transactionIndex := some receipt.transactionIndex,
           confirmations := some confirmations, outcome := some outcome.events, reason := outcome.reason }

def verifyStep (plan : PlanEnvelope) (call : PreparedCall) (step : Nat) (hash : Text) (minimumConfirmations : Nat)
    (replies : StepReplies) : StepVerification :=
  match observeStep operationEvidence plan call step hash minimumConfirmations replies with
  | .ok verification => verification
  | .error (.answer status reason evidence confirmations) =>
    { step, hash, status, transactionConfirmed := false, outcomeVerified := false,
      reason := some reason, evidence, confirmations }
  | .error (.failed error) =>
    if error.missing then pending step unavailable hash
    else {
      step, hash, status := .unverified, transactionConfirmed := false
      outcomeVerified := false, error := some error.publicError }

end

def dependencyFailed : String :=
  "A required dependency is missing, unconfirmed, or was not mined before this step. Transaction confirmation alone does not complete the planned sequence."

def byIndex (steps : List StepVerification) (step : StepVerification) (index : Nat) : Option StepVerification :=
  if index = step.step then some step else steps.find? (fun other => other.step == index)

def minedBefore (dependency step : StepVerification) : Bool :=
  match dependency.evidence, step.evidence with
  | some earlier, some later =>
    earlier.blockNumber < later.blockNumber || earlier.blockNumber == later.blockNumber &&
      (match dependency.transactionIndex, step.transactionIndex with
      | some first, some second => first < second
      | _, _ => false)
  | _, _ => false

def ordered (dependency step : StepVerification) : Bool :=
  dependency.evidence.map BlockEvidence.chainId != step.evidence.map BlockEvidence.chainId || minedBefore dependency step

def satisfied (dependency : Option StepVerification) (step : StepVerification) : Bool :=
  match dependency with
  | none => false
  | some dependency => dependency.transactionConfirmed && dependency.dependenciesVerified != some false &&
      ordered dependency step

def markDependency (steps : List StepVerification) (step : StepVerification) (index : Nat) : StepVerification :=
  if satisfied (byIndex steps step index) step then step
  else { step with dependenciesVerified := some false, outcomeVerified := false, reason := some dependencyFailed }

def orderStep (draft : PlanDraft) (steps : List StepVerification) (step : StepVerification) : StepVerification :=
  if step.transactionConfirmed then
    match draft.calls[step.step]? with
    | none => step
    | some call => call.dependsOn.foldl (markDependency steps) { step with dependenciesVerified := some true }
  else step

def applyDependencyOrdering (draft : PlanDraft) (steps : List StepVerification) : List StepVerification :=
  pass (orderStep draft) steps

structure TransactionReference where
  step : Nat
  hash : Text

structure VerifyInput where
  token : Text
  transactions : List TransactionReference
  minimumConfirmations : Nat := 2

structure PlanVerification where
  contentHash : Text
  expired : Bool
  minimumConfirmations : Nat
  transactionConfirmed : Bool
  outcomeVerified : Bool
  steps : List StepVerification
  deriving DecidableEq

def invalidReferences : DomainError :=
  ⟨"INVALID_PLAN_TRANSACTIONS", "Transaction references must use unique plan steps and transaction hashes."⟩

/-- The checks of `verifySchema`. -/
def inputAllowed (input : VerifyInput) : Bool :=
  input.token.length ≤ maximumTokenBytes && input.transactions.length ≤ maximumCalls &&
    input.transactions.all (fun reference => reference.step ≤ maximumCalls - 1 && isHexText 64 reference.hash) &&
    1 ≤ input.minimumConfirmations && input.minimumConfirmations ≤ 100

def validateReferences (plan : PlanEnvelope) (references : List TransactionReference) : Except DomainError Unit :=
  refuse (references.any (fun reference => plan.draft.calls.length ≤ reference.step) ||
    !(references.map TransactionReference.step).Nodup ||
    !(references.map (fun reference => lower reference.hash)).Nodup) invalidReferences

def referenceOf (references : List TransactionReference) (step : Nat) : Option Text :=
  (references.find? (fun reference => reference.step == step)).map TransactionReference.hash

section
variable (operationEvidence : PlanEnvelope → PreparedCall → Receipt → Outcome)

/-- A step from its reference, before the order of the steps is known. -/
def verifyAt (plan : PlanEnvelope) (references : List TransactionReference) (minimumConfirmations : Nat)
    (replies : Nat → StepReplies) (call : PreparedCall) (step : Nat) : StepVerification :=
  match referenceOf references step with
  | none => pending step "No transaction hash was provided for this step."
  | some hash => verifyStep operationEvidence plan call step hash minimumConfirmations (replies step)

def verify (tokens : Tokens) (now finished : Int) (replies : Nat → StepReplies) (input : VerifyInput) :
    Except DomainError PlanVerification := do
  refuse (!inputAllowed input) invalidPlan
  let plan ← inspect tokens now input.token true
  validateReferences plan input.transactions
  let observed := plan.draft.calls.zipIdx.map (fun (call, step) =>
    verifyAt operationEvidence plan input.transactions input.minimumConfirmations replies call step)
  let steps := applyDependencyOrdering plan.draft observed
  return {
    contentHash := plan.contentHash
    expired := finished ≥ plan.expiresAt
    minimumConfirmations := input.minimumConfirmations
    transactionConfirmed := steps.all StepVerification.transactionConfirmed
    outcomeVerified := steps.all (fun step => step.transactionConfirmed && step.outcomeVerified)
    steps }

end

variable {operationEvidence : PlanEnvelope → PreparedCall → Receipt → Outcome} {plan : PlanEnvelope} {draft : PlanDraft}

theorem highest_le (items : List BlockEvidence) (start : Int) :
    let highest := items.foldl (fun highest item => if (item.blockNumber : Int) > highest then
    (item.blockNumber : Int) else highest) start
    start ≤ highest ∧ ∀ item ∈ items, (item.blockNumber : Int) ≤ highest := by
  induction items generalizing start with
  | nil => exact ⟨Int.le_refl _, fun _ member => absurd member List.not_mem_nil⟩
  | cons first rest ih =>
    obtain ⟨onward, below⟩ := ih (if (first.blockNumber : Int) > start then first.blockNumber else start)
    have reached : start ≤ (if (first.blockNumber : Int) > start then (first.blockNumber : Int) else start) ∧
        (first.blockNumber : Int) ≤ (if (first.blockNumber : Int) > start then (first.blockNumber : Int) else start) := by
      split <;> omega
    refine ⟨Int.le_trans reached.1 onward, fun item member => ?_⟩
    obtain rfl | member := List.mem_cons.mp member
    · exact Int.le_trans reached.2 onward
    · exact below item member

theorem preparationBlock_highest {chainId : Nat} {item : BlockEvidence} (member : item ∈ draft.evidence)
    (ofChain : item.chainId = chainId) : (item.blockNumber : Int) ≤ preparationBlock draft chainId :=
  (highest_le _ (-1)).2 item (List.mem_filter.mpr ⟨member, by rw [ofChain, beq_self_eq_true]⟩)

structure Mined (plan : PlanEnvelope) (call : PreparedCall) (replies : StepReplies) (step : StepVerification)
    (receipt : Receipt) (evidence : BlockEvidence) : Prop where
  answered : replies.receipt = .ok receipt
  success : receipt.status = .success
  evidenced : step.evidence = some evidence
  ofChain : evidence.chainId = call.chainId
  blockNumber : evidence.blockNumber = receipt.blockNumber
  transactionIndex : step.transactionIndex = some receipt.transactionIndex
  reviewed : ∀ item ∈ plan.draft.evidence, item.chainId = call.chainId → item.blockNumber < receipt.blockNumber

theorem reply_ok {answer : Except RpcError α} {value : α} (replied : reply answer = .ok value) : answer = .ok value := by
  cases answer with
  | error error => cases replied
  | ok held =>
    cases replied
    rfl

variable {minimumConfirmations : Nat}

theorem observeStep_ok {call : PreparedCall} {step : Nat} {hash : Text} {replies : StepReplies}
    {verification : StepVerification}
    (observed : observeStep operationEvidence plan call step hash minimumConfirmations replies = .ok verification) :
    verification.step = step ∧ verification.dependenciesVerified = none ∧
      ∃ receipt evidence, Mined plan call replies verification receipt evidence := by
  iterate 3 obtain ⟨_, _, observed⟩ := ok_bind observed
  obtain ⟨transaction, _, observed⟩ := ok_bind observed
  iterate 4 obtain ⟨_, observed⟩ := ok_refuse observed
  obtain ⟨receipt, answered, observed⟩ := ok_bind observed
  obtain ⟨_, observed⟩ := ok_refuse observed
  obtain ⟨canonical, _, observed⟩ := ok_bind observed
  obtain ⟨head, _, observed⟩ := ok_bind observed
  obtain ⟨code, _, observed⟩ := ok_bind observed
  obtain ⟨_, observed⟩ := ok_refuse observed
  obtain ⟨later, observed⟩ := ok_refuse observed
  obtain ⟨_, observed⟩ := ok_refuse observed
  obtain ⟨status, observed⟩ := ok_refuse observed
  iterate 2 obtain ⟨_, observed⟩ := ok_refuse observed
  cases observed
  rw [bne_eq_false_iff_eq] at status
  rw [decide_eq_false_iff_not, Int.not_le] at later
  refine ⟨rfl, rfl, receipt, _, reply_ok answered, status, rfl, rfl, rfl, rfl, fun item member ofChain => ?_⟩
  have below := preparationBlock_highest member ofChain
  omega

theorem verifyStep_spec {call : PreparedCall} {step : Nat} {hash : Text} {replies : StepReplies} :
    let verification := verifyStep operationEvidence plan call step hash minimumConfirmations replies
    verification.step = step ∧ verification.dependenciesVerified = none ∧
      (verification.transactionConfirmed = true → ∃ receipt evidence, Mined plan call replies verification receipt evidence) := by
  intro verification
  unfold verification verifyStep
  cases observed : observeStep operationEvidence plan call step hash minimumConfirmations replies with
  | ok verification =>
    obtain ⟨placed, unmarked, mined⟩ := observeStep_ok observed
    exact ⟨placed, unmarked, fun _ => mined⟩
  | error stopped =>
    cases stopped with
    | answer status reason evidence confirmations => exact ⟨rfl, rfl, fun confirmed => by cases confirmed⟩
    | failed error =>
      dsimp only
      split
      · exact ⟨rfl, rfl, fun confirmed => by cases confirmed⟩
      · exact ⟨rfl, rfl, fun confirmed => by cases confirmed⟩

theorem verifyAt_spec {references : List TransactionReference} {replies : Nat → StepReplies}
    {call : PreparedCall} {step : Nat} :
    let verification := verifyAt operationEvidence plan references minimumConfirmations replies call step
    verification.step = step ∧ verification.dependenciesVerified = none ∧
      (verification.transactionConfirmed = true →
        ∃ receipt evidence, Mined plan call (replies step) verification receipt evidence) := by
  intro verification
  unfold verification verifyAt
  cases referenceOf references step with
  | none => exact ⟨rfl, rfl, fun confirmed => by cases confirmed⟩
  | some hash => exact verifyStep_spec

/-- A step and its dependency as the pass finds them; none of it changes. -/
structure SameStep (before after : StepVerification) : Prop where
  step : after.step = before.step
  confirmed : after.transactionConfirmed = before.transactionConfirmed
  evidence : after.evidence = before.evidence
  transactionIndex : after.transactionIndex = before.transactionIndex

theorem SameStep.refl (step : StepVerification) : SameStep step step := ⟨rfl, rfl, rfl, rfl⟩

theorem SameStep.trans {a b c : StepVerification} (first : SameStep a b) (second : SameStep b c) : SameStep a c :=
  ⟨second.step.trans first.step, second.confirmed.trans first.confirmed, second.evidence.trans first.evidence,
    second.transactionIndex.trans first.transactionIndex⟩

theorem SameStep.satisfied {before after : StepVerification} (same : SameStep before after)
    (dependency : Option StepVerification) : satisfied dependency after = satisfied dependency before := by
  cases dependency with
  | none => rfl
  | some dependency =>
    rw [Mcp.satisfied, Mcp.satisfied, ordered, ordered, minedBefore, minedBefore, same.evidence, same.transactionIndex]

def Numbered (steps : List StepVerification) : Prop := ∀ (i : Nat) step, steps[i]? = some step → step.step = i

theorem byIndex_place {steps : List StepVerification} (numbered : Numbered steps) {step : StepVerification} {index : Nat}
    (other : index ≠ step.step) : byIndex steps step index = steps[index]? := by
  rw [byIndex, if_neg other]
  cases found : steps[index]? with
  | none =>
    rw [List.find?_eq_none]
    intro held member
    obtain ⟨i, placed⟩ := List.mem_iff_getElem?.mp member
    rw [beq_iff_eq, numbered i held placed]
    rintro rfl
    rw [found] at placed
    cases placed
  | some held =>
    obtain ⟨inside, value⟩ := List.getElem?_eq_some_iff.mp found
    rw [List.find?_eq_some_iff_getElem]
    refine ⟨by rw [numbered index held found, beq_self_eq_true], index, inside, value, fun j before => ?_⟩
    have placed : steps[j]? = some steps[j] := List.getElem?_eq_getElem _
    have named := numbered j _ placed
    rw [named, Bool.not_eq_true', beq_eq_false_iff_ne]
    exact Nat.ne_of_lt before

/-- What the marks of a step say: it is verified where its dependencies are satisfied, and its outcome only then. -/
structure Marked (steps : List StepVerification) (dependsOn : List Nat) (before after : StepVerification) : Prop where
  same : SameStep before after
  verified : after.dependenciesVerified = some true →
    before.dependenciesVerified = some true ∧ ∀ index ∈ dependsOn, satisfied steps[index]? before = true
  decided : before.dependenciesVerified ≠ none → after.dependenciesVerified ≠ none
  outcome : after.outcomeVerified = true → before.outcomeVerified = true
  whole : after.outcomeVerified = true → before.dependenciesVerified = some true → after.dependenciesVerified = some true

theorem markDependency_marked {steps : List StepVerification} (numbered : Numbered steps) (step : StepVerification)
    {index : Nat} (other : index ≠ step.step) : Marked steps [index] step (markDependency steps step index) := by
  unfold markDependency
  rw [byIndex_place numbered other]
  split
  · rename_i satisfied
    refine ⟨SameStep.refl step, fun verified => ⟨verified, fun index member => ?_⟩, id, id, fun _ verified => verified⟩
    rw [List.mem_singleton.mp member]
    exact satisfied
  · exact {
      same := ⟨rfl, rfl, rfl, rfl⟩
      verified := fun verified => by cases verified
      decided := fun _ undecided => by cases undecided
      outcome := fun verified => by cases verified
      whole := fun verified => by cases verified }

theorem markDependencies_marked {steps : List StepVerification} (numbered : Numbered steps) {dependsOn : List Nat}
    (step : StepVerification) (others : ∀ index ∈ dependsOn, index ≠ step.step) :
    Marked steps dependsOn step (dependsOn.foldl (markDependency steps) step) := by
  induction dependsOn generalizing step with
  | nil => exact ⟨SameStep.refl step, fun verified => ⟨verified, fun _ member => absurd member List.not_mem_nil⟩, id, id,
      fun _ verified => verified⟩
  | cons first rest ih =>
    have once := markDependency_marked numbered step (others first List.mem_cons_self)
    have later := ih (markDependency steps step first) (fun index member => by
      rw [once.same.step]
      exact others index (List.mem_cons_of_mem _ member))
    rw [List.foldl_cons]
    refine ⟨once.same.trans later.same, fun verified => ?_, fun decided => later.decided (once.decided decided),
      fun verified => once.outcome (later.outcome verified), fun verified started =>
        later.whole verified (once.whole (later.outcome verified) started)⟩
    obtain ⟨between, satisfiedRest⟩ := later.verified verified
    obtain ⟨started, satisfiedFirst⟩ := once.verified between
    refine ⟨started, fun index member => ?_⟩
    obtain rfl | member := List.mem_cons.mp member
    · exact satisfiedFirst index List.mem_cons_self
    · rw [← once.same.satisfied]
      exact satisfiedRest index member

structure Ordered (draft : PlanDraft) (steps : List StepVerification) (before after : StepVerification) : Prop where
  same : SameStep before after
  verified : after.dependenciesVerified = some true → before.transactionConfirmed = true ∧
    ∀ call, draft.calls[before.step]? = some call → ∀ index ∈ call.dependsOn, satisfied steps[index]? before = true
  decided : before.transactionConfirmed = true → after.dependenciesVerified ≠ none
  whole : before.transactionConfirmed = true → after.outcomeVerified = true → after.dependenciesVerified = some true

/-- Every call depends on earlier calls. -/
def Forward (draft : PlanDraft) : Prop :=
  ∀ (i : Nat) call, draft.calls[i]? = some call → ∀ index ∈ call.dependsOn, index < i

theorem orderStep_ordered {steps : List StepVerification} (numbered : Numbered steps) (forward : Forward draft)
    {step : StepVerification} (inside : step.step < draft.calls.length) (unmarked : step.dependenciesVerified = none) :
    Ordered draft steps step (orderStep draft steps step) := by
  have found : draft.calls[step.step]? = some draft.calls[step.step] := List.getElem?_eq_getElem inside
  unfold orderStep
  rw [found]
  by_cases confirmed : step.transactionConfirmed = true
  · rw [if_pos confirmed]
    have others : ∀ index ∈ draft.calls[step.step].dependsOn, index ≠ step.step := fun index member =>
      Nat.ne_of_lt (forward step.step _ found index member)
    have marked := markDependencies_marked numbered { step with dependenciesVerified := some true } others
    have start : SameStep step { step with dependenciesVerified := some true } := ⟨rfl, rfl, rfl, rfl⟩
    refine ⟨start.trans marked.same, fun verified => ⟨confirmed, fun call held index member => ?_⟩,
      fun _ => marked.decided (fun undecided => by cases undecided), fun _ verified => marked.whole verified rfl⟩
    rw [found, Option.some.injEq] at held
    subst held
    rw [← start.satisfied]
    exact (marked.verified verified).2 index member
  · rw [if_neg confirmed]
    refine ⟨SameStep.refl step, fun verified => ?_, fun other => absurd other confirmed, fun other => absurd other confirmed⟩
    rw [unmarked] at verified
    cases verified

theorem orderStep_step (steps : List StepVerification) (step : StepVerification) :
    (orderStep draft steps step).step = step.step := by
  have marks : ∀ (dependsOn : List Nat) (step : StepVerification),
      (dependsOn.foldl (markDependency steps) step).step = step.step := by
    intro dependsOn
    induction dependsOn with
    | nil => exact fun _ => rfl
    | cons first rest ih =>
      intro step
      rw [List.foldl_cons, ih, markDependency]
      split <;> rfl
  unfold orderStep
  split
  · split
    · rfl
    · exact marks _ _
  · rfl

theorem markDependencies_earlier {first second : List StepVerification} (numbered : Numbered first)
    (renumbered : Numbered second) {dependsOn : List Nat} (step : StepVerification)
    (others : ∀ index ∈ dependsOn, index ≠ step.step) (agree : ∀ index ∈ dependsOn, first[index]? = second[index]?) :
    dependsOn.foldl (markDependency first) step = dependsOn.foldl (markDependency second) step := by
  induction dependsOn generalizing step with
  | nil => rfl
  | cons head rest ih =>
    have other := others head List.mem_cons_self
    have once : markDependency first step head = markDependency second step head := by
      rw [markDependency, markDependency, byIndex_place numbered other, byIndex_place renumbered other,
        agree head List.mem_cons_self]
    have kept := (markDependency_marked renumbered step other).same.step
    rw [List.foldl_cons, List.foldl_cons, once]
    refine ih _ (fun index member => ?_) (fun index member => agree index (List.mem_cons_of_mem _ member))
    rw [kept]
    exact others index (List.mem_cons_of_mem _ member)

theorem orderStep_earlier {first second : List StepVerification} (forward : Forward draft) (numbered : Numbered first)
    (renumbered : Numbered second) {step : StepVerification} (agree : ∀ j < step.step, first[j]? = second[j]?) :
    orderStep draft first step = orderStep draft second step := by
  unfold orderStep
  cases found : draft.calls[step.step]? with
  | none => rfl
  | some call =>
    have below := forward step.step call found
    dsimp only
    rw [markDependencies_earlier numbered renumbered { step with dependenciesVerified := some true }
      (fun index member => Nat.ne_of_lt (below index member)) (fun index member => agree index (below index member))]

theorem applyDependencyOrdering_ordered {observed : List StepVerification} (forward : Forward draft)
    (numbered : Numbered observed) (long : observed.length = draft.calls.length)
    (unmarked : ∀ step ∈ observed, step.dependenciesVerified = none) {i : Nat} {before : StepVerification}
    (found : observed[i]? = some before) :
    ∃ after, (applyDependencyOrdering draft observed)[i]? = some after ∧
      Ordered draft (applyDependencyOrdering draft observed) before after := by
  have kept : ∀ k, Numbered (passed (orderStep draft) observed k) := fun k =>
    passed_keeps numbered (fun _ i item placed => (orderStep_step _ item).trans placed) k
  have placed := numbered i before found
  have inside : before.step < draft.calls.length := by
    rw [placed, ← long]
    exact (List.getElem?_eq_some_iff.mp found).1
  have settled := pass_settled kept found (fun first second numberedFirst numberedSecond agree =>
    orderStep_earlier forward numberedFirst numberedSecond (placed ▸ agree))
  refine ⟨_, settled, orderStep_ordered (kept _) forward inside (unmarked before (List.mem_of_getElem? found))⟩

def DependsOn (draft : PlanDraft) (i j : Nat) : Prop := ∃ call, draft.calls[i]? = some call ∧ j ∈ call.dependsOn

theorem draftAllowed_forward (allowed : draftAllowed draft = true) : Forward draft := by
  intro i call found index member
  simp only [draftAllowed, Bool.and_eq_true] at allowed
  have each := List.all_eq_true.mp allowed.2 (call, i) (List.mem_zipIdx_iff_getElem?.mpr found)
  simp only [callAllowed, Bool.and_eq_true] at each
  simpa using List.all_eq_true.mp each.1.2 index member

theorem inspect_ok {tokens : Tokens} {now : Int} {token : Text} {allowExpired : Bool}
    (inspected : inspect tokens now token allowExpired = .ok plan) : draftAllowed plan.draft = true := by
  obtain ⟨envelope, _, inspected⟩ := ok_bind inspected
  obtain ⟨allowed, inspected⟩ := ok_refuse inspected
  iterate 3 obtain ⟨_, inspected⟩ := ok_refuse inspected
  cases inspected
  simpa using allowed

/-- A dependency was mined in a lower block, or in the same block at a lower index. -/
def MinedEarlier (dependency step : StepVerification) : Prop :=
  ∃ earlier later, dependency.evidence = some earlier ∧ step.evidence = some later ∧
    (earlier.blockNumber < later.blockNumber ∨ earlier.blockNumber = later.blockNumber ∧
      ∃ first second, dependency.transactionIndex = some first ∧ step.transactionIndex = some second ∧ first < second)

theorem minedBefore_earlier {dependency step : StepVerification} (mined : minedBefore dependency step = true) :
    MinedEarlier dependency step := by
  unfold minedBefore at mined
  split at mined
  · rename_i earlier later first second
    refine ⟨earlier, later, first, second, ?_⟩
    rw [Bool.or_eq_true, Bool.and_eq_true, decide_eq_true_eq, beq_iff_eq] at mined
    obtain lower | ⟨block, mined⟩ := mined
    · exact Or.inl lower
    · split at mined
      · rename_i low high lowIndex highIndex
        exact Or.inr ⟨block, low, high, lowIndex, highIndex, by simpa using mined⟩
      · cases mined
  · cases mined

structure Verified (plan : PlanEnvelope) (replies : Nat → StepReplies) (steps : List StepVerification) : Prop where
  length : steps.length = plan.draft.calls.length
  placed : ∀ (i : Nat) step, steps[i]? = some step → ∃ before, before.step = i ∧ Ordered plan.draft steps before step
  mined : ∀ (i : Nat) step call, steps[i]? = some step → plan.draft.calls[i]? = some call → step.transactionConfirmed = true →
    ∃ receipt evidence, Mined plan call (replies i) step receipt evidence

variable {replies : Nat → StepReplies} {steps : List StepVerification}

theorem Verified.edge (verified : Verified plan replies steps) {i j : Nat} {step : StepVerification}
    (found : steps[i]? = some step) (marked : step.dependenciesVerified = some true) (edge : DependsOn plan.draft i j) :
    ∃ dependency, steps[j]? = some dependency ∧ dependency.transactionConfirmed = true ∧
      dependency.dependenciesVerified = some true ∧ ordered dependency step = true := by
  obtain ⟨before, placed, made⟩ := verified.placed i step found
  obtain ⟨call, named, member⟩ := edge
  have satisfiedBefore := (made.verified marked).2 call (placed ▸ named) j member
  cases dependencyFound : steps[j]? with
  | none =>
    rw [dependencyFound] at satisfiedBefore
    cases satisfiedBefore
  | some dependency =>
    rw [dependencyFound, ← made.same.satisfied, satisfied, Bool.and_eq_true, Bool.and_eq_true] at satisfiedBefore
    obtain ⟨⟨confirmed, unfailed⟩, inOrder⟩ := satisfiedBefore
    obtain ⟨earlier, _, madeEarlier⟩ := verified.placed j dependency dependencyFound
    have decided := madeEarlier.decided (madeEarlier.same.confirmed.symm.trans confirmed)
    refine ⟨dependency, rfl, confirmed, ?_, inOrder⟩
    cases marks : dependency.dependenciesVerified with
    | none => exact absurd marks decided
    | some flag =>
      rw [marks] at unfailed
      cases flag with
      | true => rfl
      | false => cases unfailed

theorem Verified.reach (verified : Verified plan replies steps) {i j : Nat} {step : StepVerification}
    (found : steps[i]? = some step) (marked : step.dependenciesVerified = some true)
    (path : Relation.TransGen (DependsOn plan.draft) i j) :
    ∃ dependency, steps[j]? = some dependency ∧ dependency.transactionConfirmed = true ∧
      dependency.dependenciesVerified = some true := by
  induction path with
  | single edge =>
    obtain ⟨dependency, held, confirmed, markedHere, _⟩ := verified.edge found marked edge
    exact ⟨dependency, held, confirmed, markedHere⟩
  | tail _ edge ih =>
    obtain ⟨between, heldBetween, _, markedBetween⟩ := ih
    obtain ⟨dependency, held, confirmed, markedHere, _⟩ := verified.edge heldBetween markedBetween edge
    exact ⟨dependency, held, confirmed, markedHere⟩

theorem Verified.earlier (verified : Verified plan replies steps) {i j : Nat}
    {step : StepVerification} {call other : PreparedCall}
    (found : steps[i]? = some step) (marked : step.dependenciesVerified = some true) (edge : DependsOn plan.draft i j)
    (called : plan.draft.calls[i]? = some call) (depended : plan.draft.calls[j]? = some other)
    (sameChain : other.chainId = call.chainId) :
    ∃ dependency, steps[j]? = some dependency ∧ MinedEarlier dependency step := by
  obtain ⟨before, placed, made⟩ := verified.placed i step found
  have confirmedStep : step.transactionConfirmed = true := made.same.confirmed.trans (made.verified marked).1
  obtain ⟨dependency, held, confirmed, _, inOrder⟩ := verified.edge found marked edge
  obtain ⟨_, evidence, mined⟩ := verified.mined i step call found called confirmedStep
  obtain ⟨_, earlierEvidence, minedEarlier⟩ := verified.mined j dependency other held depended confirmed
  refine ⟨dependency, held, minedBefore_earlier ?_⟩
  have chains : dependency.evidence.map BlockEvidence.chainId = step.evidence.map BlockEvidence.chainId := by
    rw [mined.evidenced, minedEarlier.evidenced, Option.map_some, Option.map_some, minedEarlier.ofChain, mined.ofChain, sameChain]
  rw [ordered, chains, bne_self_eq_false, Bool.false_or] at inOrder
  exact inOrder

theorem verify_verified {tokens : Tokens} {now finished : Int} {input : VerifyInput} {result : PlanVerification}
    (accepted : verify operationEvidence tokens now finished replies input = .ok result) :
    ∃ plan, inspect tokens now input.token true = .ok plan ∧ Verified plan replies result.steps ∧
      result.outcomeVerified = result.steps.all (fun step => step.transactionConfirmed && step.outcomeVerified) := by
  obtain ⟨_, accepted⟩ := ok_refuse accepted
  obtain ⟨plan, inspected, accepted⟩ := ok_bind accepted
  obtain ⟨_, _, accepted⟩ := ok_bind accepted
  cases accepted
  refine ⟨plan, inspected, ?_, rfl⟩
  generalize whole : plan.draft.calls.zipIdx.map (fun (call, step) =>
    verifyAt operationEvidence plan input.transactions input.minimumConfirmations replies call step) = observed
  have long : observed.length = plan.draft.calls.length := by rw [← whole, List.length_map, List.length_zipIdx]
  have each : ∀ (i : Nat) step, observed[i]? = some step → ∃ call, plan.draft.calls[i]? = some call ∧
      step = verifyAt operationEvidence plan input.transactions input.minimumConfirmations replies call i := by
    intro i step found
    rw [← whole, List.getElem?_map, List.getElem?_zipIdx] at found
    cases called : plan.draft.calls[i]? with
    | none =>
      rw [called] at found
      cases found
    | some call =>
      rw [called, Option.map_some, Option.map_some, Nat.zero_add, Option.some.injEq] at found
      exact ⟨call, rfl, found.symm⟩
  have numbered : Numbered observed := fun i step found => by
    obtain ⟨call, _, rfl⟩ := each i step found
    exact verifyAt_spec.1
  have unmarked : ∀ step ∈ observed, step.dependenciesVerified = none := fun step member => by
    obtain ⟨i, found⟩ := List.mem_iff_getElem?.mp member
    obtain ⟨call, _, rfl⟩ := each i step found
    exact verifyAt_spec.2.1
  have forward := draftAllowed_forward (inspect_ok inspected)
  have length : (applyDependencyOrdering plan.draft observed).length = observed.length := passed_length
  have origin : ∀ (i : Nat) step, (applyDependencyOrdering plan.draft observed)[i]? = some step → ∃ before,
      observed[i]? = some before ∧ Ordered plan.draft (applyDependencyOrdering plan.draft observed) before step := by
    intro i step found
    have inside : i < observed.length := length ▸ (List.getElem?_eq_some_iff.mp found).1
    have held : observed[i]? = some observed[i] := List.getElem?_eq_getElem inside
    obtain ⟨after, made, ordered⟩ := applyDependencyOrdering_ordered forward numbered long unmarked held
    rw [found, Option.some.injEq] at made
    exact ⟨observed[i], held, made ▸ ordered⟩
  refine ⟨length.trans long, fun i step found => ?_, fun i step call found called confirmed => ?_⟩
  · obtain ⟨before, held, ordered⟩ := origin i step found
    exact ⟨before, numbered i before held, ordered⟩
  · obtain ⟨before, held, ordered⟩ := origin i step found
    obtain ⟨named, calledHere, rfl⟩ := each i before held
    rw [called, Option.some.injEq] at calledHere
    subst calledHere
    obtain ⟨receipt, evidence, mined⟩ := verifyAt_spec.2.2 (ordered.same.confirmed.symm.trans confirmed)
    exact ⟨receipt, evidence, { mined with
      evidenced := ordered.same.evidence.trans mined.evidenced
      transactionIndex := ordered.same.transactionIndex.trans mined.transactionIndex }⟩

/-- A verified plan respects its dependencies: what a verified step transitively depends on is confirmed, and on every chain
in order; a verified outcome says so of every step; and a confirmed step was mined after the reviewed blocks of its chain. -/
theorem verify_dependencies {tokens : Tokens} {now finished : Int} {input : VerifyInput} {result : PlanVerification}
    (accepted : verify operationEvidence tokens now finished replies input = .ok result) :
    ∃ plan, inspect tokens now input.token true = .ok plan ∧ result.steps.length = plan.draft.calls.length ∧
      (∀ (i : Nat) step, result.steps[i]? = some step → step.dependenciesVerified = some true →
        (∀ j, Relation.TransGen (DependsOn plan.draft) i j →
          ∃ dependency, result.steps[j]? = some dependency ∧ dependency.transactionConfirmed = true) ∧
        ∀ j k call other, Relation.ReflTransGen (DependsOn plan.draft) i j → DependsOn plan.draft j k →
          plan.draft.calls[j]? = some call → plan.draft.calls[k]? = some other → other.chainId = call.chainId →
          ∃ dependency dependent, result.steps[k]? = some dependency ∧ result.steps[j]? = some dependent ∧
            MinedEarlier dependency dependent) ∧
      (result.outcomeVerified = true → ∀ (i : Nat) step, result.steps[i]? = some step → step.dependenciesVerified = some true) ∧
      ∀ (i : Nat) step call, result.steps[i]? = some step → plan.draft.calls[i]? = some call → step.transactionConfirmed = true →
        ∃ receipt evidence, Mined plan call (replies i) step receipt evidence := by
  obtain ⟨plan, inspected, verified, outcome⟩ := verify_verified accepted
  refine ⟨plan, inspected, verified.length, fun i step found marked => ⟨fun j path => ?_, ?_⟩, fun succeeded i step found => ?_,
    verified.mined⟩
  · obtain ⟨dependency, held, confirmed, _⟩ := verified.reach found marked path
    exact ⟨dependency, held, confirmed⟩
  · intro j k call other path edge called depended sameChain
    obtain ⟨dependent, heldDependent, markedDependent⟩ :
        ∃ dependent, result.steps[j]? = some dependent ∧ dependent.dependenciesVerified = some true := by
      obtain rfl | path := Relation.reflTransGen_iff_eq_or_transGen.mp path
      · exact ⟨step, found, marked⟩
      · obtain ⟨dependent, held, _, markedHere⟩ := verified.reach found marked path
        exact ⟨dependent, held, markedHere⟩
    obtain ⟨dependency, held, earlier⟩ := verified.earlier heldDependent markedDependent edge called depended sameChain
    exact ⟨dependency, dependent, held, heldDependent, earlier⟩
  · obtain ⟨before, _, made⟩ := verified.placed i step found
    rw [outcome] at succeeded
    have whole := List.all_eq_true.mp succeeded step (List.mem_of_getElem? found)
    rw [Bool.and_eq_true] at whole
    exact made.whole (made.same.confirmed.symm.trans whole.1) whole.2

namespace TwoCalls

def address (digit : Char) : Text := '0' :: 'x' :: List.replicate 40 digit

def word (digit : Char) : Text := '0' :: 'x' :: List.replicate 64 digit

def call (dependsOn : List Nat) : PreparedCall := ⟨8453, address 'b', ['0', 'x', '0', '1'], 0, dependsOn⟩

/-- The second call depends on the first, and the chain was reviewed at block 7. -/
def envelope : PlanEnvelope where
  issuedAt := 0
  expiresAt := 900000
  contentHash := word 'c'
  draft := ⟨address 'a', [call [], call [0]], [⟨8453, 7, word 'd', 100⟩]⟩

def tokens : Tokens := ⟨fun _ => .ok envelope, fun _ _ => true⟩

/-- The first call was mined in block 8, the second in block 9. -/
def answers (step : Nat) : StepReplies where
  client := .ok ()
  chainId := .ok 8453
  transaction := .ok ⟨word (if step = 0 then '1' else '2'), some 8453, address 'a', some (address 'b'), ['0', 'x', '0', '1'], 0,
    some (8 + step), some (word 'e')⟩
  receipt := .ok ⟨word (if step = 0 then '1' else '2'), address 'a', some (address 'b'), 8 + step, word 'e', 0, .success, ""⟩
  canonical := .ok ⟨some (word 'e'), some (8 + step), 200⟩
  head := .ok ⟨some (word 'f'), some 20, 300⟩
  code := .ok none

def request : VerifyInput := ⟨[], [⟨0, word '1'⟩, ⟨1, word '2'⟩], 2⟩

def semantic (_ : PlanEnvelope) (_ : PreparedCall) (_ : Receipt) : Outcome := ⟨true, "", none⟩

def step (index block confirmations : Nat) (hash : Text) : StepVerification where
  step := index
  hash := hash
  status := .confirmed
  transactionConfirmed := true
  outcomeVerified := true
  dependenciesVerified := some true
  confirmations := some confirmations
  transactionIndex := some 0
  evidence := some ⟨8453, block, word 'e', 200⟩
  outcome := some ""

def verification : PlanVerification := ⟨word 'c', false, 2, true, true, [step 0 8 13 (word '1'), step 1 9 12 (word '2')]⟩

end TwoCalls

/-- Both calls are confirmed, and the first was mined before the second. -/
theorem verify_dependencies_two :
    MinedEarlier (TwoCalls.step 0 8 13 (TwoCalls.word '1')) (TwoCalls.step 1 9 12 (TwoCalls.word '2')) := by
  have accepted : verify TwoCalls.semantic TwoCalls.tokens 1000 1000 TwoCalls.answers TwoCalls.request =
      .ok TwoCalls.verification := by decide +kernel
  obtain ⟨plan, inspected, _, dependencies, _, _⟩ := verify_dependencies accepted
  have same : plan = TwoCalls.envelope := (Except.ok.inj inspected).symm
  subst same
  obtain ⟨_, edges⟩ := dependencies 1 _ rfl rfl
  obtain ⟨dependency, dependent, held, heldDependent, earlier⟩ :=
    edges 1 0 (TwoCalls.call [0]) (TwoCalls.call []) .refl ⟨TwoCalls.call [0], rfl, List.mem_singleton_self 0⟩ rfl rfl rfl
  cases held
  cases heldDependent
  exact earlier

end JBCenter.Mcp
