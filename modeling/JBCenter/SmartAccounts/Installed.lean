import Mathlib
import JBCenter.SmartAccounts.Encoding

/-! The policies a session has installed, as the account's storage and the policies' getters show them. -/
namespace JBCenter.SmartAccounts.Compiler
open Rest

def mismatch (message : String) (status : Nat := 409) : RestError :=
  ⟨status, "SMART_INSTALLED_POLICY_MISMATCH", message, none⟩

abbrev StorageWord := BitVec 256

structure GasBudgetConfig where
  paymaster : Nat
  paymasterCodeHash : Nat
  maxGasPerOperation : Nat
  maxFeePerGas : Nat
  maxPriorityFeePerGas : Nat
  totalGasLimit : Nat
  totalSponsoredCostLimit : Nat
  maximumCalls : Nat
  maxPaymasterDataLength : Nat
  deriving DecidableEq

/-- A configuration as the digest compares it. -/
inductive Decoded where
  | timeFrame (validUntil validAfter : Nat)
  | valueLimit (valueLimit : Nat)
  | usageLimit (limit : Nat)
  | gasBudget (config : GasBudgetConfig)
  | universalAction (config : UniversalActionConfig)
  deriving DecidableEq

inductive ConfigurationKind where
  | timeFrame
  | universalAction
  | valueLimit
  | usageLimit
  | gasBudget

structure CompiledPolicyConfiguration where
  kind : ConfigurationKind
  policy : Nat
  configId : Nat
  initData : List Nat
  decoded : Decoded

structure Counter where
  policy : Nat
  configId : Nat
  name : String
  used : Nat
  limit : Nat
  deriving DecidableEq

/-- What the chain answers about a policy: its getters, the hash of the paymaster's code, and the storage words of a
universal action from the base of its configuration on. -/
structure PolicyReplies where
  timeFrame : Except RestError StorageWord
  limit : Except RestError Nat
  used : Except RestError Nat
  gasConfig : Except RestError (GasBudgetConfig × Nat × Nat × Nat)
  paymasterCode : Except RestError (Option Nat)
  slot : Nat → Except RestError StorageWord

def count (config : CompiledPolicyConfiguration) (name : String) (used limit : Nat) : Except RestError Counter := do
  refuse (limit < used) (mismatch "Installed counters exceed their configured limits.")
  return ⟨config.policy, config.configId, name, used, limit⟩

def wordAt (words : List StorageWord) (i : Nat) : Nat := (words[i]?.getD 0).toNat

def countRule (config : CompiledPolicyConfiguration) (i : Nat) (limited : Bool) (used limit : Nat) :
    Except RestError (List Counter) :=
  if limited then do
    let counter ← count config ("parameter:" ++ toString i) used limit
    return [counter]
  else do
    refuse (used != 0) (mismatch "An unlimited rule has an unexpected consumed counter.")
    return []

def ruleAt (config : CompiledPolicyConfiguration) (words : List StorageWord) (i : Nat) :
    Except RestError (ParameterRule × List Counter) := do
  let packed := wordAt words (2 + i * 4)
  refuse (packed >>> 80 != 0 || packed >>> 72 &&& 255 > 1) (mismatch "An installed UAP rule has noncanonical packed fields.")
  let limited := packed >>> 72 &&& 255 == 1
  let limit := wordAt words (4 + i * 4)
  let used := wordAt words (5 + i * 4)
  let counters ← countRule config i limited used limit
  return (⟨packed &&& 255, packed >>> 8 &&& (2 ^ 64 - 1), limited, wordAt words (3 + i * 4), ⟨limit, 0⟩⟩, counters)

def observeUniversalAction (config : CompiledPolicyConfiguration) (replies : PolicyReplies) :
    Except RestError (Decoded × List Counter) := do
  let expected ← decodeUniversalAction config.initData
  let length := expected.length
  let words ← (List.range (2 + 4 * length)).mapM replies.slot
  refuse (wordAt words 1 != length)
    (mismatch "The installed UAP rule count differs from the compiled rule count.")
  let rules ← (List.range length).mapM (ruleAt config words)
  return (.universalAction ⟨wordAt words 0, length, rules.map Prod.fst ++ expected.rules.drop length⟩,
    (rules.map Prod.snd).flatten)

def observeTimeFrame (replies : PolicyReplies) : Except RestError (Decoded × List Counter) := do
  let value ← replies.timeFrame
  refuse (value.toNat >>> 96 != 0) (mismatch "TimeFrame policy has noncanonical packed configuration.")
  return (.timeFrame (value.toNat >>> 48) (value.toNat &&& (2 ^ 48 - 1)), [])

def observeLimit (config : CompiledPolicyConfiguration) (replies : PolicyReplies) (decoded : Nat → Decoded) (name : String) :
    Except RestError (Decoded × List Counter) := do
  let limit ← replies.limit
  let used ← replies.used
  let counter ← count config name used limit
  return (decoded limit, [counter])

def observeGasBudget (config : CompiledPolicyConfiguration) (replies : PolicyReplies) :
    Except RestError (Decoded × List Counter) := do
  let (state, gasUsed, costUsed, callsUsed) ← replies.gasConfig
  let gas ← count config "requestedGas" gasUsed state.totalGasLimit
  let cost ← count config "sponsoredCost" costUsed state.totalSponsoredCostLimit
  let calls ← count config "calls" callsUsed state.maximumCalls
  let code ← replies.paymasterCode
  refuse (code != some state.paymasterCodeHash) (mismatch "The mandatory paymaster runtime changed.")
  return (.gasBudget state, [gas, cost, calls])

def kindName : ConfigurationKind → String
  | .timeFrame => "time-frame"
  | .universalAction => "universal-action"
  | .valueLimit => "value-limit"
  | .usageLimit => "usage-limit"
  | .gasBudget => "gas-budget"

def observed (config : CompiledPolicyConfiguration) (replies : PolicyReplies) : Except RestError (Decoded × List Counter) :=
  match config.kind with
  | .timeFrame => observeTimeFrame replies
  | .valueLimit => observeLimit config replies .valueLimit "nativeValue"
  | .usageLimit => observeLimit config replies .usageLimit "operations"
  | .gasBudget => observeGasBudget config replies
  | .universalAction => observeUniversalAction config replies

variable {η : Type} [DecidableEq η] (digest : Decoded → η)

def observeConfiguration (config : CompiledPolicyConfiguration) (replies : PolicyReplies) :
    Except RestError (Decoded × List Counter) := do
  let (decoded, counters) ← observed config replies
  refuse (digest decoded != digest config.decoded)
    (mismatch ("The installed " ++ kindName config.kind ++ " configuration differs from owner-approved bytes."))
  return (decoded, counters)

/-- The packed word of a rule: the condition in 8 bits, the offset in 64, and the flag. -/
def packRule (rule : ParameterRule) : Nat :=
  rule.condition + rule.offset * 2 ^ 8 + (if rule.isLimited then 2 ^ 72 else 0)

/-- The four words of a rule hold it: its limit's counter is within the limit, or zero where the rule is not limited. -/
structure RuleStored (word : Nat → Nat) (i : Nat) (rule : ParameterRule) : Prop where
  packed : word (2 + i * 4) = packRule rule
  ref : word (3 + i * 4) = rule.ref
  limit : word (4 + i * 4) = rule.usage.limit
  used : if rule.isLimited then word (5 + i * 4) ≤ word (4 + i * 4) else word (5 + i * 4) = 0

structure ActionStored (word : Nat → Nat) (valueLimitPerUse : Nat) (rules : List ParameterRule) : Prop where
  valueLimitPerUse : word 0 = valueLimitPerUse
  length : word 1 = rules.length
  rules : ∀ (i : Nat) rule, rules[i]? = some rule → RuleStored word i rule

def counterAt (config : CompiledPolicyConfiguration) (word : Nat → Nat) (i : Nat) (rule : ParameterRule) : List Counter :=
  if rule.isLimited then
    [⟨config.policy, config.configId, "parameter:" ++ toString i, word (5 + i * 4), word (4 + i * 4)⟩]
  else []

def countersOf (config : CompiledPolicyConfiguration) (word : Nat → Nat) (rules : List ParameterRule) : List Counter :=
  rules.zipIdx.flatMap (fun (rule, i) => counterAt config word i rule)

variable {config : CompiledPolicyConfiguration} {words : List StorageWord} {i : Nat} {rule : ParameterRule}
  {counters : List Counter}

theorem packRule_iff {packed : Nat} (fresh : rule.Fresh) :
    (packed >>> 80 = 0 ∧ packed >>> 72 &&& 255 ≤ 1 ∧ packed &&& 255 = rule.condition ∧
      packed >>> 8 &&& (2 ^ 64 - 1) = rule.offset ∧ (packed >>> 72 &&& 255 == 1) = rule.isLimited) ↔
    packed = packRule rule := by
  obtain ⟨condition, offset, isLimited, ref, usage⟩ := rule
  have small : condition ≤ 6 := fresh.condition
  have placed : offset < 2 ^ 64 := fresh.offset
  have byte : ∀ n : Nat, n &&& 255 = n % 256 := fun n => Nat.and_two_pow_sub_one_eq_mod n 8
  have long : ∀ n : Nat, n &&& (2 ^ 64 - 1) = n % 2 ^ 64 := fun n => Nat.and_two_pow_sub_one_eq_mod n 64
  simp only [byte, long, Nat.shiftRight_eq_div_pow, packRule]
  cases isLimited with
  | false =>
    simp only [Bool.false_eq_true, if_false, beq_eq_false_iff_ne]
    omega
  | true =>
    simp only [if_true, beq_iff_eq]
    omega

theorem countRule_ok {used limit : Nat} {limited : Bool} :
    countRule config i limited used limit = .ok counters ↔
      (if limited then used ≤ limit else used = 0) ∧
      counters = if limited then [⟨config.policy, config.configId, "parameter:" ++ toString i, used, limit⟩] else [] := by
  unfold countRule
  cases limited with
  | false =>
    simp only [Bool.false_eq_true, if_false]
    constructor
    · intro accepted
      obtain ⟨unused, accepted⟩ := ok_refuse accepted
      cases accepted
      exact ⟨by simpa using unused, rfl⟩
    · rintro ⟨unused, rfl⟩
      exact bind_run (refuse_ok.mpr (by simpa using unused)) rfl
  | true =>
    simp only [if_true]
    constructor
    · intro accepted
      obtain ⟨counter, counted, accepted⟩ := ok_bind accepted
      obtain ⟨within, counted⟩ := ok_refuse counted
      cases counted
      cases accepted
      exact ⟨Nat.le_of_not_lt (of_decide_eq_false within), rfl⟩
    · rintro ⟨within, rfl⟩
      have counted : refuse (decide (limit < used)) (mismatch "Installed counters exceed their configured limits.") = .ok () :=
        refuse_ok.mpr (decide_eq_false (Nat.not_lt.mpr within))
      exact bind_run (bind_run counted rfl) rfl

theorem ruleAt_ok (fresh : rule.Fresh) :
    ruleAt config words i = .ok (rule, counters) ↔
      RuleStored (wordAt words) i rule ∧ counters = counterAt config (wordAt words) i rule := by
  constructor
  · intro accepted
    obtain ⟨canonical, accepted⟩ := ok_refuse accepted
    obtain ⟨held, counted, accepted⟩ := ok_bind accepted
    cases accepted
    rw [Bool.or_eq_false_iff, bne_eq_false_iff_eq, decide_eq_false_iff_not, Nat.not_lt] at canonical
    obtain ⟨used, rfl⟩ := countRule_ok.mp counted
    exact ⟨⟨(packRule_iff fresh).mp ⟨canonical.1, canonical.2, rfl, rfl, rfl⟩, rfl, rfl, used⟩, rfl⟩
  · rintro ⟨stored, rfl⟩
    obtain ⟨high, flag, condition, offset, limited⟩ := (packRule_iff fresh).mpr stored.packed
    have canonical : (wordAt words (2 + i * 4) >>> 80 != 0 || decide (wordAt words (2 + i * 4) >>> 72 &&& 255 > 1)) = false := by
      rw [high, decide_eq_false (Nat.not_lt.mpr flag)]
      rfl
    unfold ruleAt
    dsimp only
    rw [limited]
    refine bind_run (refuse_ok.mpr canonical) (bind_run (countRule_ok.mpr ⟨stored.used, rfl⟩) ?_)
    rw [counterAt, condition, offset, stored.ref, stored.limit]
    obtain ⟨condition, offset, isLimited, ref, limit, used⟩ := rule
    cases fresh.used
    rfl

theorem rulesAt_ok {rules : List ParameterRule} {start : Nat} (fresh : ∀ rule ∈ rules, rule.Fresh)
    {results : List (ParameterRule × List Counter)} :
    (List.range' start rules.length).mapM (ruleAt config words) = .ok results ∧ results.map Prod.fst = rules ↔
      (∀ entry ∈ rules.zipIdx start, RuleStored (wordAt words) entry.2 entry.1) ∧
      results = (rules.zipIdx start).map (fun (rule, i) => (rule, counterAt config (wordAt words) i rule)) := by
  induction rules generalizing start results with
  | nil =>
    constructor
    · rintro ⟨ran, _⟩
      cases ran
      exact ⟨fun _ member => absurd member List.not_mem_nil, rfl⟩
    · rintro ⟨_, rfl⟩
      exact ⟨rfl, rfl⟩
  | cons rule rest ih =>
    obtain ⟨first, others⟩ := List.forall_mem_cons.mp fresh
    rw [List.length_cons, List.range'_succ, List.mapM_cons, List.zipIdx_cons, List.forall_mem_cons, List.map_cons]
    constructor
    · rintro ⟨ran, firsts⟩
      obtain ⟨⟨read, counters⟩, computed, ran⟩ := ok_bind ran
      obtain ⟨later, mapped, ran⟩ := ok_bind ran
      cases ran
      rw [List.map_cons, List.cons.injEq] at firsts
      obtain ⟨same, firsts⟩ := firsts
      change read = rule at same
      subst same
      obtain ⟨stored, rfl⟩ := (ruleAt_ok first).mp computed
      obtain ⟨storedRest, rfl⟩ := (ih others).mp ⟨mapped, firsts⟩
      exact ⟨⟨stored, storedRest⟩, rfl⟩
    · rintro ⟨⟨stored, storedRest⟩, rfl⟩
      obtain ⟨mapped, firsts⟩ := (ih others).mpr ⟨storedRest, rfl⟩
      refine ⟨bind_run ((ruleAt_ok first).mpr ⟨stored, rfl⟩) (bind_run mapped rfl), ?_⟩
      rw [List.map_cons, firsts]

theorem wordAt_read {slots : Nat → StorageWord} {count place : Nat} (inside : place < count) :
    wordAt ((List.range count).map slots) place = (slots place).toNat := by
  rw [wordAt, List.getElem?_map, List.getElem?_range inside, Option.map_some, Option.getD_some]

variable {η : Type} [DecidableEq η] {digest : Decoded → η}

def universalConfiguration (policy configId : Nat) (action : EncodedAction) : CompiledPolicyConfiguration :=
  ⟨.universalAction, policy, configId, action.initData, .universalAction action.decoded⟩

theorem ActionStored.congr {word other : Nat → Nat} {valueLimitPerUse : Nat} {rules : List ParameterRule}
    (same : ∀ place < 2 + 4 * rules.length, word place = other place) (stored : ActionStored word valueLimitPerUse rules) :
    ActionStored other valueLimitPerUse rules := by
  refine ⟨(same 0 (by omega)).symm.trans stored.valueLimitPerUse, (same 1 (by omega)).symm.trans stored.length,
    fun i rule found => ?_⟩
  have inside : i < rules.length := (List.getElem?_eq_some_iff.mp found).1
  obtain ⟨packed, ref, limit, used⟩ := stored.rules i rule found
  rw [same _ (by omega)] at packed ref limit
  rw [same _ (by omega), same _ (by omega)] at used
  exact ⟨packed, ref, limit, used⟩

theorem mem_zipIdx_rules {P : Nat → ParameterRule → Prop} {rules : List ParameterRule} :
    (∀ entry ∈ rules.zipIdx, P entry.2 entry.1) ↔ ∀ (i : Nat) rule, rules[i]? = some rule → P i rule := by
  constructor
  · intro each i rule found
    exact each (rule, i) (List.mem_zipIdx_iff_getElem?.mpr found)
  · rintro each ⟨rule, i⟩ member
    exact each i rule (List.mem_zipIdx_iff_getElem?.mp member)

theorem countersOf_eq {word : Nat → Nat} {rules : List ParameterRule} :
    ((rules.zipIdx.map (fun (rule, i) => (rule, counterAt config word i rule))).map Prod.snd).flatten =
      countersOf config word rules := by
  rw [List.map_map, countersOf, List.flatMap_def]
  rfl

theorem countersOf_congr {word other : Nat → Nat} {rules : List ParameterRule}
    (same : ∀ place < 2 + 4 * rules.length, word place = other place) :
    countersOf config word rules = countersOf config other rules := by
  refine List.flatMap_congr (fun ⟨rule, i⟩ member => ?_)
  have inside : i < rules.length := (List.getElem?_eq_some_iff.mp (List.mem_zipIdx_iff_getElem?.mp member)).1
  have limit : word (4 + i * 4) = other (4 + i * 4) := same _ (by omega)
  have used : word (5 + i * 4) = other (5 + i * 4) := same _ (by omega)
  simp only [counterAt, limit, used]

theorem observeUniversalAction_ok {valueLimitPerUse : Nat} {rules : List ParameterRule} {replies : PolicyReplies}
    (compiled : decodeUniversalAction config.initData = .ok ⟨valueLimitPerUse, rules.length, padRules rules⟩)
    (read : (List.range (2 + 4 * rules.length)).mapM replies.slot = .ok words) (fresh : ∀ rule ∈ rules, rule.Fresh) :
    observeUniversalAction config replies =
        .ok (.universalAction ⟨valueLimitPerUse, rules.length, padRules rules⟩, counters) ↔
      ActionStored (wordAt words) valueLimitPerUse rules ∧ counters = countersOf config (wordAt words) rules := by
  have padding : (padRules rules).drop rules.length = List.replicate (maximumRules - rules.length) unusedRule := by
    rw [padRules, List.drop_left]
  have placed : ∀ results, (List.range rules.length).mapM (ruleAt config words) = .ok results ∧ results.map Prod.fst = rules ↔
      (∀ (i : Nat) rule, rules[i]? = some rule → RuleStored (wordAt words) i rule) ∧
      results = rules.zipIdx.map (fun (rule, i) => (rule, counterAt config (wordAt words) i rule)) := by
    intro results
    rw [List.range_eq_range', rulesAt_ok fresh, mem_zipIdx_rules]
  constructor
  · intro accepted
    obtain ⟨expected, decoded, accepted⟩ := ok_bind accepted
    cases compiled.symm.trans decoded
    obtain ⟨held, again, accepted⟩ := ok_bind accepted
    cases read.symm.trans again
    obtain ⟨counted, accepted⟩ := ok_refuse accepted
    obtain ⟨results, mapped, accepted⟩ := ok_bind accepted
    dsimp only at accepted
    rw [padding] at accepted
    obtain ⟨observed, rfl⟩ := Prod.mk.inj (Except.ok.inj accepted)
    obtain ⟨limit, _, rulesRead⟩ := UniversalActionConfig.mk.inj (Decoded.universalAction.inj observed)
    have firsts : results.map Prod.fst = rules := List.append_cancel_right rulesRead
    obtain ⟨stored, rfl⟩ := (placed results).mp ⟨mapped, firsts⟩
    exact ⟨⟨limit, bne_eq_false_iff_eq.mp counted, stored⟩, countersOf_eq⟩
  · rintro ⟨stored, rfl⟩
    obtain ⟨mapped, firsts⟩ := (placed _).mpr ⟨stored.rules, rfl⟩
    refine bind_run compiled (bind_run read (bind_run (refuse_ok.mpr ?_) (bind_run mapped ?_)))
    · exact bne_eq_false_iff_eq.mpr stored.length
    · rw [firsts, padding, stored.valueLimitPerUse, countersOf_eq]
      rfl

/-- The reading of an action accepts exactly the layout of what was compiled, and reports the limited rules' counters. -/
theorem observeUniversalAction_exact (injective : Function.Injective digest) {valueLimitPerUse policy configId : Nat}
    {rules : List ParameterRule} {action : EncodedAction} (compiled : encodeUniversalAction valueLimitPerUse rules = .ok action)
    {replies : PolicyReplies} {slots : Nat → StorageWord}
    (answered : ∀ place < 2 + 4 * rules.length, replies.slot place = .ok (slots place)) :
    let config := universalConfiguration policy configId action
    let word := fun place => (slots place).toNat
    ((∃ result, observeConfiguration digest config replies = .ok result) ↔ ActionStored word valueLimitPerUse rules) ∧
      ∀ decoded counters, observeConfiguration digest config replies = .ok (decoded, counters) →
        decoded = .universalAction action.decoded ∧ counters = countersOf config word rules := by
  intro config word
  obtain ⟨read, decoded, _, _, _, fresh⟩ := encodeUniversalAction_ok compiled
  have words : (List.range (2 + 4 * rules.length)).mapM replies.slot =
      .ok ((List.range (2 + 4 * rules.length)).map slots) :=
    mapM_map (fun place member => answered place (List.mem_range.mp member))
  have same : ∀ place < 2 + 4 * rules.length, wordAt ((List.range (2 + 4 * rules.length)).map slots) place = word place :=
    fun place inside => wordAt_read inside
  rw [decoded] at read
  have exact : ∀ counters, observeUniversalAction config replies = .ok (.universalAction action.decoded, counters) ↔
      ActionStored word valueLimitPerUse rules ∧ counters = countersOf config word rules := by
    intro counters
    have observing := @observeUniversalAction_ok config _ counters _ _ _ read words fresh
    rw [decoded, observing, countersOf_congr same]
    exact and_congr_left (fun _ => ⟨.congr same, .congr (fun place inside => (same place inside).symm)⟩)
  have reported : ∀ decoded counters, observeConfiguration digest config replies = .ok (decoded, counters) →
      decoded = .universalAction action.decoded ∧ ActionStored word valueLimitPerUse rules ∧
        counters = countersOf config word rules := by
    intro observed counters accepted
    obtain ⟨⟨state, counted⟩, ran, accepted⟩ := ok_bind accepted
    obtain ⟨agreed, accepted⟩ := ok_refuse accepted
    cases accepted
    have agrees : observed = .universalAction action.decoded := injective (bne_eq_false_iff_eq.mp agreed)
    subst agrees
    exact ⟨rfl, (exact counters).mp ran⟩
  refine ⟨⟨?_, fun stored => ?_⟩, fun observed counters accepted => ?_⟩
  · rintro ⟨⟨observed, counters⟩, accepted⟩
    exact (reported observed counters accepted).2.1
  · have ran : observed config replies = _ := (exact _).mpr ⟨stored, rfl⟩
    exact ⟨_, bind_run ran (bind_run (refuse_ok.mpr (bne_self_eq_false _)) rfl)⟩
  · obtain ⟨agrees, _, counted⟩ := reported observed counters accepted
    exact ⟨agrees, counted⟩

namespace InstalledSample

/-- A call's project must be the seventh, and the amounts it pays are limited. -/
def rules : List ParameterRule := [⟨0, 4, false, 7, ⟨0, 0⟩⟩, ⟨4, 36, true, 5, ⟨20, 0⟩⟩]

def action : EncodedAction := ⟨encodeWords ⟨9, 2, padRules rules⟩, ⟨9, 2, padRules rules⟩⟩

def slots (place : Nat) : StorageWord :=
  [9, 2, 4 * 2 ^ 8, 7, 0, 0, 4 + 36 * 2 ^ 8 + 2 ^ 72, 5, 20, 12][place]?.getD 0

def replies : PolicyReplies where
  timeFrame := .error (mismatch "unasked")
  limit := .error (mismatch "unasked")
  used := .error (mismatch "unasked")
  gasConfig := .error (mismatch "unasked")
  paymasterCode := .error (mismatch "unasked")
  slot place := .ok (slots place)

end InstalledSample

open InstalledSample in
/-- The sample's second rule reports what it has used. -/
theorem observeUniversalAction_exact_sample :
    (∃ result, observeConfiguration id (universalConfiguration 1 2 action) replies = .ok result) ∧
      countersOf (universalConfiguration 1 2 action) (fun place => (slots place).toNat) rules =
        [⟨1, 2, "parameter:1", 12, 20⟩] := by
  have compiled : encodeUniversalAction 9 rules = .ok action := by decide +kernel
  have answered : ∀ place < 2 + 4 * rules.length, replies.slot place = .ok (slots place) := fun _ _ => rfl
  have reading := @observeUniversalAction_exact _ _ id Function.injective_id 9 1 2 _ _ compiled _ _ answered
  refine ⟨reading.1.mpr ⟨by decide +kernel, by decide +kernel, fun i rule found => ?_⟩, by decide +kernel⟩
  match i with
  | 0 =>
    cases found
    exact ⟨by decide +kernel, by decide +kernel, by decide +kernel, by decide +kernel⟩
  | 1 =>
    cases found
    exact ⟨by decide +kernel, by decide +kernel, by decide +kernel, by decide +kernel⟩

end JBCenter.SmartAccounts.Compiler
