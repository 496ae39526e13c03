import JBCenter.Rest.Core

/-! The rules of the universal action policy and its initialization. A decimal text is the number it names, and the
initialization is the list of its 32-byte words, all of which are static. -/
namespace JBCenter.SmartAccounts.Compiler
open Rest

structure Usage where
  limit : Nat
  used : Nat
  deriving DecidableEq

structure ParameterRule where
  condition : Nat
  offset : Nat
  isLimited : Bool
  ref : Nat
  usage : Usage
  deriving DecidableEq

structure UniversalActionConfig where
  valueLimitPerUse : Nat
  length : Nat
  rules : List ParameterRule
  deriving DecidableEq

def maximumRules : Nat := 16

def invalidEncoding (message : String) : RestError := ⟨400, "SMART_COMPILER_INVALID", message, none⟩

def exactUint (value : Nat) (bits : Nat := 256) : Except RestError Nat := do
  refuse (2 ^ bits ≤ value) (invalidEncoding ("Compiler value exceeds uint" ++ toString bits ++ "."))
  return value

def encodeRule (rule : ParameterRule) : List Nat :=
  [rule.condition, rule.offset, if rule.isLimited then 1 else 0, rule.ref, rule.usage.limit, rule.usage.used]

/-- viem's coding of the tuple, as long as its numbers are of their types. -/
def encodeWords (value : UniversalActionConfig) : List Nat :=
  value.valueLimitPerUse :: value.length :: value.rules.flatMap encodeRule

/-- Decoding throws on words outside their types. -/
def decodeRules : Nat → List Nat → Option (List ParameterRule)
  | 0, _ => some []
  | count + 1, condition :: offset :: isLimited :: ref :: limit :: used :: words => do
    guard (condition < 2 ^ 8 ∧ offset < 2 ^ 64 ∧ isLimited ≤ 1)
    let rules ← decodeRules count words
    return ⟨condition, offset, isLimited == 1, ref, ⟨limit, used⟩⟩ :: rules
  | _, _ => none

def decodeWords : List Nat → Option UniversalActionConfig
  | valueLimitPerUse :: length :: words => do
    let rules ← decodeRules maximumRules words
    return ⟨valueLimitPerUse, length, rules⟩
  | _ => none

def decodeUniversalAction (initData : List Nat) : Except RestError UniversalActionConfig :=
  match decodeWords initData with
  | none => .error (invalidEncoding "Malformed UniversalActionPolicy initialization bytes.")
  | some value => do
    refuse (encodeWords value != initData || value.length < 1 || maximumRules < value.length)
      (invalidEncoding "Noncanonical UniversalActionPolicy initialization.")
    return value

/-- The check of a rule that is to be installed. -/
def parseRule (rule : ParameterRule) : Except RestError ParameterRule := do
  let failure := invalidEncoding "New policies must contain valid rules and zero consumed counters."
  refuse (6 < rule.condition || 2 ^ 256 ≤ rule.ref) failure
  let used ← exactUint rule.usage.used
  refuse (used != 0) failure
  let offset ← exactUint rule.offset 64
  let limit ← exactUint rule.usage.limit
  return { rule with offset, usage := ⟨limit, 0⟩ }

def unusedRule : ParameterRule := ⟨0, 0, false, 0, ⟨0, 0⟩⟩

def padRules (rules : List ParameterRule) : List ParameterRule :=
  rules ++ List.replicate (maximumRules - rules.length) unusedRule

structure EncodedAction where
  initData : List Nat
  decoded : UniversalActionConfig
  deriving DecidableEq

def encodeUniversalAction (valueLimitPerUse : Nat) (rules : List ParameterRule) : Except RestError EncodedAction := do
  refuse (rules.length < 1 || maximumRules < rules.length) (invalidEncoding "UniversalActionPolicy requires 1–16 rules.")
  let parsed ← (padRules rules).mapM parseRule
  let limit ← exactUint valueLimitPerUse
  let initData := encodeWords ⟨limit, rules.length, parsed⟩
  let decoded ← decodeUniversalAction initData
  return ⟨initData, decoded⟩

/-- The rule's numbers are of the types of its words, and nothing of its limit is used. -/
structure ParameterRule.Fresh (rule : ParameterRule) : Prop where
  condition : rule.condition ≤ 6
  offset : rule.offset < 2 ^ 64
  ref : rule.ref < 2 ^ 256
  limit : rule.usage.limit < 2 ^ 256
  used : rule.usage.used = 0

theorem exactUint_ok {value bits n : Nat} (accepted : exactUint value bits = .ok n) : n = value ∧ value < 2 ^ bits := by
  obtain ⟨small, accepted⟩ := ok_refuse accepted
  cases accepted
  exact ⟨rfl, Nat.lt_of_not_le (of_decide_eq_false small)⟩

theorem parseRule_ok {rule parsed : ParameterRule} (accepted : parseRule rule = .ok parsed) : parsed = rule ∧ rule.Fresh := by
  obtain ⟨typed, accepted⟩ := ok_refuse accepted
  obtain ⟨used, unused, accepted⟩ := ok_bind accepted
  obtain ⟨fresh, accepted⟩ := ok_refuse accepted
  obtain ⟨offset, placed, accepted⟩ := ok_bind accepted
  obtain ⟨limit, limited, accepted⟩ := ok_bind accepted
  cases accepted
  obtain ⟨rfl, _⟩ := exactUint_ok unused
  obtain ⟨rfl, small⟩ := exactUint_ok placed
  obtain ⟨rfl, bounded⟩ := exactUint_ok limited
  simp only [Bool.or_eq_false_iff, decide_eq_false_iff_not] at typed
  obtain ⟨condition, ref⟩ := typed
  rw [bne_eq_false_iff_eq] at fresh
  refine ⟨?_, Nat.le_of_not_lt condition, small, Nat.lt_of_not_le ref, bounded, fresh⟩
  rw [← fresh]

variable {rules : List ParameterRule}

theorem parseRules_ok {parsed : List ParameterRule} (accepted : rules.mapM parseRule = .ok parsed) :
    parsed = rules ∧ ∀ rule ∈ rules, rule.Fresh := by
  have each := mapM_ok accepted
  clear accepted
  induction each with
  | nil => exact ⟨rfl, fun _ member => absurd member List.not_mem_nil⟩
  | @cons rule result rest results computed _ ih =>
    obtain ⟨rfl, fresh⟩ := parseRule_ok computed
    obtain ⟨rfl, freshRest⟩ := ih
    exact ⟨rfl, List.forall_mem_cons.mpr ⟨fresh, freshRest⟩⟩

theorem decodeRules_encode (fresh : ∀ rule ∈ rules, rule.Fresh) :
    decodeRules rules.length (rules.flatMap encodeRule) = some rules := by
  induction rules with
  | nil => rfl
  | cons rule rest ih =>
    obtain ⟨first, others⟩ := List.forall_mem_cons.mp fresh
    have flag : (if rule.isLimited then 1 else 0) ≤ 1 := by split <;> omega
    have typed : rule.condition < 2 ^ 8 ∧ rule.offset < 2 ^ 64 ∧ (if rule.isLimited then 1 else 0) ≤ 1 :=
      ⟨Nat.lt_of_le_of_lt first.condition (by decide), first.offset, flag⟩
    rw [List.flatMap_cons, encodeRule, List.length_cons]
    change (guard _ >>= fun _ => decodeRules rest.length (rest.flatMap encodeRule) >>= fun rules => _) = _
    rw [guard_bind_run typed]
    refine option_bind_run (ih others) ?_
    obtain ⟨condition, offset, isLimited, ref, limit, used⟩ := rule
    cases isLimited <;> rfl

theorem encodeUniversalAction_ok {valueLimitPerUse : Nat} {action : EncodedAction}
    (accepted : encodeUniversalAction valueLimitPerUse rules = .ok action) :
    decodeUniversalAction action.initData = .ok action.decoded ∧
      action.decoded = ⟨valueLimitPerUse, rules.length, padRules rules⟩ ∧ 1 ≤ rules.length ∧ rules.length ≤ maximumRules ∧
      valueLimitPerUse < 2 ^ 256 ∧ ∀ rule ∈ rules, rule.Fresh := by
  obtain ⟨bounds, accepted⟩ := ok_refuse accepted
  obtain ⟨parsed, checked, accepted⟩ := ok_bind accepted
  obtain ⟨limit, limited, accepted⟩ := ok_bind accepted
  obtain ⟨decoded, read, accepted⟩ := ok_bind accepted
  cases accepted
  obtain ⟨rfl, fresh⟩ := parseRules_ok checked
  obtain ⟨rfl, small⟩ := exactUint_ok limited
  rw [Bool.or_eq_false_iff, decide_eq_false_iff_not, decide_eq_false_iff_not] at bounds
  have padded : (padRules rules).length = maximumRules := by
    rw [padRules, List.length_append, List.length_replicate]
    omega
  have words : decodeWords (encodeWords ⟨limit, rules.length, padRules rules⟩) = some ⟨limit, rules.length, padRules rules⟩ := by
    refine option_bind_run ?_ rfl
    rw [← padded]
    exact decodeRules_encode fresh
  refine ⟨read, ?_, by omega, by omega, small, fun rule member => fresh rule (List.mem_append_left _ member)⟩
  unfold decodeUniversalAction at read
  rw [words] at read
  obtain ⟨_, read⟩ := ok_refuse read
  exact (Except.ok.inj read).symm

end JBCenter.SmartAccounts.Compiler
