import JBCenter.Mcp.Schemas

/-! Rulesets as a caller writes them, as the contract takes them, and as they are read back. A configuration is over its
numbers: what was sent, the decimal texts the schema returns, or the integers of the contract. -/
namespace JBCenter.Mcp
open Rest (digitsValue)
open UserOperations.Semantics (Text lower)

structure RulesetMetadata (ν : Type) where
  reservedPercent : ν
  cashOutTaxRate : ν
  baseCurrency : ν
  pausePay : Bool
  pauseCreditTransfers : Bool
  allowOwnerMinting : Bool
  allowSetCustomToken : Bool
  allowTerminalMigration : Bool
  allowSetTerminals : Bool
  allowSetController : Bool
  allowAddAccountingContext : Bool
  allowAddPriceFeed : Bool
  ownerMustSendPayouts : Bool
  holdFees : Bool
  scopeCashOutsToLocalBalances : Bool
  useDataHookForPay : Bool
  useDataHookForCashOut : Bool
  dataHook : Text
  metadata : ν
  deriving DecidableEq

structure Split (ν : Type) where
  percent : ν
  projectId : ν
  beneficiary : Text
  preferAddToBalance : Bool
  lockedUntil : ν
  hook : Text
  deriving DecidableEq

structure SplitGroup (ν : Type) where
  groupId : ν
  splits : List (Split ν)
  deriving DecidableEq

structure CurrencyAmount (ν : Type) where
  amount : ν
  currency : ν
  deriving DecidableEq

structure FundAccessLimitGroup (ν : Type) where
  terminal : Text
  token : Text
  payoutLimits : List (CurrencyAmount ν)
  surplusAllowances : List (CurrencyAmount ν)
  deriving DecidableEq

structure RulesetConfig (ν : Type) where
  mustStartAtOrAfter : ν
  duration : ν
  weight : ν
  weightCutPercent : ν
  approvalHook : Text
  metadata : RulesetMetadata ν
  splitGroups : List (SplitGroup ν)
  fundAccessLimitGroups : List (FundAccessLimitGroup ν)
  deriving DecidableEq

def percent (value : Wire) : Except Invalid Text := uint 32 value 1000000000

def rate (value : Wire) : Except Invalid Text := uint 16 value 10000

def maxEntries : Nat := 32

section Schemas

variable (raised : Text → Nat → Bool)

def rulesetMetadataSchema (value : RulesetMetadata Wire) : Except Invalid (RulesetMetadata Text) := do
  let reservedPercent ← rate value.reservedPercent
  let cashOutTaxRate ← rate value.cashOutTaxRate
  let baseCurrency ← uint 32 value.baseCurrency
  let dataHook ← addressSchema raised value.dataHook
  let metadata ← uint 16 value.metadata 16383
  refuse ((value.useDataHookForPay || value.useDataHookForCashOut) && dataHook == zeroAddress) .issues
  return { value with reservedPercent, cashOutTaxRate, baseCurrency, dataHook, metadata }

def splitSchema (value : Split Wire) : Except Invalid (Split Text) := do
  let percent ← percent value.percent
  refuse (digitsValue percent == 0) .issues
  let projectId ← uint 64 value.projectId
  let beneficiary ← addressSchema raised value.beneficiary
  let lockedUntil ← uint 48 value.lockedUntil
  let hook ← addressSchema raised value.hook
  refuse (beneficiary == zeroAddress && (hook == zeroAddress || projectId != ['0'])) .issues
  return { percent, projectId, beneficiary, preferAddToBalance := value.preferAddToBalance, lockedUntil, hook }

def splitsAllowed (splits : List (Split Text)) : Bool :=
  splits.length ≤ maxEntries && (splits.map (fun split => digitsValue split.percent)).sum ≤ 1000000000

def splitGroupSchema (value : SplitGroup Wire) : Except Invalid (SplitGroup Text) := do
  let groupId ← uintSchema value.groupId
  let splits ← value.splits.mapM (splitSchema raised)
  refuse (!splitsAllowed splits) .issues
  return { groupId, splits }

def currencyAmountSchema (value : CurrencyAmount Wire) : Except Invalid (CurrencyAmount Text) := do
  let amount ← uint 224 value.amount
  let currency ← uint 32 value.currency
  return { amount, currency }

/-- Whether every currency is above the one before it. -/
def currenciesIncrease : List (CurrencyAmount Text) → Bool
  | first :: second :: rest => digitsValue first.currency < digitsValue second.currency && currenciesIncrease (second :: rest)
  | _ => true

def currencyAmountsSchema (values : List (CurrencyAmount Wire)) : Except Invalid (List (CurrencyAmount Text)) := do
  let amounts ← values.mapM currencyAmountSchema
  refuse (maxEntries < amounts.length || !currenciesIncrease amounts) .issues
  return amounts

def fundAccessLimitGroupSchema (value : FundAccessLimitGroup Wire) : Except Invalid (FundAccessLimitGroup Text) := do
  let terminal ← nonzeroAddress raised value.terminal
  let token ← nonzeroAddress raised value.token
  let payoutLimits ← currencyAmountsSchema value.payoutLimits
  let surplusAllowances ← currencyAmountsSchema value.surplusAllowances
  return { terminal, token, payoutLimits, surplusAllowances }

/-- Whether a text stands twice in a list, whatever the case of its letters. -/
def duplicates (values : List Text) : Bool := !(values.map lower).Nodup

def limitKey (group : FundAccessLimitGroup ν) : Text := group.terminal ++ ':' :: group.token

def rulesetConfigSchema (value : RulesetConfig Wire) : Except Invalid (RulesetConfig Text) := do
  let mustStartAtOrAfter ← uint 48 value.mustStartAtOrAfter
  let duration ← uint 32 value.duration
  let weight ← uint 112 value.weight
  let weightCutPercent ← percent value.weightCutPercent
  let approvalHook ← addressSchema raised value.approvalHook
  let metadata ← rulesetMetadataSchema raised value.metadata
  let splitGroups ← value.splitGroups.mapM (splitGroupSchema raised)
  let fundAccessLimitGroups ← value.fundAccessLimitGroups.mapM (fundAccessLimitGroupSchema raised)
  refuse (maxEntries < splitGroups.length || maxEntries < fundAccessLimitGroups.length) .issues
  refuse (2 ^ 48 - 1 < digitsValue mustStartAtOrAfter + digitsValue duration) .issues
  refuse (duplicates (splitGroups.map (fun group => group.groupId))) .issues
  refuse (duplicates (fundAccessLimitGroups.map limitKey)) .issues
  return {
    mustStartAtOrAfter, duration, weight, weightCutPercent, approvalHook, metadata, splitGroups, fundAccessLimitGroups }

end Schemas

/-- The integers of the contract; `Number` is exact on the fields it reads, which are below 2^53. -/
def toRulesetConfig (value : RulesetConfig Text) : RulesetConfig Nat where
  mustStartAtOrAfter := digitsValue value.mustStartAtOrAfter
  duration := digitsValue value.duration
  weight := digitsValue value.weight
  weightCutPercent := digitsValue value.weightCutPercent
  approvalHook := value.approvalHook
  metadata := { value.metadata with
    reservedPercent := digitsValue value.metadata.reservedPercent
    cashOutTaxRate := digitsValue value.metadata.cashOutTaxRate
    baseCurrency := digitsValue value.metadata.baseCurrency
    metadata := digitsValue value.metadata.metadata }
  splitGroups := value.splitGroups.map (fun group => {
    groupId := digitsValue group.groupId
    splits := group.splits.map (fun split => { split with
      percent := digitsValue split.percent
      projectId := digitsValue split.projectId
      lockedUntil := digitsValue split.lockedUntil }) })
  fundAccessLimitGroups := value.fundAccessLimitGroups.map (fun group => { group with
    payoutLimits := group.payoutLimits.map (fun amount => ⟨digitsValue amount.amount, digitsValue amount.currency⟩)
    surplusAllowances := group.surplusAllowances.map (fun amount =>
      ⟨digitsValue amount.amount, digitsValue amount.currency⟩) })

def decimal (value : Nat) : Wire := .text (Nat.toDigits 10 value)

structure StoredRuleset where
  duration : Nat
  weight : Nat
  weightCutPercent : Nat
  approvalHook : Text

structure StoredSplitGroup where
  groupId : Text
  splits : List (Split Nat)

def toRulesetInput (ruleset : StoredRuleset) (metadata : RulesetMetadata Nat) (splitGroups : List StoredSplitGroup)
    (fundAccessLimitGroups : List (FundAccessLimitGroup Nat)) : RulesetConfig Wire :=
  let amounts := fun (values : List (CurrencyAmount Nat)) =>
    values.map (fun value => (⟨decimal value.amount, decimal value.currency⟩ : CurrencyAmount Wire))
  { mustStartAtOrAfter := .text ['0']
    duration := decimal ruleset.duration
    weight := decimal ruleset.weight
    weightCutPercent := decimal ruleset.weightCutPercent
    approvalHook := ruleset.approvalHook
    metadata := { metadata with
      reservedPercent := decimal metadata.reservedPercent
      cashOutTaxRate := decimal metadata.cashOutTaxRate
      baseCurrency := decimal metadata.baseCurrency
      metadata := decimal metadata.metadata }
    splitGroups := (splitGroups.filter (fun group => 0 < group.splits.length)).map (fun group => {
      groupId := .text group.groupId
      splits := group.splits.map (fun split => { split with
        percent := decimal split.percent
        projectId := decimal split.projectId
        lockedUntil := decimal split.lockedUntil }) })
    fundAccessLimitGroups :=
      (fundAccessLimitGroups.filter (fun group => 0 < group.payoutLimits.length + group.surplusAllowances.length)).map
        (fun group => { group with
          payoutLimits := amounts group.payoutLimits
          surplusAllowances := amounts group.surplusAllowances }) }

/-- What the contract stores of a configuration, read back and exported. -/
def exported (config : RulesetConfig Nat) : RulesetConfig Wire :=
  toRulesetInput ⟨config.duration, config.weight, config.weightCutPercent, config.approvalHook⟩ config.metadata
    (config.splitGroups.map (fun group => ⟨Nat.toDigits 10 group.groupId, group.splits⟩)) config.fundAccessLimitGroups

/-- The text of a number, as it is exported again. -/
def resent (text : Text) : Wire := decimal (digitsValue text)

def RulesetMetadata.resent (metadata : RulesetMetadata Text) : RulesetMetadata Wire := { metadata with
  reservedPercent := Mcp.resent metadata.reservedPercent
  cashOutTaxRate := Mcp.resent metadata.cashOutTaxRate
  baseCurrency := Mcp.resent metadata.baseCurrency
  metadata := Mcp.resent metadata.metadata }

def Split.resent (split : Split Text) : Split Wire := { split with
  percent := Mcp.resent split.percent
  projectId := Mcp.resent split.projectId
  lockedUntil := Mcp.resent split.lockedUntil }

def SplitGroup.resent (group : SplitGroup Text) : SplitGroup Wire where
  groupId := Mcp.resent group.groupId
  splits := group.splits.map Split.resent

def CurrencyAmount.resent (amount : CurrencyAmount Text) : CurrencyAmount Wire where
  amount := Mcp.resent amount.amount
  currency := Mcp.resent amount.currency

def FundAccessLimitGroup.resent (group : FundAccessLimitGroup Text) : FundAccessLimitGroup Wire := { group with
  payoutLimits := group.payoutLimits.map CurrencyAmount.resent
  surplusAllowances := group.surplusAllowances.map CurrencyAmount.resent }

section Export

variable {raised : Text → Nat → Bool} {bits max : Nat} {wire : Wire} {text : Text}

theorem uint_again (accepted : uint bits wire max = .ok text) : uint bits (resent text) max = .ok text := by
  obtain ⟨again, canonical, _⟩ := uint_ok accepted
  rwa [resent, decimal, canonical]

theorem uintSchema_again (accepted : uintSchema wire = .ok text) : uintSchema (resent text) = .ok text := by
  have again := uintSchema_ok accepted
  rw [resent, decimal, (decimalUint_ok again).2]
  exact again

theorem rulesetMetadataSchema_again {sent : RulesetMetadata Wire} {value : RulesetMetadata Text}
    (accepted : rulesetMetadataSchema raised sent = .ok value) : rulesetMetadataSchema raised value.resent = .ok value := by
  obtain ⟨reservedPercent, reserved, accepted⟩ := ok_bind accepted
  obtain ⟨cashOutTaxRate, taxed, accepted⟩ := ok_bind accepted
  obtain ⟨baseCurrency, based, accepted⟩ := ok_bind accepted
  obtain ⟨dataHook, hooked, accepted⟩ := ok_bind accepted
  obtain ⟨metadata, annotated, accepted⟩ := ok_bind accepted
  obtain ⟨explicit, accepted⟩ := ok_refuse accepted
  cases accepted
  exact bind_run (uint_again reserved) (bind_run (uint_again taxed) (bind_run (uint_again based)
    (bind_run (addressSchema_ok hooked) (bind_run (uint_again annotated)
      (bind_run (refuse_ok.mpr explicit) rfl)))))

theorem splitSchema_again (sent : Split Wire) (value : Split Text) (accepted : splitSchema raised sent = .ok value) :
    splitSchema raised value.resent = .ok value := by
  obtain ⟨percent, shared, accepted⟩ := ok_bind accepted
  obtain ⟨positive, accepted⟩ := ok_refuse accepted
  obtain ⟨projectId, identified, accepted⟩ := ok_bind accepted
  obtain ⟨beneficiary, benefits, accepted⟩ := ok_bind accepted
  obtain ⟨lockedUntil, locked, accepted⟩ := ok_bind accepted
  obtain ⟨hook, hooked, accepted⟩ := ok_bind accepted
  obtain ⟨specified, accepted⟩ := ok_refuse accepted
  cases accepted
  exact bind_run (uint_again shared) (bind_run (refuse_ok.mpr positive)
    (bind_run (uint_again identified) (bind_run (addressSchema_ok benefits)
      (bind_run (uint_again locked) (bind_run (addressSchema_ok hooked)
        (bind_run (refuse_ok.mpr specified) rfl))))))

theorem splitGroupSchema_again (sent : SplitGroup Wire) (value : SplitGroup Text)
    (accepted : splitGroupSchema raised sent = .ok value) : splitGroupSchema raised value.resent = .ok value := by
  obtain ⟨groupId, identified, accepted⟩ := ok_bind accepted
  obtain ⟨splits, read, accepted⟩ := ok_bind accepted
  obtain ⟨allowed, accepted⟩ := ok_refuse accepted
  cases accepted
  exact bind_run (uintSchema_again identified) (bind_run (mapM_again read splitSchema_again (fun _ member => member))
    (bind_run (refuse_ok.mpr allowed) rfl))

theorem currencyAmountSchema_again (sent : CurrencyAmount Wire) (value : CurrencyAmount Text)
    (accepted : currencyAmountSchema sent = .ok value) : currencyAmountSchema value.resent = .ok value := by
  obtain ⟨amount, limited, accepted⟩ := ok_bind accepted
  obtain ⟨currency, counted, accepted⟩ := ok_bind accepted
  cases accepted
  exact bind_run (uint_again limited) (bind_run (uint_again counted) rfl)

theorem currencyAmountsSchema_again {sent : List (CurrencyAmount Wire)} {values : List (CurrencyAmount Text)}
    (accepted : currencyAmountsSchema sent = .ok values) :
    currencyAmountsSchema (values.map CurrencyAmount.resent) = .ok values := by
  obtain ⟨amounts, read, accepted⟩ := ok_bind accepted
  obtain ⟨allowed, accepted⟩ := ok_refuse accepted
  cases accepted
  exact bind_run (mapM_again read currencyAmountSchema_again (fun _ member => member))
    (bind_run (refuse_ok.mpr allowed) rfl)

theorem fundAccessLimitGroupSchema_again (sent : FundAccessLimitGroup Wire) (value : FundAccessLimitGroup Text)
    (accepted : fundAccessLimitGroupSchema raised sent = .ok value) :
    fundAccessLimitGroupSchema raised value.resent = .ok value := by
  obtain ⟨terminal, held, accepted⟩ := ok_bind accepted
  obtain ⟨token, accounted, accepted⟩ := ok_bind accepted
  obtain ⟨payoutLimits, limited, accepted⟩ := ok_bind accepted
  obtain ⟨surplusAllowances, allowed, accepted⟩ := ok_bind accepted
  cases accepted
  exact bind_run (nonzeroAddress_ok held) (bind_run (nonzeroAddress_ok accounted)
    (bind_run (currencyAmountsSchema_again limited) (bind_run (currencyAmountsSchema_again allowed) rfl)))

theorem duplicates_filter {key : α → Text} {items : List α} {kept : α → Bool} (unique : duplicates (items.map key) = false) :
    duplicates ((items.filter kept).map key) = false := by
  rw [duplicates, Bool.not_eq_eq_eq_not, Bool.not_false, decide_eq_true_eq] at unique ⊢
  exact unique.sublist ((List.filter_sublist.map key).map lower)

end Export

section Inverse

variable {raised : Text → Nat → Bool} {sent : RulesetConfig Wire} {value : RulesetConfig Text}

/-- A configuration as it is stored: the queue picks its start, and a group without entries is not one. -/
def RulesetConfig.kept (config : RulesetConfig ν) (start : ν) : RulesetConfig ν := { config with
  mustStartAtOrAfter := start
  splitGroups := config.splitGroups.filter (fun group => 0 < group.splits.length)
  fundAccessLimitGroups :=
    config.fundAccessLimitGroups.filter (fun group => 0 < group.payoutLimits.length + group.surplusAllowances.length) }

theorem toRulesetConfig_kept : toRulesetConfig (value.kept ['0']) = (toRulesetConfig value).kept 0 := by
  simp only [toRulesetConfig, RulesetConfig.kept, List.filter_map, Function.comp_def, List.length_map]
  rfl

def RulesetConfig.resent (config : RulesetConfig Text) : RulesetConfig Wire where
  mustStartAtOrAfter := Mcp.resent config.mustStartAtOrAfter
  duration := Mcp.resent config.duration
  weight := Mcp.resent config.weight
  weightCutPercent := Mcp.resent config.weightCutPercent
  approvalHook := config.approvalHook
  metadata := config.metadata.resent
  splitGroups := config.splitGroups.map SplitGroup.resent
  fundAccessLimitGroups := config.fundAccessLimitGroups.map FundAccessLimitGroup.resent

theorem exported_toRulesetConfig : exported (toRulesetConfig value) = (value.kept ['0']).resent := by
  simp only [exported, toRulesetInput, toRulesetConfig, RulesetConfig.kept, RulesetConfig.resent, List.filter_map,
    List.map_map, Function.comp_def, List.length_map]
  rfl

theorem rulesetConfigSchema_kept (accepted : rulesetConfigSchema raised sent = .ok value) :
    rulesetConfigSchema raised (value.kept ['0']).resent = .ok (value.kept ['0']) := by
  obtain ⟨start, started, accepted⟩ := ok_bind accepted
  obtain ⟨duration, lasts, accepted⟩ := ok_bind accepted
  obtain ⟨weight, weighed, accepted⟩ := ok_bind accepted
  obtain ⟨weightCutPercent, cut, accepted⟩ := ok_bind accepted
  obtain ⟨approvalHook, approved, accepted⟩ := ok_bind accepted
  obtain ⟨metadata, described, accepted⟩ := ok_bind accepted
  obtain ⟨splitGroups, splits, accepted⟩ := ok_bind accepted
  obtain ⟨limitGroups, limits, accepted⟩ := ok_bind accepted
  obtain ⟨few, accepted⟩ := ok_refuse accepted
  obtain ⟨fits, accepted⟩ := ok_refuse accepted
  obtain ⟨groupsUnique, accepted⟩ := ok_refuse accepted
  obtain ⟨limitsUnique, accepted⟩ := ok_refuse accepted
  cases accepted
  rw [Bool.or_eq_false_iff, decide_eq_false_iff_not, decide_eq_false_iff_not, Nat.not_lt, Nat.not_lt] at few
  have zero : uint 48 (resent ['0']) = .ok ['0'] := by decide
  have lasting : digitsValue duration ≤ 2 ^ 32 - 1 := (uint_ok lasts).2.2
  refine bind_run zero (bind_run (uint_again lasts) (bind_run (uint_again weighed)
    (bind_run (uint_again cut) (bind_run (addressSchema_ok approved)
      (bind_run (rulesetMetadataSchema_again described)
        (bind_run (mapM_again splits splitGroupSchema_again (fun _ member => List.mem_of_mem_filter member))
          (bind_run (mapM_again limits fundAccessLimitGroupSchema_again (fun _ member => List.mem_of_mem_filter member))
            (bind_run (refuse_ok.mpr ?_) (bind_run (refuse_ok.mpr ?_)
              (bind_run (refuse_ok.mpr (duplicates_filter groupsUnique))
                (bind_run (refuse_ok.mpr (duplicates_filter limitsUnique)) rfl)))))))))))
  · rw [Bool.or_eq_false_iff, decide_eq_false_iff_not, decide_eq_false_iff_not, Nat.not_lt, Nat.not_lt]
    exact ⟨(List.length_filter_le _ _).trans few.1, (List.length_filter_le _ _).trans few.2⟩
  · have sum : digitsValue ['0'] + digitsValue duration ≤ 2 ^ 48 - 1 := by
      have none : digitsValue ['0'] = 0 := rfl
      omega
    exact decide_eq_false (Nat.not_lt.mpr sum)

/-- A stored ruleset is exported as one that is accepted and converts to what is stored, but for its start and for the
groups that are empty. -/
theorem toRulesetInput_inverts (accepted : rulesetConfigSchema raised sent = .ok value) :
    ∃ again, rulesetConfigSchema raised (exported (toRulesetConfig value)) = .ok again ∧
      toRulesetConfig again = (toRulesetConfig value).kept 0 :=
  ⟨value.kept ['0'], by rw [exported_toRulesetConfig]; exact rulesetConfigSchema_kept accepted, toRulesetConfig_kept⟩

namespace RulesetSample

/-- An address without letters, which a checksum leaves as it is. -/
def account (digit : Char) : Text := '0' :: 'x' :: List.replicate 40 digit

def asked : RulesetConfig Wire where
  mustStartAtOrAfter := .number 1700000000
  duration := .number 86400
  weight := .text "1000".toList
  weightCutPercent := .text "100000000".toList
  approvalHook := zeroAddress
  metadata := ⟨.number 500, .text ['0'], .number 1, false, false, true, false, false, false, false, false, false, false, false,
    false, false, false, zeroAddress, .text ['7']⟩
  splitGroups := [⟨.text ['1'], [⟨.number 1000, .text ['5'], account '2', true, .number 0, zeroAddress⟩]⟩, ⟨.text ['2'], []⟩]
  fundAccessLimitGroups := [⟨account '3', account '4', [⟨.text "900".toList, .number 1⟩], []⟩, ⟨account '3', account '5', [], []⟩]

def read : RulesetConfig Text where
  mustStartAtOrAfter := "1700000000".toList
  duration := "86400".toList
  weight := "1000".toList
  weightCutPercent := "100000000".toList
  approvalHook := zeroAddress
  metadata := ⟨"500".toList, ['0'], ['1'], false, false, true, false, false, false, false, false, false, false, false, false,
    false, false, zeroAddress, ['7']⟩
  splitGroups := [⟨['1'], [⟨"1000".toList, ['5'], account '2', true, ['0'], zeroAddress⟩]⟩, ⟨['2'], []⟩]
  fundAccessLimitGroups := [⟨account '3', account '4', [⟨"900".toList, ['1']⟩], []⟩, ⟨account '3', account '5', [], []⟩]

end RulesetSample

open RulesetSample in
/-- The sample's start and its two empty groups are what the export loses. -/
theorem toRulesetInput_inverts_sample :
    (∃ again, rulesetConfigSchema (fun _ _ => true) (exported (toRulesetConfig read)) = .ok again ∧
      toRulesetConfig again = (toRulesetConfig read).kept 0) ∧
      (toRulesetConfig read).splitGroups.length = 2 ∧ ((toRulesetConfig read).kept 0).splitGroups.length = 1 :=
  have accepted : rulesetConfigSchema (fun _ _ => true) asked = .ok read := by decide +kernel
  ⟨toRulesetInput_inverts accepted, by decide, by decide⟩

end Inverse

end JBCenter.Mcp
