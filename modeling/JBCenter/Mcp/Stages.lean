import JBCenter.Mcp.PlanVerification
import JBCenter.Mcp.Rulesets
import Mathlib.Order.Bounds.Basic

/-! The stages of a revnet: when each starts, and with which weight. -/
namespace JBCenter.Mcp
open Rest (digitsValue)
open UserOperations.Semantics (Text utf16Units isHexText)

structure AutoIssuance (ν : Type) where
  chainId : ν
  count : ν
  beneficiary : Text
  deriving DecidableEq

structure RevStage (ν : Type) where
  startsAtOrAfter : ν
  autoIssuances : List (AutoIssuance ν)
  splitPercent : ν
  splits : List (Split ν)
  initialIssuance : ν
  issuanceCutFrequency : ν
  issuanceCutPercent : ν
  cashOutTaxRate : ν
  extraMetadata : ν
  deriving DecidableEq

structure RevDescription where
  name : Text
  ticker : Text
  uri : Text
  salt : Text
  deriving DecidableEq

structure RevConfig (ν : Type) where
  description : RevDescription
  baseCurrency : ν
  operator : Text
  scopeCashOutsToLocalBalances : Bool
  stageConfigurations : List (RevStage ν)
  deriving DecidableEq

/-- A number that must not be zero. -/
def positiveUint (bits : Nat) (value : Wire) : Except Invalid Text := do
  let text ← uint bits value
  refuse (digitsValue text == 0) .issues
  return text

section Schemas

variable (raised : Text → Nat → Bool)

def autoIssuanceSchema (value : AutoIssuance Wire) : Except Invalid (AutoIssuance Text) := do
  let chainId ← positiveUint 32 value.chainId
  let count ← uint 104 value.count
  let beneficiary ← nonzeroAddress raised value.beneficiary
  return { chainId, count, beneficiary }

def revStageSchema (value : RevStage Wire) : Except Invalid (RevStage Text) := do
  let startsAtOrAfter ← positiveUint 48 value.startsAtOrAfter
  let autoIssuances ← value.autoIssuances.mapM (autoIssuanceSchema raised)
  let splitPercent ← uint 16 value.splitPercent 10000
  let splits ← value.splits.mapM (splitSchema raised)
  let initialIssuance ← uint 112 value.initialIssuance
  let issuanceCutFrequency ← uint 32 value.issuanceCutFrequency
  let issuanceCutPercent ← uint 32 value.issuanceCutPercent 1000000000
  let cashOutTaxRate ← uint 16 value.cashOutTaxRate 9999
  let extraMetadata ← uint 16 value.extraMetadata 16383
  refuse (maxEntries < autoIssuances.length || !splitsAllowed splits) .issues
  refuse (splitPercent != ['0'] && splits.isEmpty) .issues
  return {
    startsAtOrAfter, autoIssuances, splitPercent, splits, initialIssuance, issuanceCutFrequency, issuanceCutPercent,
    cashOutTaxRate, extraMetadata }

def descriptionAllowed (description : RevDescription) : Bool :=
  1 ≤ utf16Units description.name && utf16Units description.name ≤ 256 && 1 ≤ utf16Units description.ticker &&
    utf16Units description.ticker ≤ 32 && utf16Units description.uri ≤ 4096 && isHexText 64 description.salt

/-- Whether every stage's bound is above that of the stage before it. -/
def startsIncrease : List (RevStage Text) → Bool
  | first :: second :: rest =>
    digitsValue first.startsAtOrAfter < digitsValue second.startsAtOrAfter && startsIncrease (second :: rest)
  | _ => true

def revConfigSchema (value : RevConfig Wire) : Except Invalid (RevConfig Text) := do
  refuse (!descriptionAllowed value.description) .issues
  let baseCurrency ← positiveUint 32 value.baseCurrency
  let operator ← addressSchema raised value.operator
  let stageConfigurations ← value.stageConfigurations.mapM (revStageSchema raised)
  refuse (stageConfigurations.length < 1 || 16 < stageConfigurations.length) .issues
  refuse (!startsIncrease stageConfigurations) .issues
  return { value with baseCurrency, operator, stageConfigurations }

end Schemas

/-- The cuts of a weight, one cycle at a time; a weight of zero stays. -/
def cutLoop (weightCutPercent : Int) : Nat → Int → Int
  | 0, weight => weight
  | cycles + 1, weight =>
    if 0 < weight then cutLoop weightCutPercent cycles ((weight * (1000000000 - weightCutPercent)).tdiv 1000000000) else weight

def decayedWeight (weight weightCutPercent completedCycles : Int) : Except DomainError Int := do
  refuse (weight < 0 || 2 ^ 112 ≤ weight || weightCutPercent < 0 || 1000000000 < weightCutPercent || completedCycles < 0 ||
      10000 < completedCycles)
    ⟨"INVALID_SCENARIO", "Invalid or unbounded decay inputs."⟩
  return cutLoop weightCutPercent completedCycles.toNat weight

structure ResolvedStage where
  start : Nat
  duration : Nat
  weight : Int
  cut : Nat
  deriving DecidableEq

def deriveStart (baseStart baseDuration mustStartAtOrAfter : Nat) : Nat :=
  if baseDuration = 0 then mustStartAtOrAfter
  else
    let next := baseStart + baseDuration
    if mustStartAtOrAfter ≤ next then next
    else next + (mustStartAtOrAfter - next + baseDuration - 1) / baseDuration * baseDuration

def elapsedCuts (prior : ResolvedStage) (start : Nat) : Nat :=
  if prior.duration = 0 then 1
  else if prior.cut = 0 then 0
  else (start - prior.start) / prior.duration

def resolveFirst (stage : RevStage Text) : ResolvedStage where
  start := digitsValue stage.startsAtOrAfter
  duration := digitsValue stage.issuanceCutFrequency
  weight := digitsValue stage.initialIssuance
  cut := digitsValue stage.issuanceCutPercent

/-- A weight of 1 inherits the prior stage's, cut once per elapsed cycle. -/
def startingWeight (prior : ResolvedStage) (stage : RevStage Text) (start : Nat) : Except DomainError Int :=
  if stage.initialIssuance = ['1'] then decayedWeight prior.weight prior.cut (elapsedCuts prior start)
  else .ok (digitsValue stage.initialIssuance)

def resolveNext (prior : ResolvedStage) (stage : RevStage Text) : Except DomainError ResolvedStage := do
  let start := deriveStart prior.start prior.duration (digitsValue stage.startsAtOrAfter)
  let weight ← startingWeight prior stage start
  return { resolveFirst stage with start, weight }

def resolveAfter (prior : ResolvedStage) : List (RevStage Text) → Except DomainError (List ResolvedStage)
  | [] => .ok []
  | stage :: rest => do
    let next ← resolveNext prior stage
    let others ← resolveAfter next rest
    return next :: others

def resolveStages (config : RevConfig Text) : Except DomainError (List ResolvedStage) :=
  match config.stageConfigurations with
  | [] => .ok []
  | stage :: rest => do
    let others ← resolveAfter (resolveFirst stage) rest
    return resolveFirst stage :: others

def availableCycles (start duration nextStart : Nat) : Int :=
  if duration = 0 then 0 else ((nextStart : Int) - start).tdiv duration - 1

def stageBoundary (start duration : Nat) (nextStart : Option Nat) (cycles : Nat) : Except DomainError Unit :=
  match nextStart with
  | none => .ok ()
  | some nextStart =>
    refuse (availableCycles start duration nextStart < cycles) ⟨"STAGE_BOUNDARY_CROSSED",
      "The next stage starts at " ++ toString nextStart ++ ", after " ++ toString (availableCycles start duration nextStart) ++
        " more cycles. Model that stage instead."⟩

/-- What the model of a stage of a configuration starts from, and its weight after some cycles. -/
structure StageTerms where
  stage : Nat
  stageStart : Nat
  stageStartingWeight : Int
  weight : Int

def resolve (config : RevConfig Text) (index completedCycles : Nat) : Except DomainError StageTerms := do
  let stages ← resolveStages config
  match stages[index]? with
  | none => .error ⟨"TypeError", "Cannot read properties of undefined."⟩
  | some stage =>
    refuse (stage.duration == 0 && completedCycles != 0)
      ⟨"INVALID_SCENARIO", "This stage has no issuance cuts. Use completedCycles 0."⟩
    stageBoundary stage.start stage.duration (stages[index + 1]?.map ResolvedStage.start) completedCycles
    let weight ← decayedWeight stage.weight stage.cut completedCycles
    return ⟨index, stage.start, stage.weight, weight⟩

section Weights

variable {weight cut : Int}

theorem cutLoop_nonpositive (nothing : weight ≤ 0) (cycles : Nat) : cutLoop cut cycles weight = weight := by
  cases cycles with
  | zero => rfl
  | succ cycles => rw [cutLoop, if_neg (Int.not_lt.mpr nothing)]

theorem cutLoop_add (first second : Nat) :
    cutLoop cut (first + second) weight = cutLoop cut second (cutLoop cut first weight) := by
  induction first generalizing weight with
  | zero => rw [Nat.zero_add, cutLoop]
  | succ first ih =>
    rw [Nat.succ_add, cutLoop, cutLoop]
    split
    · exact ih
    case isFalse nothing => exact (cutLoop_nonpositive (Int.not_lt.mp nothing) second).symm

theorem cutLoop_free (cycles : Nat) : cutLoop 0 cycles weight = weight := by
  induction cycles generalizing weight with
  | zero => rfl
  | succ cycles ih =>
    rw [cutLoop, Int.sub_zero, Int.mul_tdiv_cancel _ (by decide), ih, ite_self]

theorem cut_bounds (positive : 0 < weight) (rate : 0 ≤ cut ∧ cut ≤ 1000000000) :
    0 ≤ (weight * (1000000000 - cut)).tdiv 1000000000 ∧ (weight * (1000000000 - cut)).tdiv 1000000000 ≤ weight := by
  have natural : 0 ≤ weight * (1000000000 - cut) := Int.mul_nonneg positive.le (Int.sub_nonneg.mpr rate.2)
  have less : weight * (1000000000 - cut) ≤ weight * 1000000000 :=
    Int.mul_le_mul_of_nonneg_left (Int.sub_le_self _ rate.1) positive.le
  rw [Int.tdiv_eq_ediv_of_nonneg natural]
  omega

theorem cutLoop_bounds (natural : 0 ≤ weight) (rate : 0 ≤ cut ∧ cut ≤ 1000000000) (cycles : Nat) :
    0 ≤ cutLoop cut cycles weight ∧ cutLoop cut cycles weight ≤ weight := by
  induction cycles generalizing weight with
  | zero => exact ⟨natural, Int.le_refl _⟩
  | succ cycles ih =>
    rw [cutLoop]
    split
    case isTrue positive =>
      obtain ⟨left, taken⟩ := cut_bounds positive rate
      exact ⟨(ih left).1, (ih left).2.trans taken⟩
    case isFalse => exact ⟨natural, Int.le_refl _⟩

def decayRefused (weight cut : Int) : Bool := weight < 0 || 2 ^ 112 ≤ weight || cut < 0 || 1000000000 < cut

theorem decayedWeight_eq {cycles : Nat} (few : cycles ≤ 10000) :
    decayedWeight weight cut cycles =
      if decayRefused weight cut then .error ⟨"INVALID_SCENARIO", "Invalid or unbounded decay inputs."⟩
      else .ok (cutLoop cut cycles weight) := by
  have natural : decide ((cycles : Int) < 0) = false := decide_eq_false (by omega)
  have bounded : decide (10000 < (cycles : Int)) = false := decide_eq_false (by omega)
  rw [decayedWeight, natural, bounded, Bool.or_false, Bool.or_false, decayRefused, refuse]
  split <;> rfl

theorem decayRefused_cut (allowed : decayRefused weight cut = false) (cycles : Nat) :
    decayRefused (cutLoop cut cycles weight) cut = false := by
  simp only [decayRefused, Bool.or_eq_false_iff, decide_eq_false_iff_not] at allowed ⊢
  obtain ⟨⟨⟨natural, bounded⟩, positive⟩, rate⟩ := allowed
  have within := cutLoop_bounds (Int.not_lt.mp natural) ⟨Int.not_lt.mp positive, Int.not_lt.mp rate⟩ cycles
  exact ⟨⟨⟨Int.not_lt.mpr within.1, fun large => bounded (large.trans within.2)⟩, positive⟩, rate⟩

theorem decayedWeight_add {first second : Nat} (few : first + second ≤ 10000) :
    decayedWeight weight cut (first + second : Nat) =
      (decayedWeight weight cut first >>= fun between => decayedWeight between cut second) := by
  rw [decayedWeight_eq few, decayedWeight_eq (Nat.le_of_add_right_le few)]
  split
  case isTrue => rfl
  case isFalse allowed =>
    have still := decayRefused_cut (Bool.eq_false_iff.mpr allowed) first
    refine Eq.trans ?_ (decayedWeight_eq (Nat.le_of_add_left_le few)).symm
    rw [if_neg (Bool.eq_false_iff.mp still), cutLoop_add]

theorem decayedWeight_ok {cycles : Nat} {left : Int} (decayed : decayedWeight weight cut cycles = .ok left) :
    left = cutLoop cut cycles weight := by
  obtain ⟨_, decayed⟩ := ok_refuse decayed
  cases decayed
  rfl

end Weights

section Boundaries

variable {start duration bound : Nat}

/-- The cycle boundaries at which a stage can be replaced, once it has run for a cycle. -/
def boundaries (start duration bound : Nat) : Set Nat :=
  {next | ∃ cycles, 1 ≤ cycles ∧ next = start + cycles * duration ∧ bound ≤ next}

theorem deriveStart_least (cyclic : duration ≠ 0) :
    IsLeast (boundaries start duration bound) (deriveStart start duration bound) := by
  have positive : 0 < duration := Nat.pos_of_ne_zero cyclic
  rw [deriveStart, if_neg cyclic]
  dsimp only
  split
  case isTrue early =>
    refine ⟨⟨1, Nat.le_refl 1, by rw [Nat.one_mul], early⟩, ?_⟩
    rintro next ⟨cycles, some, rfl, _⟩
    exact Nat.add_le_add_left (Nat.le_mul_of_pos_left duration some) start
  case isFalse late =>
    -- the missing time is rounded up to whole cycles
    generalize missing : bound - (start + duration) = time
    have whole := Nat.div_add_mod (time + duration - 1) duration
    have rest := Nat.mod_lt (time + duration - 1) positive
    generalize (time + duration - 1) / duration = cycles at whole
    generalize (time + duration - 1) % duration = left at whole rest
    have covered : cycles * duration = duration * cycles := Nat.mul_comm _ _
    refine ⟨⟨cycles + 1, Nat.le_add_left 1 cycles, ?_, by omega⟩, ?_⟩
    · rw [Nat.succ_mul]
      omega
    · rintro next ⟨others, _, rfl, after⟩
      by_contra fewer
      have less : others ≤ cycles := by
        by_contra more
        have product : (cycles + 1) * duration ≤ others * duration := Nat.mul_le_mul_right duration (Nat.not_le.mp more)
        rw [Nat.succ_mul] at product
        omega
      have product : others * duration ≤ cycles * duration := Nat.mul_le_mul_right duration less
      omega

theorem cycles_between (cyclic : duration ≠ 0) (cycles : Nat) : (start + cycles * duration - start) / duration = cycles := by
  rw [Nat.add_sub_cancel_left, Nat.mul_div_cancel _ (Nat.pos_of_ne_zero cyclic)]

theorem availableCycles_between (cyclic : duration ≠ 0) (cycles : Nat) :
    availableCycles start duration (start + (cycles + 1) * duration) = cycles := by
  have between : ((start + (cycles + 1) * duration : Nat) : Int) - start = ((cycles + 1) * duration : Nat) := by omega
  rw [availableCycles, if_neg cyclic, between]
  change (((cycles + 1) * duration / duration : Nat) : Int) - 1 = cycles
  rw [Nat.mul_div_cancel _ (Nat.pos_of_ne_zero cyclic)]
  omega

theorem stageBoundary_greatest (cyclic : duration ≠ 0) (cycles : Nat) :
    IsGreatest {completed | stageBoundary start duration (some (start + (cycles + 1) * duration)) completed = .ok ()} cycles := by
  have admitted : ∀ completed, stageBoundary start duration (some (start + (cycles + 1) * duration)) completed = .ok () ↔
      completed ≤ cycles := by
    intro completed
    rw [stageBoundary, refuse_ok, availableCycles_between cyclic, decide_eq_false_iff_not]
    omega
  exact ⟨(admitted cycles).mpr (Nat.le_refl cycles), fun completed allowed => (admitted completed).mp allowed⟩

end Boundaries

section Stages

variable {raised : Text → Nat → Bool} {sent : RevConfig Wire} {config : RevConfig Text} {own stage : RevStage Text}
  {prior next : ResolvedStage} {resolved : List ResolvedStage} {stages : List (RevStage Text)}

/-- How a stage follows the one before it. -/
structure Consistent (own stage : RevStage Text) (prior next : ResolvedStage) : Prop where
  increases : prior.start < next.start ↔ prior.duration ≠ 0 ∨ prior.start < digitsValue stage.startsAtOrAfter
  unmoved : prior.start = digitsValue own.startsAtOrAfter → prior.start < next.start
  acyclic : prior.duration = 0 → next.start = digitsValue stage.startsAtOrAfter
  boundary : prior.duration ≠ 0 →
    IsLeast (boundaries prior.start prior.duration (digitsValue stage.startsAtOrAfter)) next.start
  inherits : prior.duration ≠ 0 → stage.initialIssuance = ['1'] → ∃ largest : Nat,
    IsGreatest {completed | stageBoundary prior.start prior.duration (some next.start) completed = .ok ()} largest ∧
      next.weight = cutLoop prior.cut (largest + 1) prior.weight ∧
      ∀ weight, decayedWeight prior.weight prior.cut (largest + 1 : Nat) = .ok weight → weight = next.weight

theorem resolveNext_consistent (ran : resolveNext prior stage = .ok next)
    (increasing : digitsValue own.startsAtOrAfter < digitsValue stage.startsAtOrAfter) : Consistent own stage prior next := by
  obtain ⟨weight, weighed, ran⟩ := ok_bind ran
  cases ran
  have least := @deriveStart_least prior.start prior.duration (digitsValue stage.startsAtOrAfter)
  have increases : prior.start < deriveStart prior.start prior.duration (digitsValue stage.startsAtOrAfter) ↔
      prior.duration ≠ 0 ∨ prior.start < digitsValue stage.startsAtOrAfter := by
    by_cases cyclic : prior.duration = 0
    · rw [deriveStart, if_pos cyclic]
      exact ⟨Or.inr, fun later => later.resolve_left (not_not_intro cyclic)⟩
    · obtain ⟨cycles, some, later, _⟩ := (least cyclic).1
      have whole : prior.duration ≤ cycles * prior.duration := Nat.le_mul_of_pos_left _ some
      exact ⟨fun _ => Or.inl cyclic, fun _ => by omega⟩
  refine ⟨increases, fun unmoved => increases.mpr (Or.inr (unmoved ▸ increasing)), fun acyclic => ?_, least,
    fun cyclic inherited => ?_⟩
  · exact if_pos acyclic
  obtain ⟨cycles, some, later, _⟩ := (least cyclic).1
  obtain ⟨largest, rfl⟩ := Nat.exists_eq_add_of_le' some
  rw [startingWeight, if_pos inherited] at weighed
  have cut : weight = cutLoop prior.cut (largest + 1) prior.weight := by
    rw [decayedWeight_ok weighed, elapsedCuts, if_neg cyclic]
    split
    case isTrue free => rw [free, Int.natCast_zero, cutLoop_free, cutLoop_free]
    case isFalse => rw [later, cycles_between cyclic]
  refine ⟨largest, ?_, cut, fun left decayed => (decayedWeight_ok decayed).trans cut.symm⟩
  dsimp only
  rw [later]
  exact stageBoundary_greatest cyclic largest

theorem resolveAfter_at {before : ResolvedStage} (ran : resolveAfter before stages = .ok resolved) :
    resolved.length = stages.length ∧ ∀ (i : Nat) prior next stage, (before :: resolved)[i]? = some prior →
      resolved[i]? = some next → stages[i]? = some stage → resolveNext prior stage = .ok next := by
  induction stages generalizing before resolved with
  | nil =>
    cases ran
    exact ⟨rfl, fun _ _ _ _ _ none _ => nomatch none⟩
  | cons first rest ih =>
    obtain ⟨second, stepped, ran⟩ := ok_bind ran
    obtain ⟨others, later, ran⟩ := ok_bind ran
    cases ran
    obtain ⟨length, each⟩ := ih later
    refine ⟨congrArg (· + 1) length, fun i prior next stage priorAt nextAt stageAt => ?_⟩
    cases i with
    | zero =>
      cases priorAt
      cases nextAt
      cases stageAt
      exact stepped
    | succ i => exact each i prior next stage priorAt nextAt stageAt

theorem resolveStages_at (ran : resolveStages config = .ok resolved) :
    resolved.length = config.stageConfigurations.length ∧ ∀ (i : Nat) prior next stage, resolved[i]? = some prior →
      resolved[i + 1]? = some next → config.stageConfigurations[i + 1]? = some stage → resolveNext prior stage = .ok next := by
  unfold resolveStages at ran
  split at ran
  case h_1 empty =>
    cases ran
    rw [empty]
    exact ⟨rfl, fun _ _ _ _ none _ _ => nomatch none⟩
  case h_2 first rest stages =>
    obtain ⟨others, later, ran⟩ := ok_bind ran
    cases ran
    obtain ⟨length, each⟩ := resolveAfter_at later
    rw [stages]
    exact ⟨congrArg (· + 1) length, each⟩

theorem startsIncrease_at (increasing : startsIncrease stages = true) {i : Nat} (ownAt : stages[i]? = some own)
    (stageAt : stages[i + 1]? = some stage) : digitsValue own.startsAtOrAfter < digitsValue stage.startsAtOrAfter := by
  induction stages generalizing i with
  | nil => cases ownAt
  | cons first rest ih =>
    cases rest with
    | nil => cases stageAt
    | cons second rest =>
      rw [startsIncrease, Bool.and_eq_true, decide_eq_true_eq] at increasing
      cases i with
      | zero =>
        cases ownAt
        cases stageAt
        exact increasing.1
      | succ i => exact ih increasing.2 ownAt stageAt

theorem revConfigSchema_increases (accepted : revConfigSchema raised sent = .ok config) :
    startsIncrease config.stageConfigurations = true := by
  iterate 3 obtain ⟨_, _, accepted⟩ := ok_bind accepted
  obtain ⟨stages, _, accepted⟩ := ok_bind accepted
  obtain ⟨_, accepted⟩ := ok_refuse accepted
  obtain ⟨increasing, accepted⟩ := ok_refuse accepted
  cases accepted
  rwa [Bool.not_eq_eq_eq_not, Bool.not_false] at increasing

theorem resolve_ok {index completed : Nat} {terms : StageTerms} (ran : resolveStages config = .ok resolved)
    (modelled : resolve config index completed = .ok terms) : ∃ stage, resolved[index]? = some stage ∧
      terms.stageStart = stage.start ∧ terms.stageStartingWeight = stage.weight ∧
      terms.weight = cutLoop stage.cut completed stage.weight ∧ (stage.duration = 0 → completed = 0) ∧
      ∀ next, resolved[index + 1]? = some next →
        stageBoundary stage.start stage.duration (some next.start) completed = .ok () := by
  obtain ⟨others, same, modelled⟩ := ok_bind modelled
  cases same.symm.trans ran
  split at modelled
  case h_1 => cases modelled
  case h_2 stage found =>
    obtain ⟨cyclic, modelled⟩ := ok_refuse modelled
    obtain ⟨_, before, modelled⟩ := ok_bind modelled
    obtain ⟨weight, decayed, modelled⟩ := ok_bind modelled
    cases modelled
    refine ⟨stage, found, rfl, rfl, decayedWeight_ok decayed, fun acyclic => ?_, fun next nextAt => ?_⟩
    · rw [acyclic] at cyclic
      simpa using cyclic
    · rwa [nextAt] at before

/-- Every stage follows the one before it on a boundary and with its decayed weight, cuts add up, and a stage
is modelled within its boundary. -/
theorem resolveStages_consistent (accepted : revConfigSchema raised sent = .ok config)
    (ran : resolveStages config = .ok resolved) : (resolved.length = config.stageConfigurations.length ∧
      ∀ (i : Nat) own stage prior next, config.stageConfigurations[i]? = some own →
      config.stageConfigurations[i + 1]? = some stage →
        resolved[i]? = some prior → resolved[i + 1]? = some next → Consistent own stage prior next) ∧
      (∀ (weight cut : Int) (first second : Nat), first + second ≤ 10000 →
        decayedWeight weight cut (first + second : Nat) =
          (decayedWeight weight cut first >>= fun between => decayedWeight between cut second)) ∧
      ∀ index completed terms, resolve config index completed = .ok terms → ∃ stage, resolved[index]? = some stage ∧
        terms.stageStart = stage.start ∧ terms.stageStartingWeight = stage.weight ∧
        terms.weight = cutLoop stage.cut completed stage.weight ∧ (stage.duration = 0 → completed = 0) ∧
        ∀ next, resolved[index + 1]? = some next →
          stageBoundary stage.start stage.duration (some next.start) completed = .ok () := by
  obtain ⟨length, each⟩ := resolveStages_at ran
  refine ⟨⟨length, fun i own stage prior next ownAt stageAt priorAt nextAt => ?_⟩, fun _ _ _ _ => decayedWeight_add,
    fun index completed terms => resolve_ok ran⟩
  have increasing := startsIncrease_at (revConfigSchema_increases accepted) ownAt stageAt
  exact resolveNext_consistent (each i prior next stage priorAt nextAt stageAt) increasing

namespace StagesSample

def account (digit : Char) : Text := '0' :: 'x' :: List.replicate 40 digit

def description : RevDescription := ⟨['R'], ['R'], [], '0' :: 'x' :: List.replicate 64 '0'⟩

def asked (start issuance frequency : String) : RevStage Wire :=
  ⟨.text start.toList, [], .text ['0'], [], .text issuance.toList, .text frequency.toList, .text "100000000".toList, .text ['0'],
    .text ['0']⟩

def read (start issuance frequency : String) : RevStage Text :=
  ⟨start.toList, [], ['0'], [], issuance.toList, frequency.toList, "100000000".toList, ['0'], ['0']⟩

/-- The second stage waits for a boundary of the first, past the bound of the third. -/
def order : RevConfig Wire :=
  ⟨description, .text ['1'], account '2', false, [asked "100" "1000" "50", asked "210" "1" "0", asked "220" "500" "0"]⟩

def launched : RevConfig Text :=
  ⟨description, ['1'], account '2', false, [read "100" "1000" "50", read "210" "1" "0", read "220" "500" "0"]⟩

def started : List ResolvedStage := [⟨100, 50, 1000, 100000000⟩, ⟨250, 0, 729, 100000000⟩, ⟨220, 0, 500, 100000000⟩]

end StagesSample

open StagesSample

/-- The second stage inherits the weight of the first after its third cut; the third starts at its own bound. -/
theorem resolveStages_consistent_sample :
    Consistent (read "100" "1000" "50") (read "210" "1" "0") ⟨100, 50, 1000, 100000000⟩ ⟨250, 0, 729, 100000000⟩ ∧
      Consistent (read "210" "1" "0") (read "220" "500" "0") ⟨250, 0, 729, 100000000⟩ ⟨220, 0, 500, 100000000⟩ ∧
      cutLoop 100000000 3 1000 = 729 :=
  have accepted : revConfigSchema (fun _ _ => true) order = .ok launched := by decide +kernel
  have ran : resolveStages launched = .ok started := by decide +kernel
  have each := (resolveStages_consistent accepted ran).1.2
  ⟨each 0 _ _ _ _ rfl rfl rfl rfl, each 1 _ _ _ _ rfl rfl rfl rfl, by decide⟩

/-- A stage that follows one without cycles starts at its own bound, even where the other starts later. -/
theorem resolveStages_decreasing :
    revConfigSchema (fun _ _ => true) order = .ok launched ∧ resolveStages launched = .ok started ∧
      ¬(started.map ResolvedStage.start).Pairwise (· < ·) :=
  ⟨by decide +kernel, by decide +kernel, by decide⟩

end Stages

end JBCenter.Mcp
