import JBCenter.Mcp.PlanVerification

/-! What a cash out reclaims: the terminal's curve with its two roundings, and a revnet's share of it. -/
namespace JBCenter.Mcp

/-- What the arithmetic throws: a refusal of its own, or a division by zero. -/
inductive Thrown where
  | refused (error : DomainError)
  | rangeError
  deriving DecidableEq

def maximumUint256 : Int := 2 ^ 256 - 1

def quotient (a b : Int) : Except Thrown Int := do
  refuse (b == 0) .rangeError
  return a.tdiv b

def cashOutCurve (surplus count supply tax : Int) : Except Thrown Int := do
  refuse ([surplus, count, supply].any (fun value => value < 0 || maximumUint256 < value) || supply < count || tax < 0 ||
      10000 < tax)
    (.refused ⟨"INVALID_SCENARIO", "Invalid cash-out curve inputs."⟩)
  if count == 0 || tax == 10000 then
    return 0
  else if count == supply then
    return surplus
  else do
    let base ← quotient (surplus * count) supply
    if tax == 0 then
      return base
    else do
      let untaxed ← quotient (tax * count) supply
      quotient (base * (10000 - tax + untaxed)) 10000

/-- The amounts of a cash out; a decimal text is the number it names. -/
structure RevnetCashOut where
  feeTokenCount : Int
  holderReclaimBeforeProtocolFeeAtomic : Int
  revnetFeeAtomic : Int
  protocolFeeAtomic : Int
  holderReclaimAtomic : Int
  zeroTaxNote : Option String

def zeroTaxNote : String :=
  "Zero tax: no revnet fee, and the protocol fee applies only up to the fee-free surplus, so the holder can receive up to holderReclaimBeforeProtocolFeeAtomic."

/-- The fee revnet's part of what the holder's reclaim leaves. -/
def revnetFeeOf (surplus gross feeCount supply tax : Int) : Except Thrown Int :=
  if feeCount == 0 then .ok 0
  else cashOutCurve (if surplus > gross then surplus - gross else 0) feeCount supply tax

def revnetCashOut (surplus count supply tax : Int) : Except Thrown RevnetCashOut := do
  let feeCount := if tax == 0 then 0 else count.tdiv 40
  let holderCount := count - feeCount
  let gross ← cashOutCurve surplus holderCount supply tax
  let revnetFee ← revnetFeeOf surplus gross feeCount (supply - holderCount) tax
  let protocolFee := gross.tdiv 40
  return {
    feeTokenCount := feeCount
    holderReclaimBeforeProtocolFeeAtomic := gross
    revnetFeeAtomic := revnetFee
    protocolFeeAtomic := protocolFee
    holderReclaimAtomic := gross - protocolFee
    zeroTaxNote := if tax == 0 then some zeroTaxNote else none }

def shareOf (surplus count supply : Nat) : Nat := surplus * count / supply

def keptParts (count supply tax : Nat) : Nat := 10000 - tax + tax * count / supply

def reclaimed (surplus count supply tax : Nat) : Nat :=
  if count = 0 ∨ tax = 10000 then 0
  else if count = supply then surplus
  else if tax = 0 then shareOf surplus count supply
  else shareOf surplus count supply * keptParts count supply tax / 10000

section Curve

variable {surplus count supply tax : Nat}

theorem shareOf_le (part : count ≤ supply) : shareOf surplus count supply ≤ surplus :=
  Nat.div_le_of_le_mul (by rw [Nat.mul_comm supply]; exact Nat.mul_le_mul_left surplus part)

theorem keptParts_le (part : count ≤ supply) (rate : tax ≤ 10000) : keptParts count supply tax ≤ 10000 := by
  have untaxed : tax * count / supply ≤ tax := shareOf_le part
  unfold keptParts
  omega

theorem keptParts_untaxed : keptParts count supply 0 = 10000 := by
  rw [keptParts, Nat.zero_mul, Nat.zero_div]

theorem reclaimed_part (some : count ≠ 0) (rate : tax ≠ 10000) (part : count ≠ supply) :
    reclaimed surplus count supply tax = shareOf surplus count supply * keptParts count supply tax / 10000 := by
  rw [reclaimed, if_neg (not_or.mpr ⟨some, rate⟩), if_neg part]
  split
  case isTrue untaxed => rw [untaxed, keptParts_untaxed, Nat.mul_div_cancel _ (by decide)]
  case isFalse => rfl

theorem reclaimed_le_share (part : count ≤ supply) (short : count ≠ supply) (rate : tax ≤ 10000) :
    reclaimed surplus count supply tax ≤ shareOf surplus count supply := by
  by_cases trivial : count = 0 ∨ tax = 10000
  · rw [reclaimed, if_pos trivial]
    exact Nat.zero_le _
  · obtain ⟨some, untaxed⟩ := not_or.mp trivial
    rw [reclaimed_part some untaxed short]
    refine Nat.div_le_of_le_mul ?_
    rw [Nat.mul_comm 10000]
    exact Nat.mul_le_mul_left _ (keptParts_le part rate)

theorem reclaimed_le (part : count ≤ supply) (rate : tax ≤ 10000) : reclaimed surplus count supply tax ≤ surplus := by
  by_cases all : count = supply
  · rw [reclaimed]
    split
    · exact Nat.zero_le _
    · rfl
  · exact (reclaimed_le_share part all rate).trans (shareOf_le part)

theorem reclaimed_mono_count {more : Nat} (fewer : count ≤ more) (part : more ≤ supply) (rate : tax ≤ 10000) :
    reclaimed surplus count supply tax ≤ reclaimed surplus more supply tax := by
  by_cases trivial : count = 0 ∨ tax = 10000
  · rw [reclaimed, if_pos trivial]
    exact Nat.zero_le _
  · obtain ⟨some, untaxed⟩ := not_or.mp trivial
    have someMore : more ≠ 0 := by omega
    by_cases all : more = supply
    · -- the whole supply reclaims the whole surplus
      have whole : reclaimed surplus more supply tax = surplus := by
        rw [reclaimed, if_neg (not_or.mpr ⟨someMore, untaxed⟩), if_pos all]
      rw [whole]
      exact reclaimed_le (fewer.trans part) rate
    · rw [reclaimed_part some untaxed (by omega), reclaimed_part someMore untaxed all]
      have shares : shareOf surplus count supply ≤ shareOf surplus more supply :=
        Nat.div_le_div_right (Nat.mul_le_mul_left surplus fewer)
      have parts : keptParts count supply tax ≤ keptParts more supply tax :=
        Nat.add_le_add_left (Nat.div_le_div_right (Nat.mul_le_mul_left tax fewer)) _
      exact Nat.div_le_div_right (Nat.mul_le_mul shares parts)

theorem reclaimed_mono_surplus {more : Nat} (less : surplus ≤ more) :
    reclaimed surplus count supply tax ≤ reclaimed more count supply tax := by
  have shares : shareOf surplus count supply ≤ shareOf more count supply :=
    Nat.div_le_div_right (Nat.mul_le_mul_right count less)
  unfold reclaimed
  split
  · exact Nat.le_refl 0
  · split
    · exact less
    · split
      · exact shares
      · exact Nat.div_le_div_right (Nat.mul_le_mul_right _ shares)

theorem keptParts_anti {higher : Nat} (part : count ≤ supply) (lower : tax ≤ higher) (rate : higher ≤ 10000) :
    keptParts count supply higher ≤ keptParts count supply tax := by
  have split : higher * count = tax * count + (higher - tax) * count := by
    rw [← Nat.add_mul, Nat.add_sub_cancel' lower]
  have given : higher * count / supply ≤ tax * count / supply + (higher - tax) := by
    obtain rfl | positive := Nat.eq_zero_or_pos supply
    · rw [Nat.div_zero]
      exact Nat.zero_le _
    · rw [split, ← Nat.add_mul_div_right _ _ positive]
      exact Nat.div_le_div_right (Nat.add_le_add_left (Nat.mul_le_mul_left _ part) _)
  unfold keptParts
  omega

theorem reclaimed_anti_tax {higher : Nat} (part : count ≤ supply) (lower : tax ≤ higher) (rate : higher ≤ 10000) :
    reclaimed surplus count supply higher ≤ reclaimed surplus count supply tax := by
  by_cases trivial : count = 0 ∨ higher = 10000
  · rw [reclaimed, if_pos trivial]
    exact Nat.zero_le _
  · obtain ⟨some, taxed⟩ := not_or.mp trivial
    have untaxed : tax ≠ 10000 := by omega
    by_cases all : count = supply
    · rw [reclaimed, reclaimed, if_neg trivial, if_neg (not_or.mpr ⟨some, untaxed⟩), if_pos all, if_pos all]
    · rw [reclaimed_part some taxed all, reclaimed_part some untaxed all]
      exact Nat.div_le_div_right (Nat.mul_le_mul_left _ (keptParts_anti part lower rate))

end Curve

structure CurveInput (surplus count supply tax : Int) : Prop where
  funds : 0 ≤ surplus ∧ surplus ≤ maximumUint256
  minted : supply ≤ maximumUint256
  counted : 0 ≤ count ∧ count ≤ supply
  rated : 0 ≤ tax ∧ tax ≤ 10000

section Service

variable {surplus count supply tax : Int}

theorem curveInput_iff {error : Thrown} :
    refuse ([surplus, count, supply].any (fun value => value < 0 || maximumUint256 < value) || supply < count || tax < 0 ||
      10000 < tax) error = .ok () ↔ CurveInput surplus count supply tax := by
  rw [refuse_ok]
  simp only [List.any_cons, List.any_nil, Bool.or_false, Bool.or_eq_false_iff, decide_eq_false_iff_not, not_lt]
  constructor
  · rintro ⟨⟨⟨⟨surplus, count, supply⟩, part⟩, natural⟩, rate⟩
    exact ⟨surplus, supply.2, ⟨count.1, part⟩, natural, rate⟩
  · rintro ⟨surplus, supply, ⟨natural, part⟩, rate⟩
    exact ⟨⟨⟨⟨surplus, ⟨natural, part.trans supply⟩, natural.trans part, supply⟩, part⟩, rate.1⟩, rate.2⟩

theorem quotient_natural {a b : Nat} (positive : b ≠ 0) : quotient a b = .ok ((a / b : Nat) : Int) := by
  have nonzero : ((b : Int) == 0) = false := beq_eq_false_iff_ne.mpr (Int.natCast_ne_zero.mpr positive)
  exact bind_run (refuse_ok.mpr nonzero) rfl

theorem cashOutCurve_natural {surplus count supply tax : Nat} (input : CurveInput surplus count supply tax) :
    cashOutCurve surplus count supply tax = .ok (reclaimed surplus count supply tax : Nat) := by
  refine bind_run (curveInput_iff.mpr input) ?_
  have rate : tax ≤ 10000 := by exact_mod_cast input.rated.2
  have part : count ≤ supply := by exact_mod_cast input.counted.2
  have none : ((count : Int) == 0 || (tax : Int) == 10000) = decide (count = 0 ∨ tax = 10000) := by
    rw [Bool.decide_or]
    congr 1 <;> exact decide_eq_decide.mpr (by omega)
  have all : ((count : Int) == supply) = decide (count = supply) := decide_eq_decide.mpr (by omega)
  have free : ((tax : Int) == 0) = decide (tax = 0) := decide_eq_decide.mpr (by omega)
  rw [none, all, reclaimed]
  simp only [decide_eq_true_eq]
  split
  case isTrue => rfl
  case isFalse some =>
    split
    case isTrue => rfl
    case isFalse short =>
      have positive : supply ≠ 0 := by omega
      refine bind_run (quotient_natural (a := surplus * count) positive) ?_
      rw [free]
      simp only [decide_eq_true_eq]
      split
      case isTrue => rfl
      case isFalse =>
        refine bind_run (quotient_natural (a := tax * count) positive) ?_
        have parts : (10000 : Int) - tax + ((tax * count / supply : Nat) : Int) = (keptParts count supply tax : Nat) := by
          rw [keptParts]
          omega
        rw [parts]
        exact quotient_natural (a := shareOf surplus count supply * keptParts count supply tax) (by decide)

theorem CurveInput.runs (input : CurveInput surplus count supply tax) :
    cashOutCurve surplus count supply tax =
      .ok (reclaimed surplus.toNat count.toNat supply.toNat tax.toNat : Nat) := by
  lift surplus to Nat using input.funds.1
  lift supply to Nat using input.counted.1.trans input.counted.2
  lift count to Nat using input.counted.1
  lift tax to Nat using input.rated.1
  exact cashOutCurve_natural input

theorem CurveInput.of_ok {reclaim : Int} (accepted : cashOutCurve surplus count supply tax = .ok reclaim) :
    CurveInput surplus count supply tax ∧ reclaim = (reclaimed surplus.toNat count.toNat supply.toNat tax.toNat : Nat) := by
  have input : CurveInput surplus count supply tax := by
    obtain ⟨_, typed, _⟩ := ok_bind accepted
    exact curveInput_iff.mp typed
  exact ⟨input, Except.ok.inj (accepted.symm.trans input.runs)⟩

theorem CurveInput.part (input : CurveInput surplus count supply tax) : count.toNat ≤ supply.toNat :=
  Int.toNat_le_toNat input.counted.2

theorem CurveInput.rate (input : CurveInput surplus count supply tax) : tax.toNat ≤ 10000 :=
  Int.toNat_le.mpr input.rated.2

theorem cashOutCurve_le {reclaim : Int} (accepted : cashOutCurve surplus count supply tax = .ok reclaim) :
    0 ≤ reclaim ∧ reclaim ≤ surplus := by
  obtain ⟨input, rfl⟩ := CurveInput.of_ok accepted
  exact ⟨Int.natCast_nonneg _, (Int.ofNat_le.mpr (reclaimed_le input.part input.rate)).trans_eq
    (Int.toNat_of_nonneg input.funds.1)⟩

theorem tdiv_le {a : Int} (natural : 0 ≤ a) : 0 ≤ a.tdiv 40 ∧ a.tdiv 40 ≤ a := by
  rw [Int.tdiv_eq_ediv_of_nonneg natural]
  omega

theorem CurveInput.divided (input : CurveInput surplus count supply tax) {fee gross : Int} (counted : 0 ≤ fee ∧ fee ≤ count)
    (reclaimed : 0 ≤ gross ∧ gross ≤ surplus) :
    CurveInput surplus (count - fee) supply tax ∧
      CurveInput (if surplus > gross then surplus - gross else 0) fee (supply - (count - fee)) tax := by
  obtain ⟨funds, minted, part, rate⟩ := input
  refine ⟨⟨funds, minted, by omega, rate⟩, ⟨?_, by omega, by omega, rate⟩⟩
  split <;> omega

theorem revnetCashOut_ok (input : CurveInput surplus count supply tax) :
    ∃ out, revnetCashOut surplus count supply tax = .ok out ∧ 0 ≤ out.feeTokenCount ∧ out.feeTokenCount ≤ count ∧
      out.holderReclaimBeforeProtocolFeeAtomic + out.revnetFeeAtomic ≤ surplus ∧
      0 ≤ out.holderReclaimAtomic ∧ out.holderReclaimAtomic ≤ out.holderReclaimBeforeProtocolFeeAtomic := by
  generalize taken : (if tax == 0 then 0 else count.tdiv 40) = fee
  have counted : 0 ≤ fee ∧ fee ≤ count := by
    rw [← taken]
    split
    · exact ⟨Int.le_refl 0, input.counted.1⟩
    · exact tdiv_le input.counted.1
  have held := (input.divided counted ⟨Int.le_refl 0, input.funds.1⟩).1.runs
  generalize (reclaimed surplus.toNat (count - fee).toNat supply.toNat tax.toNat : Int) = gross at held
  have within := cashOutCurve_le held
  have revenue : ∃ revnetFee, revnetFeeOf surplus gross fee (supply - (count - fee)) tax = .ok revnetFee ∧
      gross + revnetFee ≤ surplus := by
    unfold revnetFeeOf
    split
    · exact ⟨0, rfl, by omega⟩
    · have left : (if surplus > gross then surplus - gross else 0) ≤ surplus - gross := by split <;> omega
      have charged := (input.divided counted within).2.runs
      refine ⟨_, charged, ?_⟩
      have bounded := (cashOutCurve_le charged).2.trans left
      omega
  obtain ⟨revnetFee, charged, shared⟩ := revenue
  have protocol := tdiv_le within.1
  refine ⟨⟨fee, gross, revnetFee, gross.tdiv 40, gross - gross.tdiv 40, if tax == 0 then some zeroTaxNote else none⟩, ?_,
    counted.1, counted.2, shared, Int.sub_nonneg_of_le protocol.2, Int.sub_le_self gross protocol.1⟩
  unfold revnetCashOut
  dsimp only
  rw [taken]
  exact bind_run held (bind_run charged rfl)

/-- On amounts of 256 bits the curve never refuses and stays within the surplus; it grows with the count and the surplus
and falls with the tax; and a revnet's cash out divides no more than the surplus. -/
theorem cashOut_bounded_monotone (input : CurveInput surplus count supply tax) :
    (∃ reclaim, cashOutCurve surplus count supply tax = .ok reclaim ∧ 0 ≤ reclaim ∧ reclaim ≤ surplus ∧
      (∀ more other, count ≤ more → cashOutCurve surplus more supply tax = .ok other → reclaim ≤ other) ∧
      (∀ more other, surplus ≤ more → cashOutCurve more count supply tax = .ok other → reclaim ≤ other) ∧
      (∀ higher other, tax ≤ higher → cashOutCurve surplus count supply higher = .ok other → other ≤ reclaim)) ∧
    ∃ out, revnetCashOut surplus count supply tax = .ok out ∧ 0 ≤ out.feeTokenCount ∧ out.feeTokenCount ≤ count ∧
      out.holderReclaimBeforeProtocolFeeAtomic + out.revnetFeeAtomic ≤ surplus ∧
      0 ≤ out.holderReclaimAtomic ∧ out.holderReclaimAtomic ≤ out.holderReclaimBeforeProtocolFeeAtomic := by
  obtain ⟨natural, within⟩ := cashOutCurve_le input.runs
  refine ⟨⟨_, input.runs, natural, within, ?_, ?_, ?_⟩, revnetCashOut_ok input⟩
  · intro more other fewer accepted
    obtain ⟨moreInput, rfl⟩ := CurveInput.of_ok accepted
    exact Int.ofNat_le.mpr (reclaimed_mono_count (Int.toNat_le_toNat fewer) moreInput.part moreInput.rate)
  · intro more other less accepted
    obtain ⟨_, rfl⟩ := CurveInput.of_ok accepted
    exact Int.ofNat_le.mpr (reclaimed_mono_surplus (Int.toNat_le_toNat less))
  · intro higher other lower accepted
    obtain ⟨higherInput, rfl⟩ := CurveInput.of_ok accepted
    exact Int.ofNat_le.mpr (reclaimed_anti_tax input.part (Int.toNat_le_toNat lower) higherInput.rate)

/-- Ninety of a hundred tokens at a tax of twenty per cent. -/
theorem cashOut_bounded_monotone_sample :
    cashOutCurve 1000 90 100 2000 = .ok 882 ∧ cashOutCurve 1000 100 100 2000 = .ok 1000 ∧
      ∃ out, revnetCashOut 1000 90 100 2000 = .ok out ∧ out.feeTokenCount = 2 ∧
        out.holderReclaimBeforeProtocolFeeAtomic + out.revnetFeeAtomic ≤ 1000 := by
  have input : CurveInput 1000 90 100 2000 := ⟨by decide, by decide, by decide, by decide⟩
  obtain ⟨_, out, accepted, _, _, shared, _⟩ := cashOut_bounded_monotone input
  refine ⟨by decide, by decide, out, accepted, ?_, shared⟩
  have computed : (revnetCashOut 1000 90 100 2000).map (fun out => out.feeTokenCount) = .ok 2 := by decide
  rw [accepted] at computed
  exact Except.ok.inj computed

end Service

end JBCenter.Mcp
