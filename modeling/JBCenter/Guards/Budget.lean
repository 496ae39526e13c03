import JBCenter.Guards.SessionGuard

/-! The budget of a session. Over every order of calls, by whatever callers, what was charged to a
namespace stays within its policy, and the check answers every operation. -/
namespace JBCenter.Guards
variable {rules : GuardRules} {env : Env} {state next : State} {op : PackedUserOperation} {data : Bytes}

@[simp] theorem toNat_wide (x : BitVec 128) : (wide x).toNat = x.toNat := by
  rw [wide, BitVec.toNat_setWidth]
  exact Nat.mod_eq_of_lt (Nat.lt_trans x.isLt (by decide))

theorem toNat_word {bytes : Bytes} {width : Nat} (long : 256 ^ bytes.length = 2 ^ width) :
    (BitVec.ofNat width (bigEndian bytes)).toNat = bigEndian bytes := by
  rw [BitVec.toNat_ofNat]
  exact Nat.mod_eq_of_lt (long ▸ bigEndian_lt bytes)

theorem zeroPadded_total {place left : Nat} (within : place + left ≤ data.length) :
    ∃ zero, zeroPadded data place left = .ok zero := by
  induction left generalizing place with
  | zero => exact ⟨true, rfl⟩
  | succ left ih =>
    have inside : place < data.length := by omega
    unfold zeroPadded
    rw [byteAt_within inside]
    by_cases nonzero : (data[place] != 0) = true
    · exact ⟨false, if_pos nonzero⟩
    · obtain ⟨zero, ran⟩ := ih (show place + 1 + left ≤ data.length by omega)
      exact ⟨zero, (if_neg nonzero).trans ran⟩

/-- The length of a body, rounded up to whole words. -/
def roundedUp (size : Nat) : Nat := (size + 31) / 32 * 32

theorem expectedLength {size : BitVec 256} (small : size.toNat ≤ 8092) : ∃ padded expected,
    checkedAdd size 31#256 = .ok padded ∧ checkedAdd 100#256 (padded &&& ~~~(31#256)) = .ok expected ∧
    expected.toNat = 100 + roundedUp size.toNat := by
  obtain ⟨padded, sum, value⟩ := checkedAdd_fits (x := size) (y := 31#256) (by simp; omega)
  have rounded : (padded &&& ~~~(31#256)).toNat = roundedUp size.toNat := by
    rw [toNat_and_not_31, value]
    rfl
  have few : roundedUp size.toNat ≤ 8192 := by
    unfold roundedUp
    omega
  obtain ⟨expected, total, length⟩ := checkedAdd_fits (x := 100#256) (y := padded &&& ~~~(31#256))
    (by rw [rounded]; simp; omega)
  exact ⟨padded, expected, sum, total, by rw [length, rounded]; rfl⟩

/-- Where the bytes begin with the frame of a single call, the padding decides. -/
structure Framed (data : Bytes) : Prop where
  long : 164 ≤ data.length
  short : data.length ≤ 8192
  selector : data.take 4 = executeSelector
  mode : bigEndian ((data.take 36).drop 4) = 0
  offset : bigEndian ((data.take 68).drop 36) = 64
  sizeLong : 56 ≤ bigEndian ((data.take 100).drop 68)
  sizeShort : bigEndian ((data.take 100).drop 68) ≤ 8092
  length : data.length = 100 + roundedUp (bigEndian ((data.take 100).drop 68))

/-- A reading that rejects what is not framed and leaves what is to its padding. -/
def Reads (data : Bytes) (x : Except Panic Bool) : Prop :=
  x = .ok false ∧ ¬ Framed data ∨
  Framed data ∧ x = zeroPadded data (100 + bigEndian ((data.take 100).drop 68))
    (data.length - (100 + bigEndian ((data.take 100).drop 68)))

theorem reads_if {c : Prop} [Decidable c] {x : Except Panic Bool} (bad : c → ¬ Framed data)
    (rest : ¬ c → Reads data x) : Reads data (if c then pure false else x) := by
  by_cases holds : c
  · rw [if_pos holds]
    exact Or.inl ⟨rfl, bad holds⟩
  · rw [if_neg holds]
    exact rest holds

theorem reads_bind {y : Except Panic α} {a : α} {f : α → Except Panic Bool} (ran : y = .ok a)
    (rest : Reads data (f a)) : Reads data (y >>= f) := by
  rw [ran]
  exact rest

theorem toNat_size (long : 164 ≤ data.length) :
    (BitVec.ofNat 256 (bigEndian ((data.take 100).drop 68))).toNat = bigEndian ((data.take 100).drop 68) := by
  apply toNat_word
  rw [slice_length (by omega)]
  decide

theorem canonicalSingle_reads (data : Bytes) : Reads data (canonicalSingle data) := by
  unfold canonicalSingle maxCalldataLength
  apply reads_if
  · intro sized framed
    have long := framed.long
    have short := framed.short
    simp only [Bool.or_eq_true, decide_eq_true_eq] at sized
    omega
  intro sized
  simp only [Bool.or_eq_true, decide_eq_true_eq] at sized
  have long : 164 ≤ data.length := by omega
  have short : data.length ≤ 8192 := by omega
  apply reads_bind (slice_within (by omega) (by omega))
  apply reads_if
  · intro differs framed
    rw [List.drop_zero, framed.selector] at differs
    exact absurd differs (by decide)
  intro selector
  apply reads_bind (slice_within (by omega) (by omega))
  apply reads_if
  · intro nonzero framed
    exact absurd framed.mode (by simpa using nonzero)
  intro mode
  apply reads_bind (slice_within (by omega) (by omega))
  apply reads_if
  · intro differs framed
    exact absurd framed.offset (by simpa using differs)
  intro offset
  apply reads_bind (slice_within (by omega) (by omega))
  have value := toNat_size long
  apply reads_if
  · intro outside framed
    have least := framed.sizeLong
    have most := framed.sizeShort
    simp only [Bool.or_eq_true, decide_eq_true_eq, BitVec.lt_def, gt_iff_lt, value] at outside
    simp at outside
    omega
  intro size
  simp only [Bool.or_eq_true, decide_eq_true_eq, BitVec.lt_def, gt_iff_lt, value, not_or, Nat.not_lt] at size
  have least : 56 ≤ bigEndian ((data.take 100).drop 68) := size.1
  have most : bigEndian ((data.take 100).drop 68) ≤ 8092 := size.2
  obtain ⟨padded, expected, sum, total, length⟩ := expectedLength (by rw [value]; exact most)
  apply reads_bind sum
  apply reads_bind total
  have same : BitVec.ofNat 256 data.length = expected ↔
      data.length = 100 + roundedUp (bigEndian ((data.take 100).drop 68)) := by
    rw [← BitVec.toNat_inj, length, value, BitVec.toNat_ofNat, Nat.mod_eq_of_lt (by omega)]
  apply reads_if
  · intro differs framed
    exact absurd (same.mpr framed.length) (by simpa using differs)
  intro fits
  have fits : BitVec.ofNat 256 data.length = expected := by simpa using fits
  obtain ⟨start, begins, place⟩ := checkedAdd_fits (x := 100#256)
    (y := BitVec.ofNat 256 (bigEndian ((data.take 100).drop 68))) (by rw [value]; simp only [BitVec.toNat_ofNat]; omega)
  apply reads_bind begins
  have at100 : start.toNat = 100 + bigEndian ((data.take 100).drop 68) := by
    rw [place, value]
    rfl
  rw [at100]
  refine Or.inr ⟨⟨long, short, by simpa using selector, by simpa using mode, by simpa using offset, least, most,
    same.mp fits⟩, rfl⟩

theorem canonicalSingle_total (data : Bytes) : ∃ canonical, canonicalSingle data = .ok canonical := by
  obtain ⟨refused, _⟩ | ⟨framed, padding⟩ := canonicalSingle_reads data
  · exact ⟨false, refused⟩
  · obtain ⟨zero, ran⟩ := zeroPadded_total (show 100 + bigEndian ((data.take 100).drop 68) +
        (data.length - (100 + bigEndian ((data.take 100).drop 68))) ≤ data.length by
      have length := framed.length
      unfold roundedUp at length
      omega)
    exact ⟨zero, padding.trans ran⟩

def gasOf (op : PackedUserOperation) : Nat :=
  (high op.accountGasLimits).toNat + (low op.accountGasLimits).toNat + op.preVerificationGas.toNat +
    bigEndian ((op.paymasterAndData.take 36).drop 20) + bigEndian ((op.paymasterAndData.take 52).drop 36)

def feeOf (op : PackedUserOperation) : Nat := (low op.gasFees).toNat

/-- What was charged is within the policy. -/
structure Within (state : State) : Prop where
  gas : state.gasUsed.toNat ≤ state.config.totalGasLimit.toNat
  cost : state.costUsed.toNat ≤ state.config.totalSponsoredCostLimit.toNat
  calls : state.callsUsed.toNat ≤ state.config.maximumCalls.toNat

/-- The policy bounds one operation's gas by a half word, where there is a policy. -/
structure Sound (state : State) : Prop extends Within state where
  narrow : state.config.maximumCalls ≠ 0 → state.config.maxGasPerOperation.toNat < 2 ^ 128

/-- An operation was charged: its gas, its gas at its fee, and one call. -/
structure Charged (op : PackedUserOperation) (state next : State) : Prop where
  config : next.config = state.config
  gas : next.gasUsed.toNat = state.gasUsed.toNat + gasOf op
  cost : next.costUsed.toNat = state.costUsed.toNat + gasOf op * feeOf op
  calls : next.callsUsed.toNat = state.callsUsed.toNat + 1

theorem operationGas_fits (long : 52 ≤ op.paymasterAndData.length) (narrow : op.preVerificationGas.toNat < 2 ^ 128) :
    ∃ gas, operationGas op (BitVec.ofNat 128 (bigEndian ((op.paymasterAndData.take 36).drop 20)))
      (BitVec.ofNat 128 (bigEndian ((op.paymasterAndData.take 52).drop 36))) = .ok gas ∧ gas.toNat = gasOf op := by
  have verification : (BitVec.ofNat 128 (bigEndian ((op.paymasterAndData.take 36).drop 20))).toNat = _ :=
    toNat_word (by rw [slice_length (by omega)]; decide)
  have postOp : (BitVec.ofNat 128 (bigEndian ((op.paymasterAndData.take 52).drop 36))).toNat = _ :=
    toNat_word (by rw [slice_length (by omega)]; decide)
  generalize BitVec.ofNat 128 (bigEndian ((op.paymasterAndData.take 36).drop 20)) = verificationWord at verification ⊢
  generalize BitVec.ofNat 128 (bigEndian ((op.paymasterAndData.take 52).drop 36)) = postOpWord at postOp ⊢
  have small₁ := (high op.accountGasLimits).isLt
  have small₂ := (low op.accountGasLimits).isLt
  have small₃ := verificationWord.isLt
  have small₄ := postOpWord.isLt
  obtain ⟨limits, first, limitsValue⟩ := checkedAdd_fits (x := wide (high op.accountGasLimits))
    (y := wide (low op.accountGasLimits)) (by rw [toNat_wide, toNat_wide]; omega)
  rw [toNat_wide, toNat_wide] at limitsValue
  obtain ⟨withPre, second, withPreValue⟩ := checkedAdd_fits (x := limits) (y := op.preVerificationGas) (by omega)
  obtain ⟨withVerification, third, withVerificationValue⟩ := checkedAdd_fits (x := withPre) (y := wide verificationWord)
    (by rw [toNat_wide]; omega)
  rw [toNat_wide] at withVerificationValue
  obtain ⟨gas, last, gasValue⟩ := checkedAdd_fits (x := withVerification) (y := wide postOpWord)
    (by rw [toNat_wide]; omega)
  rw [toNat_wide] at gasValue
  refine ⟨gas, ?_, ?_⟩
  · exact bind_run first (bind_run second (bind_run third last))
  · unfold gasOf
    omega

theorem affordable_fits (gas : BitVec 256) {maxFee : BitVec 256} (within : Within state) (fee : maxFee.toNat ≠ 0) :
    ∃ enough, affordable state gas maxFee = .ok enough ∧ (enough = true →
      state.gasUsed.toNat + gas.toNat ≤ state.config.totalGasLimit.toNat ∧
      state.costUsed.toNat + gas.toNat * maxFee.toNat ≤ state.config.totalSponsoredCostLimit.toNat) := by
  obtain ⟨gasLeft, first, gasLeftValue⟩ := checkedSub_fits within.gas
  obtain ⟨costLeft, second, costLeftValue⟩ := checkedSub_fits within.cost
  obtain ⟨most, third, mostValue⟩ := checkedDiv_fits (x := costLeft) fee
  have gasFits := within.gas
  have costFits := within.cost
  unfold affordable
  by_cases large : gas > state.config.maxGasPerOperation
  · exact ⟨false, if_pos large, nofun⟩
  rw [if_neg large, first]
  by_cases more : gas > gasLeft
  · exact ⟨false, if_pos more, nofun⟩
  refine ⟨!decide (gas > most), (if_neg more).trans (bind_run second (bind_run third rfl)), ?_⟩
  intro enough
  have below : gas.toNat ≤ most.toNat := by simpa [BitVec.lt_def] using enough
  have room : gas.toNat ≤ gasLeft.toNat := by simpa [BitVec.lt_def] using more
  have cost : gas.toNat * maxFee.toNat ≤ costLeft.toNat := by
    rw [mostValue] at below
    exact (Nat.le_div_iff_mul_le (Nat.pos_of_ne_zero fee)).mp below
  omega

theorem charge_fits {gas maxFee : BitVec 256} (calls : state.callsUsed.toNat < state.config.maximumCalls.toNat)
    (gasFits : state.gasUsed.toNat + gas.toNat ≤ state.config.totalGasLimit.toNat)
    (costFits : state.costUsed.toNat + gas.toNat * maxFee.toNat ≤ state.config.totalSponsoredCostLimit.toNat)
    (gasValue : gas.toNat = gasOf op) (feeValue : maxFee.toNat = feeOf op) :
    ∃ next, charge state gas maxFee = .ok next ∧ Charged op state next := by
  have limit₁ := state.config.totalGasLimit.isLt
  have limit₂ := state.config.totalSponsoredCostLimit.isLt
  have limit₃ := state.config.maximumCalls.isLt
  obtain ⟨gasUsed, first, gasUsedValue⟩ := checkedAdd_fits (x := state.gasUsed) (y := gas) (by omega)
  obtain ⟨cost, second, costValue⟩ := checkedMul_fits (x := gas) (y := maxFee) (by omega)
  obtain ⟨costUsed, third, costUsedValue⟩ := checkedAdd_fits (x := state.costUsed) (y := cost) (by omega)
  obtain ⟨callsUsed, last, callsUsedValue⟩ := checkedAdd_fits (x := state.callsUsed) (y := 1) (by
    change state.callsUsed.toNat + 1 < _
    omega)
  refine ⟨{ state with gasUsed, costUsed, callsUsed }, ?_, ?_⟩
  · exact bind_run first (bind_run second (bind_run third (bind_run last rfl)))
  constructor
  · rfl
  · rw [gasUsedValue, gasValue]
  · rw [costUsedValue, costValue, gasValue, feeValue]
  · exact callsUsedValue

/-- The check answers, and what it leaves where it accepts has a property. -/
def Decides (x : Except Panic (Option State)) (P : State → Prop) : Prop :=
  x = .ok none ∨ ∃ next, x = .ok (some next) ∧ P next

theorem decides_if {c : Prop} [Decidable c] {x : Except Panic (Option State)} {P : State → Prop}
    (rest : ¬ c → Decides x P) : Decides (if c then pure none else x) P := by
  by_cases holds : c
  · rw [if_pos holds]
    exact Or.inl rfl
  · rw [if_neg holds]
    exact rest holds

theorem decides_bind {y : Except Panic α} {a : α} {f : α → Except Panic (Option State)} {P : State → Prop}
    (ran : y = .ok a) (rest : Decides (f a) P) : Decides (y >>= f) P := by
  rw [ran]
  exact rest

theorem checkState_decides (rules : GuardRules) (env : Env) (op : PackedUserOperation) (sound : Sound state) :
    Decides (checkState rules env op state) (fun next => Charged op state next ∧ Sound next) := by
  apply decides_if
  intro active
  simp only [Bool.or_eq_true, beq_iff_eq, ge_iff_le, decide_eq_true_eq, not_or, BitVec.le_def, Nat.not_le] at active
  obtain ⟨configured, calls⟩ := active
  have narrow := sound.narrow configured
  obtain ⟨canonical, read⟩ := canonicalSingle_total op.callData
  apply decides_bind read
  apply decides_if
  intro _
  apply decides_if
  intro length
  have long : 130 ≤ op.paymasterAndData.length := by
    simp only [Bool.or_eq_true, not_or, Bool.not_eq_true] at length
    exact rules.long _ length.1
  apply decides_bind (byteAt_within (by omega))
  apply decides_if
  intro _
  apply decides_bind (slice_within (by omega) (by omega))
  apply decides_if
  intro _
  apply decides_if
  intro fees
  have fee : (wide (low op.gasFees)).toNat ≠ 0 := by
    intro zero
    refine fees ?_
    have isZero : wide (low op.gasFees) = 0 := BitVec.eq_of_toNat_eq zero
    simp [feesRefused, isZero]
  apply decides_if
  intro pre
  have bounded : op.preVerificationGas.toNat < 2 ^ 128 := by
    simp only [gt_iff_lt, BitVec.lt_def, Nat.not_lt] at pre
    omega
  apply decides_bind (slice_within (by omega) (by omega))
  apply decides_bind (slice_within (by omega) (by omega))
  obtain ⟨gas, summed, gasValue⟩ := operationGas_fits (show 52 ≤ op.paymasterAndData.length by omega) bounded
  apply decides_bind summed
  obtain ⟨enough, compared, fits⟩ := affordable_fits gas sound.toWithin fee
  apply decides_bind compared
  apply decides_if
  intro affords
  obtain ⟨gasFits, costFits⟩ := fits (by simpa using affords)
  obtain ⟨next, ran, charged⟩ := charge_fits calls gasFits costFits gasValue (toNat_wide _)
  refine Or.inr ⟨next, by rw [ran]; rfl, charged, ?_⟩
  constructor
  · constructor
    · rw [charged.gas, charged.config, ← gasValue]
      exact gasFits
    · rw [charged.cost, charged.config, ← gasValue, feeOf, ← toNat_wide]
      exact costFits
    · rw [charged.calls, charged.config]
      omega
  · rw [charged.config]
    exact sound.narrow

theorem sound_unset : Sound State.unset := by
  constructor
  · constructor <;> decide
  · exact fun impossible => absurd rfl impossible

theorem sound_new {config : Config} (accepted : invalidConfig rules env config = false) :
    Sound ⟨config, 0, 0, 0⟩ := by
  constructor
  · exact ⟨Nat.zero_le _, Nat.zero_le _, Nat.zero_le _⟩
  · intro _
    have below : config.maxGasPerOperation.toNat ≤ 2 ^ 128 - 1 := by
      simp only [invalidConfig, Bool.or_eq_false_iff, decide_eq_false_iff_not, gt_iff_lt, BitVec.lt_def, Nat.not_lt] at accepted
      simp only [and_assoc] at accepted
      exact accepted.2.2.2.2.1
    exact Nat.lt_of_le_of_lt below (by decide)

inductive Call where
  | initializeWithMultiplexer (account : Address) (id : Bytes32) (data : Bytes)
  | checkUserOpPolicy (id : Bytes32) (op : PackedUserOperation)

/-- A call as a contract receives it: by whom, and what it finds of other contracts. -/
structure Invocation where
  env : Env
  sender : Address
  call : Call

/-- The one namespace a call is about. -/
def Invocation.place (invocation : Invocation) : Namespace :=
  match invocation.call with
  | .initializeWithMultiplexer account id _ => ⟨id, invocation.sender, account⟩
  | .checkUserOpPolicy id op => ⟨id, invocation.sender, op.sender⟩

inductive Outcome where
  | initialized
  | checked (validationData : Nat)

def execute (rules : GuardRules) (invocation : Invocation) (s : States) : Except Revert (Outcome × States) :=
  match invocation.call with
  | .initializeWithMultiplexer account id data => do
    let t ← initializeWithMultiplexer rules invocation.env invocation.sender account id data s
    return (.initialized, t)
  | .checkUserOpPolicy id op => do
    let (validationData, t) ← checkUserOpPolicy rules invocation.env invocation.sender id op s
    return (.checked validationData, t)

/-- A call that reverts leaves the storage as it was. -/
def invoke (rules : GuardRules) (invocation : Invocation) : Fallible Revert States Outcome :=
  transaction (execute rules invocation)

abbrev GuardRuns (rules : GuardRules) := Run (Performs (invoke rules)) (fun _ => State.unset)

variable {s t : States} {sender account : Address} {id : Bytes32}

theorem checkUserOpPolicy_cases (rules : GuardRules) (env : Env) (sender : Address) (id : Bytes32)
    (op : PackedUserOperation) (sound : ∀ place, Sound (s place)) :
    checkUserOpPolicy rules env sender id op s = .ok (1, s) ∨
    ∃ next, checkUserOpPolicy rules env sender id op s = .ok (0, Function.update s ⟨id, sender, op.sender⟩ next) ∧
      Charged op (s ⟨id, sender, op.sender⟩) next ∧ Sound next := by
  obtain decided | ⟨next, decided, holds⟩ := checkState_decides rules env op (sound ⟨id, sender, op.sender⟩)
  · have answered : checked (checkState rules env op (s ⟨id, sender, op.sender⟩)) = .ok none := congrArg checked decided
    exact Or.inl (bind_run answered rfl)
  · have answered : checked (checkState rules env op (s ⟨id, sender, op.sender⟩)) = .ok (some next) :=
      congrArg checked decided
    exact Or.inr ⟨next, bind_run answered rfl, holds⟩

theorem initializeWithMultiplexer_ok
    (ran : initializeWithMultiplexer rules env sender account id data s = .ok t) :
    ∃ config, invalidConfig rules env config = false ∧ t = Function.update s ⟨id, sender, account⟩ ⟨config, 0, 0, 0⟩ := by
  unfold initializeWithMultiplexer at ran
  obtain ⟨_, ran⟩ := ok_refuse ran
  obtain ⟨config, _, ran⟩ := ok_bind ran
  obtain ⟨accepted, ran⟩ := ok_refuse ran
  cases ran
  exact ⟨config, accepted, rfl⟩

theorem execute_writes {invocation : Invocation} {outcome : Outcome} (sound : ∀ place, Sound (s place))
    (ran : execute rules invocation s = .ok (outcome, t)) :
    t = s ∨ ∃ state, t = Function.update s invocation.place state ∧ Sound state := by
  obtain ⟨env, sender, call⟩ := invocation
  cases call with
  | initializeWithMultiplexer account id data =>
    obtain ⟨next, ran, same⟩ := ok_bind ran
    cases same
    obtain ⟨config, accepted, rfl⟩ := initializeWithMultiplexer_ok ran
    exact Or.inr ⟨_, rfl, sound_new accepted⟩
  | checkUserOpPolicy id op =>
    obtain ⟨⟨validationData, next⟩, ran, same⟩ := ok_bind ran
    cases same
    obtain refused | ⟨state, accepted, _, holds⟩ := checkUserOpPolicy_cases rules env sender id op sound
    · cases refused.symm.trans ran
      exact Or.inl rfl
    · cases accepted.symm.trans ran
      exact Or.inr ⟨state, rfl, holds⟩

theorem performs_writes {answer : Answer Invocation Revert Outcome} (sound : ∀ place, Sound (s place))
    (performed : Performs (invoke rules) s answer t) :
    t = s ∨ ∃ state, t = Function.update s answer.op.place state ∧ Sound state := by
  obtain ⟨outcome, _, executed⟩ | ⟨same, _⟩ := Performs.transaction_cases performed
  · exact execute_writes sound executed
  · exact Or.inl same

theorem run_sound {history : List (Answer Invocation Revert Outcome)} (run : GuardRuns rules history s) :
    ∀ place, Sound (s place) := by
  refine run.state_invariant (P := fun s => ∀ place, Sound (s place)) (fun _ => sound_unset) ?_
  intro s answer t sound performed place
  obtain rfl | ⟨state, rfl, holds⟩ := performs_writes sound performed
  · exact sound place
  · by_cases own : place = answer.op.place
    · rw [own, Function.update_self]
      exact holds
    · rw [Function.update_of_ne own]
      exact sound place

/-- For either guard, after any calls by any callers: every namespace is within its policy, a
check never reverts and either answers 1 and changes nothing or answers 0 and charges exactly the
operation, and a call changes no namespace but its own. -/
theorem session_guard_budget {history : List (Answer Invocation Revert Outcome)} (run : GuardRuns rules history s) :
    (∀ place, Within (s place)) ∧
    (∀ env sender id op, checkUserOpPolicy rules env sender id op s = .ok (1, s) ∨
      ∃ next, checkUserOpPolicy rules env sender id op s = .ok (0, Function.update s ⟨id, sender, op.sender⟩ next) ∧
        Charged op (s ⟨id, sender, op.sender⟩) next) ∧
    ∀ answer t, Performs (invoke rules) s answer t → ∀ place, place ≠ answer.op.place → t place = s place := by
  have sound := run_sound run
  refine ⟨fun place => (sound place).toWithin, ?_, ?_⟩
  · intro env sender id op
    obtain refused | ⟨next, accepted, charged, _⟩ := checkUserOpPolicy_cases rules env sender id op sound
    · exact Or.inl refused
    · exact Or.inr ⟨next, accepted, charged⟩
  · intro answer t performed place other
    obtain rfl | ⟨state, rfl, _⟩ := performs_writes sound performed
    · rfl
    · exact Function.update_of_ne other _ _

/-- A session of the current paymaster that may call twice, and an operation of it. -/
def sampleConfig : Bytes :=
  bytesOf 32 currentPaymaster.toNat ++ bytesOf 32 currentPaymasterCodeHash.toNat ++
    [1000, 5, 5, 2000, 10000, 2, 130].flatMap (bytesOf 32)

def sampleOperation : PackedUserOperation where
  sender := 7
  callData := executeSelector ++ List.replicate 32 0 ++ bytesOf 32 64 ++ bytesOf 32 56 ++ List.replicate 56 1 ++
    List.replicate 8 0
  accountGasLimits := 0
  preVerificationGas := 100
  gasFees := 5
  paymasterAndData := bytesOf 20 currentPaymaster.toNat ++ bytesOf 16 20 ++ bytesOf 16 30 ++ List.replicate 78 0

def sampleInvocations : List Invocation :=
  [.initializeWithMultiplexer 7 1 sampleConfig, .checkUserOpPolicy 1 sampleOperation].map
    (⟨⟨fun _ => 1, fun _ => currentPaymasterCodeHash⟩, 3, ·⟩)

def sampleStates (rules : GuardRules) : States :=
  (performAll (invoke rules) (fun _ => State.unset) sampleInvocations).2

/-- Either guard charges the operation its gas at its fee. -/
theorem session_guard_budget_sample :
    ((sampleStates centerSessionGuard ⟨1, 3, 7⟩).costUsed = 750 ∧ Within (sampleStates centerSessionGuard ⟨1, 3, 7⟩)) ∧
    (sampleStates centerSessionGuardV2 ⟨1, 3, 7⟩).costUsed = 750 ∧ Within (sampleStates centerSessionGuardV2 ⟨1, 3, 7⟩) :=
  ⟨⟨by decide +kernel, (session_guard_budget (performAll_run sampleInvocations _)).1 _⟩,
    by decide +kernel, (session_guard_budget (performAll_run sampleInvocations _)).1 _⟩

end JBCenter.Guards
