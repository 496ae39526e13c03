import JBCenter.Guards.Budget
import JBCenter.Rest.Core

/-! The execution a session's operation carries, as the service decodes it. The decoder rests on
a generic ABI library; whatever that library makes of malformed bytes, the bytes must be its own
encoding of what it decoded. -/
namespace JBCenter.Guards
open Rest
open List (append_assoc drop_drop drop_left' drop_take length_append length_drop length_replicate take_append_drop take_left')

/-- A call, its address and its decimal value by their numbers. -/
structure Safe7579Call where
  target : Address
  value : Nat
  callData : Bytes

/-- The ABI library: `execute(bytes32,bytes)` and the call list of a batch. No answer is a throw. -/
structure Viem where
  decodeFunctionData : Bytes → Option (Bytes × Bytes)
  encodeFunctionData : Bytes → Bytes → Bytes
  decodeExecutions : Bytes → Option (List Safe7579Call)
  encodeExecutions : List Safe7579Call → Bytes

def singleMode : Bytes := List.replicate 32 0
def batchMode : Bytes := 1 :: List.replicate 31 0
def maxExecutions : Nat := 16
def maxExecutionBytes : Nat := 65536

def fail (message : String) : RestError := ⟨400, "SMART_ACCOUNT_ENVELOPE_INVALID", message, none⟩

def invalid (path message : String) : RestError := ⟨400, "ABI_ARGUMENT_INVALID", path ++ ": " ++ message, none⟩

def hex (value : Bytes) (label : String) (minimum maximum : Nat) : Except RestError Unit :=
  refuse (value.length < minimum || value.length > maximum)
    (fail (label ++ " must contain " ++ toString minimum ++ " to " ++ toString maximum ++ " complete bytes."))

def address (value : Address) (path : String) : Except RestError Unit :=
  refuse (value == 0) (invalid path "Address must be nonzero.")

def integer (value : Nat) (path : String) : Except RestError Unit := do
  refuse (10 ^ 79 ≤ value) (invalid path ("Use an exact canonical decimal integer string; JSON numbers, exponents " ++
    "and leading zeros are not accepted."))
  refuse (2 ^ 256 ≤ value) (invalid path "Value does not fit uint256.")

def callChecked (index : Nat) (call : Safe7579Call) : Except RestError Unit := do
  address call.target ("calls[" ++ toString index ++ "].target")
  integer call.value ("calls[" ++ toString index ++ "].value")
  hex call.callData ("calls[" ++ toString index ++ "].callData") 0 maxExecutionBytes

def callsChecked (calls : List Safe7579Call) : Except RestError Unit := do
  refuse (calls.length < 1 || calls.length > maxExecutions)
    (fail ("An execution must contain 1 to " ++ toString maxExecutions ++ " exact calls."))
  calls.zipIdx.forM fun (call, index) => callChecked index call

def packed (call : Safe7579Call) : Bytes := bytesOf 20 call.target.toNat ++ bytesOf 32 call.value ++ call.callData

def encodeSafe7579Execution (viem : Viem) (calls : List Safe7579Call) : Except RestError Bytes := do
  callsChecked calls
  let encoded := match calls with
    | [call] => viem.encodeFunctionData singleMode (packed call)
    | _ => viem.encodeFunctionData batchMode (viem.encodeExecutions calls)
  refuse (encoded.length > maxExecutionBytes) (fail "The complete execution exceeds the byte limit.")
  return encoded

def undecodable : RestError := fail "The account execution cannot be decoded canonically."

def executionCalls (viem : Viem) (mode execution : Bytes) : Except RestError (List Safe7579Call) :=
  if mode = singleMode then do
    refuse (execution.length < 52) (fail "A packed single execution requires target and value.")
    return [⟨BitVec.ofNat 160 (bigEndian (execution.take 20)), bigEndian ((execution.take 52).drop 20), execution.drop 52⟩]
  else if mode = batchMode then
    match viem.decodeExecutions execution with
    | none => .error undecodable
    | some batch => do
      refuse (batch.length < 2) (fail "Canonical batches contain at least two calls.")
      return batch
  else .error (fail "Only default single or batch CALL execution modes are accepted.")

def decodeSafe7579Execution (viem : Viem) (data : Bytes) : Except RestError (List Safe7579Call) := do
  hex data "execution" 4 maxExecutionBytes
  match viem.decodeFunctionData data with
  | none => .error undecodable
  | some (mode, execution) => do
    let calls ← executionCalls viem mode execution
    let encoded ← encodeSafe7579Execution viem calls
    refuse (encoded != data) (fail "The execution must use its exact canonical ABI encoding.")
    return calls

/-- The encoding the ABI specification gives `execute(mode, execution)`. -/
def abiEncode (mode execution : Bytes) : Bytes :=
  executeSelector ++ (mode ++ (bytesOf 32 64 ++ (bytesOf 32 execution.length ++
    (execution ++ List.replicate (roundedUp execution.length - execution.length) 0))))

/-- The library follows the specification: it encodes as it says, and decodes what it encodes. -/
structure FollowsAbi (viem : Viem) : Prop where
  encodes : ∀ mode execution, mode.length = 32 → execution.length < 2 ^ 256 →
    viem.encodeFunctionData mode execution = abiEncode mode execution
  decodes : ∀ mode execution, mode.length = 32 → execution.length < 2 ^ 256 →
    viem.decodeFunctionData (abiEncode mode execution) = some (mode, execution)

variable {data mode execution : Bytes} {viem : Viem} {call : Safe7579Call}

theorem abiEncode_length (mode execution : Bytes) (whole : mode.length = 32) :
    (abiEncode mode execution).length = 100 + roundedUp execution.length := by
  have more : execution.length ≤ roundedUp execution.length := by
    unfold roundedUp
    omega
  simp only [abiEncode, length_append, bytesOf_length, length_replicate, whole,
    show executeSelector.length = 4 from rfl]
  omega

theorem abiEncode_parts (execution : Bytes) (whole : mode.length = 32) :
    (abiEncode mode execution).take 4 = executeSelector ∧ ((abiEncode mode execution).take 36).drop 4 = mode ∧
    ((abiEncode mode execution).take 68).drop 36 = bytesOf 32 64 ∧
    ((abiEncode mode execution).take 100).drop 68 = bytesOf 32 execution.length ∧
    (abiEncode mode execution).drop 100 =
      execution ++ List.replicate (roundedUp execution.length - execution.length) 0 := by
  have after4 : (abiEncode mode execution).drop 4 = _ := drop_left' rfl
  have after36 : (abiEncode mode execution).drop 36 = _ :=
    ((drop_drop (i := 32) (j := 4)).symm.trans (congrArg _ after4)).trans (drop_left' whole)
  have after68 : (abiEncode mode execution).drop 68 = _ :=
    ((drop_drop (i := 32) (j := 36)).symm.trans (congrArg _ after36)).trans (drop_left' (bytesOf_length _ _))
  have after100 : (abiEncode mode execution).drop 100 = _ :=
    ((drop_drop (i := 32) (j := 68)).symm.trans (congrArg _ after68)).trans (drop_left' (bytesOf_length _ _))
  refine ⟨take_left' rfl, ?_, ?_, ?_, after100⟩
  · rw [drop_take, after4]
    exact take_left' whole
  · rw [drop_take, after36]
    exact take_left' (bytesOf_length _ _)
  · rw [drop_take, after68]
    exact take_left' (bytesOf_length _ _)

/-- Bytes from a place on are the bytes up to a later place, and those from there on. -/
theorem slice_append_drop {start stop : Nat} (ordered : start ≤ stop) :
    (data.take stop).drop start ++ data.drop stop = data.drop start := by
  rw [drop_take, ← Nat.add_sub_cancel' ordered, ← drop_drop, Nat.add_sub_cancel' ordered, take_append_drop]

theorem zeroPadded_true {place left : Nat} (within : place + left ≤ data.length) :
    zeroPadded data place left = .ok true ↔ (data.drop place).take left = List.replicate left 0 := by
  induction left generalizing place with
  | zero => simp [zeroPadded, pure, Except.pure]
  | succ left ih =>
    have inside : place < data.length := by omega
    rw [List.drop_eq_getElem_cons inside, List.take_succ_cons, List.replicate_succ, List.cons.injEq,
      ← ih (by omega : place + 1 + left ≤ data.length)]
    have step : zeroPadded data place (left + 1) =
        if (data[place] != 0) = true then .ok false else zeroPadded data (place + 1) left := by
      conv => lhs; unfold zeroPadded
      rw [byteAt_within inside]
      rfl
    rw [step]
    by_cases zero : data[place] = 0
    · simp [zero]
    · simp [zero]

theorem canonicalSingle_true : canonicalSingle data = .ok true ↔
    ∃ execution, data = abiEncode singleMode execution ∧ 56 ≤ execution.length ∧ data.length ≤ 8192 := by
  have modeLength : singleMode.length = 32 := length_replicate
  constructor
  · intro accepted
    obtain ⟨refused, _⟩ | ⟨framed, padding⟩ := canonicalSingle_reads data
    · cases refused.symm.trans accepted
    obtain ⟨long, short, selector, mode, offset, sizeLong, sizeShort, length⟩ := framed
    generalize size : bigEndian ((data.take 100).drop 68) = bodyLength at *
    have rounded : bodyLength ≤ roundedUp bodyLength := by
      unfold roundedUp
      omega
    rw [padding, zeroPadded_true (by omega), List.take_of_length_le (by simp)] at accepted
    have body : ((data.drop 100).take bodyLength).length = bodyLength := by
      rw [List.length_take, length_drop]
      omega
    refine ⟨(data.drop 100).take bodyLength, ?_, by omega, by omega⟩
    have modeBytes : (data.take 36).drop 4 = singleMode := by
      apply bigEndian_inj
      · rw [slice_length (by omega)]
        rfl
      · rw [mode]
        decide
    have offsetBytes : (data.take 68).drop 36 = bytesOf 32 64 := by
      rw [← offset]
      exact (bytesOf_of_length (slice_length (by omega))).symm
    have sizeBytes : (data.take 100).drop 68 = bytesOf 32 bodyLength := by
      rw [← size]
      exact (bytesOf_of_length (slice_length (by omega))).symm
    unfold abiEncode
    rw [← selector, ← modeBytes, ← offsetBytes, body, ← sizeBytes]
    have tail : List.replicate (roundedUp bodyLength - bodyLength) 0 = (data.drop 100).drop bodyLength := by
      rw [drop_drop, accepted]
      congr 1
      omega
    rw [tail, take_append_drop, slice_append_drop (by decide), slice_append_drop (by decide),
      slice_append_drop (by decide), take_append_drop]
  · rintro ⟨execution, rfl, least, most⟩
    obtain ⟨selector, mode, offset, size, body⟩ := abiEncode_parts execution modeLength
    have total := abiEncode_length singleMode execution modeLength
    have rounded : execution.length ≤ roundedUp execution.length := by
      unfold roundedUp
      omega
    have whole : 164 ≤ 100 + roundedUp execution.length := by
      unfold roundedUp
      omega
    have sizeValue : bigEndian (((abiEncode singleMode execution).take 100).drop 68) = execution.length := by
      rw [size]
      exact bigEndian_bytesOf (Nat.lt_of_le_of_lt (show execution.length ≤ 8092 by omega) (by decide))
    have framed : Framed (abiEncode singleMode execution) := by
      constructor
      · omega
      · omega
      · exact selector
      · rw [mode]
        decide
      · rw [offset]
        decide
      · omega
      · omega
      · rw [sizeValue, total]
    obtain ⟨_, unframed⟩ | ⟨_, padding⟩ := canonicalSingle_reads (abiEncode singleMode execution)
    · exact absurd framed unframed
    have tail : (abiEncode singleMode execution).drop (100 + execution.length) =
        List.replicate (roundedUp execution.length - execution.length) 0 := by
      rw [← drop_drop, body, List.drop_left]
    rw [padding, sizeValue, zeroPadded_true (by omega), tail, total, Nat.add_sub_add_left]
    exact List.take_of_length_le (by simp)

/-- The target, the value and the inner calldata, at the places the guard and the account read. -/
def targetOf (data : Bytes) : Address := BitVec.ofNat 160 (bigEndian ((data.take 120).drop 100))

def valueOf (data : Bytes) : Nat := bigEndian ((data.take 152).drop 120)

def innerOf (data : Bytes) : Bytes := (data.take (100 + bigEndian ((data.take 100).drop 68))).drop 152

/-- The call a packed body names. -/
def unpacked (execution : Bytes) : Safe7579Call :=
  ⟨BitVec.ofNat 160 (bigEndian (execution.take 20)), bigEndian ((execution.take 52).drop 20), execution.drop 52⟩

theorem packed_unpacked (long : 52 ≤ execution.length) : packed (unpacked execution) = execution := by
  have first : (execution.take 20).length = 20 := List.length_take_of_le (by omega)
  have second : ((execution.take 52).drop 20).length = 32 := slice_length long
  have target : bytesOf 20 (unpacked execution).target.toNat = execution.take 20 := by
    change bytesOf 20 (BitVec.ofNat 160 (bigEndian (execution.take 20))).toNat = _
    rw [toNat_word (by rw [first]; decide)]
    exact bytesOf_of_length first
  have value : bytesOf 32 (unpacked execution).value = (execution.take 52).drop 20 := bytesOf_of_length second
  unfold packed
  rw [target, value, append_assoc]
  change _ ++ (_ ++ execution.drop 52) = _
  rw [slice_append_drop (by decide), take_append_drop]

theorem places_of_encoding (long : 52 ≤ execution.length) (short : execution.length < 2 ^ 256) :
    targetOf (abiEncode singleMode execution) = (unpacked execution).target ∧
    valueOf (abiEncode singleMode execution) = (unpacked execution).value ∧
    innerOf (abiEncode singleMode execution) = (unpacked execution).callData := by
  obtain ⟨_, _, _, size, body⟩ := abiEncode_parts execution (show singleMode.length = 32 from length_replicate)
  have sizeValue : bigEndian (((abiEncode singleMode execution).take 100).drop 68) = execution.length := by
    rw [size]
    exact bigEndian_bytesOf short
  have places : ∀ start count, start + count ≤ execution.length →
      ((abiEncode singleMode execution).take (100 + (start + count))).drop (100 + start) =
        (execution.take (start + count)).drop start := by
    intro start count within
    have few : start + count - start ≤ (execution.drop start).length := by
      rw [length_drop]
      omega
    rw [drop_take, drop_take, ← drop_drop, body, Nat.add_sub_add_left,
      List.drop_append_of_le_length (by omega), List.take_append_of_le_length few]
  refine ⟨?_, ?_, ?_⟩
  · unfold targetOf
    rw [places 0 20 (by omega)]
    rfl
  · unfold valueOf
    rw [places 20 32 (by omega)]
    rfl
  · unfold innerOf
    rw [sizeValue]
    have rest := places 52 (execution.length - 52) (by omega)
    rw [Nat.add_sub_cancel' long, List.take_length] at rest
    exact rest

theorem packed_length (call : Safe7579Call) : (packed call).length = 52 + call.callData.length := by
  rw [packed, length_append, length_append, bytesOf_length, bytesOf_length]

theorem packed_long (call : Safe7579Call) : 52 ≤ (packed call).length := by
  rw [packed_length]
  omega

theorem packed_short (length : call.callData.length ≤ maxExecutionBytes) : (packed call).length < 2 ^ 256 := by
  unfold maxExecutionBytes at length
  rw [packed_length]
  omega

theorem callChecked_ok {index : Nat} : callChecked index call = .ok () ↔
    call.target ≠ 0 ∧ call.value < 2 ^ 256 ∧ call.callData.length ≤ maxExecutionBytes := by
  unfold callChecked address integer hex
  constructor
  · intro accepted
    obtain ⟨target, accepted⟩ := ok_refuse accepted
    obtain ⟨_, value, accepted⟩ := ok_bind accepted
    obtain ⟨_, value⟩ := ok_refuse value
    have value := refuse_ok.mp value
    have length := refuse_ok.mp accepted
    simp only [beq_eq_false_iff_ne, ne_eq, decide_eq_false_iff_not, Nat.not_le, Bool.or_eq_false_iff, gt_iff_lt,
      Nat.not_lt] at target value length
    exact ⟨target, value, length.2⟩
  · rintro ⟨target, value, length⟩
    have digits : ¬ 10 ^ 79 ≤ call.value := Nat.not_le.mpr (Nat.lt_trans value (by decide))
    have fits : ¬ 2 ^ 256 ≤ call.value := Nat.not_le.mpr value
    apply bind_run (refuse_ok.mpr (by simpa using target))
    apply bind_run (a := ())
    · apply bind_run (refuse_ok.mpr (decide_eq_false digits))
      exact refuse_ok.mpr (decide_eq_false fits)
    · exact refuse_ok.mpr (by simpa using length)

theorem callsChecked_single : callsChecked [call] = .ok () ↔
    call.target ≠ 0 ∧ call.value < 2 ^ 256 ∧ call.callData.length ≤ maxExecutionBytes := by
  have only : callsChecked [call] = callChecked 0 call := by
    change (callChecked 0 call >>= fun _ => pure ()) = _
    cases callChecked 0 call <;> rfl
  rw [only]
  exact callChecked_ok

theorem encode_single (abi : FollowsAbi viem) (length : call.callData.length ≤ maxExecutionBytes) :
    viem.encodeFunctionData singleMode (packed call) = abiEncode singleMode (packed call) :=
  abi.encodes _ _ length_replicate (packed_short length)

theorem decode_single (abi : FollowsAbi viem) (decoded : decodeSafe7579Execution viem data = .ok [call]) :
    data = abiEncode singleMode (packed call) ∧ call.target ≠ 0 ∧ call.value < 2 ^ 256 ∧
      call.callData.length ≤ maxExecutionBytes := by
  unfold decodeSafe7579Execution at decoded
  obtain ⟨_, _, decoded⟩ := ok_bind decoded
  split at decoded
  · cases decoded
  · obtain ⟨calls, _, decoded⟩ := ok_bind decoded
    obtain ⟨encoded, encodes, decoded⟩ := ok_bind decoded
    obtain ⟨same, decoded⟩ := ok_refuse decoded
    cases decoded
    have same : encoded = data := by simpa using same
    obtain ⟨_, accepted, encodes⟩ := ok_bind encodes
    obtain ⟨_, encodes⟩ := ok_refuse encodes
    obtain ⟨target, value, length⟩ := callsChecked_single.mp accepted
    cases encodes
    exact ⟨by rw [← same, ← encode_single abi length], target, value, length⟩

theorem unpacked_packed (fits : call.value < 2 ^ 256) : unpacked (packed call) = call := by
  have target : (packed call).take 20 = bytesOf 20 call.target.toNat := by
    rw [packed, append_assoc]
    exact take_left' (bytesOf_length _ _)
  have after20 : (packed call).drop 20 = bytesOf 32 call.value ++ call.callData := by
    rw [packed, append_assoc]
    exact drop_left' (bytesOf_length _ _)
  have value : ((packed call).take 52).drop 20 = bytesOf 32 call.value := by
    rw [drop_take, after20]
    exact take_left' (bytesOf_length _ _)
  have rest : (packed call).drop 52 = call.callData :=
    ((drop_drop (i := 32) (j := 20)).symm.trans (congrArg _ after20)).trans (drop_left' (bytesOf_length _ _))
  have address : BitVec.ofNat 160 (bigEndian (bytesOf 20 call.target.toNat)) = call.target := by
    rw [bigEndian_bytesOf (Nat.lt_of_lt_of_le call.target.isLt (by decide)), BitVec.ofNat_toNat, BitVec.setWidth_eq]
  unfold unpacked
  rw [target, value, rest, address, bigEndian_bytesOf fits]

theorem decode_encoding (abi : FollowsAbi viem) (long : 52 ≤ execution.length)
    (short : (abiEncode singleMode execution).length ≤ maxExecutionBytes) (target : (unpacked execution).target ≠ 0) :
    decodeSafe7579Execution viem (abiEncode singleMode execution) = .ok [unpacked execution] := by
  have modeLength : singleMode.length = 32 := length_replicate
  have total := abiEncode_length singleMode execution modeLength
  have body : execution.length ≤ 65536 := by
    unfold maxExecutionBytes at short
    unfold roundedUp at total
    omega
  have few : execution.length < 2 ^ 256 := Nat.lt_of_le_of_lt body (by decide)
  have length : (unpacked execution).callData.length ≤ maxExecutionBytes := by
    change (execution.drop 52).length ≤ 65536
    rw [length_drop]
    omega
  have value : (unpacked execution).value < 2 ^ 256 := by
    have bound := bigEndian_lt ((execution.take 52).drop 20)
    rw [slice_length long] at bound
    exact Nat.lt_of_lt_of_le bound (by decide)
  have encodes : encodeSafe7579Execution viem [unpacked execution] = .ok (abiEncode singleMode execution) := by
    apply bind_run (callsChecked_single.mpr ⟨target, value, length⟩)
    have same : viem.encodeFunctionData singleMode (packed (unpacked execution)) = abiEncode singleMode execution := by
      rw [encode_single abi length, packed_unpacked long]
    dsimp only
    rw [same]
    exact bind_run (refuse_ok.mpr (decide_eq_false (Nat.not_lt.mpr short))) rfl
  have sized : hex (abiEncode singleMode execution) "execution" 4 maxExecutionBytes = .ok () := by
    refine refuse_ok.mpr (Bool.or_eq_false_iff.mpr ⟨decide_eq_false ?_, decide_eq_false (Nat.not_lt.mpr short)⟩)
    omega
  apply bind_run sized
  rw [abi.decodes singleMode execution modeLength few]
  have named : executionCalls viem singleMode execution = .ok [unpacked execution] :=
    (if_pos rfl).trans (bind_run (refuse_ok.mpr (decide_eq_false (Nat.not_lt.mpr long))) rfl)
  apply bind_run named
  apply bind_run encodes
  exact bind_run (refuse_ok.mpr (by simp)) rfl

/-- On bytes of the guard's size the two parsers agree: the guard accepts, with a target that is not
zero, exactly what the service decodes to one call with a selector, and the service's call is what
stands at the places the guard and the account read. -/
theorem execution_parsers_agree (abi : FollowsAbi viem) (short : data.length ≤ 8192) :
    (canonicalSingle data = .ok true ∧ targetOf data ≠ 0 ↔
      ∃ call, decodeSafe7579Execution viem data = .ok [call] ∧ 4 ≤ call.callData.length) ∧
    ∀ call, decodeSafe7579Execution viem data = .ok [call] → 4 ≤ call.callData.length →
      call.target = targetOf data ∧ call.value = valueOf data ∧ call.callData = innerOf data := by
  have places : ∀ call, decodeSafe7579Execution viem data = .ok [call] →
      call.target = targetOf data ∧ call.value = valueOf data ∧ call.callData = innerOf data := by
    intro call decoded
    obtain ⟨rfl, _, value, length⟩ := decode_single abi decoded
    obtain ⟨targets, values, inners⟩ := places_of_encoding (packed_long call) (packed_short length)
    rw [unpacked_packed value] at targets values inners
    exact ⟨targets.symm, values.symm, inners.symm⟩
  refine ⟨⟨?_, ?_⟩, fun call decoded _ => places call decoded⟩
  · rintro ⟨accepted, target⟩
    obtain ⟨execution, rfl, long, _⟩ := canonicalSingle_true.mp accepted
    have total := abiEncode_length singleMode execution length_replicate
    have few : execution.length ≤ 8192 := by
      unfold roundedUp at total
      omega
    obtain ⟨targets, _, _⟩ := places_of_encoding (show 52 ≤ execution.length by omega)
      (Nat.lt_of_le_of_lt few (by decide))
    rw [targets] at target
    refine ⟨unpacked execution, decode_encoding abi (by omega) (Nat.le_trans short (by decide)) target, ?_⟩
    change 4 ≤ (execution.drop 52).length
    rw [length_drop]
    omega
  · rintro ⟨call, decoded, selector⟩
    have target := (places call decoded).1
    obtain ⟨rfl, nonzero, value, length⟩ := decode_single abi decoded
    refine ⟨canonicalSingle_true.mpr ⟨packed call, rfl, ?_, short⟩, target ▸ nonzero⟩
    rw [packed_length]
    omega

/-- A library that decodes the words it finds at their places. -/
def sampleViem : Viem where
  decodeFunctionData data := if data.take 4 = executeSelector then
    some ((data.take 36).drop 4, (data.drop 100).take (bigEndian ((data.take 100).drop 68))) else none
  encodeFunctionData := abiEncode
  decodeExecutions _ := none
  encodeExecutions _ := []

theorem sampleViem_followsAbi : FollowsAbi sampleViem := by
  constructor
  · intro mode execution _ _
    rfl
  · intro mode execution whole short
    obtain ⟨selector, modes, _, size, body⟩ := abiEncode_parts execution whole
    have few : execution.length < 256 ^ 32 := Nat.lt_of_lt_of_le short (by decide)
    unfold sampleViem
    dsimp only
    rw [if_pos selector, modes, size, body, bigEndian_bytesOf few, List.take_left]

/-- The operation of the sample session decodes to the call its guard accepts. -/
theorem execution_parsers_agree_sample : ∃ call,
    decodeSafe7579Execution sampleViem sampleOperation.callData = .ok [call] ∧ 4 ≤ call.callData.length ∧
    call.target = targetOf sampleOperation.callData ∧ call.callData = [1, 1, 1, 1] := by
  have agree := execution_parsers_agree sampleViem_followsAbi (show sampleOperation.callData.length ≤ 8192 by decide +kernel)
  obtain ⟨call, decoded, selector⟩ := agree.1.mp ⟨by decide +kernel, by decide +kernel⟩
  obtain ⟨target, _, inner⟩ := agree.2 call decoded selector
  exact ⟨call, decoded, selector, target, inner.trans (by decide +kernel)⟩

end JBCenter.Guards
