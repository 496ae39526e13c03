import JBCenter.Guards.Execution

/-! The envelopes of account operations: the execution that carries one call or a batch, the nonce that selects a validator, and
the signature that names a session. Each is read back as what it was made of, and nothing else is read. -/
namespace JBCenter.Envelopes
open Rest Guards
open List (append_assoc drop_left' length_append length_cons)
variable {viem : Viem} {data : Bytes} {calls : List Safe7579Call}

/-- The encoding the ABI specification gives the tuple of a call: its target, its value, and its bytes after the three words. -/
def abiTuple (call : Safe7579Call) : Bytes :=
  bytesOf 32 call.target.toNat ++ (bytesOf 32 call.value ++ (bytesOf 32 96 ++ (bytesOf 32 call.callData.length ++
    (call.callData ++ List.replicate (roundedUp call.callData.length - call.callData.length) 0))))

def abiOffsets : Nat → List Safe7579Call → Bytes
  | _, [] => []
  | place, call :: calls => bytesOf 32 place ++ abiOffsets (place + (abiTuple call).length) calls

def abiExecutions (calls : List Safe7579Call) : Bytes :=
  bytesOf 32 32 ++ (bytesOf 32 calls.length ++ (abiOffsets (32 * calls.length) calls ++ calls.flatMap abiTuple))

def Fits (call : Safe7579Call) : Prop := call.value < 2 ^ 256 ∧ call.callData.length ≤ maxExecutionBytes

/-- The library follows the specification on batches: it encodes as it says, and decodes what it encodes. -/
structure FollowsBatchAbi (viem : Viem) : Prop where
  encodes : ∀ calls, (∀ call ∈ calls, Fits call) → calls.length ≤ maxExecutions →
    viem.encodeExecutions calls = abiExecutions calls
  decodes : ∀ calls, (∀ call ∈ calls, Fits call) → calls.length ≤ maxExecutions →
    viem.decodeExecutions (abiExecutions calls) = some calls

theorem abiTuple_length (call : Safe7579Call) : (abiTuple call).length = 128 + roundedUp call.callData.length := by
  have more : call.callData.length ≤ roundedUp call.callData.length := by
    unfold roundedUp
    omega
  simp only [abiTuple, length_append, bytesOf_length, List.length_replicate]
  omega

theorem abiOffsets_length (place : Nat) (calls : List Safe7579Call) : (abiOffsets place calls).length = 32 * calls.length := by
  induction calls generalizing place with
  | nil => rfl
  | cons call calls ih =>
    rw [abiOffsets, length_append, bytesOf_length, ih, length_cons]
    omega

theorem abiExecutions_length (calls : List Safe7579Call) :
    (abiExecutions calls).length = 64 + 32 * calls.length + (calls.map fun call => 128 + roundedUp call.callData.length).sum := by
  have tuples : (calls.flatMap abiTuple).length = (calls.map fun call => 128 + roundedUp call.callData.length).sum := by
    rw [List.length_flatMap]
    exact congrArg List.sum (List.map_congr_left fun call _ => abiTuple_length call)
  simp only [abiExecutions, length_append, bytesOf_length, abiOffsets_length, tuples]
  omega

theorem sum_tuples_le (fit : ∀ call ∈ calls, Fits call) :
    (calls.map fun call => 128 + roundedUp call.callData.length).sum ≤ calls.length * 65664 := by
  induction calls with
  | nil => exact Nat.zero_le _
  | cons call calls ih =>
    obtain ⟨⟨_, short⟩, others⟩ := List.forall_mem_cons.mp fit
    have rest := ih others
    unfold maxExecutionBytes at short
    rw [List.map_cons, List.sum_cons, length_cons]
    unfold roundedUp
    unfold roundedUp at rest
    omega

theorem abiExecutions_short (fit : ∀ call ∈ calls, Fits call) (few : calls.length ≤ maxExecutions) :
    (abiExecutions calls).length < 2 ^ 256 := by
  have tuples := sum_tuples_le fit
  unfold maxExecutions at few
  have small : (abiExecutions calls).length < 2 ^ 32 := by
    rw [abiExecutions_length]
    omega
  exact Nat.lt_trans small (by decide)

theorem callsChecked_ok : callsChecked calls = .ok () ↔
    1 ≤ calls.length ∧ calls.length ≤ maxExecutions ∧ ∀ call ∈ calls, call.target ≠ 0 ∧ Fits call := by
  have each : (calls.zipIdx.forM fun call => callChecked call.2 call.1) = .ok () ↔
    ∀ call ∈ calls, call.target ≠ 0 ∧ Fits call := by
    rw [forM_ok]
    simp only [callChecked_ok]
    change (∀ call ∈ calls.zipIdx, call.1.target ≠ 0 ∧ Fits call.1) ↔ _
    rw [← List.forall_mem_map (f := Prod.fst) (P := fun call => call.target ≠ 0 ∧ Fits call), List.zipIdx_map_fst]
  constructor
  · intro accepted
    obtain ⟨count, accepted⟩ := ok_refuse accepted
    simp only [Bool.or_eq_false_iff, decide_eq_false_iff_not, Nat.not_lt, gt_iff_lt] at count
    exact ⟨count.1, count.2, each.mp accepted⟩
  · rintro ⟨some, few, good⟩
    have count : (calls.length < 1 || calls.length > maxExecutions) = false := by
      rw [decide_eq_false (Nat.not_lt.mpr some), decide_eq_false (Nat.not_lt.mpr few)]
      rfl
    exact bind_run (refuse_ok.mpr count) (each.mpr good)

/-- The bytes that follow the selector and the mode of an execution. -/
def body (calls : List Safe7579Call) : Bytes :=
  match calls with
  | [call] => packed call
  | _ => abiExecutions calls

def modeOf (calls : List Safe7579Call) : Bytes :=
  match calls with
  | [_] => singleMode
  | _ => batchMode

theorem modeOf_length (calls : List Safe7579Call) : (modeOf calls).length = 32 := by
  unfold modeOf
  split <;> rfl

theorem body_short (fit : ∀ call ∈ calls, Fits call) (few : calls.length ≤ maxExecutions) : (body calls).length < 2 ^ 256 := by
  unfold body
  split
  case h_1 call => exact packed_short (fit call (List.mem_singleton_self call)).2
  case h_2 => exact abiExecutions_short fit few

/-- What the library makes of calls. -/
def written (viem : Viem) (calls : List Safe7579Call) : Bytes :=
  match calls with
  | [call] => viem.encodeFunctionData singleMode (packed call)
  | _ => viem.encodeFunctionData batchMode (viem.encodeExecutions calls)

theorem encode_written : encodeSafe7579Execution viem calls = do
    callsChecked calls
    refuse ((written viem calls).length > maxExecutionBytes) (fail "The complete execution exceeds the byte limit.")
    return written viem calls := by
  match calls with
  | [] | [_] | _ :: _ :: _ => rfl

theorem written_eq (abi : FollowsAbi viem) (batch : FollowsBatchAbi viem) (checked : callsChecked calls = .ok ()) :
    written viem calls = abiEncode (modeOf calls) (body calls) := by
  obtain ⟨some, few, good⟩ := callsChecked_ok.mp checked
  have fit : ∀ call ∈ calls, Fits call := fun call member => (good call member).2
  have short := body_short fit few
  unfold written modeOf body at *
  split
  case h_1 call => exact abi.encodes _ _ rfl short
  case h_2 many =>
    rw [batch.encodes calls fit few]
    exact abi.encodes _ _ rfl (abiExecutions_short fit few)

theorem encode_ok (abi : FollowsAbi viem) (batch : FollowsBatchAbi viem) : encodeSafe7579Execution viem calls = .ok data ↔
    callsChecked calls = .ok () ∧ data = abiEncode (modeOf calls) (body calls) ∧ data.length ≤ maxExecutionBytes := by
  rw [encode_written]
  constructor
  · intro accepted
    obtain ⟨_, checked, accepted⟩ := ok_bind accepted
    obtain ⟨short, accepted⟩ := ok_refuse accepted
    rw [written_eq abi batch checked] at short accepted
    cases accepted
    exact ⟨checked, rfl, Nat.not_lt.mp (of_decide_eq_false short)⟩
  · rintro ⟨checked, rfl, short⟩
    apply bind_run checked
    rw [written_eq abi batch checked]
    exact bind_run (refuse_ok.mpr (decide_eq_false (Nat.not_lt.mpr short))) rfl

theorem executionCalls_body (batch : FollowsBatchAbi viem) (checked : callsChecked calls = .ok ()) :
    executionCalls viem (modeOf calls) (body calls) = .ok calls := by
  obtain ⟨some, few, good⟩ := callsChecked_ok.mp checked
  have fit : ∀ call ∈ calls, Fits call := fun call member => (good call member).2
  unfold executionCalls modeOf body
  split
  case h_1 call =>
    rw [if_pos rfl]
    refine bind_run (refuse_ok.mpr (decide_eq_false (Nat.not_lt.mpr (packed_long call)))) ?_
    exact congrArg (fun call => Except.ok [call]) (unpacked_packed (fit call (List.mem_singleton_self call)).1)
  case h_2 many =>
    have two : ¬ calls.length < 2 := by
      intro less
      obtain ⟨call, rfl⟩ := List.length_eq_one_iff.mp (show calls.length = 1 by omega)
      exact many call rfl
    rw [if_neg (by decide), if_pos rfl, batch.decodes calls fit few]
    exact bind_run (refuse_ok.mpr (decide_eq_false two)) rfl

theorem execution_round_trip (abi : FollowsAbi viem) (batch : FollowsBatchAbi viem) :
    encodeSafe7579Execution viem calls = .ok data ↔ decodeSafe7579Execution viem data = .ok calls := by
  constructor
  · intro encoded
    obtain ⟨checked, rfl, short⟩ := (encode_ok abi batch).mp encoded
    obtain ⟨some, few, good⟩ := callsChecked_ok.mp checked
    have total := abiEncode_length (modeOf calls) (body calls) (modeOf_length calls)
    have sized : hex (abiEncode (modeOf calls) (body calls)) "execution" 4 maxExecutionBytes = .ok () := by
      refine refuse_ok.mpr (Bool.or_eq_false_iff.mpr ⟨decide_eq_false ?_, decide_eq_false (Nat.not_lt.mpr short)⟩)
      omega
    apply bind_run sized
    rw [abi.decodes _ _ (modeOf_length calls) (body_short (fun call member => (good call member).2) few)]
    apply bind_run (executionCalls_body batch checked)
    apply bind_run encoded
    exact bind_run (refuse_ok.mpr (bne_self_eq_false _)) rfl
  · intro decoded
    obtain ⟨_, _, decoded⟩ := ok_bind decoded
    split at decoded
    · cases decoded
    · obtain ⟨named, _, decoded⟩ := ok_bind decoded
      obtain ⟨encoded, encodes, decoded⟩ := ok_bind decoded
      obtain ⟨same, decoded⟩ := ok_refuse decoded
      cases decoded
      rwa [bne_eq_false_iff_eq.mp same] at encodes

def integerOf (value : Nat) (path : String) (bits : Nat) : Except RestError Unit := do
  refuse (10 ^ 79 ≤ value) (invalid path ("Use an exact canonical decimal integer string; JSON numbers, exponents " ++
    "and leading zeros are not accepted."))
  refuse (2 ^ bits ≤ value) (invalid path ("Value does not fit uint" ++ toString bits ++ "."))

def safe7579NonceKey (validator : Address) (lane : Nat) : Except RestError Nat := do
  address validator "validator"
  integerOf lane "lane" 32
  return validator.toNat <<< 32 ||| lane

def encodeSafe7579Nonce (validator : Address) (lane sequence : Nat) : Except RestError Nat := do
  let key ← safe7579NonceKey validator lane
  integerOf sequence "sequence" 64
  return key <<< 64 ||| sequence

structure Safe7579Nonce where
  validator : Address
  lane : Nat
  sequence : Nat
  key : Nat

def decodeSafe7579Nonce (nonce : Nat) : Except RestError Safe7579Nonce := do
  integerOf nonce "nonce" 256
  let validator := BitVec.ofNat 160 (nonce >>> 96)
  refuse (validator == 0) (fail "A session nonce must select a nonzero validator.")
  return { validator, lane := nonce >>> 64 &&& 0xffffffff, sequence := nonce &&& 0xffffffffffffffff, key := nonce >>> 64 }

def encodeSafe7579OwnerNonce (sequence lane : Nat) : Except RestError Nat := do
  integerOf lane "lane" 32
  integerOf sequence "sequence" 64
  return lane <<< 64 ||| sequence

theorem integerOf_ok {value bits : Nat} {path : String} (narrow : bits ≤ 256) :
    integerOf value path bits = .ok () ↔ value < 2 ^ bits := by
  have wide : 2 ^ bits < 10 ^ 79 := Nat.lt_of_le_of_lt (Nat.pow_le_pow_right (by decide) narrow) (by decide)
  constructor
  · intro accepted
    obtain ⟨_, accepted⟩ := ok_refuse accepted
    exact Nat.not_le.mp (of_decide_eq_false (refuse_ok.mp accepted))
  · intro fits
    exact bind_run (refuse_ok.mpr (decide_eq_false (Nat.not_le.mpr (Nat.lt_trans fits wide))))
      (refuse_ok.mpr (decide_eq_false (Nat.not_le.mpr fits)))

theorem shiftLeft_or {high low bits : Nat} (small : low < 2 ^ bits) : high <<< bits ||| low = high * 2 ^ bits + low := by
  rw [← Nat.shiftLeft_add_eq_or_of_lt small, Nat.shiftLeft_eq]

variable {nonce : Nat}

variable {validator : Address} {lane sequence : Nat}

theorem encodeNonce_ok : encodeSafe7579Nonce validator lane sequence = .ok nonce ↔
    validator ≠ 0 ∧ lane < 2 ^ 32 ∧ sequence < 2 ^ 64 ∧ nonce = (validator.toNat * 2 ^ 32 + lane) * 2 ^ 64 + sequence := by
  constructor
  · intro accepted
    obtain ⟨key, keyed, accepted⟩ := ok_bind accepted
    obtain ⟨_, ordered, accepted⟩ := ok_bind accepted
    obtain ⟨_, selected, keyed⟩ := ok_bind keyed
    obtain ⟨_, laned, keyed⟩ := ok_bind keyed
    have sequence := (integerOf_ok (by decide)).mp ordered
    have lane := (integerOf_ok (by decide)).mp laned
    cases keyed
    cases accepted
    rw [shiftLeft_or lane, shiftLeft_or sequence]
    exact ⟨beq_eq_false_iff_ne.mp (refuse_ok.mp selected), lane, sequence, rfl⟩
  · rintro ⟨selected, lane, sequence, rfl⟩
    have keyed : safe7579NonceKey validator _ = .ok _ := bind_run (refuse_ok.mpr (beq_eq_false_iff_ne.mpr selected))
      (bind_run ((integerOf_ok (by decide)).mpr lane) rfl)
    rw [← shiftLeft_or sequence, ← shiftLeft_or lane]
    exact bind_run keyed (bind_run ((integerOf_ok (by decide)).mpr sequence) rfl)

theorem decodeNonce_ok {parts : Safe7579Nonce} : decodeSafe7579Nonce nonce = .ok parts ↔
    nonce < 2 ^ 256 ∧ parts.validator ≠ 0 ∧ parts =
    ⟨BitVec.ofNat 160 (nonce / 2 ^ 96), nonce / 2 ^ 64 % 2 ^ 32, nonce % 2 ^ 64, nonce / 2 ^ 64⟩ := by
  have masks : (⟨BitVec.ofNat 160 (nonce >>> 96), nonce >>> 64 &&& 0xffffffff,
    nonce &&& 0xffffffffffffffff, nonce >>> 64⟩ : Safe7579Nonce) =
      ⟨BitVec.ofNat 160 (nonce / 2 ^ 96), nonce / 2 ^ 64 % 2 ^ 32, nonce % 2 ^ 64, nonce / 2 ^ 64⟩ := by
    rw [Nat.shiftRight_eq_div_pow, Nat.shiftRight_eq_div_pow, ← Nat.and_two_pow_sub_one_eq_mod _ 32,
      ← Nat.and_two_pow_sub_one_eq_mod _ 64]
  constructor
  · intro accepted
    obtain ⟨_, fits, accepted⟩ := ok_bind accepted
    obtain ⟨selected, accepted⟩ := ok_refuse accepted
    cases accepted
    exact ⟨(integerOf_ok (by decide)).mp fits, beq_eq_false_iff_ne.mp selected, masks⟩
  · rintro ⟨fits, selected, rfl⟩
    refine bind_run ((integerOf_ok (by decide)).mpr fits) ?_
    refine bind_run (refuse_ok.mpr (beq_eq_false_iff_ne.mpr ?_)) (congrArg Except.ok masks)
    rwa [Nat.shiftRight_eq_div_pow]

theorem encodeOwnerNonce_ok (accepted : encodeSafe7579OwnerNonce sequence lane = .ok nonce) :
    nonce < 2 ^ 96 := by
  obtain ⟨_, laned, accepted⟩ := ok_bind accepted
  obtain ⟨_, ordered, accepted⟩ := ok_bind accepted
  have lane := (integerOf_ok (by decide)).mp laned
  have sequence := (integerOf_ok (by decide)).mp ordered
  cases accepted
  rw [shiftLeft_or sequence]
  omega

theorem nonceKey_ok {key : Nat} : safe7579NonceKey validator lane = .ok key ↔
    validator ≠ 0 ∧ lane < 2 ^ 32 ∧ key = validator.toNat * 2 ^ 32 + lane := by
  constructor
  · intro keyed
    obtain ⟨_, selected, keyed⟩ := ok_bind keyed
    obtain ⟨_, laned, keyed⟩ := ok_bind keyed
    have lane := (integerOf_ok (by decide)).mp laned
    cases keyed
    exact ⟨beq_eq_false_iff_ne.mp (refuse_ok.mp selected), lane, shiftLeft_or lane⟩
  · rintro ⟨selected, lane, rfl⟩
    rw [← shiftLeft_or lane]
    exact bind_run (refuse_ok.mpr (beq_eq_false_iff_ne.mpr selected)) (bind_run ((integerOf_ok (by decide)).mpr lane) rfl)

theorem nonce_round_trip : encodeSafe7579Nonce validator lane sequence = .ok nonce ↔
    ∃ key, safe7579NonceKey validator lane = .ok key ∧ decodeSafe7579Nonce nonce = .ok ⟨validator, lane, sequence, key⟩ := by
  simp only [encodeNonce_ok, nonceKey_ok, decodeNonce_ok, Safe7579Nonce.mk.injEq]
  have bound := validator.isLt
  constructor
  · rintro ⟨selected, lane, sequence, rfl⟩
    refine ⟨_, ⟨selected, lane, rfl⟩, by omega, selected, ?_, by omega, by omega, by omega⟩
    rw [show ((validator.toNat * 2 ^ 32 + _) * 2 ^ 64 + _) / 2 ^ 96 = validator.toNat by omega,
      BitVec.ofNat_toNat, BitVec.setWidth_eq]
  · rintro ⟨key, ⟨selected, lane, keyed⟩, fits, _, named, laned, ordered, rfl⟩
    exact ⟨selected, lane, by omega, by omega⟩

theorem owner_nonce_apart (owner : encodeSafe7579OwnerNonce sequence lane = .ok nonce) :
    decodeSafe7579Nonce nonce = .error (fail "A session nonce must select a nonzero validator.") := by
  have small := encodeOwnerNonce_ok owner
  have fits : integerOf nonce "nonce" 256 = .ok () := (integerOf_ok (by decide)).mpr (Nat.lt_trans small (by decide))
  rw [decodeSafe7579Nonce, fits]
  change (refuse (BitVec.ofNat 160 (nonce >>> 96) == 0) _ >>= fun _ => _) = _
  rw [Nat.shiftRight_eq_div_pow, Nat.div_eq_of_lt small]
  rfl

def zeroPermission : RestError := fail "A permission ID must be nonzero."

def encodeLegacyUseSignature (permissionId signature : Bytes) : Except RestError Bytes := do
  hex permissionId "permissionId" 32 32
  refuse (bigEndian permissionId == 0) zeroPermission
  hex signature "signature" 1 4096
  return [0] ++ permissionId ++ signature

def decodeLegacyUseSignature (envelope : Bytes) : Except RestError (Bytes × Bytes) := do
  hex envelope "signature envelope" 34 4129
  refuse (envelope.take 1 != [0]) (fail "Only an already installed session's USE signature is accepted.")
  let permissionId := (envelope.take 33).drop 1
  refuse (bigEndian permissionId == 0) zeroPermission
  return (permissionId, envelope.drop 33)

theorem hex_ok {value : Bytes} {label : String} {minimum maximum : Nat} :
    hex value label minimum maximum = .ok () ↔ minimum ≤ value.length ∧ value.length ≤ maximum := by
  rw [hex, refuse_ok, Bool.or_eq_false_iff, decide_eq_false_iff_not, decide_eq_false_iff_not, Nat.not_lt, Nat.not_lt]

theorem signature_round_trip {permissionId signature envelope : Bytes} :
    encodeLegacyUseSignature permissionId signature = .ok envelope ↔
    decodeLegacyUseSignature envelope = .ok (permissionId, signature) := by
  constructor
  · intro encoded
    obtain ⟨_, sized, encoded⟩ := ok_bind encoded
    obtain ⟨nonzero, encoded⟩ := ok_refuse encoded
    obtain ⟨_, signed, encoded⟩ := ok_bind encoded
    cases encoded
    obtain ⟨least, most⟩ := hex_ok.mp sized
    obtain ⟨some, short⟩ := hex_ok.mp signed
    have length : permissionId.length = 32 := Nat.le_antisymm most least
    have taken : ([0] ++ permissionId ++ signature).take 33 = [0] ++ permissionId := List.take_left' (by simp [length])
    have whole : hex ([0] ++ permissionId ++ signature) "signature envelope" 34 4129 = .ok () := by
      refine hex_ok.mpr ?_
      rw [length_append, length_append, List.length_singleton]
      omega
    refine bind_run whole (bind_run (refuse_ok.mpr rfl) ?_)
    have second : ([0] ++ permissionId ++ signature).drop 33 = signature := drop_left' (by simp [length])
    have first : (([0] : Bytes) ++ permissionId).drop 1 = permissionId := rfl
    dsimp only
    rw [taken, first, second]
    exact bind_run (refuse_ok.mpr nonzero) rfl
  · intro decoded
    obtain ⟨_, sized, decoded⟩ := ok_bind decoded
    obtain ⟨used, decoded⟩ := ok_refuse decoded
    obtain ⟨nonzero, decoded⟩ := ok_refuse decoded
    cases decoded
    obtain ⟨least, most⟩ := hex_ok.mp sized
    have length : ((envelope.take 33).drop 1).length = 32 := slice_length (by omega)
    have signed : hex (envelope.drop 33) "signature" 1 4096 = .ok () := by
      refine hex_ok.mpr ?_
      rw [List.length_drop]
      omega
    have split : [0] ++ (envelope.take 33).drop 1 ++ envelope.drop 33 = envelope := by
      rw [← bne_eq_false_iff_eq.mp used, append_assoc, slice_append_drop (by decide), List.take_append_drop]
    refine bind_run (hex_ok.mpr (by omega)) (bind_run (refuse_ok.mpr nonzero) (bind_run signed ?_))
    exact congrArg Except.ok split

/-- The three envelopes are read back as what they were made of, and nothing else is read: an execution as its calls, a session's
nonce as its validator, lane and sequence, and a session's signature as its permission and what its validator signed. No
session can have a nonce of the owner. -/
theorem envelope_codecs (abi : FollowsAbi viem) (batch : FollowsBatchAbi viem) :
    (∀ calls data, encodeSafe7579Execution viem calls = .ok data ↔ decodeSafe7579Execution viem data = .ok calls) ∧
    (∀ calls, (∃ data, encodeSafe7579Execution viem calls = .ok data) ↔
      (1 ≤ calls.length ∧ calls.length ≤ maxExecutions ∧ ∀ call ∈ calls, call.target ≠ 0 ∧ Fits call) ∧
        (abiEncode (modeOf calls) (body calls)).length ≤ maxExecutionBytes) ∧
    (∀ validator lane sequence nonce, encodeSafe7579Nonce validator lane sequence = .ok nonce ↔
      ∃ key, safe7579NonceKey validator lane = .ok key ∧ decodeSafe7579Nonce nonce = .ok ⟨validator, lane, sequence, key⟩) ∧
    (∀ validator lane sequence lane' sequence' nonce, encodeSafe7579Nonce validator lane sequence = .ok nonce →
      encodeSafe7579OwnerNonce sequence' lane' ≠ .ok nonce) ∧
    ∀ permissionId signature envelope,
      encodeLegacyUseSignature permissionId signature = .ok envelope ↔
      decodeLegacyUseSignature envelope = .ok (permissionId, signature) := by
  refine ⟨fun _ _ => execution_round_trip abi batch, fun calls => ?_,
    fun _ _ _ _ => nonce_round_trip, ?_, fun _ _ _ => signature_round_trip⟩
  · simp only [encode_ok abi batch, callsChecked_ok]
    exact ⟨fun ⟨_, good, same, short⟩ => ⟨good, same ▸ short⟩, fun ⟨good, short⟩ => ⟨_, good, rfl, short⟩⟩
  · intro validator lane sequence lane' sequence' nonce session owner
    obtain ⟨key, _, decoded⟩ := nonce_round_trip.mp session
    cases decoded.symm.trans (owner_nonce_apart owner)

def word (bytes : Bytes) (place : Nat) : Nat := bigEndian ((bytes.drop place).take 32)

def readTuple (bytes : Bytes) : Safe7579Call :=
  ⟨BitVec.ofNat 160 (word bytes 0), word bytes 32, (bytes.drop 128).take (word bytes 96)⟩

def readTuples (list : Bytes) : Nat → Bytes → List Safe7579Call
  | 0, _ => []
  | count + 1, offsets => readTuple (list.drop (word offsets 0)) :: readTuples list count (offsets.drop 32)

/-- A reader of batches, and the library it makes. -/
def abiViem : Viem where
  decodeFunctionData := sampleViem.decodeFunctionData
  encodeFunctionData := abiEncode
  decodeExecutions bytes := some (readTuples (bytes.drop 64) (word bytes 32) (bytes.drop 64))
  encodeExecutions := abiExecutions

theorem word_at {front rest : Bytes} {value : Nat} (fits : value < 2 ^ 256) :
    word (front ++ (bytesOf 32 value ++ rest)) front.length = value := by
  rw [word, List.drop_left, List.take_left' (bytesOf_length _ _), bigEndian_bytesOf (Nat.lt_of_lt_of_le fits (by decide))]

theorem readTuple_abiTuple {call : Safe7579Call} (fit : Fits call) (rest : Bytes) : readTuple (abiTuple call ++ rest) = call := by
  obtain ⟨value, short⟩ := fit
  have few : call.callData.length < 2 ^ 256 := Nat.lt_of_le_of_lt short (by decide)
  generalize padding : List.replicate (roundedUp call.callData.length - call.callData.length) 0 ++ rest = after
  have whole : abiTuple call ++ rest = bytesOf 32 call.target.toNat ++ (bytesOf 32 call.value ++ (bytesOf 32 96 ++
      (bytesOf 32 call.callData.length ++ (call.callData ++ after)))) := by
    rw [← padding]
    simp only [abiTuple, append_assoc]
  have first := @word_at [] (bytesOf 32 call.value ++
    (bytesOf 32 96 ++ (bytesOf 32 call.callData.length ++ (call.callData ++ after))))
    call.target.toNat (Nat.lt_trans call.target.isLt (by decide))
  have second := @word_at (bytesOf 32 call.target.toNat) (bytesOf 32 96 ++
    (bytesOf 32 call.callData.length ++ (call.callData ++ after)))
    call.value value
  have fourth := @word_at (bytesOf 32 call.target.toNat ++ (bytesOf 32 call.value ++ bytesOf 32 96)) (call.callData ++ after)
    call.callData.length few
  have start : (abiTuple call ++ rest).drop 128 = call.callData ++ after := by
    rw [whole, ← append_assoc, ← append_assoc, ← append_assoc]
    exact drop_left' (by simp)
  simp only [append_assoc, length_append, bytesOf_length, List.nil_append, List.length_nil, ← whole] at first second fourth
  rw [readTuple, first, second, fourth, start, List.take_left, BitVec.ofNat_toNat, BitVec.setWidth_eq]

theorem readTuples_abi (fit : ∀ call ∈ calls, Fits call) {list front tail : Bytes}
    (whole : list = front ++ (calls.flatMap abiTuple ++ tail)) (small : list.length < 2 ^ 256) (offsets : Bytes) :
    readTuples list calls.length (abiOffsets front.length calls ++ offsets) = calls := by
  induction calls generalizing front with
  | nil => rfl
  | cons call calls ih =>
    obtain ⟨first, others⟩ := List.forall_mem_cons.mp fit
    have place : front.length < 2 ^ 256 := by
      refine Nat.lt_of_le_of_lt ?_ small
      rw [whole, length_append]
      exact Nat.le_add_right _ _
    have next := @ih others (front ++ abiTuple call) (by rw [whole, List.flatMap_cons, append_assoc, append_assoc])
    rw [length_append] at next
    have read := @word_at [] (abiOffsets (front.length + (abiTuple call).length) calls ++ offsets) front.length place
    rw [List.nil_append, List.length_nil] at read
    rw [length_cons, abiOffsets, append_assoc, readTuples, read, drop_left' (bytesOf_length _ _), next, whole, List.drop_left,
      List.flatMap_cons, append_assoc, readTuple_abiTuple first]

theorem abiViem_follows : FollowsAbi abiViem ∧ FollowsBatchAbi abiViem := by
  refine ⟨⟨fun _ _ _ _ => rfl, sampleViem_followsAbi.decodes⟩, ⟨fun _ _ _ => rfl, fun calls fit few => ?_⟩⟩
  have small := abiExecutions_short fit few
  have count : calls.length < 2 ^ 256 := Nat.lt_of_le_of_lt few (by decide)
  have read := @word_at (bytesOf 32 32) (abiOffsets (32 * calls.length) calls ++ calls.flatMap abiTuple) calls.length count
  rw [bytesOf_length] at read
  have list : (abiExecutions calls).drop 64 = abiOffsets (32 * calls.length) calls ++ calls.flatMap abiTuple := by
    rw [abiExecutions, ← append_assoc]
    exact drop_left' (by simp)
  have short : (abiOffsets (32 * calls.length) calls ++ calls.flatMap abiTuple).length < 2 ^ 256 := by
    refine Nat.lt_of_le_of_lt ?_ small
    rw [← list, List.length_drop]
    exact Nat.sub_le _ _
  have tuples := @readTuples_abi calls fit _ (abiOffsets (32 * calls.length) calls) [] (by rw [List.append_nil]) short
    (calls.flatMap abiTuple)
  rw [abiOffsets_length] at tuples
  change some (readTuples ((abiExecutions calls).drop 64) (word (abiExecutions calls) 32)
    ((abiExecutions calls).drop 64)) = some calls
  rw [list, abiExecutions, read, tuples]

theorem envelope_codecs_sample : decodeSafe7579Nonce (2 ^ 96 + 5) = .ok ⟨1, 0, 5, 2 ^ 32⟩ ∧
    (∃ data, encodeSafe7579Execution abiViem [⟨1, 7, []⟩, ⟨2, 0, [1]⟩] = .ok data ∧
      decodeSafe7579Execution abiViem data = .ok [⟨1, 7, []⟩, ⟨2, 0, [1]⟩]) ∧
    ∃ envelope, encodeLegacyUseSignature (bytesOf 32 3) [4, 5] = .ok envelope ∧
      decodeLegacyUseSignature envelope = .ok (bytesOf 32 3, [4, 5]) := by
  obtain ⟨executions, total, nonces, _, signatures⟩ := envelope_codecs abiViem_follows.1 abiViem_follows.2
  obtain ⟨key, keyed, decoded⟩ := (nonces 1 0 5 (2 ^ 96 + 5)).mp (by decide)
  cases keyed
  obtain ⟨data, encoded⟩ := (total [⟨1, 7, []⟩, ⟨2, 0, [1]⟩]).mpr ⟨⟨by decide, by decide, by simp [Fits, maxExecutionBytes]⟩,
    by decide +kernel⟩
  have signed : encodeLegacyUseSignature (bytesOf 32 3) [4, 5] = .ok ([0] ++ bytesOf 32 3 ++ [4, 5]) := by decide +kernel
  exact ⟨decoded, ⟨data, encoded, (executions _ _).mp encoded⟩, _, signed, (signatures _ _ _).mp signed⟩

end JBCenter.Envelopes
