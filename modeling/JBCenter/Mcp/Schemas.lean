import JBCenter.UserOperations.Semantics

/-! The schemas of numbers and addresses. A schema reads what the caller sent and returns what the service works with. -/
namespace JBCenter.Mcp
open Rest (isDigit isHexDigit isSafeInteger digitsValue CanonicalDigits)
open UserOperations.Semantics (Text lower isHexText)

/-- The issues a schema found. -/
inductive Invalid where
  | issues
  deriving DecidableEq

/-- What a caller sent for a number: an integer of JSON, a text, or anything else. -/
inductive Wire where
  | number (value : Int)
  | text (value : Text)
  | other

/-- Matches `/^(0|[1-9][0-9]*)$/`. -/
def isDecimal : Text → Bool
  | ['0'] => true
  | first :: rest => isDigit first && first != '0' && rest.all isDigit
  | [] => false

def decimalUint (value : Text) : Except Invalid Text := do
  refuse (!isDecimal value || 78 < value.length || 2 ^ 256 ≤ digitsValue value) .issues
  return value

def uintSchema : Wire → Except Invalid Text
  | .text value => decimalUint value
  | _ => .error .issues

def smallUintSchema : Wire → Except Invalid Text
  | .text value => decimalUint value
  | .number value => do
    refuse (!(isSafeInteger value && 0 ≤ value)) .issues
    decimalUint (Nat.toDigits 10 value.toNat)
  | .other => .error .issues

def uint (bits : Nat) (value : Wire) (max : Nat := 2 ^ bits - 1) : Except Invalid Text := do
  let text ← (if max < 2 ^ 48 then smallUintSchema else uintSchema) value
  refuse (max < digitsValue text) .issues
  return text

section Addresses

-- whether the hash of the digits raises the digit at a place
variable (raised : Text → Nat → Bool)

def checksumAddress (address : Text) : Text :=
  let digits := lower (address.drop 2)
  '0' :: 'x' :: digits.mapIdx (fun i c => if raised digits i then c.toUpper else c)

def isAddress (address : Text) : Bool :=
  isHexText 40 address && (lower address == address || checksumAddress raised address == address)

def addressSchema (value : Text) : Except Invalid Text := do
  refuse (!isAddress raised value) .issues
  return checksumAddress raised value

def zeroAddress : Text := '0' :: 'x' :: List.replicate 40 '0'

def nonzeroAddress (value : Text) : Except Invalid Text := do
  let address ← addressSchema raised value
  refuse (address == zeroAddress) .issues
  return address

end Addresses

variable {value max bits : Nat} {wire : Wire} {text : Text}

theorem isDecimal_canonical (decimal : isDecimal text = true) : CanonicalDigits text := by
  unfold isDecimal at decimal
  split at decimal
  · refine ⟨fun c member => ?_, nofun, fun rest same => (List.cons.inj same).2.symm⟩
    rw [List.mem_singleton.mp member]
    rfl
  · rename_i first rest _
    simp only [Bool.and_eq_true, bne_iff_ne, ne_eq, List.all_eq_true] at decimal
    obtain ⟨⟨digit, nonzero⟩, digits⟩ := decimal
    refine ⟨fun c member => ?_, nofun, fun other same => absurd (List.cons.inj same).1 nonzero⟩
    obtain rfl | member := List.mem_cons.mp member
    · exact digit
    · exact digits c member
  · cases decimal

theorem isDecimal_toDigits (n : Nat) : isDecimal (Nat.toDigits 10 n) = true := by
  obtain rfl | positive := Nat.eq_zero_or_pos n
  · rfl
  · cases digits : Nat.toDigits 10 n with
    | nil => exact absurd digits Nat.toDigits_ne_nil
    | cons first rest =>
      have all := Rest.toDigits_all n
      rw [digits, List.forall_mem_cons] at all
      have nonzero := Rest.toDigits_leading positive digits
      simp [isDecimal, nonzero, all.1, List.all_eq_true.mpr all.2]

theorem decimalUint_ok {other : Text} (accepted : decimalUint text = .ok other) :
    other = text ∧ Nat.toDigits 10 (digitsValue text) = text := by
  obtain ⟨typed, accepted⟩ := ok_refuse accepted
  cases accepted
  simp only [Bool.or_eq_false_iff, Bool.not_eq_eq_eq_not, Bool.not_false] at typed
  exact ⟨rfl, Rest.digitsValue_inj (isDecimal_canonical (isDecimal_toDigits _)) (isDecimal_canonical typed.1.1)
    (Rest.digitsValue_toDigits _)⟩

theorem smallUintSchema_ok (accepted : smallUintSchema wire = .ok text) : decimalUint text = .ok text := by
  cases wire with
  | text value =>
    obtain ⟨rfl, _⟩ := decimalUint_ok accepted
    exact accepted
  | number value =>
    obtain ⟨_, accepted⟩ := ok_refuse accepted
    obtain ⟨rfl, _⟩ := decimalUint_ok accepted
    exact accepted
  | other => cases accepted

theorem uintSchema_ok (accepted : uintSchema wire = .ok text) : decimalUint text = .ok text := by
  cases wire with
  | text value =>
    obtain ⟨rfl, _⟩ := decimalUint_ok accepted
    exact accepted
  | number | other => cases accepted

theorem uint_ok (accepted : uint bits wire max = .ok text) :
    uint bits (.text text) max = .ok text ∧ Nat.toDigits 10 (digitsValue text) = text ∧ digitsValue text ≤ max := by
  obtain ⟨read, decimal, accepted⟩ := ok_bind accepted
  obtain ⟨within, accepted⟩ := ok_refuse accepted
  cases accepted
  have canonical : decimalUint text = .ok text := by
    split at decimal
    · exact smallUintSchema_ok decimal
    · exact uintSchema_ok decimal
  refine ⟨bind_run ?_ (bind_run (refuse_ok.mpr within) rfl), (decimalUint_ok canonical).2,
    Nat.le_of_not_lt (of_decide_eq_false within)⟩
  split <;> exact canonical

theorem raised_digit {d : Nat} (small : d < 16) :
    (Nat.digitChar d).toUpper.toLower = Nat.digitChar d ∧ isHexDigit (Nat.digitChar d).toUpper = true ∧
      isHexDigit (Nat.digitChar d) = true := by
  interval_cases d <;> decide

variable {raised : Text → Nat → Bool}

def raiseDigits (raise : Nat → Bool) (digits : Text) : Text :=
  digits.mapIdx (fun i c => if raise i then c.toUpper else c)

theorem lower_raiseDigits {raise : Nat → Bool} {digits : Text} (numeral : IsNumeral 16 digits) :
    lower (raiseDigits raise digits) = digits ∧ (raiseDigits raise digits).all isHexDigit = true := by
  constructor
  · refine List.ext_getElem (by simp [lower, raiseDigits]) (fun i inside _ => ?_)
    obtain ⟨d, small, read⟩ := numeral _ (List.getElem_mem (by simpa [lower, raiseDigits] using inside))
    obtain ⟨lowered, _, _⟩ := raised_digit small
    simp only [lower, raiseDigits, List.getElem_map, List.getElem_mapIdx, read]
    split
    · exact lowered
    · exact (Rest.digitChar_lowerHex small).2
  · rw [List.all_eq_true]
    intro c member
    obtain ⟨i, inside, rfl⟩ := List.mem_mapIdx.mp member
    obtain ⟨d, small, read⟩ := numeral _ (List.getElem_mem inside)
    obtain ⟨_, upper, plain⟩ := raised_digit small
    rw [read]
    split
    · exact upper
    · exact plain

theorem isHexText_digits {length : Nat} (hexadecimal : isHexText length text = true) :
    ∃ digits, text = '0' :: 'x' :: digits ∧ digits.length = length ∧ digits.all isHexDigit = true := by
  unfold isHexText at hexadecimal
  split at hexadecimal
  · rw [Bool.and_eq_true, beq_iff_eq] at hexadecimal
    exact ⟨_, rfl, hexadecimal⟩
  · cases hexadecimal

theorem addressSchema_ok {address : Text} (accepted : addressSchema raised text = .ok address) :
    addressSchema raised address = .ok address := by
  obtain ⟨typed, accepted⟩ := ok_refuse accepted
  cases accepted
  rw [Bool.not_eq_eq_eq_not, Bool.not_false, isAddress, Bool.and_eq_true] at typed
  obtain ⟨rest, rfl, length, digits⟩ := isHexText_digits typed.1
  have numeral : IsNumeral 16 (lower rest) := Rest.lower_numeral digits
  obtain ⟨lowered, typed⟩ := @lower_raiseDigits (raised (lower rest)) _ numeral
  have written : checksumAddress raised ('0' :: 'x' :: rest) = '0' :: 'x' :: raiseDigits (raised (lower rest)) (lower rest) := rfl
  have again : checksumAddress raised ('0' :: 'x' :: raiseDigits (raised (lower rest)) (lower rest)) =
      '0' :: 'x' :: raiseDigits (raised (lower rest)) (lower rest) := by
    change '0' :: 'x' :: raiseDigits (raised (lower (raiseDigits _ _))) (lower (raiseDigits _ _)) = _
    rw [lowered]
  rw [written]
  refine bind_run (refuse_ok.mpr ?_) (congrArg Except.ok again)
  have size : (raiseDigits (raised (lower rest)) (lower rest)).length = 40 := by
    rw [raiseDigits, List.length_mapIdx, lower, List.length_map, length]
  rw [isAddress, isHexText, size, typed, again, beq_self_eq_true, beq_self_eq_true, Bool.or_true]
  rfl

theorem nonzeroAddress_ok {address : Text} (accepted : nonzeroAddress raised text = .ok address) :
    nonzeroAddress raised address = .ok address := by
  obtain ⟨read, checked, accepted⟩ := ok_bind accepted
  obtain ⟨nonzero, accepted⟩ := ok_refuse accepted
  cases accepted
  exact bind_run (addressSchema_ok checked) (bind_run (refuse_ok.mpr nonzero) rfl)

end JBCenter.Mcp
