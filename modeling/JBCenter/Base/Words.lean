import Mathlib.Data.Nat.Bitwise
import Mathlib.Data.List.Induction

/-! Unsigned words with checked arithmetic, and the bytes they are written in, most significant
byte first. -/
namespace JBCenter

/-- Why a checked operation stops. -/
inductive Panic where
  | overflow
  | divisionByZero
  | outOfBounds
  deriving DecidableEq

section Checked
variable {w : Nat}

def checkedAdd (x y : BitVec w) : Except Panic (BitVec w) :=
  if x.toNat + y.toNat < 2 ^ w then .ok (x + y) else .error .overflow

def checkedSub (x y : BitVec w) : Except Panic (BitVec w) :=
  if y.toNat ≤ x.toNat then .ok (x - y) else .error .overflow

def checkedMul (x y : BitVec w) : Except Panic (BitVec w) :=
  if x.toNat * y.toNat < 2 ^ w then .ok (x * y) else .error .overflow

def checkedDiv (x y : BitVec w) : Except Panic (BitVec w) :=
  if y.toNat = 0 then .error .divisionByZero else .ok (x / y)

variable {x y : BitVec w}

theorem checkedAdd_fits (fits : x.toNat + y.toNat < 2 ^ w) :
    ∃ z, checkedAdd x y = .ok z ∧ z.toNat = x.toNat + y.toNat := by
  refine ⟨x + y, if_pos fits, ?_⟩
  rw [BitVec.toNat_add, Nat.mod_eq_of_lt fits]

theorem checkedSub_fits (fits : y.toNat ≤ x.toNat) :
    ∃ z, checkedSub x y = .ok z ∧ z.toNat = x.toNat - y.toNat :=
  ⟨x - y, if_pos fits, BitVec.toNat_sub_of_le (BitVec.le_def.mpr fits)⟩

theorem checkedMul_fits (fits : x.toNat * y.toNat < 2 ^ w) :
    ∃ z, checkedMul x y = .ok z ∧ z.toNat = x.toNat * y.toNat := by
  refine ⟨x * y, if_pos fits, ?_⟩
  rw [BitVec.toNat_mul, Nat.mod_eq_of_lt fits]

theorem checkedDiv_fits (divides : y.toNat ≠ 0) :
    ∃ z, checkedDiv x y = .ok z ∧ z.toNat = x.toNat / y.toNat :=
  ⟨x / y, if_neg divides, BitVec.toNat_udiv⟩

end Checked

/-- Clearing the five low bits rounds down to a multiple of 32. -/
theorem toNat_and_not_31 {w : Nat} (x : BitVec w) :
    (x &&& ~~~(31#w)).toNat = x.toNat / 32 * 32 := by
  have shifts : x &&& ~~~(31#w) = x >>> 5 <<< 5 := by
    apply BitVec.eq_of_getLsbD_eq
    intro i small
    have low : (31#w).getLsbD i = decide (i < 5) := by
      rw [BitVec.getLsbD_ofNat, show 31 = 2 ^ 5 - 1 from rfl, Nat.testBit_two_pow_sub_one]
      simp [small]
    simp only [BitVec.getLsbD_and, BitVec.getLsbD_not, low, BitVec.getLsbD_shiftLeft, BitVec.getLsbD_ushiftRight, small,
      decide_true, Bool.true_and]
    by_cases below : i < 5
    · simp [below]
    · simp [below, Nat.add_sub_cancel' (Nat.not_lt.mp below)]
  have bound : x.toNat / 32 * 32 < 2 ^ w := Nat.lt_of_le_of_lt (Nat.div_mul_le_self _ _) x.isLt
  rw [shifts, BitVec.toNat_shiftLeft, BitVec.toNat_ushiftRight, Nat.shiftRight_eq_div_pow, Nat.shiftLeft_eq]
  exact Nat.mod_eq_of_lt bound

/-- The number some bytes write. -/
def bigEndian (bytes : List UInt8) : Nat := bytes.foldl (fun value byte => value * 256 + byte.toNat) 0

/-- The bytes that write a number, at a fixed width. -/
def bytesOf : Nat → Nat → List UInt8
  | 0, _ => []
  | width + 1, value => bytesOf width (value / 256) ++ [UInt8.ofNat (value % 256)]

@[simp] theorem bigEndian_nil : bigEndian [] = 0 := rfl

theorem bigEndian_append (bytes : List UInt8) (last : UInt8) :
    bigEndian (bytes ++ [last]) = bigEndian bytes * 256 + last.toNat := by
  simp [bigEndian, List.foldl_append]

theorem bigEndian_lt (bytes : List UInt8) : bigEndian bytes < 256 ^ bytes.length := by
  induction bytes using List.reverseRecOn with
  | nil => decide
  | append_singleton bytes last ih =>
    have small := last.toNat_lt
    rw [bigEndian_append, List.length_append, List.length_singleton, Nat.pow_succ]
    omega

@[simp] theorem bytesOf_length (width value : Nat) : (bytesOf width value).length = width := by
  induction width generalizing value with
  | zero => rfl
  | succ width ih => rw [bytesOf, List.length_append, ih, List.length_singleton]

theorem bigEndian_bytesOf {width value : Nat} (fits : value < 256 ^ width) :
    bigEndian (bytesOf width value) = value := by
  induction width generalizing value with
  | zero =>
    rw [Nat.pow_zero, Nat.lt_one_iff] at fits
    rw [fits]
    rfl
  | succ width ih =>
    have higher : value / 256 < 256 ^ width := by
      rw [Nat.pow_succ] at fits
      omega
    have low : (UInt8.ofNat (value % 256)).toNat = value % 256 := by
      rw [UInt8.toNat_ofNat']
      omega
    rw [bytesOf, bigEndian_append, ih higher, low]
    omega

theorem bytesOf_bigEndian (bytes : List UInt8) : bytesOf bytes.length (bigEndian bytes) = bytes := by
  induction bytes using List.reverseRecOn with
  | nil => rfl
  | append_singleton bytes last ih =>
    have small := last.toNat_lt
    have higher : (bigEndian bytes * 256 + last.toNat) / 256 = bigEndian bytes := by omega
    have low : (bigEndian bytes * 256 + last.toNat) % 256 = last.toNat := by omega
    rw [List.length_append, List.length_singleton, bytesOf, bigEndian_append, higher, low, ih, UInt8.ofNat_toNat]

theorem bytesOf_of_length {bytes : List UInt8} {width : Nat} (length : bytes.length = width) :
    bytesOf width (bigEndian bytes) = bytes := by
  rw [← length]
  exact bytesOf_bigEndian bytes

/-- Two writings of one width that write the same number are the same bytes. -/
theorem bigEndian_inj {first second : List UInt8} (width : first.length = second.length)
    (same : bigEndian first = bigEndian second) : first = second := by
  rw [← bytesOf_bigEndian first, ← bytesOf_bigEndian second, width, same]

/-- The part of some bytes between two places, where it exists. -/
def slice (bytes : List UInt8) (start stop : Nat) : Except Panic (List UInt8) :=
  if start ≤ stop ∧ stop ≤ bytes.length then .ok ((bytes.take stop).drop start) else .error .outOfBounds

def byteAt (bytes : List UInt8) (place : Nat) : Except Panic UInt8 :=
  match bytes[place]? with
  | some byte => .ok byte
  | none => .error .outOfBounds

variable {bytes : List UInt8}

theorem slice_within {start stop : Nat} (ordered : start ≤ stop) (within : stop ≤ bytes.length) :
    slice bytes start stop = .ok ((bytes.take stop).drop start) := if_pos ⟨ordered, within⟩

theorem slice_length {start stop : Nat} (within : stop ≤ bytes.length) :
    ((bytes.take stop).drop start).length = stop - start := by
  rw [List.length_drop, List.length_take, Nat.min_eq_left within]

theorem byteAt_within {place : Nat} (within : place < bytes.length) : byteAt bytes place = .ok bytes[place] := by
  unfold byteAt
  rw [List.getElem?_eq_getElem within]

end JBCenter
