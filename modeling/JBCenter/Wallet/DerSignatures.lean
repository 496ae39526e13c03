import JBCenter.Base.Fallible
import JBCenter.Base.Words
import Mathlib.Data.Nat.Log
import Mathlib.Tactic.Ring

/-! The signatures of passkeys, read from their strict encoding. -/
namespace JBCenter.Wallet.Webauthn

structure WalletAssertionError where
  message : String
  deriving DecidableEq

def p256Order : Nat := 0xffffffff00000000ffffffffffffffffbce6faada7179e84f3b9cac2fc632551

def invalidSignature : WalletAssertionError := ⟨"Invalid wallet signature encoding"⟩

/-- Whether the highest bit of a byte is set; a byte that is missing has none. -/
def negative (byte : Option UInt8) : Bool := (byte.getD 0).toNat &&& 0x80 != 0

/-- Whether the first byte of an integer sets its sign, or pads it where its second does not. -/
def malformed (bytes : List UInt8) : Bool :=
  negative bytes[0]? || (1 < bytes.length && bytes[0]? == some 0 && !negative bytes[1]?)

/-- The integer at an offset, and the offset behind it. -/
def readInteger (signature : List UInt8) (offset : Nat) : Except WalletAssertionError (Nat × Nat) := do
  refuse (signature[offset]? != some 0x02) invalidSignature
  let length := (signature[offset + 1]?.getD 0).toNat
  refuse (length < 1 || 33 < length || signature.length < offset + 2 + length) invalidSignature
  let bytes := (signature.drop (offset + 2)).take length
  refuse (malformed bytes) invalidSignature
  let value := bigEndian bytes
  refuse (value == 0 || p256Order ≤ value) invalidSignature
  return (value, offset + 2 + length)

def readDerSignature (signature : List UInt8) : Except WalletAssertionError (Nat × Nat) := do
  refuse (signature[0]? != some 0x30 ||
    (signature[1]?.map fun length => length.toNat + 2) != some signature.length) invalidSignature
  let (r, offset) ← readInteger signature 2
  let (s, offset) ← readInteger signature offset
  refuse (offset != signature.length) invalidSignature
  return (r, s)

/-- The fewest bytes that hold a number below its sign bit. -/
def derWidth (value : Nat) : Nat := (Nat.log 2 value + 1) / 8 + 1

def derInteger (value : Nat) : List UInt8 := 0x02 :: UInt8.ofNat (derWidth value) :: bytesOf (derWidth value) value

def derSequence (contents : List UInt8) : List UInt8 := 0x30 :: UInt8.ofNat contents.length :: contents

/-- The minimal encoding of two positive integers, whose contents are short enough for one byte of length. -/
def derSignature (r s : Nat) : List UInt8 := derSequence (derInteger r ++ derInteger s)

section Minimality

variable {signature bytes : List UInt8} {value : Nat}

theorem bigEndian_cons (first : UInt8) (rest : List UInt8) :
    bigEndian (first :: rest) = first.toNat * 256 ^ rest.length + bigEndian rest := by
  induction rest using List.reverseRecOn with
  | nil => simp [bigEndian]
  | append_singleton rest last ih =>
    rw [← List.cons_append, bigEndian_append, ih, bigEndian_append, List.length_append, List.length_singleton, Nat.pow_succ]
    ring

theorem negative_iff (byte : UInt8) : negative (some byte) = true ↔ 128 ≤ byte.toNat := by
  have bits : ∀ n < 256, (n &&& 0x80 != 0) = decide (128 ≤ n) := by decide +kernel
  rw [negative, Option.getD_some, bits _ byte.toNat_lt, decide_eq_true_eq]

/-- A width is the least that holds a number below its sign bit. -/
theorem derWidth_iff {width : Nat} :
    derWidth value = width + 1 ↔ value < 128 * 256 ^ width ∧ (width = 0 ∨ 128 * 256 ^ (width - 1) ≤ value) := by
  have powers : ∀ n, 128 * 256 ^ n = 2 ^ (8 * n + 7) := fun n => by
    rw [Nat.pow_add, Nat.pow_mul]
    ring
  rw [derWidth, powers, powers]
  obtain rfl | positive := Nat.eq_zero_or_pos value
  · have none : ∀ n, 0 < 2 ^ n := fun n => Nat.two_pow_pos n
    rw [Nat.log_zero_right]
    have later := none (8 * (width - 1) + 7)
    have first := none (8 * width + 7)
    omega
  · have nonzero : value ≠ 0 := Nat.ne_of_gt positive
    rw [← Nat.log_lt_iff_lt_pow (by decide) nonzero, ← Nat.le_log_iff_pow_le (by decide) nonzero]
    omega

/-- The leading part of a number decides how it compares with a multiple of its unit. -/
theorem lead_lt {lead low unit bound : Nat} (small : low < unit) : lead * unit + low < bound * unit ↔ lead < bound := by
  constructor
  · intro below
    by_contra reached
    have product : bound * unit ≤ lead * unit := Nat.mul_le_mul_right unit (Nat.not_lt.mp reached)
    omega
  · intro less
    have product : (lead + 1) * unit ≤ bound * unit := Nat.mul_le_mul_right unit less
    rw [Nat.succ_mul] at product
    omega

/-- Bytes that are not malformed are as many as their number needs. -/
theorem malformed_iff (nonempty : bytes ≠ []) : malformed bytes = false ↔ derWidth (bigEndian bytes) = bytes.length := by
  obtain ⟨first, rest, rfl⟩ := List.exists_cons_of_ne_nil nonempty
  rw [bigEndian_cons, List.length_cons, derWidth_iff, lead_lt (bigEndian_lt rest), malformed, Bool.or_eq_false_iff]
  have signed : negative (first :: rest)[0]? = false ↔ first.toNat < 128 := by
    rw [← Bool.not_eq_true, ← Nat.not_le, ← negative_iff]
    rfl
  rw [signed]
  refine and_congr_right (fun _ => ?_)
  cases rest with
  | nil => simp
  | cons second rest =>
    have lead : first.toNat * 256 ^ (second :: rest).length + bigEndian (second :: rest) =
        (first.toNat * 256 + second.toNat) * 256 ^ rest.length + bigEndian rest := by
      rw [bigEndian_cons, List.length_cons]
      ring
    have zero : first = 0 ↔ first.toNat = 0 := by rw [← UInt8.toNat_inj]; rfl
    have count : (second :: rest).length - 1 = rest.length := rfl
    rw [lead, count, ← Nat.not_lt, lead_lt (bigEndian_lt rest)]
    simp only [List.length_cons, List.getElem?_cons_zero, List.getElem?_cons_succ, Bool.and_eq_false_iff, decide_eq_false_iff_not,
      Option.some_beq_some, beq_eq_false_iff_ne, ne_eq, zero, Bool.not_eq_false', negative_iff]
    have bounded := second.toNat_lt
    omega

end Minimality

section Exactness

variable {signature : List UInt8} {offset next value r s : Nat}

/-- The integers that a signature may have. -/
def InOrder (value : Nat) : Prop := 0 < value ∧ value < p256Order

theorem derInteger_length (value : Nat) : (derInteger value).length = derWidth value + 2 := by
  rw [derInteger, List.length_cons, List.length_cons, bytesOf_length]

/-- A number that is in order takes at most 33 bytes. -/
theorem derWidth_le (ordered : InOrder value) : derWidth value ≤ 33 := by
  have small : Nat.log 2 value < 256 :=
    (Nat.log_lt_iff_lt_pow (by decide) (Nat.ne_of_gt ordered.1)).mpr (ordered.2.trans (by decide +kernel))
  rw [derWidth]
  omega

theorem bytesOf_derWidth (value : Nat) : bigEndian (bytesOf (derWidth value) value) = value := by
  have fits : value < 128 * 256 ^ (derWidth value - 1) := (derWidth_iff.mp (Nat.sub_add_cancel (Nat.le_add_left 1 _)).symm).1
  refine bigEndian_bytesOf (fits.trans_le ?_)
  have width : derWidth value = derWidth value - 1 + 1 := (Nat.sub_add_cancel (Nat.le_add_left 1 _)).symm
  conv_rhs => rw [width, Nat.pow_succ]
  omega

theorem inOrder_iff {error : WalletAssertionError} :
    refuse (value == 0 || decide (p256Order ≤ value)) error = .ok () ↔ InOrder value := by
  rw [refuse_ok, Bool.or_eq_false_iff, beq_eq_false_iff_ne, decide_eq_false_iff_not, Nat.not_le, InOrder, Nat.pos_iff_ne_zero]

/-- An integer is read exactly where its encoding stands. -/
theorem readInteger_ok : readInteger signature offset = .ok (value, next) ↔
    InOrder value ∧ next = offset + (derInteger value).length ∧ derInteger value <+: signature.drop offset := by
  have places : ∀ k, signature[offset + k]? = (signature.drop offset)[k]? := fun k => List.getElem?_drop.symm
  have size : (signature.drop offset).length = signature.length - offset := List.length_drop
  unfold readInteger
  rw [← List.drop_drop, places 1, show signature[offset]? = _ from places 0]
  generalize signature.drop offset = rest at size
  constructor
  · intro accepted
    obtain ⟨tagged, accepted⟩ := ok_refuse accepted
    obtain ⟨bounded, accepted⟩ := ok_refuse accepted
    obtain ⟨minimal, accepted⟩ := ok_refuse accepted
    obtain ⟨_, ordered, accepted⟩ := ok_bind accepted
    obtain ⟨rfl, rfl⟩ := Prod.mk.inj (Except.ok.inj accepted)
    have ordered := inOrder_iff.mp ordered
    match rest, tagged, bounded with
    | tag :: width :: tail, tagged, bounded =>
      obtain rfl : tag = 0x02 := Option.some.inj (bne_eq_false_iff_eq.mp tagged)
      change (decide (width.toNat < 1) || decide (33 < width.toNat) || decide (signature.length < offset + 2 + width.toNat)) =
        false at bounded
      change malformed (tail.take width.toNat) = false at minimal
      change InOrder (bigEndian (tail.take width.toNat)) at ordered
      change InOrder (bigEndian (tail.take width.toNat)) ∧
        offset + 2 + width.toNat = offset + (derInteger (bigEndian (tail.take width.toNat))).length ∧
        derInteger (bigEndian (tail.take width.toNat)) <+: 0x02 :: width :: tail
      simp only [Bool.or_eq_false_iff, decide_eq_false_iff_not, Nat.not_lt] at bounded
      simp only [List.length_cons] at size
      have length : (tail.take width.toNat).length = width.toNat := List.length_take_of_le (by omega)
      have nonempty : tail.take width.toNat ≠ [] := by
        intro empty
        rw [empty, List.length_nil] at length
        omega
      have least : derWidth (bigEndian (tail.take width.toNat)) = width.toNat :=
        ((malformed_iff nonempty).mp minimal).trans length
      refine ⟨ordered, by rw [derInteger_length, least]; omega, ?_⟩
      rw [derInteger, least, UInt8.ofNat_toNat, bytesOf_of_length length]
      exact (List.prefix_cons_inj _).mpr ((List.prefix_cons_inj _).mpr (List.take_prefix _ _))
  · rintro ⟨ordered, rfl, tail, rfl⟩
    have few := derWidth_le ordered
    have width : (UInt8.ofNat (derWidth value)).toNat = derWidth value := by
      rw [UInt8.toNat_ofNat']
      exact Nat.mod_eq_of_lt (by omega)
    have length : (bytesOf (derWidth value) value).length = derWidth value := bytesOf_length _ _
    have content : ((derInteger value ++ tail).drop 2).take (UInt8.ofNat (derWidth value)).toNat =
      bytesOf (derWidth value) value := by
      rw [width]
      exact List.take_left' length
    have nonempty : bytesOf (derWidth value) value ≠ [] := by
      intro empty
      rw [empty, List.length_nil, derWidth] at length
      omega
    have second : ((derInteger value ++ tail)[1]?.getD 0) = UInt8.ofNat (derWidth value) := rfl
    rw [List.length_append, derInteger_length] at size
    rw [second]
    dsimp only
    rw [content, bytesOf_derWidth, derInteger_length]
    refine bind_run rfl (bind_run (refuse_ok.mpr ?_) (bind_run (refuse_ok.mpr ?_)
      (bind_run (inOrder_iff.mpr ordered) ?_)))
    · simp only [width, Bool.or_eq_false_iff, decide_eq_false_iff_not]
      rw [derWidth] at *
      omega
    · rw [malformed_iff nonempty, bytesOf_derWidth, length]
    · rw [width]
      congr 2
      omega

/-- What is accepted is the encoding of its two integers, and nothing else is. -/
theorem readDerSignature_ok : readDerSignature signature = .ok (r, s) ↔ InOrder r ∧ InOrder s ∧ signature = derSignature r s := by
  unfold readDerSignature
  constructor
  · intro accepted
    obtain ⟨header, accepted⟩ := ok_refuse accepted
    obtain ⟨⟨first, middle⟩, readFirst, accepted⟩ := ok_bind accepted
    obtain ⟨⟨second, last⟩, readSecond, accepted⟩ := ok_bind accepted
    obtain ⟨ended, accepted⟩ := ok_refuse accepted
    cases accepted
    obtain ⟨firstOrdered, rfl, rest, firstStands⟩ := readInteger_ok.mp readFirst
    obtain ⟨secondOrdered, rfl, tail, secondStands⟩ := readInteger_ok.mp readSecond
    have ended := bne_eq_false_iff_eq.mp ended
    match signature, header with
    | tag :: width :: contents, header =>
      change derInteger r ++ rest = contents at firstStands
      subst firstStands
      have behind : (tag :: width :: (derInteger r ++ rest)).drop (2 + (derInteger r).length) = rest := by
        rw [← List.drop_drop]
        exact List.drop_left
      rw [behind] at secondStands
      subst secondStands
      rw [Bool.or_eq_false_iff, bne_eq_false_iff_eq, bne_eq_false_iff_eq] at header
      simp only [List.getElem?_cons_zero, List.getElem?_cons_succ, Option.map_some, Option.some.injEq, List.length_cons,
        List.length_append] at header ended
      have empty : tail = [] := List.eq_nil_of_length_eq_zero (by omega)
      subst empty
      have size : width = UInt8.ofNat (derInteger r ++ derInteger s).length := by
        rw [List.length_append, ← UInt8.ofNat_toNat (x := width)]
        congr 1
        simp only [List.length_nil] at header
        omega
      refine ⟨firstOrdered, secondOrdered, ?_⟩
      rw [header.1, size, List.append_nil]
      rfl
  · rintro ⟨firstOrdered, secondOrdered, rfl⟩
    have firstFew := derWidth_le firstOrdered
    have secondFew := derWidth_le secondOrdered
    have length : (derInteger r ++ derInteger s).length = derWidth r + 2 + (derWidth s + 2) := by
      rw [List.length_append, derInteger_length, derInteger_length]
    have whole : (derSignature r s).length = 2 + (derInteger r).length + (derInteger s).length := by
      rw [derSignature, derSequence, List.length_cons, List.length_cons, length, derInteger_length, derInteger_length]
      omega
    have width : (UInt8.ofNat (derInteger r ++ derInteger s).length).toNat = (derInteger r ++ derInteger s).length := by
      rw [UInt8.toNat_ofNat']
      exact Nat.mod_eq_of_lt (by omega)
    have readFirst : readInteger (derSignature r s) 2 = .ok (r, 2 + (derInteger r).length) :=
      readInteger_ok.mpr ⟨firstOrdered, rfl, List.prefix_append _ _⟩
    have readSecond : readInteger (derSignature r s) (2 + (derInteger r).length) =
        .ok (s, 2 + (derInteger r).length + (derInteger s).length) := by
      refine readInteger_ok.mpr ⟨secondOrdered, rfl, ?_⟩
      have behind : (derSignature r s).drop (2 + (derInteger r).length) = derInteger s := by
        rw [← List.drop_drop]
        exact List.drop_left
      exact ⟨[], (List.append_nil _).trans behind.symm⟩
    refine bind_run (refuse_ok.mpr ?_) (bind_run readFirst (bind_run readSecond
      (bind_run (refuse_ok.mpr ?_) rfl)))
    · rw [Bool.or_eq_false_iff, bne_eq_false_iff_eq, bne_eq_false_iff_eq]
      refine ⟨rfl, ?_⟩
      change some ((UInt8.ofNat (derInteger r ++ derInteger s).length).toNat + 2) = some _
      rw [width, whole, List.length_append, Nat.add_comm _ 2, Nat.add_assoc]
    · rw [whole]
      exact bne_self_eq_false _

/-- Exactly the minimal encodings of two integers in order are accepted; what is read is encoded as the bytes again, so
that no two signatures are read alike. -/
theorem readDerSignature_exact (signature : List UInt8) :
    (∀ r s, readDerSignature signature = .ok (r, s) ↔ InOrder r ∧ InOrder s ∧ signature = derSignature r s) ∧
      (∀ r s, readDerSignature signature = .ok (r, s) → derSignature r s = signature) ∧
      ∀ other result, readDerSignature signature = .ok result → readDerSignature other = .ok result → other = signature := by
  refine ⟨fun r s => readDerSignature_ok, fun r s accepted => (readDerSignature_ok.mp accepted).2.2.symm, ?_⟩
  rintro other ⟨r, s⟩ accepted again
  exact (readDerSignature_ok.mp again).2.2.trans (readDerSignature_ok.mp accepted).2.2.symm

/-- The largest signature, of two integers whose highest bits are set, and one whose second integer is padded. -/
example : (readDerSignature (derSignature (p256Order - 1) (p256Order - 2))).toOption = some (p256Order - 1, p256Order - 2) ∧
    (derSignature (p256Order - 1) (p256Order - 2)).length = 72 ∧
    readDerSignature [0x30, 7, 0x02, 1, 5, 0x02, 2, 0, 6] = .error invalidSignature := by decide +kernel

end Exactness

end JBCenter.Wallet.Webauthn
