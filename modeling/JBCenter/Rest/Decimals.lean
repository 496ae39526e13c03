import JBCenter.Rest.Core
import Mathlib.Data.List.Induction

/-! A number has one canonical decimal text. -/
namespace JBCenter.Rest

def digitsValue (digits : List Char) : Nat := digits.foldl (fun value c => 10 * value + (c.toNat - '0'.toNat)) 0

theorem digitsValue_snoc (digits : List Char) (c : Char) :
    digitsValue (digits ++ [c]) = 10 * digitsValue digits + (c.toNat - '0'.toNat) := by
  simp [digitsValue]

theorem isDigit_bounds {c : Char} (digit : isDigit c = true) : 48 ≤ c.toNat ∧ c.toNat ≤ 57 := by
  simpa [isDigit, inRange] using digit

theorem char_eq_of_toNat {a b : Char} (same : a.toNat = b.toNat) : a = b :=
  Char.ext (UInt32.toNat_inj.mp same)

theorem foldl_positive (digits : List Char) {value : Nat} (positive : 0 < value) :
    0 < digits.foldl (fun value c => 10 * value + (c.toNat - '0'.toNat)) value := by
  induction digits generalizing value with
  | nil => exact positive
  | cons c rest ih =>
    refine ih ?_
    beta_reduce
    omega

theorem digitsValue_positive {first : Char} {rest : List Char} (digit : isDigit first = true) (nonzero : first ≠ '0') :
    0 < digitsValue (first :: rest) := by
  have bounds := isDigit_bounds digit
  have zero : '0'.toNat = 48 := rfl
  have apart : first.toNat ≠ 48 := fun same => nonzero (char_eq_of_toNat same)
  refine foldl_positive rest ?_
  beta_reduce
  omega

/-- Digits without a leading zero, unless they are the one digit zero. -/
structure CanonicalDigits (digits : List Char) : Prop where
  all : ∀ c ∈ digits, isDigit c = true
  nonempty : digits ≠ []
  leading : ∀ rest, digits = '0' :: rest → rest = []

theorem isUint256_canonical {text : String} (canonical : isUint256 text = true) : CanonicalDigits text.toList := by
  unfold isUint256 at canonical
  rw [Bool.and_eq_true] at canonical
  obtain ⟨shape, _⟩ := canonical
  split at shape
  · rename_i zero
    rw [zero]
    refine ⟨fun c member => ?_, nofun, fun rest same => (List.cons.inj same).2.symm⟩
    rw [List.mem_singleton.mp member]
    rfl
  · rename_i first rest _ text
    rw [text]
    simp only [Bool.and_eq_true, bne_iff_ne, ne_eq, List.all_eq_true] at shape
    obtain ⟨⟨⟨digit, nonzero⟩, _⟩, digits⟩ := shape
    refine ⟨fun c member => ?_, nofun, fun other same => absurd (List.cons.inj same).1 nonzero⟩
    obtain rfl | member := List.mem_cons.mp member
    · exact digit
    · exact digits c member
  · cases shape

/-- What comes before the last digit is canonical too, unless there is nothing. -/
theorem CanonicalDigits.init {digits : List Char} {c : Char} (canonical : CanonicalDigits (digits ++ [c])) :
    digits = [] ∨ (CanonicalDigits digits ∧ 0 < digitsValue digits) := by
  cases digits with
  | nil => exact Or.inl rfl
  | cons first rest =>
    have nonzero : first ≠ '0' := by
      rintro rfl
      have empty := canonical.leading (rest ++ [c]) rfl
      simp at empty
    refine Or.inr ⟨⟨fun d member => canonical.all d (List.mem_append_left _ member), nofun, fun other same => ?_⟩, ?_⟩
    · exact absurd (List.cons.inj same).1 nonzero
    · exact digitsValue_positive (canonical.all first (List.mem_append_left _ List.mem_cons_self)) nonzero

theorem digitsValue_inj {a b : List Char} (left : CanonicalDigits a) (right : CanonicalDigits b)
    (same : digitsValue a = digitsValue b) : a = b := by
  induction a using List.reverseRecOn generalizing b with
  | nil => exact absurd rfl left.nonempty
  | append_singleton digits c ih =>
    obtain rfl | ⟨others, d, rfl⟩ := List.eq_nil_or_concat' b
    · exact absurd rfl right.nonempty
    · rw [digitsValue_snoc, digitsValue_snoc] at same
      have bounds := isDigit_bounds (left.all c (by simp))
      have bounds' := isDigit_bounds (right.all d (by simp))
      have zero : '0'.toNat = 48 := rfl
      have last : c = d := char_eq_of_toNat (by omega)
      have rest : digitsValue digits = digitsValue others := by omega
      subst last
      obtain rfl | ⟨canonical, positive⟩ := left.init
      · obtain rfl | ⟨_, positive⟩ := right.init
        · rfl
        · rw [← rest] at positive
          cases positive
      · obtain rfl | ⟨canonical', _⟩ := right.init
        · rw [rest] at positive
          cases positive
        · rw [ih canonical canonical' rest]

theorem decimalValue_inj {a b : String} (left : isUint256 a = true) (right : isUint256 b = true)
    (same : decimalValue a = decimalValue b) : a = b :=
  String.toList_inj.mp (digitsValue_inj (isUint256_canonical left) (isUint256_canonical right) same)

theorem toDigits_all (n : Nat) : ∀ c ∈ Nat.toDigits 10 n, isDigit c = true := by
  intro c member
  have digit := Nat.isDigit_of_mem_toDigits (by decide) (by decide) member
  rw [Char.isDigit, Bool.and_eq_true, decide_eq_true_eq, decide_eq_true_eq] at digit
  simp only [isDigit, inRange, Bool.and_eq_true, decide_eq_true_eq]
  exact ⟨UInt32.le_iff_toNat_le.mp digit.1, UInt32.le_iff_toNat_le.mp digit.2⟩

theorem digitsValue_toDigits (n : Nat) : digitsValue (Nat.toDigits 10 n) = n := by
  have value := @Nat.ofDigitChars_ten_toDigits n
  rw [Nat.ofDigitChars_eq_foldl] at value
  exact value

theorem digitChar_nonzero {d : Nat} (positive : 0 < d) (small : d < 10) : d.digitChar ≠ '0' := by
  have cases : ∀ d, d < 10 → 0 < d → d.digitChar ≠ '0' := by decide
  exact cases d small positive

theorem toDigits_leading {n : Nat} (positive : 0 < n) {first : Char} {rest : List Char}
    (digits : Nat.toDigits 10 n = first :: rest) : first ≠ '0' := by
  induction n using Nat.strongRecOn generalizing rest with
  | ind n ih =>
    rw [Nat.toDigits_eq_if (by decide)] at digits
    split at digits
    · rename_i small
      cases digits
      exact digitChar_nonzero positive small
    · cases before : Nat.toDigits 10 (n / 10) with
      | nil => exact absurd before Nat.toDigits_ne_nil
      | cons head tail =>
        rw [before] at digits
        cases digits
        exact ih (n / 10) (by omega) (by omega) before

theorem toString_toList (n : Nat) : (toString n).toList = Nat.toDigits 10 n := Nat.toList_repr

@[simp] theorem decimalValue_toString (n : Nat) : decimalValue (toString n) = n := by
  rw [decimalValue, toString_toList]
  exact digitsValue_toDigits n

/-- The decimal text of a number below 2^256 is one the checks accept. -/
theorem isUint256_toString {n : Nat} (small : n < 2 ^ 256) : isUint256 (toString n) = true := by
  rw [isUint256, decimalValue_toString, toString_toList, decide_eq_true small, Bool.and_true]
  obtain rfl | positive := Nat.eq_zero_or_pos n
  · rfl
  · have length : (Nat.toDigits 10 n).length ≤ 78 :=
      (Nat.length_toDigits_le_iff (by decide) (by decide)).mpr (Nat.lt_trans small (by decide))
    cases digits : Nat.toDigits 10 n with
    | nil => exact absurd digits Nat.toDigits_ne_nil
    | cons first rest =>
      have all := toDigits_all n
      rw [digits, List.forall_mem_cons] at all
      have nonzero := toDigits_leading positive digits
      rw [digits, List.length_cons] at length
      have few : rest.length ≤ 77 := by omega
      simp [nonzero, all.1, few, List.all_eq_true.mpr all.2]

end JBCenter.Rest
