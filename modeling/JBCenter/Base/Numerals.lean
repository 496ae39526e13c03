import Mathlib.Data.List.Induction
import Mathlib.Tactic.IntervalCases

/-! Numerals of a base up to sixteen: the digits a number is written with, and the number that digits stand for. -/
namespace JBCenter

def digitValue (c : Char) : Nat :=
  if '0'.toNat ≤ c.toNat && c.toNat ≤ '9'.toNat then c.toNat - '0'.toNat
  else if 'a'.toNat ≤ c.toNat && c.toNat ≤ 'f'.toNat then c.toNat - 'a'.toNat + 10
  else c.toNat - 'A'.toNat + 10

def numeralValue (base : Nat) (digits : List Char) : Nat :=
  digits.foldl (fun value c => base * value + digitValue c) 0

/-- Digits of a base, the letters among them in lower case. -/
def IsNumeral (base : Nat) (digits : List Char) : Prop := ∀ c ∈ digits, ∃ d < base, c = Nat.digitChar d

variable {base n : Nat} {digits : List Char}

theorem digitValue_digitChar {d : Nat} (small : d < 16) : digitValue d.digitChar = d := by
  interval_cases d <;> rfl

theorem numeralValue_snoc (c : Char) : numeralValue base (digits ++ [c]) = base * numeralValue base digits + digitValue c := by
  rw [numeralValue, List.foldl_append]
  rfl

theorem isNumeral_append {first second : List Char} :
    IsNumeral base (first ++ second) ↔ IsNumeral base first ∧ IsNumeral base second := by
  simp only [IsNumeral, List.mem_append, or_imp, forall_and]

theorem isNumeral_take (numeral : IsNumeral base digits) (count : Nat) : IsNumeral base (digits.take count) :=
  fun c member => numeral c (List.mem_of_mem_take member)

theorem isNumeral_drop (numeral : IsNumeral base digits) (count : Nat) : IsNumeral base (digits.drop count) :=
  fun c member => numeral c (List.mem_of_mem_drop member)

theorem isNumeral_zeros (positive : 0 < base) : IsNumeral base (List.replicate n '0') := fun _ member =>
  ⟨0, positive, List.eq_of_mem_replicate member⟩

/-- The digits of a number stand for it. -/
theorem numeralValue_toDigits (two : 1 < base) (sixteen : base ≤ 16) : numeralValue base (Nat.toDigits base n) = n := by
  induction n using Nat.strongRecOn with
  | ind n ih =>
    by_cases small : n < base
    · rw [Nat.toDigits_of_lt_base small]
      simpa [numeralValue] using digitValue_digitChar (Nat.lt_of_lt_of_le small sixteen)
    · have rest : n % base < 16 := Nat.lt_of_lt_of_le (Nat.mod_lt n (by omega)) sixteen
      rw [Nat.toDigits_of_base_le two (by omega), numeralValue_snoc, digitValue_digitChar rest,
        ih _ (Nat.div_lt_self (by omega) two), Nat.div_add_mod]

theorem isNumeral_toDigits (two : 1 < base) : IsNumeral base (Nat.toDigits base n) := by
  induction n using Nat.strongRecOn with
  | ind n ih =>
    by_cases small : n < base
    · rw [Nat.toDigits_of_lt_base small]
      intro c member
      exact ⟨n, small, List.mem_singleton.mp member⟩
    · rw [Nat.toDigits_of_base_le two (by omega), isNumeral_append]
      refine ⟨ih _ (Nat.div_lt_self (by omega) two), fun c member => ?_⟩
      exact ⟨n % base, Nat.mod_lt n (by omega), List.mem_singleton.mp member⟩

/-- The digits of a number other than zero begin with another digit. -/
theorem toDigits_head (two : 1 < base) (positive : 0 < n) : (Nat.toDigits base n).head? ≠ some '0' := by
  induction n using Nat.strongRecOn with
  | ind n ih =>
    by_cases small : n < base
    · rw [Nat.toDigits_of_lt_base small, List.head?_cons, ne_eq, Option.some.injEq, Nat.digitChar_eq_zero]
      exact Nat.ne_of_gt positive
    · have higher := ih _ (Nat.div_lt_self positive two) (Nat.div_pos (Nat.not_lt.mp small) (by omega))
      obtain ⟨first, rest, spelled⟩ := List.exists_cons_of_ne_nil (Nat.toDigits_ne_nil (n := n / base) (b := base))
      rw [Nat.toDigits_of_base_le two (by omega), spelled]
      rwa [spelled] at higher

theorem numeralValue_lt (sixteen : base ≤ 16) (numeral : IsNumeral base digits) :
    numeralValue base digits < base ^ digits.length := by
  induction digits using List.reverseRecOn with
  | nil => exact Nat.one_pos
  | append_singleton digits c ih =>
    obtain ⟨first, last⟩ := isNumeral_append.mp numeral
    obtain ⟨d, small, rfl⟩ := last c (List.mem_singleton_self c)
    rw [numeralValue_snoc, digitValue_digitChar (Nat.lt_of_lt_of_le small sixteen), List.length_append]
    calc base * numeralValue base digits + d < base * numeralValue base digits + base := by omega
      _ = base * (numeralValue base digits + 1) := (Nat.mul_succ ..).symm
      _ ≤ base * base ^ digits.length := Nat.mul_le_mul_left base (ih first)
      _ = base ^ (digits.length + [d.digitChar].length) := (Nat.pow_succ' ..).symm

/-- Zeros in front of a numeral add nothing to it. -/
theorem numeralValue_leftpad (length : Nat) : numeralValue base (digits.leftpad length '0') = numeralValue base digits := by
  have zeros : ∀ count, (List.replicate count '0').foldl (fun value c => base * value + digitValue c) 0 = 0 := by
    intro count
    induction count with
    | zero => rfl
    | succ count ih => rw [List.replicate_succ, List.foldl_cons]; exact ih
  rw [numeralValue, List.leftpad, List.foldl_append, zeros]
  rfl

theorem leftpad_snoc (length : Nat) (c d : Char) :
    (digits ++ [c]).leftpad (length + 1) d = digits.leftpad length d ++ [c] := by
  simp only [List.leftpad, List.length_append, List.length_singleton, Nat.add_sub_add_right, List.append_assoc]

theorem leftpad_zero (positive : 0 < n) : ['0'].leftpad n '0' = ([] : List Char).leftpad n '0' := by
  obtain ⟨n, rfl⟩ := Nat.exists_eq_add_of_lt positive
  rw [List.leftpad, List.leftpad, List.length_singleton, List.length_nil, List.append_nil, ← List.replicate_succ',
    Nat.add_sub_cancel, Nat.sub_zero]

/-- Digits of a fixed length are those of the number they stand for, with zeros in front. -/
theorem leftpad_toDigits (two : 1 < base) (sixteen : base ≤ 16) (numeral : IsNumeral base digits) (some : digits ≠ []) :
    (Nat.toDigits base (numeralValue base digits)).leftpad digits.length '0' = digits := by
  induction digits using List.reverseRecOn with
  | nil => exact absurd rfl some
  | append_singleton digits c ih =>
    obtain ⟨first, last⟩ := isNumeral_append.mp numeral
    obtain ⟨d, small, rfl⟩ := last c (List.mem_singleton_self c)
    rw [numeralValue_snoc, digitValue_digitChar (Nat.lt_of_lt_of_le small sixteen), List.length_append,
      List.length_singleton]
    by_cases empty : digits = []
    · subst empty
      change (Nat.toDigits base (base * 0 + d)).leftpad 1 '0' = [d.digitChar]
      rw [Nat.mul_zero, Nat.zero_add, Nat.toDigits_of_lt_base small]
      rfl
    · have earlier := ih first empty
      by_cases zero : numeralValue base digits = 0
      · rw [zero, Nat.mul_zero, Nat.zero_add, Nat.toDigits_of_lt_base small, ← List.nil_append [d.digitChar], leftpad_snoc,
          List.nil_append, List.append_left_inj]
        rw [zero, Nat.toDigits_zero] at earlier
        exact (leftpad_zero (List.length_pos_iff.mpr empty)).symm.trans earlier
      · rw [← Nat.toDigits_append_toDigits two (Nat.pos_of_ne_zero zero) small, Nat.toDigits_of_lt_base small, leftpad_snoc,
          earlier]

/-- Digits without zeros in front are those of the number they stand for. -/
theorem toDigits_numeralValue (two : 1 < base) (sixteen : base ≤ 16) (numeral : IsNumeral base digits) (some : digits ≠ [])
    (canonical : digits.head? ≠ Option.some '0' ∨ digits = ['0']) : Nat.toDigits base (numeralValue base digits) = digits := by
  have padded := leftpad_toDigits two sixteen numeral some
  by_cases shorter : (Nat.toDigits base (numeralValue base digits)).length < digits.length
  · obtain ⟨zeros, count⟩ : ∃ zeros, digits.length - (Nat.toDigits base (numeralValue base digits)).length = zeros + 1 :=
      Nat.exists_eq_succ_of_ne_zero (Nat.sub_ne_zero_of_lt shorter)
    have leading : digits.head? = Option.some '0' := by
      rw [← padded, List.leftpad, count]
      rfl
    obtain other | alone := canonical
    · exact absurd leading other
    · rw [alone, List.length_singleton, Nat.lt_one_iff, List.length_eq_zero_iff] at shorter
      exact absurd shorter Nat.toDigits_ne_nil
  · rwa [List.leftpad, Nat.sub_eq_zero_of_le (Nat.not_lt.mp shorter), List.replicate_zero, List.nil_append] at padded

end JBCenter
