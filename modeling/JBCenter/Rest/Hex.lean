import JBCenter.Base.Numerals
import JBCenter.Rest.Core

/-! Hexadecimal text: bytes of any length, compared without the case of their letters. -/
namespace JBCenter.Rest

theorem toLower_toLower (c : Char) : c.toLower.toLower = c.toLower := by
  have upper : ¬('A'.val ≤ c.toLower.val ∧ c.toLower.val ≤ 'Z'.val) := by
    delta Char.toLower
    split <;> grind [UInt32.le_iff_toNat_le, UInt32.toNat_add]
  exact dif_neg upper

theorem isHexDigit_toLower (c : Char) : isHexDigit c.toLower = isHexDigit c := by
  delta Char.toLower
  unfold isHexDigit isDigit inRange
  split
  · simp only [Char.toNat]
    grind [UInt32.le_iff_toNat_le, UInt32.toNat_add]
  · rfl

theorem toLowerCase_twice (text : String) : toLowerCase (toLowerCase text) = toLowerCase text := by
  simp only [toLowerCase, String.toList_ofList, List.map_map]
  exact congrArg String.ofList (List.map_congr_left fun c _ => toLower_toLower c)

/-- Matches `/^0x(?:[0-9a-f]{2})*$/iu`. -/
def isHexData (text : String) : Bool :=
  match text.toList with
  | '0' :: x :: rest => (x == 'x' || x == 'X') && rest.length % 2 == 0 && rest.all isHexDigit
  | _ => false

variable {digits : List Char} {text : String}

theorem isHex_toLowerCase {digits : Nat} (valid : isHex digits text = true) :
    isHex digits (toLowerCase text) = true := by
  unfold isHex at valid
  split at valid
  · rename_i rest spelled
    have lowered : toLowerCase text = String.ofList ('0' :: 'x' :: rest.map Char.toLower) := by
      rw [toLowerCase, spelled]
      rfl
    rw [lowered, isHex_ofList, List.length_map, List.all_map]
    simpa only [Function.comp_def, isHexDigit_toLower] using valid
  · cases valid

/-- Bytes as the code writes them after `toLowerCase`. -/
theorem isHexData_toLowerCase (valid : isHexData text = true) :
    ∃ digits : List Char, toLowerCase text = String.ofList ('0' :: 'x' :: digits) ∧ digits.length % 2 = 0 ∧
      ∀ c ∈ digits, isHexDigit c = true := by
  unfold isHexData at valid
  split at valid
  · rename_i x rest spelled
    simp only [Bool.and_eq_true, Bool.or_eq_true, beq_iff_eq, List.all_eq_true] at valid
    obtain ⟨⟨marker, even⟩, digits⟩ := valid
    refine ⟨rest.map Char.toLower, ?_, by rwa [List.length_map], ?_⟩
    · rw [toLowerCase, spelled]
      obtain rfl | rfl := marker <;> rfl
    · rw [List.forall_mem_map]
      exact fun c member => (isHexDigit_toLower c).trans (digits c member)
  · cases valid

/-- Digits, behind the marker of hexadecimal text. -/
def hexText (digits : List Char) : String := String.ofList ('0' :: 'x' :: digits)

@[simp]
theorem hexText_toList (digits : List Char) : (hexText digits).toList = '0' :: 'x' :: digits := String.toList_ofList

theorem hexText_inj {first second : List Char} : hexText first = hexText second ↔ first = second := by
  rw [hexText, hexText, String.ofList_inj, List.cons.injEq, List.cons.injEq]
  exact ⟨fun same => same.2.2, fun same => ⟨rfl, rfl, same⟩⟩

/-- The text of a `bigint`, as `toHex` writes it. -/
def toHex (n : Nat) : String := hexText (Nat.toDigits 16 n)

/-- The `BigInt` of hexadecimal text. -/
def hexNumber (text : String) : Nat := numeralValue 16 (text.toList.drop 2)

/-- Matches `/^0x(?:[0-9a-fA-F]{2})*$/`. -/
def isByteText (text : String) : Bool :=
  match text.toList with
  | '0' :: 'x' :: rest => rest.length % 2 == 0 && rest.all isHexDigit
  | _ => false

/-- Matches `/^0x(0|[1-9a-f][0-9a-f]{0,63})$/`. -/
def isQuantityText (text : String) : Bool :=
  let lower (c : Char) : Bool := isDigit c || inRange 'a' 'f' c
  match text.toList with
  | ['0', 'x', '0'] => true
  | '0' :: 'x' :: first :: rest => lower first && first != '0' && rest.length ≤ 63 && rest.all lower
  | _ => false

theorem hexNumber_toHex (n : Nat) : hexNumber (toHex n) = n := by
  rw [hexNumber, toHex, hexText_toList]
  exact numeralValue_toDigits (by decide) (by decide)

theorem lowerHex_digit {c : Char} (digit : isHexDigit c = true) : ∃ d < 16, c.toLower = Nat.digitChar d := by
  have table : ∀ n < 103, 48 ≤ n ∧ n ≤ 57 ∨ 97 ≤ n ∧ n ≤ 102 ∨ 65 ≤ n ∧ n ≤ 70 →
      ∃ d < 16, (Char.ofNat n).toLower = Nat.digitChar d := by decide +kernel
  have range : 48 ≤ c.toNat ∧ c.toNat ≤ 57 ∨ 97 ≤ c.toNat ∧ c.toNat ≤ 102 ∨ 65 ≤ c.toNat ∧ c.toNat ≤ 70 := by
    simpa [isHexDigit, isDigit, inRange, or_assoc] using digit
  have found := table c.toNat (by omega) range
  rwa [Char.ofNat_toNat] at found

theorem digitChar_lowerHex {d : Nat} (small : d < 16) :
    (isDigit (Nat.digitChar d) || inRange 'a' 'f' (Nat.digitChar d)) = true ∧ (Nat.digitChar d).toLower = Nat.digitChar d := by
  interval_cases d <;> decide

theorem lower_digit {c : Char} (digit : (isDigit c || inRange 'a' 'f' c) = true) : ∃ d < 16, c = Nat.digitChar d := by
  have table : ∀ n < 103, 48 ≤ n ∧ n ≤ 57 ∨ 97 ≤ n ∧ n ≤ 102 → ∃ d < 16, Char.ofNat n = Nat.digitChar d := by
    decide +kernel
  have range : 48 ≤ c.toNat ∧ c.toNat ≤ 57 ∨ 97 ≤ c.toNat ∧ c.toNat ≤ 102 := by simpa [isDigit, inRange] using digit
  have found := table c.toNat (by omega) range
  rwa [Char.ofNat_toNat] at found

theorem isHexDigit_numeral (numeral : IsNumeral 16 digits) : digits.all isHexDigit = true := by
  rw [List.all_eq_true]
  intro c member
  obtain ⟨d, small, rfl⟩ := numeral c member
  rw [isHexDigit, (digitChar_lowerHex small).1, Bool.true_or]

theorem lower_numeral (hexadecimal : digits.all isHexDigit = true) :
    IsNumeral 16 (digits.map Char.toLower) := by
  intro c member
  obtain ⟨raw, among, rfl⟩ := List.mem_map.mp member
  exact lowerHex_digit (List.all_eq_true.mp hexadecimal raw among)

theorem toLowerCase_numeral (numeral : IsNumeral 16 digits) :
    toLowerCase (hexText digits) = hexText digits := by
  rw [toLowerCase, hexText_toList, List.map_cons, List.map_cons, hexText]
  congr 3
  refine (List.map_congr_left fun c member => ?_).trans (List.map_id digits)
  obtain ⟨d, small, rfl⟩ := numeral c member
  exact (digitChar_lowerHex small).2

/-- Text of bytes, in lower case. -/
theorem isByteText_iff : isByteText text = true ↔
    ∃ digits, text = hexText digits ∧ digits.length % 2 = 0 ∧ digits.all isHexDigit = true := by
  unfold isByteText
  constructor
  · intro matched
    split at matched
    · rename_i rest spelled
      rw [Bool.and_eq_true, beq_iff_eq] at matched
      exact ⟨rest, String.toList_inj.mp (by rw [spelled, hexText_toList]), matched⟩
    · cases matched
  · rintro ⟨digits, rfl, even, hexadecimal⟩
    simp [even, hexadecimal]

/-- The canonical quantities are the texts of the numbers of at most 64 digits. -/
theorem isQuantityText_iff : isQuantityText text = true ↔ ∃ n < 16 ^ 64, text = toHex n := by
  have lower : ∀ {digits : List Char}, digits.all (fun c => isDigit c || inRange 'a' 'f' c) = true ↔ IsNumeral 16 digits := by
    intro digits
    rw [List.all_eq_true]
    constructor
    · exact fun digits c member => lower_digit (digits c member)
    · rintro numeral c member
      obtain ⟨d, small, rfl⟩ := numeral c member
      exact (digitChar_lowerHex small).1
  constructor
  · intro matched
    unfold isQuantityText at matched
    split at matched
    · rename_i spelled
      exact ⟨0, by decide, String.toList_inj.mp spelled⟩
    · rename_i first rest _ spelled
      simp only [Bool.and_eq_true, bne_iff_ne, decide_eq_true_eq] at matched
      obtain ⟨⟨⟨start, leading⟩, short⟩, digits⟩ := matched
      have numeral : IsNumeral 16 (first :: rest) :=
        lower.mp (by rw [List.all_cons, Bool.and_eq_true]; exact ⟨start, digits⟩)
      refine ⟨numeralValue 16 (first :: rest), ?_, ?_⟩
      · calc numeralValue 16 (first :: rest) < 16 ^ (first :: rest).length := numeralValue_lt (by decide) numeral
          _ ≤ 16 ^ 64 := Nat.pow_le_pow_right (by decide) (Nat.succ_le_succ short)
      · rw [toHex, toDigits_numeralValue (by decide) (by decide) numeral (by simp) (Or.inl (by simpa using leading))]
        exact String.toList_inj.mp (by rw [spelled, hexText_toList])
    · cases matched
  · rintro ⟨n, bound, rfl⟩
    obtain rfl | positive := Nat.eq_zero_or_pos n
    · decide
    · have numeral : IsNumeral 16 (Nat.toDigits 16 n) := isNumeral_toDigits (by decide)
      have short := (Nat.length_toDigits_le_iff (b := 16) (by decide) (by decide)).mpr bound
      have leading := toDigits_head (by decide : 1 < 16) positive
      obtain ⟨first, rest, spelled⟩ := List.exists_cons_of_ne_nil (Nat.toDigits_ne_nil (n := n) (b := 16))
      rw [spelled] at numeral short leading
      have digits := lower.mpr numeral
      rw [List.all_cons, Bool.and_eq_true] at digits
      rw [List.head?_cons, ne_eq, Option.some.injEq] at leading
      unfold isQuantityText
      rw [toHex, spelled, hexText_toList]
      split
      · rfl
      · rename_i same
        cases same
        simp only [Bool.and_eq_true, bne_iff_ne, decide_eq_true_eq]
        exact ⟨⟨⟨digits.1, leading⟩, Nat.le_of_succ_le_succ short⟩, digits.2⟩
      · rename_i other
        exact absurd rfl (other first rest)

/-- Pieces without a comma are what the text they are joined to says. -/
theorem intercalate_inj {a b : List String} (separable : ∀ piece ∈ a ++ b, ',' ∉ piece.toList) (some : a ≠ []) (any : b ≠ [])
    (same : String.intercalate "," a = String.intercalate "," b) : a = b := by
  have pieces : ∀ list : List String, (∀ piece ∈ list, ',' ∉ piece.toList) → list ≠ [] →
      (String.intercalate "," list).toList.splitOn ',' = list.map String.toList := by
    intro list separable nonempty
    rw [String.toList_intercalate]
    exact List.splitOn_intercalate ',' (by simpa using separable) (by simpa using nonempty)
  have split := congrArg (fun text : String => text.toList.splitOn ',') same
  rw [pieces a (fun piece member => separable piece (List.mem_append_left _ member)) some,
    pieces b (fun piece member => separable piece (List.mem_append_right _ member)) any] at split
  exact List.map_injective_iff.mpr (fun _ _ => String.toList_inj.mp) split

end JBCenter.Rest
