import Mathlib.Data.List.Basic

/-! Strings as lists of UTF-16 code units, the characters they spell, and the UTF-8 bytes of those. -/
namespace JBCenter

abbrev CodeUnits := List UInt16

namespace Utf16

/-- The code unit of a character of the basic plane. -/
def unit (c : Char) : UInt16 := UInt16.ofNat c.toNat

def isHigh (u : UInt16) : Bool := 0xd800 ≤ u.toNat && u.toNat < 0xdc00

def isLow (u : UInt16) : Bool := 0xdc00 ≤ u.toNat && u.toNat < 0xe000

/-- The code units of a character: one, or a pair of surrogates. -/
def spell (c : Char) : CodeUnits :=
  if c.toNat < 0x10000 then [unit c]
  else [UInt16.ofNat (0xd800 + (c.toNat - 0x10000) / 0x400), UInt16.ofNat (0xdc00 + (c.toNat - 0x10000) % 0x400)]

def spelled (text : List Char) : CodeUnits := text.flatMap spell

def paired (high low : UInt16) : Char := Char.ofNat (0x10000 + (high.toNat - 0xd800) * 0x400 + (low.toNat - 0xdc00))

/-- A code unit of its own; a surrogate without its partner is replaced. -/
def alone (u : UInt16) : Char := if isHigh u || isLow u then '\uFFFD' else Char.ofNat u.toNat

/-- The characters that some code units spell. -/
def characters : CodeUnits → List Char
  | [] => []
  | [u] => [alone u]
  | u :: v :: rest => if isHigh u && isLow v then paired u v :: characters rest else alone u :: characters (v :: rest)

def utf8 (text : List Char) : List UInt8 := text.flatMap String.utf8EncodeChar

/-- The bytes of a string. -/
def encode (text : CodeUnits) : List UInt8 := utf8 (characters text)

/-- The characters that some bytes encode, where they encode characters. -/
def decodeUtf8 (bytes : List UInt8) : Option (List Char) := bytes.toByteArray.utf8Decode?.map Array.toList

variable {bytes : List UInt8} {text : List Char}

/-- The character of a code unit that is no surrogate comes first, whatever follows it. -/
theorem characters_alone {u : UInt16} (rest : CodeUnits) (high : isHigh u = false) (low : isLow u = false) :
    characters (u :: rest) = Char.ofNat u.toNat :: characters rest := by
  have same : alone u = Char.ofNat u.toNat := by rw [alone, high, low]; rfl
  cases rest with
  | nil => rw [characters, characters, same]
  | cons v others => rw [characters, high, Bool.false_and, if_neg Bool.false_ne_true, same]

/-- A character is read back from its code units. -/
theorem characters_spell (c : Char) (rest : CodeUnits) : characters (spell c ++ rest) = c :: characters rest := by
  have valid : c.toNat < 0xd800 ∨ 0xdfff < c.toNat ∧ c.toNat < 0x110000 := c.valid
  unfold spell
  split
  case isTrue basic =>
    have same : (unit c).toNat = c.toNat := by
      rw [unit, UInt16.toNat_ofNat']
      omega
    have high : isHigh (unit c) = false := by
      rw [isHigh, same, Bool.and_eq_false_iff, decide_eq_false_iff_not, decide_eq_false_iff_not]
      omega
    have low : isLow (unit c) = false := by
      rw [isLow, same, Bool.and_eq_false_iff, decide_eq_false_iff_not, decide_eq_false_iff_not]
      omega
    rw [List.singleton_append, characters_alone rest high low, same, Char.ofNat_toNat]
  case isFalse beyond =>
    have first : (UInt16.ofNat (0xd800 + (c.toNat - 0x10000) / 0x400)).toNat = 0xd800 + (c.toNat - 0x10000) / 0x400 := by
      rw [UInt16.toNat_ofNat']
      omega
    have second : (UInt16.ofNat (0xdc00 + (c.toNat - 0x10000) % 0x400)).toNat = 0xdc00 + (c.toNat - 0x10000) % 0x400 := by
      rw [UInt16.toNat_ofNat']
      omega
    have pair : isHigh (UInt16.ofNat (0xd800 + (c.toNat - 0x10000) / 0x400)) &&
        isLow (UInt16.ofNat (0xdc00 + (c.toNat - 0x10000) % 0x400)) := by
      rw [isHigh, isLow, first, second]
      simp only [Bool.and_eq_true, decide_eq_true_eq]
      omega
    have whole : 0x10000 + (0xd800 + (c.toNat - 0x10000) / 0x400 - 0xd800) * 0x400 +
        (0xdc00 + (c.toNat - 0x10000) % 0x400 - 0xdc00) = c.toNat := by omega
    rw [List.cons_append, List.singleton_append, characters, if_pos pair, paired, first, second, whole, Char.ofNat_toNat]

theorem characters_spelled (text : List Char) : characters (spelled text) = text := by
  induction text with
  | nil => rfl
  | cons c text ih => rw [spelled, List.flatMap_cons, characters_spell, ← spelled, ih]

theorem utf8_decodeUtf8 (decoded : decodeUtf8 bytes = some text) : utf8 text = bytes := by
  obtain ⟨characters, found, rfl⟩ := Option.map_eq_some_iff.mp decoded
  have valid : bytes.toByteArray.utf8Decode?.isSome = true := Option.isSome_of_eq_some found
  have written := ByteArray.utf8Encode_get_utf8Decode? (h := valid)
  rw [Option.get_of_eq_some valid found] at written
  exact List.toByteArray_inj.mp written

/-- A string that was decoded is encoded as the bytes it was decoded from. -/
theorem encode_spelled (decoded : decodeUtf8 bytes = some text) : encode (spelled text) = bytes := by
  rw [encode, characters_spelled, utf8_decodeUtf8 decoded]

/-- What was encoded is decoded. -/
theorem decodeUtf8_utf8 (text : List Char) : decodeUtf8 (utf8 text) = some text := by
  have decoded : (utf8 text).toByteArray.utf8Decode? = some text.toArray := List.utf8Decode?_utf8Encode
  rw [decodeUtf8, decoded, Option.map_some, List.toList_toArray]

/-- Every surrogate of the text stands in a pair. -/
inductive Paired : CodeUnits → Prop where
  | nil : Paired []
  | alone {u : UInt16} {rest : CodeUnits} : isHigh u = false → isLow u = false → Paired rest → Paired (u :: rest)
  | pair {u v : UInt16} {rest : CodeUnits} : isHigh u = true → isLow v = true → Paired rest → Paired (u :: v :: rest)

section Pairs

variable {u v : UInt16} {first rest : CodeUnits}

theorem toNat_ofNat {n : Nat} (valid : n.isValidChar) : (Char.ofNat n).toNat = n := by
  rw [Char.ofNat, dif_pos valid]
  rfl

theorem toNat_paired (high : isHigh u = true) (low : isLow v = true) :
    (paired u v).toNat = 0x10000 + (u.toNat - 0xd800) * 0x400 + (v.toNat - 0xdc00) := by
  rw [isHigh, Bool.and_eq_true, decide_eq_true_eq, decide_eq_true_eq] at high
  rw [isLow, Bool.and_eq_true, decide_eq_true_eq, decide_eq_true_eq] at low
  exact toNat_ofNat (.inr (by omega))

theorem characters_paired (rest : CodeUnits) (high : isHigh u = true) (low : isLow v = true) :
    characters (u :: v :: rest) = paired u v :: characters rest := by
  rw [characters, if_pos (Bool.and_eq_true_iff.mpr ⟨high, low⟩)]

theorem spell_alone (high : isHigh u = false) (low : isLow u = false) : spell (Char.ofNat u.toNat) = [u] := by
  have bound := u.toNat_lt
  rw [isHigh, Bool.and_eq_false_iff, decide_eq_false_iff_not, decide_eq_false_iff_not] at high
  rw [isLow, Bool.and_eq_false_iff, decide_eq_false_iff_not, decide_eq_false_iff_not] at low
  have valid : u.toNat < 0xd800 ∨ 0xdfff < u.toNat ∧ u.toNat < 0x110000 := by omega
  have same : (Char.ofNat u.toNat).toNat = u.toNat := toNat_ofNat valid
  rw [spell, same, if_pos bound, unit, same, UInt16.ofNat_toNat]

theorem spell_paired (high : isHigh u = true) (low : isLow v = true) : spell (paired u v) = [u, v] := by
  have same := toNat_paired high low
  rw [isHigh, Bool.and_eq_true, decide_eq_true_eq, decide_eq_true_eq] at high
  rw [isLow, Bool.and_eq_true, decide_eq_true_eq, decide_eq_true_eq] at low
  have first : 0xd800 + ((paired u v).toNat - 0x10000) / 0x400 = u.toNat := by omega
  have second : 0xdc00 + ((paired u v).toNat - 0x10000) % 0x400 = v.toNat := by omega
  rw [spell, if_neg (by omega), first, second, UInt16.ofNat_toNat, UInt16.ofNat_toNat]

theorem Paired.append (before : Paired first) (after : Paired rest) : Paired (first ++ rest) := by
  induction before with
  | nil => exact after
  | alone high low _ ih => exact .alone high low ih
  | pair high low _ ih => exact .pair high low ih

/-- Below the surrogates. -/
theorem not_surrogate (small : u.toNat < 0xd800) : isHigh u = false ∧ isLow u = false := by
  simp only [isHigh, isLow, Bool.and_eq_false_iff, decide_eq_false_iff_not]
  omega

theorem Paired.cons (small : u.toNat < 0xd800) (after : Paired rest) : Paired (u :: rest) :=
  .alone (not_surrogate small).1 (not_surrogate small).2 after

theorem Paired.of_forall (small : ∀ u ∈ rest, u.toNat < 0xd800) : Paired rest := by
  induction rest with
  | nil => exact .nil
  | cons u rest ih =>
    obtain ⟨first, others⟩ := List.forall_mem_cons.mp small
    exact (ih others).cons first

/-- The characters of a text spell it. -/
theorem Paired.spelled_characters (text : Paired rest) : spelled (characters rest) = rest := by
  induction text with
  | nil => rfl
  | alone high low _ ih => rw [characters_alone _ high low, spelled, List.flatMap_cons, spell_alone high low, ← spelled, ih]; rfl
  | pair high low _ ih =>
    rw [characters_paired _ high low, spelled, List.flatMap_cons, spell_paired high low, ← spelled, ih]
    rfl

theorem Paired.characters_append (before : Paired first) (rest : CodeUnits) :
    characters (first ++ rest) = characters first ++ characters rest := by
  induction before with
  | nil => rfl
  | alone high low _ ih => rw [List.cons_append, characters_alone _ high low, characters_alone _ high low, ih, List.cons_append]
  | pair high low _ ih =>
    rw [List.cons_append, List.cons_append, characters_paired _ high low, characters_paired _ high low, ih, List.cons_append]

theorem Paired.encode_append (before : Paired first) (rest : CodeUnits) :
    encode (first ++ rest) = encode first ++ encode rest := by
  rw [encode, before.characters_append, utf8, List.flatMap_append]
  rfl

/-- Bytes read back as the text they were written from. -/
theorem Paired.decodeUtf8_encode (text : Paired rest) : (decodeUtf8 (encode rest)).map spelled = some rest := by
  rw [encode, decodeUtf8_utf8, Option.map_some, text.spelled_characters]

theorem Paired.encode_injective (text : Paired first) (text' : Paired rest) (same : encode first = encode rest) :
    first = rest := by
  have decoded := text.decodeUtf8_encode
  rw [same, text'.decodeUtf8_encode] at decoded
  exact (Option.some.inj decoded).symm

/-- A text has no more code units than bytes. -/
theorem Paired.length_le_encode (text : Paired rest) : rest.length ≤ (encode rest).length := by
  induction text with
  | nil => exact Nat.le_refl 0
  | @alone u rest high low _ ih =>
    have size := Char.utf8Size_pos (Char.ofNat u.toNat)
    rw [encode, characters_alone _ high low, utf8, List.flatMap_cons, List.length_append,
      String.length_utf8EncodeChar, ← utf8, ← encode,
      List.length_cons]
    omega
  | @pair u v rest high low _ ih =>
    have beyond : 0xffff < (paired u v).toNat := by rw [toNat_paired high low]; omega
    have size : (paired u v).utf8Size = 4 := Char.utf8Size_eq_four_iff.mpr (UInt32.lt_iff_toNat_lt.mpr beyond)
    rw [encode, characters_paired _ high low, utf8, List.flatMap_cons, List.length_append, String.length_utf8EncodeChar, ← utf8,
      ← encode, List.length_cons, List.length_cons]
    omega

end Pairs

end Utf16

end JBCenter
