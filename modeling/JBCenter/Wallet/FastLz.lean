import Mathlib.Data.Fin.Basic
import Mathlib.Logic.Function.Basic
import Mathlib.Tactic.Linarith
import JBCenter.Base.Fallible
import JBCenter.Base.Loops

/-! The compressed length of signed bytes, by the port and by the reference it ports. A read outside the input and an
operation that leaves its machine type are `none` in both. -/
namespace JBCenter.Wallet.Fees

def maximumBytes : Nat := 131072

/-- The hash table; its slots are 13 bits, so that no slot is outside it. -/
abbrev Table := Fin 8192 → Nat

/-- The variables of the outer loop. -/
structure Compression where
  index : Nat
  anchor : Nat
  size : Nat
  table : Table

/-- What the inner loop found, and the table it left. -/
structure Found where
  index : Nat
  reference : Nat
  table : Table

/-- The variables of the loop that compares two places. -/
structure Comparison where
  length : Nat
  last : Nat

section
variable (input : List UInt8)

/-- The bit operations are on 32 bits. -/
def u24 (index : Nat) : Option (BitVec 32) := do
  let low ← input[index]?
  let middle ← input[index + 1]?
  let high ← input[index + 2]?
  return low.toBitVec.setWidth 32 ||| (middle.toBitVec.setWidth 32 <<< 8) ||| (high.toBitVec.setWidth 32 <<< 16)

def hash (value : BitVec 32) : Fin 8192 := Fin.ofNat 8192 ((value * 2654435769#32) >>> 19 &&& 0x1fff#32).toNat

def literals (length : Nat) : Nat :=
  33 * (length / 32) + (if length % 32 ≠ 0 then length % 32 + 1 else 0)

/-- The table keeps 32 bits of a number. -/
def nextHash (table : Table) (index : Nat) : Option (Table × Nat) := do
  let value ← u24 input index
  return (Function.update table (hash value) (index % 2 ^ 32), index + 1)

def searchTurn (limit : Nat) (state : Nat × Table) : Option (Turn (Nat × Table) Found) := do
  let (index, table) := state
  let sequence ← u24 input index
  let slot := hash sequence
  let reference := table slot
  let table := Function.update table slot (index % 2 ^ 32)
  let distance : Int := index - reference
  if limit ≤ index then return .finish ⟨index, reference, table⟩
  if distance < 8192 then
    let seen ← u24 input reference
    if sequence = seen then return .finish ⟨index + 1, reference, table⟩
  return .again (index + 1, table)

def compareTurn (reference index : Nat) (state : Comparison) : Option (Turn Comparison Nat) :=
  if state.length < state.last then do
    let before ← input[reference + 3 + state.length]?
    let here ← input[index + 3 + state.length]?
    return .again ⟨state.length + 1, if before ≠ here then 0 else state.last⟩
  else return .finish state.length

/-- One match. Below the limit no difference here is negative. -/
def compressTurn (fuel limit : Nat) (state : Compression) : Option (Turn Compression Compression) :=
  if state.index < limit then do
    let found ← loop (searchTurn input limit) fuel (state.index, state.table)
    if limit ≤ found.index then return .finish { state with index := found.index, table := found.table }
    let index := found.index - 1
    let size := if state.anchor < index then state.size + literals (index - state.anchor) else state.size
    let length ← loop (compareTurn input found.reference index) fuel ⟨0, limit + 9 - (index + 3)⟩
    let matched := length - 1
    let size := size + 3 * (matched / 262) + (if matched % 262 ≥ 6 then 3 else 2)
    let (table, next) ← nextHash input found.table (index + length)
    let (table, next) ← nextHash input table next
    return .again ⟨next, next, size, table⟩
  else return .finish state

end

def baseFastLzLength (fuel : Nat) (bytes : List UInt8) : Option Nat :=
  if maximumBytes < bytes.length then none
  else do
    let limit := bytes.length - 13
    let ended ← loop (compressTurn bytes fuel limit) fuel ⟨2, 0, 0, fun _ => 0⟩
    return ended.size + literals (bytes.length - ended.anchor)

namespace BaseFastLz

def u32 (value : Nat) : Option Nat := if value < 2 ^ 32 then some value else none

def u64 (value : Nat) : Option Nat := if value < 2 ^ 64 then some value else none

def minus (a b : Nat) : Option Nat := if b ≤ a then some (a - b) else none

def literals (r size : Nat) : Option Nat := do
  let blocks ← u32 (0x21 * (r / 0x20))
  let size ← u32 (size + blocks)
  let r := r % 0x20
  if r ≠ 0 then
    let size ← u32 (size + r)
    u32 (size + 1)
  else return size

def beforeMatch (anchor idx size : Nat) : Option Nat :=
  if idx > anchor then do
    let distance ← minus idx anchor
    literals distance size
  else some size

def flzMatch (l size : Nat) : Option Nat := do
  let l ← minus l 1
  let blocks ← u32 (3 * (l / 262))
  let size ← u32 (size + blocks)
  if l % 262 ≥ 6 then u32 (size + 3) else u32 (size + 2)

/-- The low 16 bits of the shifted product, and of these 13. -/
def hash (v : Nat) : Option (Fin 8192) := do
  let product ← u64 (v * 2654435769)
  return Fin.ofNat 8192 ((product >>> 19) % 2 ^ 16 &&& 0x1fff)

section
variable (input : List UInt8)

def u24 (idx : Nat) : Option Nat := do
  let low ← input[idx]?
  let idx₁ ← u32 (idx + 1)
  let middle ← input[idx₁]?
  let idx₂ ← u32 (idx + 2)
  let high ← input[idx₂]?
  let sum ← u32 (low.toNat + middle.toNat <<< 8)
  u32 (sum + high.toNat <<< 16)

def setNextHash (htab : Table) (idx : Nat) : Option (Table × Nat) := do
  let seq ← u24 input idx
  let slot ← hash seq
  let next ← u32 (idx + 1)
  return (Function.update htab slot idx, next)

def searchTurn (idxLimit : Nat) (state : Nat × Table) : Option (Turn (Nat × Table) Found) := do
  let (idx, htab) := state
  let seq ← u24 input idx
  let slot ← hash seq
  let r := htab slot
  let htab := Function.update htab slot idx
  let distance ← minus idx r
  if idx ≥ idxLimit then return .finish ⟨idx, r, htab⟩
  let idx ← u32 (idx + 1)
  if distance < 8192 then
    let seen ← u24 input r
    if seq = seen then return .finish ⟨idx, r, htab⟩
  return .again (idx, htab)

def cmpTurn (p q : Nat) (state : Comparison) : Option (Turn Comparison Nat) :=
  if state.length < state.last then do
    let before ← u32 (p + state.length)
    let before ← input[before]?
    let here ← u32 (q + state.length)
    let here ← input[here]?
    let l ← u32 (state.length + 1)
    return .again ⟨l, if before ≠ here then 0 else state.last⟩
  else return .finish state.length

def cmp (fuel p q r : Nat) : Option Nat := do
  let r ← minus r q
  loop (cmpTurn input p q) fuel ⟨0, r⟩

def compressTurn (fuel idxLimit : Nat) (state : Compression) : Option (Turn Compression Compression) :=
  if state.index < idxLimit then do
    let found ← loop (searchTurn input idxLimit) fuel (state.index, state.table)
    if found.index ≥ idxLimit then return .finish { state with index := found.index, table := found.table }
    let idx ← minus found.index 1
    let size ← beforeMatch state.anchor idx state.size
    let p ← u32 (found.reference + 3)
    let q ← u32 (idx + 3)
    let r ← u32 (idxLimit + 9)
    let len ← cmp input fuel p q r
    let size ← flzMatch len size
    let idx ← u32 (idx + len)
    let (htab, idx) ← setNextHash input found.table idx
    let (htab, idx) ← setNextHash input htab idx
    return .again ⟨idx, idx, size, htab⟩
  else return .finish state

end

def limitOf (input : List UInt8) : Option Nat :=
  if input.length < 13 then some 0 else minus (input.length % 2 ^ 32) 13

def flzCompressLen (fuel : Nat) (input : List UInt8) : Option Nat := do
  let idxLimit ← limitOf input
  let ended ← loop (compressTurn input fuel idxLimit) fuel ⟨2, 0, 0, fun _ => 0⟩
  let rest ← minus (input.length % 2 ^ 32) ended.anchor
  literals rest ended.size

end BaseFastLz

variable {input : List UInt8} {limit : Nat}

theorem u32_run {value : Nat} (small : value < 2 ^ 32) : BaseFastLz.u32 value = some value := if_pos small

theorem minus_run {a b : Nat} (below : b ≤ a) : BaseFastLz.minus a b = some (a - b) := if_pos below

/-- Three bytes next to each other, as one number. -/
theorem packed_toNat (low middle high : UInt8) :
    (low.toBitVec.setWidth 32 ||| (middle.toBitVec.setWidth 32 <<< 8) ||| (high.toBitVec.setWidth 32 <<< 16)).toNat =
      low.toNat + middle.toNat <<< 8 + high.toNat <<< 16 := by
  have small : low.toNat < 2 ^ 8 := low.toNat_lt
  have middling : middle.toNat < 2 ^ 8 := middle.toNat_lt
  have large : high.toNat < 2 ^ 8 := high.toNat_lt
  have first : (low.toBitVec.setWidth 32).toNat = low.toNat := by
    rw [BitVec.toNat_setWidth]
    exact Nat.mod_eq_of_lt (by rw [UInt8.toNat_toBitVec]; omega)
  have second : (middle.toBitVec.setWidth 32 <<< 8).toNat = middle.toNat <<< 8 := by
    rw [BitVec.toNat_shiftLeft, BitVec.toNat_setWidth, UInt8.toNat_toBitVec, Nat.mod_eq_of_lt (a := middle.toNat) (by omega)]
    exact Nat.mod_eq_of_lt (by rw [Nat.shiftLeft_eq]; omega)
  have third : (high.toBitVec.setWidth 32 <<< 16).toNat = high.toNat <<< 16 := by
    rw [BitVec.toNat_shiftLeft, BitVec.toNat_setWidth, UInt8.toNat_toBitVec, Nat.mod_eq_of_lt (a := high.toNat) (by omega)]
    exact Nat.mod_eq_of_lt (by rw [Nat.shiftLeft_eq]; omega)
  have pair : low.toNat ||| middle.toNat <<< 8 = low.toNat + middle.toNat <<< 8 := by
    rw [Nat.or_comm, ← Nat.shiftLeft_add_eq_or_of_lt small, Nat.add_comm]
  rw [BitVec.toNat_or, BitVec.toNat_or, first, second, third, pair, Nat.or_comm,
    ← Nat.shiftLeft_add_eq_or_of_lt (by rw [Nat.shiftLeft_eq]; omega), Nat.add_comm]

theorem u24_agree (short : input.length ≤ maximumBytes) {index : Nat} (inside : index + 2 < input.length) :
    ∃ value : BitVec 32, u24 input index = some value ∧ BaseFastLz.u24 input index = some value.toNat ∧
      value.toNat < 2 ^ 24 := by
  unfold maximumBytes at short
  have low : input[index]? = some input[index] := List.getElem?_eq_getElem _
  have middle : input[index + 1]? = some input[index + 1] := List.getElem?_eq_getElem _
  have high : input[index + 2]? = some input[index + 2] := List.getElem?_eq_getElem _
  have packed := packed_toNat input[index] input[index + 1] input[index + 2]
  have small : input[index].toNat < 2 ^ 8 := input[index].toNat_lt
  have middling : input[index + 1].toNat < 2 ^ 8 := input[index + 1].toNat_lt
  have large : input[index + 2].toNat < 2 ^ 8 := input[index + 2].toNat_lt
  have sum : input[index].toNat + input[index + 1].toNat <<< 8 + input[index + 2].toNat <<< 16 < 2 ^ 24 := by
    rw [Nat.shiftLeft_eq, Nat.shiftLeft_eq]
    omega
  refine ⟨_, ?_, ?_, packed ▸ sum⟩
  · exact option_bind_run low (option_bind_run middle (option_bind_run high rfl))
  · refine option_bind_run low (option_bind_run (u32_run ?_) (option_bind_run middle (option_bind_run (u32_run ?_)
      (option_bind_run high (option_bind_run (u32_run ?_) ?_)))))
    · omega
    · omega
    · omega
    · rw [packed]
      exact u32_run (by omega)

theorem hash_agree {value : BitVec 32} (small : value.toNat < 2 ^ 24) : BaseFastLz.hash value.toNat = some (hash value) := by
  have product : value.toNat * 2654435769 < 2 ^ 64 := by omega
  rw [BaseFastLz.hash, BaseFastLz.u64, if_pos product]
  have kept : (value * 2654435769#32).toNat = value.toNat * 2654435769 % 2 ^ 32 := BitVec.toNat_mul _ _
  have masked : (value.toNat * 2654435769) >>> 19 % 2 ^ 16 &&& 0x1fff =
      ((value * 2654435769#32) >>> 19 &&& 0x1fff#32).toNat := by
    rw [BitVec.toNat_and, BitVec.toNat_ushiftRight, kept, Nat.shiftRight_eq_div_pow, Nat.shiftRight_eq_div_pow]
    change _ &&& (2 ^ 13 - 1) = _ &&& (2 ^ 13 - 1)
    rw [Nat.and_two_pow_sub_one_eq_mod, Nat.and_two_pow_sub_one_eq_mod]
    generalize value.toNat * 2654435769 = product
    omega
  exact congrArg (fun slot => some (Fin.ofNat 8192 slot)) masked

theorem literals_le (length : Nat) : literals length ≤ 2 * length := by
  unfold literals
  split <;> omega

theorem literals_agree {r size : Nat} (small : size + 2 * r < 2 ^ 32) :
    BaseFastLz.literals r size = some (size + literals r) := by
  have bound := literals_le r
  unfold literals at bound ⊢
  refine option_bind_run (u32_run (by omega)) (option_bind_run (u32_run (by omega)) ?_)
  by_cases whole : r % 32 = 0
  · rw [if_neg (not_not.mpr whole), if_neg (not_not.mpr whole)]
    rfl
  · rw [if_pos whole] at bound ⊢
    rw [if_pos whole]
    refine option_bind_run (u32_run (by omega)) ?_
    rw [u32_run (by omega), Nat.add_assoc, Nat.add_assoc]

def matchSize (length : Nat) : Nat := 3 * ((length - 1) / 262) + (if (length - 1) % 262 ≥ 6 then 3 else 2)

theorem matchSize_le (length : Nat) : matchSize length ≤ 2 * (length + 2) := by
  unfold matchSize
  split <;> omega

theorem flzMatch_agree {l size : Nat} (positive : 0 < l) (small : size + 2 * (l + 2) < 2 ^ 32) :
    BaseFastLz.flzMatch l size = some (size + matchSize l) := by
  have bound := matchSize_le l
  unfold matchSize at bound ⊢
  refine option_bind_run (minus_run positive) (option_bind_run (u32_run (by omega)) (option_bind_run (u32_run (by omega)) ?_))
  by_cases long : (l - 1) % 262 ≥ 6
  · rw [if_pos long] at bound ⊢
    rw [if_pos long, u32_run (by omega), Nat.add_assoc]
  · rw [if_neg long] at bound ⊢
    rw [if_neg long, u32_run (by omega), Nat.add_assoc]

theorem nextHash_agree (short : input.length ≤ maximumBytes) (table : Table) {index : Nat}
    (inside : index + 2 < input.length) :
    ∃ slot, nextHash input table index = some (Function.update table slot index, index + 1) ∧
      BaseFastLz.setNextHash input table index = some (Function.update table slot index, index + 1) := by
  obtain ⟨value, read, same, small⟩ := u24_agree short inside
  unfold maximumBytes at short
  refine ⟨hash value, ?_, ?_⟩
  · refine option_bind_run read ?_
    rw [Nat.mod_eq_of_lt (by omega)]
    rfl
  · exact option_bind_run same (option_bind_run (hash_agree small) (option_bind_run (u32_run (by omega)) rfl))

/-- Where the search is: no place of the table is behind it. -/
structure Scanning (limit start : Nat) (state : Nat × Table) : Prop where
  started : start ≤ state.1
  inside : state.1 ≤ limit
  table : ∀ slot, state.2 slot ≤ state.1

/-- What a search ends with: the limit, or a match of an earlier place below it. -/
structure Found.Within (limit start : Nat) (found : Found) : Prop where
  inside : found.index ≤ limit
  later : found.index < limit → start < found.index
  reference : found.index < limit → found.reference < found.index
  table : found.index < limit → ∀ slot, found.table slot < found.index

theorem update_le {table : Table} {slot : Fin 8192} {index bound : Nat} (entries : ∀ slot, table slot ≤ bound)
    (entry : index ≤ bound) : ∀ other, Function.update table slot index other ≤ bound := by
  intro other
  by_cases same : other = slot
  · rw [same, Function.update_self]
    exact entry
  · rw [Function.update_of_ne same]
    exact entries other

theorem searchTurn_agree (short : input.length ≤ maximumBytes) (whole : limit + 13 = input.length) {start : Nat}
    {state : Nat × Table} (scanning : Scanning limit start state) :
    ∃ next, searchTurn input limit state = some next ∧ BaseFastLz.searchTurn input limit state = some next ∧
      next.Good (Scanning limit start) (fun state => limit + 1 - state.1) (Found.Within limit start) state := by
  obtain ⟨index, table⟩ := state
  obtain ⟨started, inside, entries⟩ := scanning
  dsimp only at started inside entries
  have readable : index + 2 < input.length := by omega
  obtain ⟨sequence, read, same, small⟩ := u24_agree short readable
  have kept : index % 2 ^ 32 = index := Nat.mod_eq_of_lt (by unfold maximumBytes at short; omega)
  have slot := hash_agree small
  have earlier := entries (hash sequence)
  have entered : ∀ slot, Function.update table (hash sequence) index slot ≤ index := update_le entries (Nat.le_refl index)
  have counted : BaseFastLz.u32 (index + 1) = some (index + 1) := u32_run (by unfold maximumBytes at short; omega)
  unfold searchTurn BaseFastLz.searchTurn
  dsimp only
  rw [kept]
  by_cases ended : limit ≤ index
  · refine ⟨.finish ⟨index, table (hash sequence), Function.update table (hash sequence) index⟩, ?_, ?_, ?_⟩
    · refine option_bind_run read ?_
      rw [if_pos ended]
      rfl
    · refine option_bind_run same (option_bind_run slot (option_bind_run (minus_run earlier) ?_))
      rw [if_pos ended]
      rfl
    · exact ⟨inside, fun below => absurd below (Nat.not_lt.mpr ended), fun below => absurd below (Nat.not_lt.mpr ended),
        fun below => absurd below (Nat.not_lt.mpr ended)⟩
  · have onward : Scanning limit start (index + 1, Function.update table (hash sequence) index) :=
      ⟨Nat.le_succ_of_le started, Nat.lt_of_not_le ended, fun slot => Nat.le_succ_of_le (entered slot)⟩
    have closer : limit + 1 - (index + 1) < limit + 1 - index := by omega
    by_cases near : index - table (hash sequence) < 8192
    · obtain ⟨seen, looked, again, _⟩ := u24_agree short (by omega : table (hash sequence) + 2 < input.length)
      by_cases matching : sequence = seen
      · refine ⟨.finish ⟨index + 1, table (hash sequence), Function.update table (hash sequence) index⟩, ?_, ?_, ?_⟩
        · refine option_bind_run read ?_
          rw [if_neg ended, if_pos (by omega)]
          refine option_bind_run looked ?_
          rw [if_pos matching]
          rfl
        · refine option_bind_run same (option_bind_run slot (option_bind_run (minus_run earlier) ?_))
          rw [if_neg ended]
          refine option_bind_run counted ?_
          rw [if_pos near]
          refine option_bind_run again ?_
          rw [if_pos (congrArg BitVec.toNat matching)]
          rfl
        · exact ⟨Nat.lt_of_not_le ended, fun _ => Nat.lt_succ_of_le started, fun _ => Nat.lt_succ_of_le earlier,
            fun _ slot => Nat.lt_succ_of_le (entered slot)⟩
      · refine ⟨.again (index + 1, Function.update table (hash sequence) index), ?_, ?_, onward, closer⟩
        · refine option_bind_run read ?_
          rw [if_neg ended, if_pos (by omega)]
          refine option_bind_run looked ?_
          rw [if_neg matching]
          rfl
        · refine option_bind_run same (option_bind_run slot (option_bind_run (minus_run earlier) ?_))
          rw [if_neg ended]
          refine option_bind_run counted ?_
          rw [if_pos near]
          refine option_bind_run again ?_
          rw [if_neg (fun alike => matching (BitVec.eq_of_toNat_eq alike))]
          rfl
    · refine ⟨.again (index + 1, Function.update table (hash sequence) index), ?_, ?_, onward, closer⟩
      · refine option_bind_run read ?_
        rw [if_neg ended, if_neg (by omega)]
        rfl
      · refine option_bind_run same (option_bind_run slot (option_bind_run (minus_run earlier) ?_))
        rw [if_neg ended]
        refine option_bind_run counted ?_
        rw [if_neg near]
        rfl

/-- Where the comparison is: at no more than its end, and it has compared or will. -/
structure Comparing (most : Nat) (state : Comparison) : Prop where
  length : state.length ≤ most
  last : state.last ≤ most
  started : state.length = 0 → 0 < state.last

theorem compareTurn_agree (short : input.length ≤ maximumBytes) {reference index most : Nat} (earlier : reference ≤ index)
    (readable : index + 3 + most ≤ input.length) {state : Comparison} (comparing : Comparing most state) :
    ∃ next, compareTurn input reference index state = some next ∧
      BaseFastLz.cmpTurn input (reference + 3) (index + 3) state = some next ∧
      next.Good (Comparing most) (fun state => most - state.length) (fun length => 0 < length ∧ length ≤ most) state := by
  obtain ⟨length, last, started⟩ := comparing
  unfold maximumBytes at short
  unfold compareTurn BaseFastLz.cmpTurn
  by_cases more : state.length < state.last
  · have before : input[reference + 3 + state.length]? = some input[reference + 3 + state.length] :=
      List.getElem?_eq_getElem _
    have here : input[index + 3 + state.length]? = some input[index + 3 + state.length] := List.getElem?_eq_getElem _
    rw [if_pos more, if_pos more]
    refine ⟨_, option_bind_run before (option_bind_run here rfl), ?_, ?_, ?_⟩
    · refine option_bind_run (u32_run (by omega)) (option_bind_run before (option_bind_run (u32_run (by omega))
        (option_bind_run here (option_bind_run (u32_run (by omega)) rfl))))
    · refine ⟨Nat.le_trans more last, ?_, fun none => absurd none (Nat.succ_ne_zero _)⟩
      dsimp only
      split
      · exact Nat.zero_le _
      · exact last
    · dsimp only
      omega
  · rw [if_neg more, if_neg more]
    refine ⟨_, rfl, rfl, ?_, length⟩
    obtain none | positive := Nat.eq_zero_or_pos state.length
    · have := started none
      omega
    · exact positive

/-- Between two matches: the size is of what is before the anchor, and at most twice as much. -/
structure Compressing (input : List UInt8) (limit : Nat) (state : Compression) : Prop where
  inside : state.index ≤ limit + 8
  anchor : state.anchor ≤ state.index
  written : state.anchor ≤ input.length
  size : state.size ≤ 2 * state.anchor
  table : ∀ slot, state.table slot ≤ state.index

/-- What the outer loop ends with. -/
structure Compressed (input : List UInt8) (state : Compression) : Prop where
  written : state.anchor ≤ input.length
  size : state.size ≤ 2 * state.anchor

theorem beforeMatch_agree {anchor index size : Nat} (short : index ≤ maximumBytes) (sized : size ≤ 2 * anchor)
    (anchored : anchor ≤ index) :
    let next := if anchor < index then size + literals (index - anchor) else size
    BaseFastLz.beforeMatch anchor index size = some next ∧ next ≤ 2 * index := by
  intro next
  unfold BaseFastLz.beforeMatch
  unfold maximumBytes at short
  by_cases apart : anchor < index
  · have bound := literals_le (index - anchor)
    have value : next = size + literals (index - anchor) := if_pos apart
    rw [if_pos apart, value]
    refine ⟨option_bind_run (minus_run anchored) (literals_agree (by omega)), by omega⟩
  · have value : next = size := if_neg apart
    rw [if_neg apart, value]
    exact ⟨rfl, by omega⟩

theorem compressTurn_agree (short : input.length ≤ maximumBytes) {fuel : Nat} (enough : input.length < fuel)
    {state : Compression} (compressing : Compressing input (input.length - 13) state) :
    ∃ next, compressTurn input fuel (input.length - 13) state = some next ∧
      BaseFastLz.compressTurn input fuel (input.length - 13) state = some next ∧
      next.Good (Compressing input (input.length - 13)) (fun state => input.length - 13 + 9 - state.index)
        (Compressed input) state := by
  obtain ⟨inside, anchored, written, sized, entries⟩ := compressing
  have bound : input.length ≤ 131072 := short
  unfold compressTurn BaseFastLz.compressTurn
  by_cases more : state.index < input.length - 13
  · have whole : input.length - 13 + 13 = input.length := by omega
    generalize input.length - 13 = limit at *
    rw [if_pos more, if_pos more]
    obtain ⟨found, scanned, same, within⟩ := loop_agree
      (fun _ scanning => searchTurn_agree short whole scanning)
      (⟨Nat.le_refl _, Nat.le_of_lt more, entries⟩ : Scanning limit state.index (state.index, state.table))
      (by dsimp only; omega : _ < fuel)
    by_cases ended : limit ≤ found.index
    · refine ⟨.finish { state with index := found.index, table := found.table }, ?_, ?_, written, sized⟩
      · refine option_bind_run scanned ?_
        rw [if_pos ended]
        rfl
      · refine option_bind_run same ?_
        rw [if_pos ended]
        rfl
    · obtain ⟨_, later, earlier, table⟩ := within
      have below := Nat.lt_of_not_le ended
      obtain ⟨place, reference, htab⟩ := found
      dsimp only at later earlier table below ended
      obtain ⟨index, rfl⟩ : ∃ index, place = index + 1 := ⟨place - 1, by have := later below; omega⟩
      have passed := Nat.le_of_lt_succ (later below)
      have behind := Nat.le_of_lt_succ (earlier below)
      obtain ⟨length, compared, alike, positive, most⟩ := loop_agree
        (fun _ comparing => compareTurn_agree short behind (by omega) comparing)
        (⟨Nat.zero_le _, Nat.le_refl _, fun _ => by dsimp only; omega⟩ :
          Comparing (limit + 9 - (index + 3)) ⟨0, limit + 9 - (index + 3)⟩)
        (by dsimp only; omega : _ < fuel)
      obtain ⟨unmatched, unmatchedSize⟩ := beforeMatch_agree (by omega) sized (Nat.le_trans anchored passed)
      obtain ⟨first, hashed, rehashed⟩ := nextHash_agree short htab (by omega : index + length + 2 < input.length)
      obtain ⟨second, following, refollowing⟩ := nextHash_agree short (Function.update htab first (index + length))
        (by omega : index + length + 1 + 2 < input.length)
      generalize unmatchedIs : (if state.anchor < index then state.size + literals (index - state.anchor) else state.size) =
        size at unmatched unmatchedSize
      have matchedSize := matchSize_le length
      refine ⟨.again ⟨index + length + 1 + 1, index + length + 1 + 1, size + matchSize length,
        Function.update (Function.update htab first (index + length)) second (index + length + 1)⟩, ?_, ?_, ?_, ?_⟩
      · refine option_bind_run scanned ?_
        rw [if_neg ended]
        refine option_bind_run compared (option_bind_run hashed (option_bind_run following ?_))
        dsimp only
        rw [Nat.add_sub_cancel, unmatchedIs, Nat.add_assoc size]
        rfl
      · refine option_bind_run same ?_
        rw [if_neg ended]
        have previous : BaseFastLz.minus (index + 1) 1 = some index := minus_run (Nat.le_add_left 1 index)
        have before : BaseFastLz.u32 (reference + 3) = some (reference + 3) := u32_run (by omega)
        have cmp : BaseFastLz.cmp input fuel (reference + 3) (index + 3) (limit + 9) = some length :=
          option_bind_run (minus_run (by omega)) alike
        refine option_bind_run previous (option_bind_run unmatched (option_bind_run before (option_bind_run (u32_run ?_)
          (option_bind_run (u32_run ?_) (option_bind_run cmp (option_bind_run (flzMatch_agree positive ?_)
            (option_bind_run (u32_run ?_) (option_bind_run rehashed (option_bind_run refollowing rfl)))))))))
        · omega
        · omega
        · omega
        · omega
      · refine ⟨?_, Nat.le_refl _, ?_, ?_, ?_⟩
        · dsimp only
          omega
        · dsimp only
          omega
        · dsimp only
          omega
        · have old : ∀ slot, htab slot ≤ index + length + 1 + 1 := fun slot => by
            have entry := table below slot
            omega
          have once : ∀ slot, Function.update htab first (index + length) slot ≤ index + length + 1 + 1 :=
            update_le old (by omega)
          have twice : ∀ slot, Function.update (Function.update htab first (index + length)) second (index + length + 1) slot ≤
              index + length + 1 + 1 := update_le once (by omega)
          exact twice
      · dsimp only
        omega
  · rw [if_neg more, if_neg more]
    exact ⟨_, rfl, rfl, written, sized⟩

/-- The port and the reference agree on every input within the bound: both end, neither reads outside the input, and no
operation of the reference leaves its machine type. -/
theorem baseFastLzLength_agree {fuel : Nat} {bytes : List UInt8} (short : bytes.length ≤ maximumBytes)
    (enough : bytes.length + 8 < fuel) :
    ∃ size, baseFastLzLength fuel bytes = some size ∧ BaseFastLz.flzCompressLen fuel bytes = some size ∧
      size ≤ 2 * bytes.length := by
  have bound : bytes.length ≤ 131072 := short
  have turns : bytes.length < fuel := by omega
  have start : Compressing bytes (bytes.length - 13) ⟨2, 0, 0, fun _ => 0⟩ :=
    ⟨by dsimp only; omega, Nat.zero_le _, Nat.zero_le _, Nat.le_refl _, fun _ => Nat.zero_le _⟩
  obtain ⟨ended, compressed, same, written, sized⟩ := loop_agree
    (fun _ compressing => compressTurn_agree short turns compressing) start
    (by omega : bytes.length - 13 + 9 - 2 < fuel)
  have rest := literals_le (bytes.length - ended.anchor)
  refine ⟨ended.size + literals (bytes.length - ended.anchor), ?_, ?_, by omega⟩
  · rw [baseFastLzLength, if_neg (Nat.not_lt.mpr short)]
    exact option_bind_run compressed rfl
  · have length : bytes.length % 2 ^ 32 = bytes.length := Nat.mod_eq_of_lt (by omega)
    have limit : BaseFastLz.limitOf bytes = some (bytes.length - 13) := by
      unfold BaseFastLz.limitOf
      rw [length]
      split
      · rw [Nat.sub_eq_zero_of_le (by omega)]
      · exact minus_run (by omega)
    unfold BaseFastLz.flzCompressLen
    rw [length]
    have small : ended.size + 2 * (bytes.length - ended.anchor) < 2 ^ 32 := by omega
    exact option_bind_run limit (option_bind_run same (option_bind_run (minus_run written) (literals_agree small)))

/-- Thirty zero bytes: three of them, a match, and the five that no match may reach. -/
theorem baseFastLzLength_agree_zeros :
    baseFastLzLength 40 (List.replicate 30 0) = some 12 ∧ BaseFastLz.flzCompressLen 40 (List.replicate 30 0) = some 12 := by
  have computed : baseFastLzLength 40 (List.replicate 30 0) = some 12 := by decide +kernel
  obtain ⟨size, port, reference, _⟩ :=
    @baseFastLzLength_agree 40 (List.replicate 30 0) (by decide) (by decide)
  rw [computed] at port
  cases port
  exact ⟨computed, reference⟩

end JBCenter.Wallet.Fees
