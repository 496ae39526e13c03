import JBCenter.Base.JsonTokens
import JBCenter.Base.Numerals

/-! The compact text of a JSON value, and a reader that takes a value off the front of a text. -/
namespace JBCenter.JsonTexts
open Utf16 (unit isHigh isLow Paired)
open JsonTokens
open List (append_assoc append_nil forall_mem_cons forall_mem_map length_append length_cons map_cons mem_cons_self)

/-- A value by its parts: those of an array, and those of an object under their names. -/
@[elab_as_elim, induction_eliminator]
theorem JsonValue.parts {P : JsonValue → Prop} (scalar : ∀ value, P (.scalar value))
    (array : ∀ items, (∀ item ∈ items, P item) → P (.array items))
    (object : ∀ members, (∀ member ∈ members, P member.2) → P (.object members)) (value : JsonValue) : P value :=
  @JsonValue.rec P (fun items => ∀ item ∈ items, P item) (fun members => ∀ member ∈ members, P member.2)
    (fun member => P member.2) scalar array object nofun
    (fun _ _ first others => forall_mem_cons.mpr ⟨first, others⟩) nofun
    (fun _ _ first others => forall_mem_cons.mpr ⟨first, others⟩) (fun _ _ second => second) value

def hexUnit (n : Nat) : UInt16 := UInt16.ofNat (if n < 10 then 48 + n else 87 + n)

/-- The letters of the escapes of one letter. -/
def shortEscapes : List (UInt16 × UInt16) :=
  [(quote, quote), (backslash, backslash), (8, unit 'b'), (12, unit 'f'), (10, unit 'n'), (13, unit 'r'), (9, unit 't')]

/-- How a code unit is written between quotes where it is not half of a pair. -/
def escapeUnit (u : UInt16) : CodeUnits :=
  match shortEscapes.lookup u with
  | some letter => [backslash, letter]
  | none =>
    if u.toNat < 32 || isHigh u || isLow u then
      [backslash, unit 'u', hexUnit (u.toNat / 4096), hexUnit (u.toNat / 256 % 16),
        hexUnit (u.toNat / 16 % 16), hexUnit (u.toNat % 16)]
    else [u]

/-- What stands between the quotes of a string; pairs of surrogates stand as they are. -/
def escapeText : CodeUnits → CodeUnits
  | [] => []
  | [u] => escapeUnit u
  | u :: v :: rest => if isHigh u && isLow v then u :: v :: escapeText rest else escapeUnit u ++ escapeText (v :: rest)

def quoted (text : CodeUnits) : CodeUnits := quote :: escapeText text ++ [quote]

def scalarText : Scalar → CodeUnits
  | .text value => quoted value
  | .number numeral => numeral
  | .boolean value => if value then trueText else falseText
  | .null => nullText

def commas : List CodeUnits → CodeUnits
  | [] => []
  | [text] => text
  | text :: next :: rest => text ++ unit ',' :: commas (next :: rest)

def bracketed (texts : List CodeUnits) : CodeUnits := unit '[' :: commas texts ++ [unit ']']

def braced (texts : List CodeUnits) : CodeUnits := unit '{' :: commas texts ++ [unit '}']

def memberText (member : CodeUnits × CodeUnits) : CodeUnits := quoted member.1 ++ unit ':' :: member.2

mutual
/-- The text of a value, with no spaces. -/
def render : JsonValue → CodeUnits
  | .scalar value => scalarText value
  | .array items => bracketed (renderItems items)
  | .object members => braced (renderMembers members)

def renderItems : List JsonValue → List CodeUnits
  | [] => []
  | item :: items => render item :: renderItems items

def renderMembers : List (CodeUnits × JsonValue) → List CodeUnits
  | [] => []
  | (name, value) :: members => memberText (name, render value) :: renderMembers members
end

theorem renderItems_eq (items : List JsonValue) : renderItems items = items.map render := by
  induction items with
  | nil => rfl
  | cons item items ih => rw [renderItems, ih, map_cons]

theorem renderMembers_eq (members : List (CodeUnits × JsonValue)) :
    renderMembers members = members.map (fun member => memberText (member.1, render member.2)) := by
  induction members with
  | nil => rfl
  | cons member members ih => rw [renderMembers, ih, map_cons]

mutual
/-- Every numeral of the value is one. -/
def Numerals : JsonValue → Prop
  | .scalar (.number numeral) => NumberText numeral
  | .scalar _ => True
  | .array items => NumeralsItems items
  | .object members => NumeralsMembers members

def NumeralsItems : List JsonValue → Prop
  | [] => True
  | item :: items => Numerals item ∧ NumeralsItems items

def NumeralsMembers : List (CodeUnits × JsonValue) → Prop
  | [] => True
  | (_, value) :: members => Numerals value ∧ NumeralsMembers members
end

variable {items : List JsonValue} {members : List (CodeUnits × JsonValue)}

@[simp] theorem numerals_array : Numerals (.array items) ↔ ∀ item ∈ items, Numerals item := by
  rw [Numerals]
  induction items with
  | nil => exact iff_of_true trivial nofun
  | cons item items ih => rw [NumeralsItems, ih, forall_mem_cons]

@[simp] theorem numerals_object :
    Numerals (.object members) ↔ ∀ member ∈ members, Numerals member.2 := by
  rw [Numerals]
  induction members with
  | nil => exact iff_of_true trivial nofun
  | cons member members ih => rw [NumeralsMembers, ih, forall_mem_cons]

section Strings

variable {u e : UInt16} {body value rest text : CodeUnits}

/-- A fact about each item of a short list, by evaluation. -/
theorem forall_of_all {P : α → Prop} [DecidablePred P] {items : List α} (all : items.all (fun item => decide (P item)) = true) :
    ∀ item ∈ items, P item := by
  simpa using all

theorem escaped_letter (short : shortEscapes.lookup u = some e) : escaped e = some u := by
  have each : ∀ pair ∈ shortEscapes, escaped pair.2 = some pair.1 := forall_of_all (by decide)
  obtain ⟨before, after, split, _⟩ := List.lookup_eq_some_iff.mp short
  exact each (u, e) (split ▸ List.mem_append_right before mem_cons_self)

theorem hexDigit_hexUnit {n : Nat} (small : n < 16) : hexDigit (hexUnit n) = some n := by
  have each : ∀ n < 16, hexDigit (hexUnit n) = some n := by decide
  exact each n small

theorem hexCode_hexUnits (u : UInt16) : hexCode (hexUnit (u.toNat / 4096)) (hexUnit (u.toNat / 256 % 16))
    (hexUnit (u.toNat / 16 % 16)) (hexUnit (u.toNat % 16)) = some u := by
  have bound := u.toNat_lt
  have whole : u.toNat / 4096 * 4096 + u.toNat / 256 % 16 * 256 + u.toNat / 16 % 16 * 16 + u.toNat % 16 = u.toNat := by omega
  rw [hexCode, hexDigit_hexUnit (by omega), hexDigit_hexUnit (by omega), hexDigit_hexUnit (by omega), hexDigit_hexUnit (by omega)]
  exact congrArg some ((congrArg UInt16.ofNat whole).trans (UInt16.ofNat_toNat))

/-- A code unit that is written by itself is none that must be escaped. -/
theorem shortEscapes_none (long : shortEscapes.lookup u = none) : u ≠ quote ∧ u ≠ backslash := by
  constructor <;> rintro rfl <;> exact absurd long (by decide)

theorem StringBody.escapeUnit_append (string : StringBody body value) : StringBody (escapeUnit u ++ body) (u :: value) := by
  unfold escapeUnit
  split
  case h_1 letter short => exact .escape (escaped_letter short) string
  case h_2 long =>
    obtain ⟨notQuote, notBackslash⟩ := shortEscapes_none long
    split
    case isTrue => exact .unicode (hexCode_hexUnits u) string
    case isFalse plain =>
      rw [Bool.or_eq_true, Bool.or_eq_true, not_or, not_or, decide_eq_true_eq] at plain
      exact .plain (Nat.not_lt.mp plain.1.1) notQuote notBackslash string

/-- A surrogate is none of the code units that must be escaped. -/
theorem surrogate_plain (surrogate : isHigh u = true ∨ isLow u = true) : 32 ≤ u.toNat ∧ u ≠ quote ∧ u ≠ backslash := by
  have large : 0xd800 ≤ u.toNat := by
    rw [isHigh, isLow, Bool.and_eq_true, Bool.and_eq_true, decide_eq_true_eq, decide_eq_true_eq, decide_eq_true_eq,
      decide_eq_true_eq] at surrogate
    omega
  refine ⟨by omega, ?_, ?_⟩ <;> rintro rfl <;> exact absurd large (by decide)

theorem StringBody.of_escapeText (text : CodeUnits) : StringBody (escapeText text) text := by
  fun_induction escapeText text with
  | case1 => exact .empty
  | case2 u =>
    have one := StringBody.escapeUnit_append (u := u) .empty
    rwa [append_nil] at one
  | case3 u v rest pair ih =>
    rw [Bool.and_eq_true] at pair
    obtain ⟨printable, notQuote, notBackslash⟩ := surrogate_plain (.inl pair.1)
    obtain ⟨printable', notQuote', notBackslash'⟩ := surrogate_plain (.inr pair.2)
    exact .plain printable notQuote notBackslash (.plain printable' notQuote' notBackslash' ih)
  | case4 u v rest _ ih => exact StringBody.escapeUnit_append ih

theorem hexUnit_small {n : Nat} (small : n < 16) : (hexUnit n).toNat < 0xd800 := by
  have each : ∀ n < 16, (hexUnit n).toNat < 0xd800 := by decide
  exact each n small

theorem paired_escapeUnit (u : UInt16) : Paired (escapeUnit u) := by
  have bound := u.toNat_lt
  unfold escapeUnit
  split
  case h_1 letter short =>
    have each : ∀ pair ∈ shortEscapes, pair.2.toNat < 0xd800 := forall_of_all (by decide)
    obtain ⟨before, after, split, _⟩ := List.lookup_eq_some_iff.mp short
    have small : letter.toNat < 0xd800 := each (u, letter) (split ▸ List.mem_append_right before mem_cons_self)
    exact (Paired.nil.cons small).cons (by decide)
  case h_2 =>
    split
    case isTrue =>
      refine ((((Paired.nil.cons ?_).cons ?_).cons ?_).cons ?_).cons (by decide) |>.cons (by decide) <;>
        exact hexUnit_small (by omega)
    case isFalse plain =>
      rw [Bool.or_eq_true, Bool.or_eq_true, not_or, not_or] at plain
      exact .alone (eq_false_of_ne_true plain.1.2) (eq_false_of_ne_true plain.2) .nil

/-- No lone surrogate stands between the quotes of a written string. -/
theorem paired_escapeText (text : CodeUnits) : Paired (escapeText text) := by
  fun_induction escapeText text with
  | case1 => exact .nil
  | case2 u => exact paired_escapeUnit u
  | case3 u v rest pair ih =>
    rw [Bool.and_eq_true] at pair
    exact .pair pair.1 pair.2 ih
  | case4 u v rest _ ih => exact (paired_escapeUnit u).append ih

theorem paired_quoted (text : CodeUnits) : Paired (quoted text) :=
  ((paired_escapeText text).append (Paired.nil.cons (by decide))).cons (by decide)

/-- A written string is read back, whatever follows it. -/
theorem scanBody_escapeText (text rest : CodeUnits) :
    scanBody (escapeText text ++ quote :: rest) = some (escapeText text, rest) ∧ decodeBody (escapeText text) = text :=
  ⟨scanBody_complete (StringBody.of_escapeText text), decodeBody_eq (StringBody.of_escapeText text)⟩

end Strings

def skipSpaces (text : CodeUnits) : CodeUnits := text.dropWhile isSpace

def scalar? (read : Option (CodeUnits × CodeUnits)) (value : CodeUnits → Scalar) : Option (JsonValue × CodeUnits) :=
  read.map (fun (token, rest) => (.scalar (value token), rest))

/-- A word of its own, such as the one of no value. -/
def scanWord (word text : CodeUnits) : Option (CodeUnits × CodeUnits) :=
  if word.isPrefixOf text then some (word, text.drop word.length) else none

mutual
/-- The value at the front of a text. Two calls in a row take a code unit, so that twice the text's length is fuel enough. -/
def readValue : Nat → CodeUnits → Option (JsonValue × CodeUnits)
  | 0, _ => none
  | fuel + 1, text =>
    match skipSpaces text with
    | [] => none
    | u :: rest =>
      if u = unit '[' then
        match skipSpaces rest with
        | [] => none
        | v :: after => if v = unit ']' then some (.array [], after)
            else (readItems fuel (v :: after)).map (fun (items, rest) => (.array items, rest))
      else if u = unit '{' then
        match skipSpaces rest with
        | [] => none
        | v :: after =>
          if v = unit '}' then some (.object [], after)
          else (readMembers fuel (v :: after)).map (fun (members, rest) => (.object members, rest))
      else if u = quote then scalar? (scanBody rest) (fun body => .text (decodeBody body))
      else if u = unit 't' then scalar? (scanWord trueText (u :: rest)) (fun _ => .boolean true)
      else if u = unit 'f' then scalar? (scanWord falseText (u :: rest)) (fun _ => .boolean false)
      else if u = unit 'n' then scalar? (scanWord nullText (u :: rest)) (fun _ => .null)
      else scalar? (scanNumber (u :: rest)) .number

def readItems : Nat → CodeUnits → Option (List JsonValue × CodeUnits)
  | 0, _ => none
  | fuel + 1, text => do
    let (item, text) ← readValue fuel text
    match skipSpaces text with
    | [] => none
    | u :: rest =>
      if u = unit ']' then some ([item], rest)
      else if u = unit ',' then (readItems fuel rest).map (fun (items, rest) => (item :: items, rest))
      else none

def readMembers : Nat → CodeUnits → Option (List (CodeUnits × JsonValue) × CodeUnits)
  | 0, _ => none
  | fuel + 1, text =>
    match skipSpaces text with
    | [] => none
    | u :: text =>
      if u = quote then do
        let (name, text) ← scanBody text
        match skipSpaces text with
        | [] => none
        | v :: text =>
          if v = unit ':' then do
            let (value, text) ← readValue fuel text
            match skipSpaces text with
            | [] => none
            | w :: rest =>
              if w = unit '}' then some ([(decodeBody name, value)], rest)
              else if w = unit ',' then
                (readMembers fuel rest).map (fun (members, rest) => ((decodeBody name, value) :: members, rest))
              else none
          else none
      else none
end

/-- The value that a whole text is of. -/
def parse (text : CodeUnits) : Option JsonValue := do
  let (value, rest) ← readValue (2 * text.length) text
  if rest.all isSpace then some value else none

section Readers

variable {u : UInt16} {text rest token : CodeUnits} {fuel : Nat}

theorem skipSpaces_cons (solid : isSpace u = false) (rest : CodeUnits) : skipSpaces (u :: rest) = u :: rest :=
  List.dropWhile_cons_of_neg (Bool.not_eq_true _ ▸ solid)

theorem isPrefixOf_append (word rest : CodeUnits) : word.isPrefixOf (word ++ rest) = true :=
  List.isPrefixOf_iff_prefix.mpr (List.prefix_append word rest)

theorem scanWord_append (word rest : CodeUnits) : scanWord word (word ++ rest) = some (word, rest) := by
  rw [scanWord, if_pos (isPrefixOf_append word rest), List.drop_left]

theorem readValue_text (value rest : CodeUnits) :
    readValue (fuel + 1) (quoted value ++ rest) = some (.scalar (.text value), rest) := by
  obtain ⟨scanned, decoded⟩ := scanBody_escapeText value rest
  rw [quoted, append_assoc, List.cons_append, List.singleton_append, readValue, skipSpaces_cons rfl]
  simp only [if_neg (show quote ≠ unit '[' by decide), if_neg (show quote ≠ unit '{' by decide), if_pos, scanned, scalar?,
    Option.map_some, decoded]

theorem readValue_word {word : CodeUnits} {value : Scalar} (listed : (word, value) ∈ [(trueText, Scalar.boolean true),
    (falseText, .boolean false), (nullText, .null)]) : readValue (fuel + 1) (word ++ rest) = some (.scalar value, rest) := by
  have scanned := scanWord_append word rest
  simp only [List.mem_cons, List.not_mem_nil, or_false, Prod.mk.injEq] at listed
  obtain ⟨rfl, rfl⟩ | ⟨rfl, rfl⟩ | ⟨rfl, rfl⟩ := listed
  · rw [readValue]
    exact congrArg (scalar? · fun _ => .boolean true) scanned
  · rw [readValue]
    exact congrArg (scalar? · fun _ => .boolean false) scanned
  · rw [readValue]
    exact congrArg (scalar? · fun _ => .null) scanned

/-- The first code unit of a numeral begins nothing else. -/
theorem numeral_first (first : isDigit u = true ∨ u = unit '-') : isSpace u = false ∧
    ∀ mark ∈ [unit '[', unit '{', quote, unit 't', unit 'f', unit 'n'], u ≠ mark := by
  obtain digit | rfl := first
  · rw [isDigit, Bool.and_eq_true, decide_eq_true_eq, decide_eq_true_eq] at digit
    have differs : ∀ mark : UInt16, mark.toNat < 48 ∨ 57 < mark.toNat → u ≠ mark := by
      rintro mark outside rfl
      omega
    constructor
    · have space : ∀ mark ∈ [unit ' ', unit '\t', unit '\r', unit '\n'], mark.toNat < 48 := forall_of_all (by decide)
      have none := fun mark member => differs mark (.inl (space mark member))
      simp only [isSpace, Bool.or_eq_false_iff, beq_eq_false_iff_ne]
      exact ⟨⟨⟨none _ (by decide), none _ (by decide)⟩, none _ (by decide)⟩, none _ (by decide)⟩
    · have marks : ∀ mark ∈ [unit '[', unit '{', quote, unit 't', unit 'f', unit 'n'], mark.toNat < 48 ∨ 57 < mark.toNat :=
        forall_of_all (by decide)
      exact fun mark member => differs mark (marks mark member)
  · exact ⟨rfl, forall_of_all (by decide)⟩

theorem readValue_number (number : NumberText token) (stops : Stops continues rest) :
    readValue (fuel + 1) (token ++ rest) = some (.scalar (.number token), rest) := by
  have scanned := scanNumber_complete number stops
  obtain ⟨u, others, rfl, first⟩ := number.head
  obtain ⟨solid, differ⟩ := numeral_first first
  rw [List.cons_append] at scanned ⊢
  rw [readValue, skipSpaces_cons solid]
  have bracket := differ (unit '[') (by decide)
  have brace := differ (unit '{') (by decide)
  have mark := differ quote (by decide)
  have yes := differ (unit 't') (by decide)
  have no := differ (unit 'f') (by decide)
  have null := differ (unit 'n') (by decide)
  simp only [if_neg bracket, if_neg brace, if_neg mark, if_neg yes, if_neg no, if_neg null, scanned, scalar?, Option.map_some]

theorem readValue_scalar {value : Scalar} (numerals : Numerals (.scalar value)) (stops : Stops continues rest) :
    readValue (fuel + 1) (scalarText value ++ rest) = some (.scalar value, rest) := by
  cases value with
  | text value => exact readValue_text value rest
  | number numeral => exact readValue_number numerals stops
  | boolean value => cases value <;> exact readValue_word (by decide)
  | null => exact readValue_word (by decide)

variable {value : JsonValue} {items : List JsonValue} {members : List (CodeUnits × JsonValue)}

/-- The first code unit of a value's text. -/
theorem render_first (numerals : Numerals value) :
    ∃ u others, render value = u :: others ∧ isSpace u = false ∧ u ≠ unit ']' := by
  cases value with
  | array items => exact ⟨_, _, rfl, rfl, by decide⟩
  | object members => exact ⟨_, _, rfl, rfl, by decide⟩
  | scalar value =>
    cases value with
    | text value => exact ⟨_, _, rfl, rfl, by decide⟩
    | boolean value => cases value <;> exact ⟨_, _, rfl, rfl, by decide⟩
    | null => exact ⟨_, _, rfl, rfl, by decide⟩
    | number numeral =>
      obtain ⟨u, others, rfl, first⟩ := NumberText.head numerals
      refine ⟨u, others, rfl, (numeral_first first).1, ?_⟩
      rintro rfl
      exact absurd first (by decide)

/-- A value is read back from its text, whatever follows it. -/
def ReadsBack (value : JsonValue) : Prop := ∀ fuel rest, 2 * (render value).length ≤ fuel → Stops continues rest →
  readValue fuel (render value ++ rest) = some (value, rest)

/-- An item is taken off the front, and what follows it decides whether more are read. -/
theorem readItems_item {item : JsonValue} (first : ReadsBack item) (enough : 2 * (render item).length ≤ fuel)
    (solid : isSpace u = false) (stops : continues u = false) :
    readItems (fuel + 1) (render item ++ u :: rest) =
      if u = unit ']' then some ([item], rest)
      else if u = unit ',' then (readItems fuel rest).map (fun (items, rest) => (item :: items, rest)) else none := by
  rw [readItems, first fuel (u :: rest) enough (Stops.cons stops), Option.bind_eq_bind, Option.bind_some]
  simp only [skipSpaces_cons solid]

theorem readItems_commas (nonempty : items ≠ []) (each : ∀ item ∈ items, ReadsBack item)
    (enough : 2 * (commas (renderItems items)).length < fuel) :
    readItems fuel (commas (renderItems items) ++ unit ']' :: rest) = some (items, rest) := by
  induction items generalizing fuel with
  | nil => exact absurd rfl nonempty
  | cons item items ih =>
    obtain ⟨fuel, rfl⟩ := Nat.exists_eq_succ_of_ne_zero (Nat.ne_of_gt (Nat.zero_lt_of_lt enough))
    obtain ⟨first, others⟩ := forall_mem_cons.mp each
    cases items with
    | nil =>
      rw [renderItems, renderItems, commas, readItems_item first (Nat.le_of_lt_succ enough) rfl rfl, if_pos rfl]
    | cons next items =>
      have readRest := @ih
      rw [renderItems] at readRest
      rw [renderItems, renderItems, commas] at enough ⊢
      rw [length_append, length_cons] at enough
      rw [append_assoc, List.cons_append, readItems_item first (by omega) rfl rfl, if_neg (by decide), if_pos rfl,
        readRest (List.cons_ne_nil _ _) others (by omega), Option.map_some]

/-- A member is taken off the front, and what follows it decides whether more are read. -/
theorem readMembers_member {name : CodeUnits} (first : ReadsBack value) (enough : 2 * (render value).length ≤ fuel)
    (solid : isSpace u = false) (stops : continues u = false) :
    readMembers (fuel + 1) (memberText (name, render value) ++ u :: rest) =
      if u = unit '}' then some ([(name, value)], rest)
      else if u = unit ',' then
        (readMembers fuel rest).map (fun (members, rest) => ((name, value) :: members, rest)) else none := by
  obtain ⟨scanned, decoded⟩ := scanBody_escapeText name (unit ':' :: (render value ++ u :: rest))
  have split : memberText (name, render value) ++ u :: rest =
    quote :: (escapeText name ++ quote :: unit ':' :: (render value ++ u :: rest)) := by
    simp only [memberText, quoted, List.cons_append, append_assoc, List.nil_append]
  rw [split, readMembers, skipSpaces_cons rfl]
  simp only [if_pos, scanned, decoded, Option.bind_eq_bind, Option.bind_some,
    skipSpaces_cons (show isSpace (unit ':') = false from rfl),
    first fuel (u :: rest) enough (Stops.cons stops), skipSpaces_cons solid]

theorem readMembers_commas (nonempty : members ≠ [])
    (each : ∀ member ∈ members, ReadsBack member.2) (enough : 2 * (commas (renderMembers members)).length < fuel) :
    readMembers fuel (commas (renderMembers members) ++ unit '}' :: rest) = some (members, rest) := by
  induction members generalizing fuel with
  | nil => exact absurd rfl nonempty
  | cons member members ih =>
    obtain ⟨fuel, rfl⟩ := Nat.exists_eq_succ_of_ne_zero (Nat.ne_of_gt (Nat.zero_lt_of_lt enough))
    obtain ⟨first, others⟩ := forall_mem_cons.mp each
    have size : (memberText (member.1, render member.2)).length = (quoted member.1).length + (render member.2).length + 1 := by
      rw [memberText, length_append, length_cons, Nat.add_assoc]
    cases members with
    | nil =>
      rw [renderMembers, renderMembers, commas] at enough ⊢
      rw [readMembers_member first (by omega) rfl rfl, if_pos rfl]
    | cons next members =>
      have readRest := @ih
      rw [renderMembers] at readRest
      rw [renderMembers, renderMembers, commas] at enough ⊢
      rw [length_append, length_cons] at enough
      rw [append_assoc, List.cons_append, readMembers_member first (by omega) rfl rfl, if_neg (by decide), if_pos rfl,
        readRest (List.cons_ne_nil _ _) others (by omega), Option.map_some]

/-- The first code unit of some texts with commas between them. -/
theorem commas_first {text others : CodeUnits} (texts : List CodeUnits) (first : text = u :: others) :
    ∃ more, commas (text :: texts) = u :: more := by
  rw [first]
  cases texts with
  | nil => exact ⟨others, rfl⟩
  | cons next texts => exact ⟨_, rfl⟩

theorem readsBack (numerals : Numerals value) : ReadsBack value := by
  induction value with
  | scalar value =>
    intro fuel rest enough stops
    obtain ⟨u, others, same, _⟩ := render_first numerals
    rw [same, length_cons] at enough
    obtain ⟨fuel, rfl⟩ := Nat.exists_eq_succ_of_ne_zero (show fuel ≠ 0 by omega)
    exact readValue_scalar numerals stops
  | array items ih =>
    intro fuel rest enough stops
    have size : (render (.array items)).length = (commas (renderItems items)).length + 2 := by
      rw [render, bracketed, length_append, length_cons]
      rfl
    obtain ⟨fuel, rfl⟩ := Nat.exists_eq_succ_of_ne_zero (show fuel ≠ 0 by omega)
    have inner := fun nonempty => @readItems_commas rest fuel items nonempty
      (fun item member => ih item member (numerals_array.mp numerals item member)) (by omega)
    rw [render, bracketed, append_assoc, List.cons_append, List.singleton_append, readValue, skipSpaces_cons rfl]
    cases items with
    | nil => rfl
    | cons item items =>
      obtain ⟨u, others, same, solid, open'⟩ := render_first (numerals_array.mp numerals item mem_cons_self)
      obtain ⟨more, texts⟩ := commas_first (renderItems items) same
      have read := inner (List.cons_ne_nil _ _)
      rw [renderItems, texts, List.cons_append] at read ⊢
      simp only [if_pos, skipSpaces_cons solid, if_neg open', read, Option.map_some]
  | object members ih =>
    intro fuel rest enough stops
    have size : (render (.object members)).length = (commas (renderMembers members)).length + 2 := by
      rw [render, braced, length_append, length_cons]
      rfl
    obtain ⟨fuel, rfl⟩ := Nat.exists_eq_succ_of_ne_zero (show fuel ≠ 0 by omega)
    have inner := fun nonempty => @readMembers_commas rest fuel members nonempty
      (fun member listed => ih member listed (numerals_object.mp numerals member listed)) (by omega)
    rw [render, braced, append_assoc, List.cons_append, List.singleton_append, readValue, skipSpaces_cons rfl]
    cases members with
    | nil => rfl
    | cons member members =>
      obtain ⟨more, texts⟩ := commas_first (renderMembers members) (show memberText (member.1,
        render member.2) = quote :: _ from rfl)
      have read := inner (List.cons_ne_nil _ _)
      rw [renderMembers, texts, List.cons_append] at read ⊢
      simp only [if_neg (show unit '{' ≠ unit '[' by decide), if_pos, skipSpaces_cons (show isSpace quote = false from rfl),
        if_neg (show quote ≠ unit '}' by decide), read, Option.map_some]

/-- What is written is read back. -/
theorem parse_render (numerals : Numerals value) : parse (render value) = some value := by
  have read := readsBack numerals (2 * (render value).length) [] le_rfl nofun
  rw [append_nil] at read
  rw [parse, read]
  rfl

end Readers

section Bytes

variable {u : UInt16} {token : CodeUnits}

theorem isDigit_small (digit : isDigit u = true) : u.toNat < 0xd800 := by
  rw [isDigit, Bool.and_eq_true, decide_eq_true_eq, decide_eq_true_eq] at digit
  omega

theorem Digits.small {digits : CodeUnits} (nonempty : Digits digits) : ∀ u ∈ digits, u.toNat < 0xd800 :=
  fun u member => isDigit_small (nonempty.2 u member)

theorem IntegerText.small {whole : CodeUnits} (integer : IntegerText whole) : ∀ u ∈ whole, u.toNat < 0xd800 := by
  cases integer with
  | zero => exact forall_of_all (by decide)
  | positive digit _ all => exact forall_mem_cons.mpr ⟨isDigit_small digit, fun u member => isDigit_small (all u member)⟩

theorem FractionText.small {fraction : CodeUnits} (part : FractionText fraction) : ∀ u ∈ fraction, u.toNat < 0xd800 := by
  cases part with
  | none => exact nofun
  | some digits => exact forall_mem_cons.mpr ⟨by decide, Digits.small digits⟩

theorem isExponentMark_small (mark : isExponentMark u = true) : u.toNat < 0xd800 := by
  rw [isExponentMark, Bool.or_eq_true, beq_iff_eq, beq_iff_eq] at mark
  obtain rfl | rfl := mark <;> decide

theorem isSign_small (sign : isSign u = true) : u.toNat < 0xd800 := by
  rw [isSign, Bool.or_eq_true, beq_iff_eq, beq_iff_eq] at sign
  obtain rfl | rfl := sign <;> decide

theorem ExponentText.small {exponent : CodeUnits} (scale : ExponentText exponent) : ∀ u ∈ exponent, u.toNat < 0xd800 := by
  cases scale with
  | none => exact nofun
  | plain mark digits => exact forall_mem_cons.mpr ⟨isExponentMark_small mark, Digits.small digits⟩
  | signed mark sign digits =>
    exact forall_mem_cons.mpr ⟨isExponentMark_small mark, forall_mem_cons.mpr ⟨isSign_small sign, Digits.small digits⟩⟩

theorem paired_numeral (number : NumberText token) : Paired token := by
  cases number with
  | natural integer part scale =>
    exact ((Paired.of_forall (IntegerText.small integer)).append (.of_forall (FractionText.small part))).append
      (.of_forall (ExponentText.small scale))
  | negative integer part scale =>
    have unsigned := ((Paired.of_forall (IntegerText.small integer)).append (.of_forall (FractionText.small part))).append
      (.of_forall (ExponentText.small scale))
    exact unsigned.cons (by decide)

theorem paired_commas {texts : List CodeUnits} (each : ∀ text ∈ texts, Paired text) : Paired (commas texts) := by
  induction texts with
  | nil => exact .nil
  | cons text texts ih =>
    obtain ⟨first, others⟩ := forall_mem_cons.mp each
    cases texts with
    | nil => exact first
    | cons next texts => exact first.append ((ih others).cons (by decide))

variable {value : JsonValue}

/-- The text of a value has no lone surrogate. -/
theorem paired_render (numerals : Numerals value) : Paired (render value) := by
  induction value with
  | scalar value =>
    cases value with
    | text value => exact paired_quoted value
    | number numeral => exact paired_numeral numerals
    | boolean value => cases value <;> exact .of_forall (forall_of_all (by decide))
    | null => exact .of_forall (forall_of_all (by decide))
  | array items ih =>
    rw [render, bracketed, renderItems_eq]
    have each := paired_commas (forall_mem_map.mpr fun item member => ih item member (numerals_array.mp numerals item member))
    exact (each.append (Paired.nil.cons (by decide))).cons (by decide)
  | object members ih =>
    rw [render, braced, renderMembers_eq]
    have each : ∀ member ∈ members, Paired (memberText (member.1, render member.2)) := fun member listed =>
      (paired_quoted member.1).append ((ih member listed (numerals_object.mp numerals member listed)).cons (by decide))
    exact ((paired_commas (forall_mem_map.mpr each)).append (Paired.nil.cons (by decide))).cons (by decide)

end Bytes

section Integers

/-- The digits of a number. -/
def digits (n : Nat) : CodeUnits := (Nat.toDigits 10 n).map unit

/-- An integer, in decimal. -/
def integerText : Int → CodeUnits
  | .ofNat n => digits n
  | .negSucc n => unit '-' :: digits (n + 1)

theorem digit_unit {d : Nat} (small : d < 10) :
    isDigit (unit d.digitChar) = true ∧ (d.digitChar ≠ '0' → unit d.digitChar ≠ unit '0') := by
  have each : ∀ d < 10, isDigit (unit d.digitChar) = true ∧ (d.digitChar ≠ '0' → unit d.digitChar ≠ unit '0') := by decide
  exact each d small

theorem isDigit_digits (n : Nat) : ∀ u ∈ digits n, isDigit u = true := by
  refine forall_mem_map.mpr fun c member => ?_
  have numeral : IsNumeral 10 (Nat.toDigits 10 n) := isNumeral_toDigits (by decide)
  obtain ⟨d, small, rfl⟩ := numeral c member
  exact (digit_unit small).1

theorem integer_digits (n : Nat) : IntegerText (digits n) := by
  obtain rfl | positive := Nat.eq_zero_or_pos n
  · exact .zero
  · have numeral : IsNumeral 10 (Nat.toDigits 10 n) := isNumeral_toDigits (by decide)
    have leading : (Nat.toDigits 10 n).head? ≠ some '0' := toDigits_head (by decide) positive
    obtain ⟨first, rest, spelled⟩ := List.exists_cons_of_ne_nil (Nat.toDigits_ne_nil (n := n) (b := 10))
    rw [digits, spelled, map_cons]
    rw [spelled, List.head?_cons, ne_eq, Option.some.injEq] at leading
    rw [spelled] at numeral
    obtain ⟨d, small, rfl⟩ := numeral first mem_cons_self
    refine .positive (digit_unit small).1 ((digit_unit small).2 leading) (forall_mem_map.mpr fun c member => ?_)
    obtain ⟨d', small', rfl⟩ := numeral c (List.mem_cons_of_mem _ member)
    exact (digit_unit small').1

theorem number_integerText (value : Int) : NumberText (integerText value) := by
  cases value with
  | ofNat n =>
    have number := NumberText.natural (integer_digits n) .none .none
    rwa [append_nil, append_nil] at number
  | negSucc n =>
    have number := NumberText.negative (integer_digits (n + 1)) .none .none
    rwa [append_nil, append_nil] at number

end Integers

end JBCenter.JsonTexts
