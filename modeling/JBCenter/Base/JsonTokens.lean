import JBCenter.Base.Utf16
import Mathlib.Data.List.TakeWhile

/-! The tokens of JSON texts, over the code units of their strings: what a token is, and the scanner that takes one off
the front of a text. -/
namespace JBCenter.JsonTokens
open Utf16 (unit)

def quote : UInt16 := unit '"'

def backslash : UInt16 := unit '\\'

def isSpace (u : UInt16) : Bool := u == unit ' ' || u == unit '\t' || u == unit '\r' || u == unit '\n'

def isDigit (u : UInt16) : Bool := 48 ≤ u.toNat && u.toNat ≤ 57

def hexDigit (u : UInt16) : Option Nat :=
  if isDigit u then some (u.toNat - 48)
  else if 97 ≤ u.toNat ∧ u.toNat ≤ 102 then some (u.toNat - 87)
  else if 65 ≤ u.toNat ∧ u.toNat ≤ 70 then some (u.toNat - 55)
  else none

/-- The code unit that four hexadecimal digits name. -/
def hexCode (a b c d : UInt16) : Option UInt16 := do
  let a ← hexDigit a
  let b ← hexDigit b
  let c ← hexDigit c
  let d ← hexDigit d
  return UInt16.ofNat (a * 4096 + b * 256 + c * 16 + d)

/-- The code unit that an escape of one letter names. -/
def escaped (u : UInt16) : Option UInt16 :=
  [(quote, quote), (backslash, backslash), (unit '/', unit '/'), (unit 'b', 8), (unit 'f', 12), (unit 'n', 10), (unit 'r', 13),
    (unit 't', 9)].lookup u

/-- The text between the quotes of a string, and the string. -/
inductive StringBody : CodeUnits → CodeUnits → Prop where
  | empty : StringBody [] []
  | plain {u : UInt16} {body value : CodeUnits} : 32 ≤ u.toNat → u ≠ quote → u ≠ backslash → StringBody body value →
      StringBody (u :: body) (u :: value)
  | escape {e u : UInt16} {body value : CodeUnits} : escaped e = some u → StringBody body value →
      StringBody (backslash :: e :: body) (u :: value)
  | unicode {a b c d u : UInt16} {body value : CodeUnits} : hexCode a b c d = some u → StringBody body value →
      StringBody (backslash :: unit 'u' :: a :: b :: c :: d :: body) (u :: value)

def Digits (text : CodeUnits) : Prop := text ≠ [] ∧ ∀ u ∈ text, isDigit u = true

inductive IntegerText : CodeUnits → Prop where
  | zero : IntegerText [unit '0']
  | positive {first : UInt16} {rest : CodeUnits} : isDigit first = true → first ≠ unit '0' → (∀ u ∈ rest, isDigit u = true) →
      IntegerText (first :: rest)

inductive FractionText : CodeUnits → Prop where
  | none : FractionText []
  | some {digits : CodeUnits} : Digits digits → FractionText (unit '.' :: digits)

def isExponentMark (u : UInt16) : Bool := u == unit 'e' || u == unit 'E'

def isSign (u : UInt16) : Bool := u == unit '+' || u == unit '-'

inductive ExponentText : CodeUnits → Prop where
  | none : ExponentText []
  | plain {mark : UInt16} {digits : CodeUnits} : isExponentMark mark = true → Digits digits → ExponentText (mark :: digits)
  | signed {mark sign : UInt16} {digits : CodeUnits} : isExponentMark mark = true → isSign sign = true → Digits digits →
      ExponentText (mark :: sign :: digits)

inductive NumberText : CodeUnits → Prop where
  | natural {whole fraction exponent : CodeUnits} : IntegerText whole → FractionText fraction → ExponentText exponent →
      NumberText (whole ++ fraction ++ exponent)
  | negative {whole fraction exponent : CodeUnits} : IntegerText whole → FractionText fraction → ExponentText exponent →
      NumberText (unit '-' :: whole ++ fraction ++ exponent)

/-- A value without parts; a number is kept as its numeral. -/
inductive Scalar where
  | text (value : CodeUnits)
  | number (numeral : CodeUnits)
  | boolean (value : Bool)
  | null
  deriving DecidableEq

def trueText : CodeUnits := "true".toList.map unit

def falseText : CodeUnits := "false".toList.map unit

def nullText : CodeUnits := "null".toList.map unit

inductive ScalarText : CodeUnits → Scalar → Prop where
  | text {body value : CodeUnits} : StringBody body value → ScalarText (quote :: body ++ [quote]) (.text value)
  | number {numeral : CodeUnits} : NumberText numeral → ScalarText numeral (.number numeral)
  | yes : ScalarText trueText (.boolean true)
  | no : ScalarText falseText (.boolean false)
  | null : ScalarText nullText .null

inductive JsonValue where
  | scalar (value : Scalar)
  | array (items : List JsonValue)
  | object (members : List (CodeUnits × JsonValue))

def Spaces (text : CodeUnits) : Prop := ∀ u ∈ text, isSpace u = true

inductive Padded (P : CodeUnits → β → Prop) : CodeUnits → β → Prop where
  | intro {before text after : CodeUnits} {value : β} : Spaces before → P text value → Spaces after →
      Padded P (before ++ text ++ after) value

inductive MemberText (Value : CodeUnits → β → Prop) : CodeUnits → CodeUnits × β → Prop where
  | intro {before body key after text : CodeUnits} {value : β} : Spaces before → StringBody body key → Spaces after →
      Padded Value text value → MemberText Value (before ++ (quote :: body ++ [quote]) ++ after ++ unit ':' :: text) (key, value)

/-- Items with a comma between each and the next. -/
inductive ItemsText (Item : CodeUnits → β → Prop) : CodeUnits → List β → Prop where
  | one {text : CodeUnits} {value : β} : Item text value → ItemsText Item text [value]
  | more {text rest : CodeUnits} {value : β} {values : List β} : Item text value → ItemsText Item rest values →
      ItemsText Item (text ++ unit ',' :: rest) (value :: values)

/-- The texts of values, without spaces around them. -/
inductive ValueText : CodeUnits → JsonValue → Prop where
  | scalar {text : CodeUnits} {value : Scalar} : ScalarText text value → ValueText text (.scalar value)
  | emptyArray {gap : CodeUnits} : Spaces gap → ValueText (unit '[' :: gap ++ [unit ']']) (.array [])
  | array {body : CodeUnits} {items : List JsonValue} : ItemsText (Padded ValueText) body items →
      ValueText (unit '[' :: body ++ [unit ']']) (.array items)
  | emptyObject {gap : CodeUnits} : Spaces gap → ValueText (unit '{' :: gap ++ [unit '}']) (.object [])
  | object {body : CodeUnits} {members : List (CodeUnits × JsonValue)} : ItemsText (MemberText ValueText) body members →
      ValueText (unit '{' :: body ++ [unit '}']) (.object members)

theorem ItemsText.map {Item : CodeUnits → β → Prop} {Item' : CodeUnits → γ → Prop} {f : β → γ}
    (same : ∀ text value, Item text value ↔ Item' text (f value)) {text : CodeUnits} {values : List β} :
    ItemsText Item text values ↔ ItemsText Item' text (values.map f) := by
  constructor
  · intro items
    induction items with
    | one item => exact .one ((same _ _).mp item)
    | more item _ ih => exact .more ((same _ _).mp item) ih
  · intro items
    generalize mapped : values.map f = others at items
    induction items generalizing values with
    | one item =>
      obtain ⟨value, rfl, rfl⟩ := List.map_eq_singleton_iff.mp mapped
      exact .one ((same _ _).mpr item)
    | more item _ ih =>
      obtain ⟨value, rest, rfl, rfl, rfl⟩ := List.map_eq_cons_iff.mp mapped
      exact .more ((same _ _).mpr item) (ih rfl)

/-- The text up to the closing quote of a string, and the text behind that quote. -/
def scanBody : CodeUnits → Option (CodeUnits × CodeUnits)
  | [] => none
  | u :: text =>
    if u = quote then some ([], text)
    else if u = backslash then
      match text with
      | [] => none
      | e :: text =>
        if (escaped e).isSome then (scanBody text).map (fun (body, rest) => (u :: e :: body, rest))
        else if e = unit 'u' then
          match text with
          | a :: b :: c :: d :: text =>
            if (hexCode a b c d).isSome then (scanBody text).map (fun (body, rest) => (u :: e :: a :: b :: c :: d :: body, rest))
            else none
          | _ => none
        else none
    else if u.toNat < 32 then none
    else (scanBody text).map (fun (body, rest) => (u :: body, rest))

/-- The string that the text between its quotes is of. -/
def decodeBody : CodeUnits → CodeUnits
  | [] => []
  | u :: text =>
    if u = backslash then
      match text with
      | [] => []
      | e :: text =>
        match escaped e with
        | some v => v :: decodeBody text
        | none =>
          match text with
          | a :: b :: c :: d :: text => (hexCode a b c d).getD 0 :: decodeBody text
          | _ => []
    else u :: decodeBody text

def scanDigits (text : CodeUnits) : CodeUnits × CodeUnits := (text.takeWhile isDigit, text.dropWhile isDigit)

def scanInteger : CodeUnits → Option (CodeUnits × CodeUnits)
  | [] => none
  | u :: text =>
    if u = unit '0' then some ([u], text)
    else if isDigit u then some (u :: (scanDigits text).1, (scanDigits text).2)
    else none

def scanFraction (text : CodeUnits) : CodeUnits × CodeUnits :=
  match text with
  | u :: v :: rest => if u == unit '.' && isDigit v then (u :: v :: (scanDigits rest).1, (scanDigits rest).2) else ([], text)
  | _ => ([], text)

def scanExponent (text : CodeUnits) : CodeUnits × CodeUnits :=
  match text with
  | u :: v :: rest =>
    if isExponentMark u then
      if isDigit v then (u :: v :: (scanDigits rest).1, (scanDigits rest).2)
      else
        match rest with
        | w :: rest => if isSign v && isDigit w then (u :: v :: w :: (scanDigits rest).1, (scanDigits rest).2) else ([], text)
        | [] => ([], text)
    else ([], text)
  | _ => ([], text)

def scanUnsigned (text : CodeUnits) : Option (CodeUnits × CodeUnits) := do
  let (whole, text) ← scanInteger text
  let (fraction, text) := scanFraction text
  let (exponent, text) := scanExponent text
  return (whole ++ fraction ++ exponent, text)

def scanNumber : CodeUnits → Option (CodeUnits × CodeUnits)
  | [] => none
  | u :: text => if u = unit '-' then (scanUnsigned text).map (fun (number, rest) => (u :: number, rest))
      else scanUnsigned (u :: text)

section Strings

variable {text body value rest : CodeUnits}

theorem scanBody_complete (string : StringBody body value) : scanBody (body ++ quote :: rest) = some (body, rest) := by
  induction string with
  | empty => rw [List.nil_append, scanBody.eq_def]; rfl
  | plain printable notQuote notBackslash _ ih =>
    rw [List.cons_append, scanBody.eq_def]
    simp only [if_neg notQuote, if_neg notBackslash, if_neg (Nat.not_lt.mpr printable), ih, Option.map_some]
  | @escape e u body value known _ ih =>
    have some : (escaped e).isSome = true := by rw [known]; rfl
    rw [List.cons_append, List.cons_append, scanBody.eq_def]
    simp only [if_neg (show backslash ≠ quote by decide), if_pos, some, ih, Option.map_some]
  | @unicode a b c d u body value known _ ih =>
    have some : (hexCode a b c d).isSome = true := by rw [known]; rfl
    have none : ¬(escaped (unit 'u')).isSome = true := by decide
    simp only [List.cons_append] at ih ⊢
    rw [scanBody.eq_def]
    simp only [if_neg (show backslash ≠ quote by decide), if_pos, if_neg none, some, ih, Option.map_some]

theorem decodeBody_eq (string : StringBody body value) : decodeBody body = value := by
  induction string with
  | empty => rfl
  | plain _ _ notBackslash _ ih =>
    rw [decodeBody.eq_def]
    simp only [if_neg notBackslash, ih]
  | escape known _ ih =>
    rw [decodeBody.eq_def]
    simp only [if_pos, known, ih]
  | unicode known _ ih =>
    have none : escaped (unit 'u') = none := by decide
    rw [decodeBody.eq_def]
    simp only [if_pos, none, known, Option.getD_some, ih]

theorem scanBody_sound (scanned : scanBody text = some (body, rest)) :
    text = body ++ quote :: rest ∧ ∃ value, StringBody body value := by
  fun_induction scanBody text generalizing body rest with
  | case2 text =>
    cases scanned
    exact ⟨rfl, [], .empty⟩
  | case4 e text known _ ih =>
    obtain ⟨⟨inner, behind⟩, scanned, same⟩ := Option.map_eq_some_iff.mp scanned
    cases same
    obtain ⟨rfl, value, string⟩ := ih scanned
    obtain ⟨u, known⟩ := Option.isSome_iff_exists.mp known
    exact ⟨rfl, u :: value, .escape known string⟩
  | case5 a b c d text known _ _ ih =>
    obtain ⟨⟨inner, behind⟩, scanned, same⟩ := Option.map_eq_some_iff.mp scanned
    cases same
    obtain ⟨rfl, value, string⟩ := ih scanned
    obtain ⟨u, known⟩ := Option.isSome_iff_exists.mp known
    exact ⟨rfl, u :: value, .unicode known string⟩
  | case10 u text notQuote notBackslash printable ih =>
    obtain ⟨⟨inner, behind⟩, scanned, same⟩ := Option.map_eq_some_iff.mp scanned
    cases same
    obtain ⟨rfl, value, string⟩ := ih scanned
    exact ⟨rfl, u :: value, .plain (Nat.not_lt.mp printable) notQuote notBackslash string⟩
  | case1 | case3 | case6 | case7 | case8 | case9 => cases scanned

end Strings

section Numbers

variable {text token rest whole fraction exponent digits : CodeUnits} {p : UInt16 → Bool}

/-- A text that does not go on with such a code unit. -/
def Stops (p : UInt16 → Bool) (text : CodeUnits) : Prop := ∀ u ∈ text.head?, p u = false

theorem Stops.cons {u : UInt16} (stops : p u = false) : Stops p (u :: text) := by
  intro v first
  cases first
  exact stops

theorem takeWhile_stops (all : ∀ u ∈ digits, p u = true) (stops : Stops p rest) :
    (digits ++ rest).takeWhile p = digits ∧ (digits ++ rest).dropWhile p = rest := by
  have none : rest.takeWhile p = [] ∧ rest.dropWhile p = rest := by
    cases rest with
    | nil => exact ⟨rfl, rfl⟩
    | cons u rest =>
      have fails := stops u rfl
      rw [List.takeWhile_cons, List.dropWhile_cons, fails]
      exact ⟨rfl, rfl⟩
  rw [List.takeWhile_append_of_pos all, List.dropWhile_append_of_pos all, none.1, none.2, List.append_nil]
  exact ⟨rfl, rfl⟩

theorem scanDigits_complete (all : ∀ u ∈ digits, isDigit u = true) (stops : Stops isDigit rest) :
    scanDigits (digits ++ rest) = (digits, rest) := Prod.ext (takeWhile_stops all stops).1 (takeWhile_stops all stops).2

theorem scanDigits_sound (text : CodeUnits) :
    text = (scanDigits text).1 ++ (scanDigits text).2 ∧ ∀ u ∈ (scanDigits text).1, isDigit u = true :=
  ⟨List.takeWhile_append_dropWhile.symm, fun _ member => List.mem_takeWhile_imp member⟩

theorem scanInteger_complete (integer : IntegerText whole) (stops : Stops isDigit rest) :
    scanInteger (whole ++ rest) = some (whole, rest) := by
  cases integer with
  | zero => rfl
  | positive digit nonzero all =>
    rw [List.cons_append, scanInteger, if_neg nonzero, if_pos digit, scanDigits_complete all stops]

theorem scanInteger_sound (scanned : scanInteger text = some (token, rest)) : text = token ++ rest ∧ IntegerText token := by
  unfold scanInteger at scanned
  split at scanned
  case h_1 => cases scanned
  case h_2 u text =>
    split at scanned
    case isTrue zero =>
      cases scanned
      rw [zero]
      exact ⟨rfl, .zero⟩
    case isFalse nonzero =>
      split at scanned
      case isTrue digit =>
        cases scanned
        obtain ⟨whole, all⟩ := scanDigits_sound text
        exact ⟨congrArg (u :: ·) whole, .positive digit nonzero all⟩
      case isFalse => cases scanned

theorem scanFraction_none (noPoint : Stops (· == unit '.') rest) : scanFraction rest = ([], rest) := by
  match rest, noPoint with
  | [], _ | [_], _ => rfl
  | u :: v :: others, noPoint =>
    have fails : (u == unit '.') = false := noPoint u rfl
    rw [scanFraction, fails, Bool.false_and, if_neg Bool.false_ne_true]

theorem scanFraction_complete (part : FractionText fraction) (stops : Stops isDigit rest) (noPoint : Stops (· == unit '.') rest) :
    scanFraction (fraction ++ rest) = (fraction, rest) := by
  cases part with
  | none => exact scanFraction_none noPoint
  | some nonempty =>
    obtain ⟨some, all⟩ := nonempty
    obtain ⟨first, others, rfl⟩ := List.exists_cons_of_ne_nil some
    obtain ⟨digit, all⟩ := List.forall_mem_cons.mp all
    rw [List.cons_append, List.cons_append, scanFraction, beq_self_eq_true, digit, Bool.and_self, if_pos rfl,
      scanDigits_complete all stops]

theorem scanFraction_sound (text : CodeUnits) :
    text = (scanFraction text).1 ++ (scanFraction text).2 ∧ FractionText (scanFraction text).1 := by
  unfold scanFraction
  split
  case h_1 u v rest =>
    split
    case isTrue point =>
      rw [Bool.and_eq_true, beq_iff_eq] at point
      obtain ⟨whole, all⟩ := scanDigits_sound rest
      rw [point.1]
      exact ⟨congrArg (fun tail => unit '.' :: v :: tail) whole, .some ⟨nofun, List.forall_mem_cons.mpr ⟨point.2, all⟩⟩⟩
    case isFalse => exact ⟨rfl, .none⟩
  case h_2 => exact ⟨rfl, .none⟩

theorem scanExponent_none (noMark : Stops isExponentMark rest) : scanExponent rest = ([], rest) := by
  match rest, noMark with
  | [], _ | [_], _ => rfl
  | u :: v :: others, noMark =>
    have fails : isExponentMark u = false := noMark u rfl
    simp only [scanExponent, fails, Bool.false_eq_true, if_false]

/-- A sign is no digit. -/
theorem isDigit_sign {u : UInt16} (sign : isSign u = true) : isDigit u = false := by
  rw [isSign, Bool.or_eq_true, beq_iff_eq, beq_iff_eq] at sign
  obtain rfl | rfl := sign <;> rfl

theorem scanExponent_complete (part : ExponentText exponent) (stops : Stops isDigit rest) (noMark : Stops isExponentMark rest) :
    scanExponent (exponent ++ rest) = (exponent, rest) := by
  cases part with
  | none => exact scanExponent_none noMark
  | plain mark nonempty =>
    obtain ⟨some, all⟩ := nonempty
    obtain ⟨first, others, rfl⟩ := List.exists_cons_of_ne_nil some
    obtain ⟨digit, all⟩ := List.forall_mem_cons.mp all
    simp only [List.cons_append, scanExponent, mark, digit, if_true, scanDigits_complete all stops]
  | signed mark sign nonempty =>
    obtain ⟨some, all⟩ := nonempty
    obtain ⟨first, others, rfl⟩ := List.exists_cons_of_ne_nil some
    obtain ⟨digit, all⟩ := List.forall_mem_cons.mp all
    simp only [List.cons_append, scanExponent, mark, isDigit_sign sign, sign, digit, Bool.and_self, if_true, Bool.false_eq_true,
      if_false, scanDigits_complete all stops]

theorem scanExponent_sound (text : CodeUnits) :
    text = (scanExponent text).1 ++ (scanExponent text).2 ∧ ExponentText (scanExponent text).1 := by
  unfold scanExponent
  split
  case h_1 u v rest =>
    split
    case isTrue mark =>
      split
      case isTrue digit =>
        obtain ⟨whole, all⟩ := scanDigits_sound rest
        exact ⟨congrArg (fun tail => u :: v :: tail) whole, .plain mark ⟨nofun, List.forall_mem_cons.mpr ⟨digit, all⟩⟩⟩
      case isFalse =>
        split
        case h_1 w rest =>
          split
          case isTrue signed =>
            rw [Bool.and_eq_true] at signed
            obtain ⟨whole, all⟩ := scanDigits_sound rest
            exact ⟨congrArg (fun tail => u :: v :: w :: tail) whole,
              .signed mark signed.1 ⟨nofun, List.forall_mem_cons.mpr ⟨signed.2, all⟩⟩⟩
          case isFalse => exact ⟨rfl, .none⟩
        case h_2 => exact ⟨rfl, .none⟩
    case isFalse => exact ⟨rfl, .none⟩
  case h_2 => exact ⟨rfl, .none⟩

/-- A code unit with which a numeral may go on. -/
def continues (u : UInt16) : Bool := isDigit u || u == unit '.' || isExponentMark u

theorem stops_fraction (part : FractionText fraction) (stops : Stops isDigit rest) : Stops isDigit (fraction ++ rest) := by
  cases part with
  | none => exact stops
  | some => exact Stops.cons (by decide)

theorem isExponentMark_cases {u : UInt16} (mark : isExponentMark u = true) : isDigit u = false ∧ (u == unit '.') = false := by
  rw [isExponentMark, Bool.or_eq_true, beq_iff_eq, beq_iff_eq] at mark
  obtain rfl | rfl := mark <;> exact ⟨rfl, rfl⟩

theorem stops_exponent (part : ExponentText exponent) (stops : Stops isDigit rest) (noPoint : Stops (· == unit '.') rest) :
    Stops isDigit (exponent ++ rest) ∧ Stops (· == unit '.') (exponent ++ rest) := by
  cases part with
  | none => exact ⟨stops, noPoint⟩
  | plain mark | signed mark => exact ⟨Stops.cons (isExponentMark_cases mark).1, Stops.cons (isExponentMark_cases mark).2⟩

theorem scanUnsigned_complete (integer : IntegerText whole) (part : FractionText fraction) (scale : ExponentText exponent)
    (stops : Stops continues rest) :
    scanUnsigned (whole ++ fraction ++ exponent ++ rest) = some (whole ++ fraction ++ exponent, rest) := by
  have each : ∀ u ∈ rest.head?, isDigit u = false ∧ (u == unit '.') = false ∧ isExponentMark u = false := by
    intro u first
    have fails := stops u first
    rw [continues, Bool.or_eq_false_iff, Bool.or_eq_false_iff] at fails
    exact ⟨fails.1.1, fails.1.2, fails.2⟩
  have digit : Stops isDigit rest := fun u first => (each u first).1
  have point : Stops (· == unit '.') rest := fun u first => (each u first).2.1
  have mark : Stops isExponentMark rest := fun u first => (each u first).2.2
  obtain ⟨digitExponent, pointExponent⟩ := stops_exponent scale digit point
  have wholeRead := scanInteger_complete integer (stops_fraction part digitExponent)
  rw [List.append_assoc, List.append_assoc]
  unfold scanUnsigned
  simp only [wholeRead, scanFraction_complete part digitExponent pointExponent, scanExponent_complete scale digit mark,
    Option.bind_eq_bind, Option.bind_some, Option.pure_def]

theorem scanUnsigned_sound (scanned : scanUnsigned text = some (token, rest)) :
    text = token ++ rest ∧ ∃ whole fraction exponent,
      token = whole ++ fraction ++ exponent ∧ IntegerText whole ∧ FractionText fraction ∧ ExponentText exponent := by
  obtain ⟨⟨whole, behind⟩, wholeRead, read⟩ := Option.bind_eq_some_iff.mp scanned
  change some (whole ++ (scanFraction behind).1 ++ (scanExponent (scanFraction behind).2).1,
    (scanExponent (scanFraction behind).2).2) = some (token, rest) at read
  obtain ⟨rfl, rfl⟩ := Prod.mk.inj (Option.some.inj read)
  obtain ⟨wholeText, integer⟩ := scanInteger_sound wholeRead
  obtain ⟨fractionText, part⟩ := scanFraction_sound behind
  obtain ⟨exponentText, scale⟩ := scanExponent_sound (scanFraction behind).2
  refine ⟨?_, whole, _, _, rfl, integer, part, scale⟩
  rw [List.append_assoc, List.append_assoc, ← exponentText, ← fractionText, wholeText]

theorem scanNumber_complete (number : NumberText token) (stops : Stops continues rest) :
    scanNumber (token ++ rest) = some (token, rest) := by
  cases number with
  | natural integer part scale =>
    have scanned := scanUnsigned_complete integer part scale stops
    cases integer with
    | zero => exact scanned
    | @positive first others digit =>
      have unsigned : first ≠ unit '-' := by
        rintro rfl
        cases digit
      rw [List.cons_append, List.cons_append, List.cons_append, scanNumber, if_neg unsigned]
      exact scanned
  | negative integer part scale =>
    have scanned := scanUnsigned_complete integer part scale stops
    rw [List.cons_append, List.cons_append, List.cons_append, scanNumber, if_pos rfl, scanned]
    rfl

theorem scanNumber_sound (scanned : scanNumber text = some (token, rest)) : text = token ++ rest ∧ NumberText token := by
  unfold scanNumber at scanned
  split at scanned
  case h_1 => cases scanned
  case h_2 u text =>
    split at scanned
    case isTrue minus =>
      obtain ⟨⟨number, behind⟩, scanned, same⟩ := Option.map_eq_some_iff.mp scanned
      cases same
      obtain ⟨rfl, whole, fraction, exponent, rfl, integer, part, scale⟩ := scanUnsigned_sound scanned
      rw [minus]
      exact ⟨rfl, .negative integer part scale⟩
    case isFalse =>
      obtain ⟨read, whole, fraction, exponent, rfl, integer, part, scale⟩ := scanUnsigned_sound scanned
      exact ⟨read, .natural integer part scale⟩

/-- The first code unit of a numeral. -/
theorem NumberText.head (number : NumberText token) : ∃ u others, token = u :: others ∧ (isDigit u = true ∨ u = unit '-') := by
  cases number with
  | negative => exact ⟨_, _, rfl, .inr rfl⟩
  | natural integer =>
    cases integer with
    | zero => exact ⟨_, _, rfl, .inl rfl⟩
    | positive digit => exact ⟨_, _, rfl, .inl digit⟩

end Numbers

end JBCenter.JsonTokens
