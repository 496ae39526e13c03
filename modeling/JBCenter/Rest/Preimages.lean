import JBCenter.Base.JsonValues
import JBCenter.Mcp.PlanVerification

/-! The canonical texts whose digests are commitments: of transaction plans, of sponsorships, of user operations, of sealed
plans and of launch intents. The encoders are written apart; they differ in what they refuse and in what they drop. -/
namespace JBCenter.Preimages
open Utf16 (unit)
open JsonTokens JsonTexts JsonValues
open Rest (RestError)

/-- The numbers of the language, as far as the encoders look into them: `text` is what `JSON.stringify` writes of a finite
number and `parse` the number `JSON.parse` reads a numeral as. -/
structure Numbers (ν : Type) where
  isFinite : ν → Bool
  isSafeInteger : ν → Bool
  isZero : ν → Bool
  text : ν → CodeUnits
  parse : CodeUnits → ν

variable {ν : Type}

/-- One number, but for the sign of zero. -/
def Numbers.Same (numbers : Numbers ν) (first second : ν) : Prop :=
  first = second ∨ numbers.isZero first = true ∧ numbers.isZero second = true

/-- What is documented of numbers: a finite one is written as a numeral that is read as the same number, and both zeros are
written `0`. -/
structure Numbers.Documented (numbers : Numbers ν) : Prop where
  safe : ∀ {value}, numbers.isSafeInteger value = true → numbers.isFinite value = true
  numeral : ∀ {value}, numbers.isFinite value = true → NumberText (numbers.text value)
  reread : ∀ {value}, numbers.isFinite value = true → numbers.Same value (numbers.parse (numbers.text value))
  zero : ∀ {value}, numbers.isZero value = true → numbers.isSafeInteger value = true ∧ numbers.text value = [unit '0']

variable (numbers : Numbers ν)

/-- Every finite number is written, a large integer as a text, and a member without a value is left out. -/
def lenient : Rules ν where
  number value := if numbers.isFinite value then some (numbers.text value) else none
  bigint value := some (integerText value)
  dropsUndefined := true

/-- Only safe integers are written, and nothing is left out. -/
def lossless : Rules ν where
  number value := if numbers.isSafeInteger value then some (numbers.text value) else none
  bigint _ := none
  dropsUndefined := false

/-- Every finite number is written. -/
def plain : Rules ν where
  number value := if numbers.isFinite value then some (numbers.text value) else none
  bigint _ := none
  dropsUndefined := false

/-- An encoder that throws `error` at what its rules do not write. -/
def encoder {ε : Type} (rules : Rules ν) (error : ε) (value : Value ν) : Except ε CodeUnits :=
  match encode rules value with
  | some text => .ok text
  | none => .error error

namespace Transactions

/-- The preimages of plan commitments, and of the logs a step's evidence names. -/
def canonical : Value ν → Except RestError CodeUnits :=
  encoder (lenient numbers) { status := 400, code := "INVALID_PLAN", message := "Plans must contain finite JSON values." }

end Transactions

namespace Sponsorship

/-- The preimages of the commitments and hashes of sponsorships. -/
def canonical : Value ν → Except RestError CodeUnits :=
  encoder (lossless numbers)
    { status := 400, code := "INVALID_SPONSORSHIP_INPUT",
      message := "Sponsorship documents require finite, lossless JSON values." }

end Sponsorship

/-- The preimages of the commitments of user operations. -/
def uoCanonical : Value ν → Except RestError CodeUnits :=
  encoder (lossless numbers)
    { status := 400, code := "INVALID_USER_OPERATION", message := "Only bounded lossless JSON is accepted." }

/-- What is sealed in a plan token, and what its content hash is of. -/
def canonicalJson : Value ν → Except Mcp.DomainError CodeUnits :=
  encoder (lenient numbers) ⟨"INVALID_JSON", "Value cannot be represented as canonical JSON."⟩

namespace Intents

def maxDepth : Nat := 64

/-- The errors of `asJson`. -/
inductive JsonError where
  | tooDeep
  | unrepresentable

def JsonError.message : JsonError → String
  | .tooDeep => s!"jb exceeds the {maxDepth}-level nesting limit"
  | .unrepresentable => "jb contains a value JSON cannot represent"

mutual
/-- A value that JSON can represent, copied; `depth` is how deep it stands. -/
def asJson (depth : Nat) (value : Value ν) : Except JsonError (Value ν) :=
  if maxDepth < depth then .error .tooDeep
  else match value with
    | .null => .ok .null
    | .text text => .ok (.text text)
    | .boolean value => .ok (.boolean value)
    | .number value => if numbers.isFinite value then .ok (.number value) else .error .unrepresentable
    | .array items => (asItems (depth + 1) items).map .array
    | .object members => (asMembers (depth + 1) members).map .object
    | .undefined | .bigint _ => .error .unrepresentable

def asItems (depth : Nat) : List (Value ν) → Except JsonError (List (Value ν))
  | [] => .ok []
  | item :: items => do
    let first ← asJson depth item
    let others ← asItems depth items
    return first :: others

def asMembers (depth : Nat) : List (CodeUnits × Value ν) → Except JsonError (List (CodeUnits × Value ν))
  | [] => .ok []
  | (name, value) :: members => do
    let first ← asJson depth value
    let others ← asMembers depth members
    return (name, first) :: others
end

/-- The preimage of an intent's content hash. `asJson` keeps non-finite numbers out, which the source writes as null here
and which have no encoding in this one. -/
def canonicalJson : Value ν → Option CodeUnits := encode (plain numbers)

end Intents

variable {numbers}

theorem Numbers.Same.agree (documented : numbers.Documented) {first second : ν} (same : numbers.Same first second) :
    numbers.text first = numbers.text second ∧ numbers.isFinite first = numbers.isFinite second ∧
      numbers.isSafeInteger first = numbers.isSafeInteger second := by
  obtain rfl | ⟨zero, zero'⟩ := same
  · exact ⟨rfl, rfl, rfl⟩
  · obtain ⟨safe, text⟩ := documented.zero zero
    obtain ⟨safe', text'⟩ := documented.zero zero'
    exact ⟨text.trans text'.symm, (documented.safe safe).trans (documented.safe safe').symm, safe.trans safe'.symm⟩

theorem number_text {kind : ν → Bool} {rules : Rules ν} {value : ν} {text : CodeUnits}
    (number : rules.number = fun value => if kind value then some (numbers.text value) else none)
    (found : rules.number value = some text) :
    kind value = true ∧ numbers.text value = text := by
  rw [number] at found
  obtain ⟨inKind, written⟩ := Option.ite_none_right_eq_some.mp found
  exact ⟨inKind, Option.some.inj written⟩

theorem lawful (documented : numbers.Documented) {kind : ν → Bool}
    (finite : ∀ {value}, kind value = true → numbers.isFinite value = true)
    (agree : ∀ {first second}, numbers.Same first second → kind first = kind second) {rules : Rules ν}
    (number : rules.number = fun value => if kind value then some (numbers.text value) else none) :
    Lawful rules numbers.Same numbers.parse where
  numeral := by
    intro value text found
    obtain ⟨inKind, rfl⟩ := number_text number found
    exact documented.numeral (finite inKind)
  written := by
    intro first second same
    rw [number]
    exact if_congr (Bool.eq_iff_iff.mp (agree same)) (congrArg some (same.agree documented).1) rfl
  reread := by
    intro value text found
    obtain ⟨inKind, rfl⟩ := number_text number found
    exact documented.reread (finite inKind)

theorem lenient_lawful (documented : numbers.Documented) : Lawful (lenient numbers) numbers.Same numbers.parse :=
  lawful documented id (fun same => (same.agree documented).2.1) rfl

theorem lossless_lawful (documented : numbers.Documented) : Lawful (lossless numbers) numbers.Same numbers.parse :=
  lawful documented documented.safe (fun same => (same.agree documented).2.2) rfl

theorem plain_lawful (documented : numbers.Documented) : Lawful (plain numbers) numbers.Same numbers.parse :=
  lawful documented id (fun same => (same.agree documented).2.1) rfl

/-- The texts of an encoder, and their bytes, tell apart exactly the values that are not alike, and each text is read as a value
whose text it is. -/
structure Faithful (numbers : Numbers ν) (rules : Rules ν) (text? : Value ν → Option CodeUnits) : Prop where
  alike : ∀ {first second}, Alike rules numbers.Same first second → text? first = text? second
  apart : ∀ {first second text text'}, Distinct first → Distinct second → text? first = some text → text? second = some text' →
    Utf16.encode text = Utf16.encode text' → Alike rules numbers.Same first second
  again : ∀ {value text}, Distinct value → text? value = some text → ∃ again, parseValue numbers.parse text = some again ∧
    Distinct again ∧ Alike rules numbers.Same value again ∧ text? again = some text

theorem encode_faithful {rules : Rules ν} (law : Lawful rules numbers.Same numbers.parse) :
    Faithful numbers rules (encode rules) where
  alike alike := alike.encode_eq law
  apart := by
    intro first second text text' distinct distinct' found found' bytes
    obtain rfl := (paired_encode law found).encode_injective (paired_encode law found') bytes
    exact (encode_eq_iff law distinct distinct' found).mp found'
  again := by
    intro value text distinct found
    obtain ⟨again, parsed, alike, written⟩ := encode_parseValue law distinct found
    exact ⟨again, parsed, distinct_parseValue law distinct found parsed, alike, written⟩

theorem encoder_toOption {ε : Type} (rules : Rules ν) (error : ε) (value : Value ν) :
    (encoder rules error value).toOption = encode rules value := by
  rw [encoder]
  cases encode rules value <;> rfl

theorem encoder_ok {ε : Type} {rules : Rules ν} {error : ε} {value : Value ν} {text : CodeUnits} :
    encoder rules error value = .ok text ↔ encode rules value = some text := by
  rw [encoder]
  cases encode rules value with
  | none => exact iff_of_false nofun nofun
  | some => exact ⟨fun same => congrArg some (Except.ok.inj same), fun same => congrArg Except.ok (Option.some.inj same)⟩

theorem encoder_faithful {ε : Type} {rules : Rules ν} (law : Lawful rules numbers.Same numbers.parse) (error : ε) :
    Faithful numbers rules (fun value => (encoder rules error value).toOption) := by
  simp only [encoder_toOption]
  exact encode_faithful law

/-- What `asJson` lets through it leaves as it is, and there is a preimage of it. -/
theorem asJson_written {value again : Value ν} {depth : Nat} (accepted : Intents.asJson numbers depth value = .ok again) :
    again = value ∧ ∃ text, Intents.canonicalJson numbers value = some text := by
  induction value generalizing depth again with
  | undefined | bigint =>
    rw [Intents.asJson] at accepted
    split at accepted <;> cases accepted
  | null | boolean | text =>
    rw [Intents.asJson] at accepted
    split at accepted <;> cases accepted
    exact ⟨rfl, _, rfl⟩
  | number value =>
    rw [Intents.asJson] at accepted
    split at accepted
    · cases accepted
    · obtain ⟨finite, written⟩ : numbers.isFinite value = true ∧ Value.number value = again := by
        revert accepted
        cases numbers.isFinite value <;> simp
      exact ⟨written.symm, _, if_pos finite⟩
  | array items ih =>
    have each : ∀ {depth others}, Intents.asItems numbers depth items = .ok others →
        others = items ∧ ∃ texts, encodeItems (plain numbers) items = some texts := by
      clear accepted
      induction items with
      | nil =>
        intro depth others accepted
        cases accepted
        exact ⟨rfl, _, rfl⟩
      | cons item items rest =>
        obtain ⟨first, following⟩ := List.forall_mem_cons.mp ih
        intro depth others accepted
        rw [Intents.asItems] at accepted
        obtain ⟨item', isItem, accepted⟩ := ok_bind accepted
        obtain ⟨items', areItems, accepted⟩ := ok_bind accepted
        cases accepted
        obtain ⟨rfl, text, written⟩ := first isItem
        obtain ⟨rfl, texts, written'⟩ := rest following areItems
        rw [Intents.canonicalJson] at written
        exact ⟨rfl, text :: texts, by rw [encodeItems, written, written']; rfl⟩
    rw [Intents.asJson] at accepted
    split at accepted
    · cases accepted
    · cases found : Intents.asItems numbers (depth + 1) items with
      | error => rw [found] at accepted; cases accepted
      | ok others =>
        rw [found] at accepted
        cases accepted
        obtain ⟨rfl, texts, written⟩ := each found
        exact ⟨rfl, bracketed texts, by rw [Intents.canonicalJson, encode, written, Option.map_some]⟩
  | object members ih =>
    have each : ∀ {depth others}, Intents.asMembers numbers depth members = .ok others →
        others = members ∧ ∃ texts, encodeMembers (plain numbers) members = some texts := by
      clear accepted
      induction members with
      | nil =>
        intro depth others accepted
        cases accepted
        exact ⟨rfl, _, rfl⟩
      | cons member members rest =>
        obtain ⟨first, following⟩ := List.forall_mem_cons.mp ih
        intro depth others accepted
        rw [Intents.asMembers] at accepted
        obtain ⟨value', isValue, accepted⟩ := ok_bind accepted
        obtain ⟨members', areMembers, accepted⟩ := ok_bind accepted
        cases accepted
        obtain ⟨rfl, text, written⟩ := first isValue
        obtain ⟨rfl, texts, written'⟩ := rest following areMembers
        rw [Intents.canonicalJson] at written
        exact ⟨rfl, (member.1, text) :: texts, by
          rw [encodeMembers, plain, Bool.false_and, if_neg Bool.false_ne_true, ← plain, written, written']
          rfl⟩
    rw [Intents.asJson] at accepted
    split at accepted
    · cases accepted
    · cases found : Intents.asMembers numbers (depth + 1) members with
      | error => rw [found] at accepted; cases accepted
      | ok others =>
        rw [found] at accepted
        cases accepted
        obtain ⟨rfl, texts, written⟩ := each found
        exact ⟨rfl, _, by rw [Intents.canonicalJson, encode, written, Option.map_some]⟩

/-- Every encoder's preimages tell apart exactly the values that are not alike by its own rules. What the sponsorship encoder
writes the plan encoder writes the same, and it does so with the content of every intent. -/
theorem preimages_faithful (documented : numbers.Documented) :
    Faithful numbers (lenient numbers) (fun value => (Transactions.canonical numbers value).toOption) ∧
    Faithful numbers (lenient numbers) (fun value => (canonicalJson numbers value).toOption) ∧
    Faithful numbers (lossless numbers) (fun value => (Sponsorship.canonical numbers value).toOption) ∧
    Faithful numbers (lossless numbers) (fun value => (uoCanonical numbers value).toOption) ∧
    Faithful numbers (plain numbers) (Intents.canonicalJson numbers) ∧
    (∀ value text, Sponsorship.canonical numbers value = .ok text → Transactions.canonical numbers value = .ok text) ∧
    (∀ depth value again, Intents.asJson numbers depth value = .ok again → again = value ∧
      ∃ text, Intents.canonicalJson numbers value = some text ∧ Transactions.canonical numbers value = .ok text) := by
  refine ⟨encoder_faithful (lenient_lawful documented) _, encoder_faithful (lenient_lawful documented) _,
    encoder_faithful (lossless_lawful documented) _, encoder_faithful (lossless_lawful documented) _,
    encode_faithful (plain_lawful documented), ?_, ?_⟩
  · intro value text written
    refine encoder_ok.mpr
      (@encode_mono _ (lossless numbers) (lenient numbers) ?_ (fun found => nomatch found) rfl _ _ (encoder_ok.mp written))
    intro number text found
    obtain ⟨safe, rfl⟩ := @number_text _ _ numbers.isSafeInteger _ _ _ rfl found
    exact if_pos (documented.safe safe)
  · intro depth value again accepted
    obtain ⟨same, text, written⟩ := asJson_written accepted
    exact ⟨same, text, written, encoder_ok.mpr
      (@encode_mono _ (plain numbers) (lenient numbers) id (fun found => nomatch found) rfl _ _ written)⟩

/-- Four of the numbers, with both zeros. -/
inductive Figure where
  | zero
  | negativeZero
  | half
  | infinite
  deriving DecidableEq

def figures : Numbers Figure where
  isFinite value := value != .infinite
  isSafeInteger value := value == .zero || value == .negativeZero
  isZero value := value == .zero || value == .negativeZero
  text
    | .zero | .negativeZero => [unit '0']
    | .half => "0.5".toList.map unit
    | .infinite => nullText
  parse text := if text = [unit '0'] then .zero else .half

theorem figures_documented : figures.Documented where
  safe := by intro value; cases value <;> decide
  numeral := by
    intro value finite
    cases value with
    | infinite => cases finite
    | half => exact .natural .zero (.some (show Digits [unit '5'] from ⟨by decide, forall_of_all (by decide)⟩)) .none
    | _ => exact .natural .zero .none .none
  reread := by
    intro value finite
    cases value with
    | infinite => cases finite
    | half => exact .inl (by decide)
    | _ => exact .inr (by decide)
  zero := by intro value; cases value <;> decide

theorem preimages_faithful_sample :
    Faithful figures (lenient figures) (fun value => (Transactions.canonical figures value).toOption) :=
  (preimages_faithful figures_documented).1

end JBCenter.Preimages
