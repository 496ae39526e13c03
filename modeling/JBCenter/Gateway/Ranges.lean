import JBCenter.Rest.Decimals

/-! Single byte ranges: what a request may ask for, what the gateway selects of an object for it, and which answers of an
upstream it takes for the range that it asked. -/
namespace JBCenter.Gateway
open Rest (isDigit digitsValue isSafeInteger)

abbrev Text := List Char

def maximumPosition : Nat := 9007199254740991

/-- The number of some digits, which is not capped: past the safe integers a number is only told to be unsafe. -/
def position (digits : Text) : Option Nat := if digits.isEmpty then none else some (digitsValue digits)

/-- What `/^bytes=(\d*)-(\d*)$/u` captures. -/
def rangeParts (value : Text) : Option (Text × Text) :=
  if "bytes=".toList.isPrefixOf value then
    let rest := value.drop 6
    match rest.dropWhile isDigit with
    | '-' :: last => if last.all isDigit then some (rest.takeWhile isDigit, last) else none
    | _ => none
  else none

inductive Selection where
  | ignored
  | unsatisfiable
  | interval (start stop : Nat)
  deriving DecidableEq

def unsafePosition (part : Option Nat) : Bool := part.any (fun part => maximumPosition < part)

def inverted (first last : Option Nat) : Bool := first.any (fun first => last.any (fun last => last < first))

/-- The interval of a range that selects something. -/
def clamped (first last : Option Nat) (size : Nat) : Selection :=
  match first with
  | none => .interval (size - last.getD 0) (size - 1)
  | some first => .interval first (min (last.getD (size - 1)) (size - 1))

/-- What the positions of a range select. -/
def selected (first last : Option Nat) (size : Nat) : Selection :=
  if unsafePosition first || unsafePosition last then .ignored
  else if inverted first last then .ignored
  else if size == 0 || first.any (fun first => size ≤ first) || (first.isNone && last == some 0) then .unsatisfiable
  else clamped first last size

def byteRange (value : Option Text) (size : Nat) : Selection :=
  match value.bind rangeParts with
  | none => .ignored
  | some (first, last) => if first.isEmpty && last.isEmpty then .ignored else selected (position first) (position last) size

/-- What `/^bytes (\d+)-(\d+)\/(\d+|\*)$/u` captures; an asterisk is no total. -/
def contentRangeParts (value : Text) : Option (Nat × Nat × Option Nat) :=
  if "bytes ".toList.isPrefixOf value then
    let rest := value.drop 6
    match rest.dropWhile isDigit with
    | '-' :: others =>
      match others.dropWhile isDigit with
      | '/' :: total => do
        let start ← position (rest.takeWhile isDigit)
        let stop ← position (others.takeWhile isDigit)
        if total = ['*'] then return (start, stop, none)
        else if total.all isDigit then
          let total ← position total
          return (start, stop, some total)
        else none
      | _ => none
    | _ => none
  else none

def contentRangeLength (value : Option Text) (length : Option Nat) (requested : Text) : Option Nat :=
  match value.bind contentRangeParts with
  | none => none
  | some (start, stop, total) =>
    let size : Int := stop - start + 1
    if unsafePosition (some start) || unsafePosition (some stop) || unsafePosition total || !isSafeInteger size ||
        stop < start || total.any (fun total => total ≤ stop) || length.any (fun length => (length : Int) ≠ size) then none
    else if byteRange (some requested) (total.getD (stop + 1)) = .interval start stop then some (stop - start + 1)
    else none

/-- What `/^bytes=(?:\d+-\d*|-\d+)$/u` matches. -/
def forwarded (value : Text) : Bool :=
  let rest := value.drop 6
  "bytes=".toList.isPrefixOf value &&
    ((match rest.dropWhile isDigit with
      | '-' :: last => !(rest.takeWhile isDigit).isEmpty && last.all isDigit
      | _ => false) ||
    (match rest with
      | '-' :: last => !last.isEmpty && last.all isDigit
      | _ => false))

/-- The positions of a range; a range with neither is none. -/
structure RangeText (value : Text) (first last : Option Nat) : Prop where
  parts : ∃ firstDigits lastDigits, rangeParts value = some (firstDigits, lastDigits) ∧ first = position firstDigits ∧
    last = position lastDigits
  some : first.isSome = true ∨ last.isSome = true

/-- The interval that a satisfiable range selects of a representation. -/
inductive Selects (size : Nat) : Option Nat → Option Nat → Nat → Nat → Prop where
  | bounded {first last : Nat} : first ≤ last → first < size → Selects size (some first) (some last) first (min last (size - 1))
  | fromFirst {first : Nat} : first < size → Selects size (some first) none first (size - 1)
  | suffix {length : Nat} : 0 < length → 0 < size → Selects size none (some length) (size - length) (size - 1)

inductive Unsatisfiable (size : Nat) : Option Nat → Option Nat → Prop where
  | bounded {first last : Nat} : first ≤ last → size ≤ first → Unsatisfiable size (some first) (some last)
  | fromFirst {first : Nat} : size ≤ first → Unsatisfiable size (some first) none
  | suffix : Unsatisfiable size none (some 0)

inductive Inverted : Option Nat → Option Nat → Prop where
  | intro {first last : Nat} : last < first → Inverted (some first) (some last)

variable {value requested : Text} {first last total length : Option Nat} {size start stop : Nat}

theorem range_cases (some : first.isSome = true ∨ last.isSome = true) :
    (∃ start stop, Selects size first last start stop) ∨ Unsatisfiable size first last ∨ Inverted first last ∨
      (size = 0 ∧ ∃ length, 0 < length ∧ first = none ∧ last = .some length) := by
  match first, last with
  | none, none => exact absurd some (by decide)
  | none, .some 0 => exact .inr (.inl .suffix)
  | none, .some (length + 1) =>
    by_cases empty : size = 0
    · exact .inr (.inr (.inr ⟨empty, length + 1, length.succ_pos, rfl, rfl⟩))
    · exact .inl ⟨_, _, .suffix length.succ_pos (Nat.pos_of_ne_zero empty)⟩
  | .some first, none =>
    by_cases inside : first < size
    · exact .inl ⟨_, _, .fromFirst inside⟩
    · exact .inr (.inl (.fromFirst (Nat.not_lt.mp inside)))
  | .some first, .some last =>
    by_cases ordered : first ≤ last
    · by_cases inside : first < size
      · exact .inl ⟨_, _, .bounded ordered inside⟩
      · exact .inr (.inl (.bounded ordered (Nat.not_lt.mp inside)))
    · exact .inr (.inr (.inl (.intro (Nat.not_le.mp ordered))))

theorem Selects.bounds (selects : Selects size first last start stop) : start ≤ stop ∧ stop < size := by
  cases selects <;> omega

theorem Selects.known (selects : Selects size first last start stop) : Selects (stop + 1) first last start stop := by
  cases selects with
  | @bounded _ last ordered inside =>
    have whole : min last (min last (size - 1) + 1 - 1) = min last (size - 1) := by omega
    have selected : Selects (min last (size - 1) + 1) (some start) (some last) start (min last (min last (size - 1) + 1 - 1)) :=
      .bounded ordered (by omega)
    rwa [whole] at selected
  | fromFirst inside =>
    have whole : size - 1 + 1 = size := by omega
    rw [whole]
    exact .fromFirst inside
  | suffix some nonempty =>
    have whole : size - 1 + 1 = size := by omega
    rw [whole]
    exact .suffix some nonempty

/-- Positions that are safe integers. -/
structure Safe (first last : Option Nat) : Prop where
  first : unsafePosition first = false
  last : unsafePosition last = false

theorem isSome_position {digits : Text} : (position digits).isSome = !digits.isEmpty := by
  cases digits with
  | nil => rfl
  | cons => rfl

theorem positions_given {first last : Text} : (first.isEmpty && last.isEmpty) = false ↔
    (position first).isSome = true ∨ (position last).isSome = true := by
  rw [isSome_position, isSome_position, Bool.and_eq_false_iff, Bool.not_eq_eq_eq_not, Bool.not_eq_eq_eq_not, Bool.not_true]

theorem byteRange_text (text : RangeText value first last) : byteRange (some value) size = selected first last size := by
  obtain ⟨firstDigits, lastDigits, parts, rfl, rfl⟩ := text.parts
  have given : (firstDigits.isEmpty && lastDigits.isEmpty) = false := positions_given.mpr text.some
  simp only [byteRange, Option.bind_some, parts, given, Bool.false_eq_true, if_false]

theorem selected_safe (safe : Safe first last) : selected first last size =
    if inverted first last then .ignored
    else if size == 0 || first.any (fun first => size ≤ first) || (first.isNone && last == some 0) then .unsatisfiable
    else clamped first last size := by
  rw [selected, safe.first, safe.last, Bool.or_false, if_neg Bool.false_ne_true]

theorem byteRange_selects (text : RangeText value first last) (safe : Safe first last)
    (selects : Selects size first last start stop) : byteRange (some value) size = .interval start stop := by
  rw [byteRange_text text, selected_safe safe]
  cases selects with
  | @bounded _ last ordered inside =>
    have upright : ¬inverted (some start) (some last) = true := by simpa [inverted] using ordered
    have nonempty : size ≠ 0 := Nat.ne_zero_of_lt inside
    rw [if_neg upright, if_neg (by simpa [nonempty] using inside)]
    rfl
  | fromFirst inside =>
    have nonempty : size ≠ 0 := Nat.ne_zero_of_lt inside
    rw [if_neg (by simp [inverted]), if_neg (by simpa [nonempty] using inside)]
    exact congrArg _ (Nat.min_self _)
  | suffix some nonempty =>
    rw [if_neg (by simp [inverted]), if_neg (by simp [Nat.ne_of_gt nonempty, Nat.ne_of_gt some])]
    rfl

theorem byteRange_unsatisfiable (text : RangeText value first last) (safe : Safe first last)
    (unsatisfiable : Unsatisfiable size first last) : byteRange (some value) size = .unsatisfiable := by
  rw [byteRange_text text, selected_safe safe]
  cases unsatisfiable with
  | bounded ordered outside =>
    rw [if_neg (by simpa [inverted] using ordered), if_pos (by simp [outside])]
  | fromFirst outside => rw [if_neg (by simp [inverted]), if_pos (by simp [outside])]
  | suffix => rw [if_neg (by simp [inverted]), if_pos (by simp)]

theorem byteRange_inverted (text : RangeText value first last) (safe : Safe first last) (turned : Inverted first last) :
    byteRange (some value) size = .ignored := by
  rw [byteRange_text text, selected_safe safe]
  cases turned with
  | intro backwards => rw [if_pos (by simpa [inverted] using backwards)]

theorem byteRange_ignored (none : ∀ first last, ¬RangeText value first last) : byteRange (some value) size = .ignored := by
  rw [byteRange, Option.bind_some]
  cases parts : rangeParts value with
  | none => rfl
  | some pair =>
    obtain ⟨firstDigits, lastDigits⟩ := pair
    dsimp only
    split
    case isTrue => rfl
    case isFalse given =>
      have some := positions_given.mp (Bool.eq_false_iff.mpr given)
      exact absurd ⟨⟨firstDigits, lastDigits, parts, rfl, rfl⟩, some⟩ (none _ _)

theorem byteRange_bounds {value : Option Text} (selected : byteRange value size = .interval start stop) :
    start ≤ stop ∧ stop < size := by
  unfold byteRange at selected
  split at selected
  case h_1 => cases selected
  case h_2 firstDigits lastDigits _ =>
    split at selected
    case isTrue => cases selected
    case isFalse given =>
      have given := positions_given.mp (Bool.eq_false_iff.mpr given)
      unfold Gateway.selected at selected
      split at selected
      case isTrue => cases selected
      case isFalse =>
        split at selected
        case isTrue => cases selected
        case isFalse upright =>
          split at selected
          case isTrue => cases selected
          case isFalse satisfiable =>
            rw [Bool.or_eq_true, Bool.or_eq_true, not_or, not_or, beq_iff_eq] at satisfiable
            generalize position firstDigits = first at *
            generalize position lastDigits = last at *
            match first, last with
            | none, none => exact absurd given (by decide)
            | none, some length =>
              cases selected
              have some : length ≠ 0 := by simpa using satisfiable.2
              rw [Option.getD_some]
              omega
            | some first, none =>
              have inside : first < size := by simpa using satisfiable.1.2
              cases selected
              rw [Option.getD_none]
              omega
            | some first, some last =>
              have inside : first < size := by simpa using satisfiable.1.2
              have ordered : first ≤ last := by simpa [inverted] using upright
              cases selected
              rw [Option.getD_some]
              omega

theorem rangeParts_some {first last : Text} : rangeParts value = some (first, last) ↔
    "bytes=".toList.isPrefixOf value = true ∧ (value.drop 6).takeWhile isDigit = first ∧
      (value.drop 6).dropWhile isDigit = '-' :: last ∧ last.all isDigit = true := by
  unfold rangeParts
  split
  case isTrue starts =>
    dsimp only
    split
    case h_1 rest behind =>
      split
      case isTrue digits =>
        rw [Option.some_inj, Prod.mk.injEq, behind, List.cons.injEq]
        constructor
        · rintro ⟨rfl, rfl⟩
          exact ⟨starts, rfl, ⟨rfl, rfl⟩, digits⟩
        · rintro ⟨_, rfl, ⟨_, rfl⟩, _⟩
          exact ⟨rfl, rfl⟩
      case isFalse digits =>
        rw [behind, List.cons.injEq]
        constructor
        · intro impossible
          cases impossible
        · rintro ⟨_, _, ⟨_, rfl⟩, all⟩
          exact absurd all digits
    case h_2 other =>
      constructor
      · intro impossible
        cases impossible
      · rintro ⟨_, _, behind, _⟩
        exact absurd behind (other _)
  case isFalse starts =>
    constructor
    · intro impossible
      cases impossible
    · rintro ⟨also, _⟩
      exact absurd also starts

theorem dropWhile_of_takeWhile {text : Text} (none : text.takeWhile isDigit = []) : text.dropWhile isDigit = text := by
  have whole := @List.takeWhile_append_dropWhile _ isDigit text
  rwa [none, List.nil_append] at whole

theorem forwarded_iff : forwarded value = true ↔ ∃ first last, RangeText value first last := by
  constructor
  · intro matched
    unfold forwarded at matched
    rw [Bool.and_eq_true, Bool.or_eq_true] at matched
    obtain ⟨starts, closed | suffix⟩ := matched
    · split at closed
      case h_1 last behind =>
        rw [Bool.and_eq_true] at closed
        refine ⟨_, _, ⟨_, _, rangeParts_some.mpr ⟨starts, rfl, behind, closed.2⟩, rfl, rfl⟩, .inl ?_⟩
        rw [isSome_position]
        exact closed.1
      case h_2 => cases closed
    · split at suffix
      case h_1 last rest =>
        rw [Bool.and_eq_true] at suffix
        have none : (value.drop 6).takeWhile isDigit = [] := by rw [rest]; rfl
        refine ⟨_, _, ⟨_, _, rangeParts_some.mpr ⟨starts, rfl,
          (dropWhile_of_takeWhile none).trans rest, suffix.2⟩, rfl, rfl⟩, .inr ?_⟩
        rw [isSome_position]
        exact suffix.1
      case h_2 => cases suffix
  · rintro ⟨_, _, ⟨first, last, parts, rfl, rfl⟩, some⟩
    obtain ⟨starts, rfl, behind, digits⟩ := rangeParts_some.mp parts
    rw [isSome_position, isSome_position] at some
    unfold forwarded
    rw [Bool.and_eq_true, Bool.or_eq_true]
    refine ⟨starts, ?_⟩
    cases leading : ((value.drop 6).takeWhile isDigit).isEmpty with
    | false =>
      left
      rw [behind]
      simp only [digits, Bool.not_false, Bool.and_self]
    | true =>
      right
      rw [List.isEmpty_iff] at leading
      have rest : value.drop 6 = '-' :: last := (dropWhile_of_takeWhile leading).symm.trans behind
      have given : (!last.isEmpty) = true := some.resolve_left (by rw [leading]; decide)
      rw [rest]
      simp only [given, digits, Bool.and_self]

/-- The reported numbers are safe, and the size is the reported length where there is one. -/
structure Measured (start stop : Nat) (total length : Option Nat) : Prop where
  safeStart : start ≤ maximumPosition
  safeStop : stop ≤ maximumPosition
  safeTotal : ∀ reported, total = some reported → reported ≤ maximumPosition
  safeSize : stop - start + 1 ≤ maximumPosition
  sameLength : ∀ reported, length = some reported → reported = stop - start + 1

theorem contentRangeLength_iff {value : Option Text} {taken : Nat} : contentRangeLength value length requested = some taken ↔
    ∃ start stop total, value.bind contentRangeParts = some (start, stop, total) ∧ taken = stop - start + 1 ∧
      Measured start stop total length ∧ byteRange (some requested) (total.getD (stop + 1)) = .interval start stop := by
  unfold contentRangeLength
  cases value.bind contentRangeParts with
  | none =>
    constructor
    · intro impossible
      cases impossible
    · rintro ⟨_, _, _, impossible, _⟩
      cases impossible
  | some reported =>
    obtain ⟨start, stop, total⟩ := reported
    dsimp only
    constructor
    · intro accepted
      split at accepted
      case isTrue => cases accepted
      case isFalse measured =>
        split at accepted
        case isTrue same =>
          cases accepted
          have ordered := (byteRange_bounds same).1
          simp only [unsafePosition, Option.any_some, Bool.or_eq_true, not_or, decide_eq_true_eq, Nat.not_lt, Bool.not_eq_true,
            Bool.not_eq_eq_eq_not, Bool.not_true, isSafeInteger, Rest.maxSafeInteger] at measured
          obtain ⟨⟨⟨⟨⟨⟨startSafe, stopSafe⟩, totalSafe⟩, sizeSafe⟩, _⟩, _⟩, lengthSame⟩ := measured
          have bound := of_decide_eq_true (Bool.and_eq_true_iff.mp (eq_true_of_ne_false sizeSafe)).2
          refine ⟨start, stop, total, rfl, rfl, ⟨startSafe, stopSafe, ?_, ?_, ?_⟩, same⟩
          · rintro reported rfl
            simpa using totalSafe
          · change _ ≤ 9007199254740991
            omega
          · rintro reported rfl
            have agrees : (reported : Int) = stop - start + 1 := by simpa using lengthSame
            omega
        case isFalse => cases accepted
    · rintro ⟨_, _, _, read, rfl, measured, same⟩
      cases read
      obtain ⟨ordered, inside⟩ := byteRange_bounds same
      have bound : stop - start + 1 ≤ 9007199254740991 := measured.safeSize
      have startSafe : start ≤ 9007199254740991 := measured.safeStart
      have stopSafe : stop ≤ 9007199254740991 := measured.safeStop
      have totalSafe : unsafePosition total = false := by
        cases total with
        | none => rfl
        | some total => exact decide_eq_false (Nat.not_lt.mpr (measured.safeTotal total rfl))
      have inTotal : total.any (fun total => total ≤ stop) = false := by
        cases total with
        | none => rfl
        | some total => exact decide_eq_false (Nat.not_le.mpr inside)
      have lengthSame : length.any (fun length => decide ((length : Int) ≠ stop - start + 1)) = false := by
        cases length with
        | none => rfl
        | some length =>
          have agrees := measured.sameLength length rfl
          exact decide_eq_false (by omega)
      have safe : isSafeInteger ((stop : Int) - start + 1) = true := by
        rw [isSafeInteger, Bool.and_eq_true, decide_eq_true_eq, decide_eq_true_eq, Rest.maxSafeInteger]
        omega
      have first : unsafePosition (some start) = false := decide_eq_false (Nat.not_lt.mpr measured.safeStart)
      have second : unsafePosition (some stop) = false := decide_eq_false (Nat.not_lt.mpr measured.safeStop)
      rw [first, second, totalSafe, safe, decide_eq_false (Nat.not_lt.mpr ordered), inTotal, lengthSame]
      exact if_pos same

end JBCenter.Gateway
