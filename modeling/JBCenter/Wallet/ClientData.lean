import JBCenter.Base.JsonTokens
import JBCenter.Wallet.DerSignatures

/-! The client data of a passkey's assertion, scanned field by field. -/
namespace JBCenter.Wallet.Webauthn
open JsonTokens
open Utf16 (unit)

def invalid (message : String := "Invalid wallet assertion") : WalletAssertionError := ⟨message⟩

def stringToken : CodeUnits → Option (CodeUnits × CodeUnits)
  | [] => none
  | u :: json => if u = quote then (scanBody json).map (fun (body, rest) => (u :: body ++ [quote], rest)) else none

/-- A word, where the text starts with it. -/
def wordToken (word json : CodeUnits) : Option (CodeUnits × CodeUnits) :=
  if word.isPrefixOf json then some (word, json.drop word.length) else none

def scalarToken (json : CodeUnits) : Option (CodeUnits × CodeUnits) :=
  (wordToken trueText json <|> wordToken falseText json) <|> (wordToken nullText json <|> scanNumber json)

def take (token : CodeUnits → Option (CodeUnits × CodeUnits)) (json : CodeUnits) :
    Except WalletAssertionError (CodeUnits × CodeUnits) :=
  match token json with
  | none => .error (invalid "Unsupported wallet client data encoding")
  | some taken => .ok taken

def skip (json : CodeUnits) : CodeUnits := json.dropWhile isSpace

def expect (u : UInt16) (json : CodeUnits) : Except WalletAssertionError CodeUnits :=
  match json with
  | [] => .error invalid
  | v :: json => if v = u then .ok json else .error invalid

/-- `JSON.parse` of a string token. -/
def parseString (token : CodeUnits) : CodeUnits := decodeBody (token.drop 1).dropLast

/-- `JSON.parse` of a token. -/
def parseScalar (token : CodeUnits) : Scalar :=
  if token.head? = some quote then .text (parseString token)
  else if token = trueText then .boolean true
  else if token = falseText then .boolean false
  else if token = nullText then .null
  else .number token

abbrev Fields := List (CodeUnits × Scalar)

def Fields.keys (fields : Fields) : List CodeUnits := fields.map Prod.fst

/-- The token for the value that a text starts with. -/
def valueToken (json : CodeUnits) : CodeUnits → Option (CodeUnits × CodeUnits) :=
  if json.head? = some quote then stringToken else scalarToken

/-- One field, and the text behind it and the spaces that follow. -/
def readField (fields : Fields) (json : CodeUnits) : Except WalletAssertionError ((CodeUnits × Scalar) × CodeUnits) := do
  let (keyToken, json) ← take stringToken (skip json)
  refuse (fields.keys.contains (parseString keyToken)) (invalid "Duplicate wallet client data field")
  let json ← expect (unit ':') (skip json)
  let (token, json) ← take (valueToken (skip json)) (skip json)
  return ((parseString keyToken, parseScalar token), skip json)

/-- What a scan with too little fuel answers, which is no answer of the source. -/
def exhausted : WalletAssertionError := ⟨"exhausted"⟩

def readFields : Nat → Fields → CodeUnits → Except WalletAssertionError Fields
  | 0, _, _ => .error exhausted
  | fuel + 1, fields, json => do
    let (field, json) ← readField fields json
    match json with
    | [] => .error invalid
    | u :: json =>
      if u = unit '}' then if json.isEmpty then .ok (fields ++ [field]) else .error invalid
      else if u = unit ',' then readFields fuel (fields ++ [field]) json
      else .error invalid

def readWalletClientData (json : CodeUnits) : Except WalletAssertionError Fields := do
  let body ← expect (unit '{') json
  readFields json.length [] body

section Tokens

variable {json token rest text : CodeUnits} {value : Scalar}

theorem take_ok {scan : CodeUnits → Option (CodeUnits × CodeUnits)} : take scan json = .ok (token, rest) ↔
    scan json = some (token, rest) := by
  unfold take
  split
  case h_1 none =>
    rw [none]
    exact ⟨nofun, nofun⟩
  case h_2 taken found =>
    rw [found]
    exact ⟨fun same => congrArg some (Except.ok.inj same), fun same => congrArg Except.ok (Option.some.inj same)⟩

theorem expect_ok {u : UInt16} : expect u json = .ok rest ↔ json = u :: rest := by
  unfold expect
  split
  case h_1 => exact ⟨nofun, nofun⟩
  case h_2 v others =>
    split
    case isTrue same =>
      rw [same, List.cons.injEq]
      exact ⟨fun read => ⟨rfl, Except.ok.inj read⟩, fun read => congrArg Except.ok read.2⟩
    case isFalse other => exact ⟨nofun, fun read => absurd (List.cons.inj read).1 other⟩

theorem skip_spaces {before : CodeUnits} (spaces : Spaces before) (stops : Stops isSpace rest) : skip (before ++ rest) = rest :=
  (takeWhile_stops spaces stops).2

theorem skip_split (json : CodeUnits) : ∃ before, Spaces before ∧ json = before ++ skip json :=
  ⟨json.takeWhile isSpace, fun _ member => List.mem_takeWhile_imp member, List.takeWhile_append_dropWhile.symm⟩

theorem stringToken_complete {body key : CodeUnits} (string : StringBody body key) :
    stringToken (quote :: body ++ [quote] ++ rest) = some (quote :: body ++ [quote], rest) := by
  rw [List.append_assoc, List.cons_append, List.singleton_append, stringToken, if_pos rfl, scanBody_complete string]
  rfl

theorem stringToken_sound (taken : stringToken json = some (token, rest)) :
    json = token ++ rest ∧ ∃ body key, token = quote :: body ++ [quote] ∧ StringBody body key := by
  unfold stringToken at taken
  split at taken
  case h_1 => cases taken
  case h_2 u json =>
    split at taken
    case isTrue quoted =>
      obtain ⟨⟨body, behind⟩, scanned, same⟩ := Option.map_eq_some_iff.mp taken
      cases same
      obtain ⟨rfl, key, string⟩ := scanBody_sound scanned
      rw [quoted]
      exact ⟨by rw [List.append_assoc, List.cons_append, List.singleton_append], body, key, rfl, string⟩
    case isFalse => cases taken

theorem parseString_token {body key : CodeUnits} (string : StringBody body key) :
    parseString (quote :: body ++ [quote]) = key := by
  have inner : ((quote :: body ++ [quote]).drop 1).dropLast = body := List.dropLast_concat
  rw [parseString, inner, decodeBody_eq string]

/-- The first code unit of a scalar that is not a string. -/
theorem startsOther {u : UInt16} (starts : isDigit u = true ∨ u = unit '-') :
    u ≠ quote ∧ u ≠ unit 't' ∧ u ≠ unit 'f' ∧ u ≠ unit 'n' ∧ isSpace u = false := by
  refine ⟨?_, ?_, ?_, ?_, ?_⟩
  case refine_5 =>
    cases space : isSpace u with
    | false => rfl
    | true =>
      simp only [isSpace, Bool.or_eq_true, beq_iff_eq] at space
      obtain ((rfl | rfl) | rfl) | rfl := space <;> simp [isDigit, unit] at starts
  all_goals
    rintro rfl
    exact starts.elim (by decide) (by decide)

theorem parseScalar_eq (scalar : ScalarText token value) : parseScalar token = value := by
  cases scalar with
  | text string => exact congrArg Scalar.text (parseString_token string)
  | number number =>
    obtain ⟨u, others, rfl, starts⟩ := number.head
    obtain ⟨notQuote, notT, notF, notN, _⟩ := startsOther starts
    have quoted : ¬(u :: others).head? = some quote := fun same => notQuote (Option.some.inj same)
    have yes : ¬u :: others = trueText := fun same => notT (List.cons.inj same).1
    have no : ¬u :: others = falseText := fun same => notF (List.cons.inj same).1
    have null : ¬u :: others = nullText := fun same => notN (List.cons.inj same).1
    rw [parseScalar, if_neg quoted, if_neg yes, if_neg no, if_neg null]
  | yes | no | null => rfl

theorem wordToken_complete (word rest : CodeUnits) : wordToken word (word ++ rest) = some (word, rest) := by
  rw [wordToken, if_pos (List.isPrefixOf_iff_prefix.mpr (List.prefix_append word rest)), List.drop_left]

theorem wordToken_sound {word : CodeUnits} (taken : wordToken word json = some (token, rest)) :
    json = token ++ rest ∧ token = word := by
  unfold wordToken at taken
  split at taken
  case isTrue starts =>
    obtain ⟨tail, rfl⟩ := List.isPrefixOf_iff_prefix.mp starts
    rw [List.drop_left] at taken
    cases taken
    exact ⟨rfl, rfl⟩
  case isFalse => cases taken

theorem wordToken_none {word : CodeUnits} {u v : UInt16} (other : v ≠ u) : wordToken (u :: word) (v :: json) = none := by
  rw [wordToken, if_neg]
  rw [List.isPrefixOf_iff_prefix, List.cons_prefix_cons]
  exact fun starts => other starts.1.symm

/-- A scalar is taken up to what cannot continue a numeral. -/
theorem scalarToken_complete (scalar : ScalarText token value) (bare : token.head? ≠ some quote) (stops : Stops continues rest) :
    scalarToken (token ++ rest) = some (token, rest) := by
  cases scalar with
  | text => exact absurd rfl bare
  | yes => rw [scalarToken, wordToken_complete]; rfl
  | no =>
    have notTrue : wordToken trueText (falseText ++ rest) = none := wordToken_none (by decide)
    rw [scalarToken, notTrue, wordToken_complete]
    rfl
  | null =>
    have notTrue : wordToken trueText (nullText ++ rest) = none := wordToken_none (by decide)
    have notFalse : wordToken falseText (nullText ++ rest) = none := wordToken_none (by decide)
    rw [scalarToken, notTrue, notFalse, wordToken_complete]
    rfl
  | number number =>
    obtain ⟨u, others, same, starts⟩ := number.head
    obtain ⟨_, notT, notF, notN, _⟩ := startsOther starts
    have words : wordToken trueText (token ++ rest) = none ∧ wordToken falseText (token ++ rest) = none ∧
        wordToken nullText (token ++ rest) = none := by
      rw [same]
      exact ⟨wordToken_none notT, wordToken_none notF, wordToken_none notN⟩
    rw [scalarToken, words.1, words.2.1, words.2.2, scanNumber_complete number stops]
    rfl

theorem scalarToken_sound (taken : scalarToken json = some (token, rest)) :
    json = token ++ rest ∧ ∃ value, ScalarText token value := by
  simp only [scalarToken, Option.orElse_eq_orElse, Option.orElse_eq_or, Option.or_eq_some_iff] at taken
  obtain (taken | ⟨_, taken⟩) | ⟨_, taken | ⟨_, taken⟩⟩ := taken
  · obtain ⟨read, rfl⟩ := wordToken_sound taken
    exact ⟨read, _, .yes⟩
  · obtain ⟨read, rfl⟩ := wordToken_sound taken
    exact ⟨read, _, .no⟩
  · obtain ⟨read, rfl⟩ := wordToken_sound taken
    exact ⟨read, _, .null⟩
  · obtain ⟨read, number⟩ := scanNumber_sound taken
    exact ⟨read, _, .number number⟩

end Tokens

section FieldTexts

variable {json token rest text : CodeUnits} {fields : Fields} {field : CodeUnits × Scalar} {value : Scalar} {u : UInt16}

theorem scalar_head (scalar : ScalarText token value) : ∃ u others, token = u :: others ∧ isSpace u = false := by
  cases scalar with
  | text | yes | no | null => exact ⟨_, _, rfl, rfl⟩
  | number number =>
    obtain ⟨u, others, same, starts⟩ := number.head
    exact ⟨u, others, same, (startsOther starts).2.2.2.2⟩

theorem valueToken_complete (scalar : ScalarText token value) (stops : Stops continues rest) :
    valueToken (token ++ rest) (token ++ rest) = some (token, rest) := by
  obtain ⟨u, others, same, _⟩ := scalar_head scalar
  have head : (token ++ rest).head? = token.head? := by rw [same]; rfl
  unfold valueToken
  rw [head]
  split
  case isTrue quoted =>
    cases scalar with
    | text string => exact stringToken_complete string
    | yes | no | null => cases quoted
    | number number =>
      obtain ⟨v, tail, rfl, starts⟩ := number.head
      exact absurd (Option.some.inj quoted) (startsOther starts).1
  case isFalse bare => exact scalarToken_complete scalar bare stops

theorem valueToken_sound (taken : valueToken json json = some (token, rest)) :
    json = token ++ rest ∧ ∃ value, ScalarText token value := by
  unfold valueToken at taken
  split at taken
  case isTrue =>
    obtain ⟨read, body, key, rfl, string⟩ := stringToken_sound taken
    exact ⟨read, .text key, .text string⟩
  case isFalse => exact scalarToken_sound taken

/-- What ends a field. -/
def Separates (u : UInt16) : Prop := u = unit ',' ∨ u = unit '}'

theorem Separates.not_space (separates : Separates u) : isSpace u = false := by
  obtain rfl | rfl := separates <;> rfl

theorem Separates.stops {after : CodeUnits} (separates : Separates u) (spaces : Spaces after) :
    Stops continues (after ++ u :: rest) := by
  cases after with
  | nil =>
    obtain rfl | rfl := separates
    · exact Stops.cons rfl
    · exact Stops.cons rfl
  | cons v after =>
    have space := spaces v List.mem_cons_self
    simp only [isSpace, Bool.or_eq_true, beq_iff_eq] at space
    obtain ((rfl | rfl) | rfl) | rfl := space
    · exact Stops.cons rfl
    · exact Stops.cons rfl
    · exact Stops.cons rfl
    · exact Stops.cons rfl

theorem readField_complete (member : MemberText ScalarText text field) (separates : Separates u) (fresh : field.1 ∉ fields.keys) :
    readField fields (text ++ u :: rest) = .ok (field, u :: rest) := by
  cases member with
  | @intro before body key after _ value leading string gap padded =>
    cases padded with
    | @intro before' token after' _ leading' scalar trailing =>
      have key_at : skip (before ++ (quote :: body ++ [quote]) ++ after ++
        unit ':' :: (before' ++ token ++ after') ++ u :: rest) =
          quote :: body ++ [quote] ++ (after ++ unit ':' :: (before' ++ token ++ after' ++ u :: rest)) := by
        simp only [List.append_assoc, List.cons_append]
        exact skip_spaces leading (Stops.cons rfl)
      have colon : skip (after ++ unit ':' :: (before' ++ token ++ after' ++ u :: rest)) =
          unit ':' :: (before' ++ token ++ after' ++ u :: rest) := skip_spaces gap (Stops.cons rfl)
      have value_at : skip (before' ++ token ++ after' ++ u :: rest) = token ++ (after' ++ u :: rest) := by
        obtain ⟨v, others, rfl, notSpace⟩ := scalar_head scalar
        simp only [List.append_assoc]
        exact skip_spaces leading' (Stops.cons notSpace)
      have behind : skip (after' ++ u :: rest) = u :: rest := skip_spaces trailing (Stops.cons separates.not_space)
      have known : parseString (quote :: body ++ [quote]) = key := parseString_token string
      unfold readField
      rw [key_at]
      refine bind_run (take_ok.mpr (stringToken_complete string)) ?_
      dsimp only
      rw [known, colon]
      refine bind_run (refuse_ok.mpr ?_) (bind_run (expect_ok.mpr rfl) ?_)
      · rw [List.contains_eq_mem, decide_eq_false_iff_not]
        exact fresh
      · rw [value_at]
        refine bind_run (take_ok.mpr (valueToken_complete scalar (separates.stops trailing))) ?_
        dsimp only
        rw [parseScalar_eq scalar, behind]
        rfl

theorem readField_sound (read : readField fields json = .ok (field, rest)) :
    ∃ text, json = text ++ rest ∧ MemberText ScalarText text field ∧ field.1 ∉ fields.keys := by
  obtain ⟨⟨keyToken, afterKey⟩, keyRead, read⟩ := ok_bind read
  obtain ⟨fresh, read⟩ := ok_refuse read
  obtain ⟨afterColon, colon, read⟩ := ok_bind read
  obtain ⟨⟨token, behind⟩, valueRead, read⟩ := ok_bind read
  cases read
  obtain ⟨before, leading, split⟩ := skip_split json
  obtain ⟨keyText, body, key, rfl, string⟩ := stringToken_sound (take_ok.mp keyRead)
  obtain ⟨after, gap, splitKey⟩ := skip_split afterKey
  have colonText := expect_ok.mp colon
  obtain ⟨before', leading', splitColon⟩ := skip_split afterColon
  obtain ⟨valueText, value, scalar⟩ := valueToken_sound (take_ok.mp valueRead)
  obtain ⟨after', trailing, splitValue⟩ := skip_split behind
  rw [List.contains_eq_mem, decide_eq_false_iff_not] at fresh
  have known : parseString (quote :: body ++ [quote]) = key := parseString_token string
  rw [known] at fresh ⊢
  rw [parseScalar_eq scalar]
  refine ⟨_, ?_, .intro leading string gap (.intro leading' scalar trailing), fresh⟩
  rw [split, keyText, splitKey, colonText, splitColon, valueText]
  conv_lhs => rw [splitValue]
  simp only [List.append_assoc, List.cons_append]

end FieldTexts

section Objects

variable {json body : CodeUnits} {fields members result : Fields} {fuel : Nat}

theorem readFields_complete (items : ItemsText (MemberText ScalarText) body members)
    (distinct : (fields ++ members).keys.Nodup) (enough : body.length < fuel) :
    readFields fuel fields (body ++ [unit '}']) = .ok (fields ++ members) := by
  induction items generalizing fields fuel with
  | @one text field member =>
    obtain ⟨fuel, rfl⟩ := Nat.exists_eq_add_one_of_ne_zero (Nat.ne_of_gt (Nat.zero_lt_of_lt enough))
    have fresh : field.1 ∉ fields.keys := by
      rw [Fields.keys, List.map_append] at distinct
      exact fun known => (List.nodup_append.mp distinct).2.2 _ known _ List.mem_cons_self rfl
    exact bind_run (readField_complete member (.inr rfl) fresh) rfl
  | @more text rest field others member _ ih =>
    obtain ⟨fuel, rfl⟩ := Nat.exists_eq_add_one_of_ne_zero (Nat.ne_of_gt (Nat.zero_lt_of_lt enough))
    have fresh : field.1 ∉ fields.keys := by
      rw [Fields.keys, List.map_append] at distinct
      exact fun known => (List.nodup_append.mp distinct).2.2 _ known _ List.mem_cons_self rfl
    rw [List.append_assoc, List.cons_append]
    refine bind_run (readField_complete member (.inl rfl) fresh) ?_
    have appended : fields ++ field :: others = fields ++ [field] ++ others := by rw [List.append_assoc, List.singleton_append]
    rw [List.length_append, List.length_cons] at enough
    rw [appended] at distinct ⊢
    exact ih distinct (by omega)

theorem readFields_sound (distinct : fields.keys.Nodup) (read : readFields fuel fields json = .ok result) :
    ∃ body members, json = body ++ [unit '}'] ∧ result = fields ++ members ∧ ItemsText (MemberText ScalarText) body members ∧
      result.keys.Nodup := by
  induction fuel generalizing fields json with
  | zero => cases read
  | succ fuel ih =>
    obtain ⟨⟨field, behind⟩, fieldRead, later⟩ := ok_bind read
    obtain ⟨text, rfl, member, fresh⟩ := readField_sound fieldRead
    have longer : (Fields.keys (fields ++ [field])).Nodup := by
      rw [Fields.keys, List.map_append]
      exact List.nodup_append.mpr ⟨distinct, List.nodup_cons.mpr ⟨List.not_mem_nil, List.nodup_nil⟩,
        fun key known other first => by
        rintro rfl
        exact fresh (List.mem_singleton.mp first ▸ known)⟩
    dsimp only at later
    split at later
    case h_1 => cases later
    case h_2 u rest =>
      split at later
      case isTrue closing =>
        split at later
        case isTrue empty =>
          cases later
          rw [closing, List.isEmpty_iff.mp empty]
          exact ⟨text, [field], rfl, rfl, .one member, longer⟩
        case isFalse => cases later
      case isFalse =>
        split at later
        case isTrue comma =>
          obtain ⟨body, members, rfl, rfl, items, distinct⟩ := ih longer later
          rw [comma]
          refine ⟨text ++ unit ',' :: body, field :: members, ?_, ?_, .more member items, distinct⟩
          · rw [List.append_assoc, List.cons_append]
          · rw [List.append_assoc, List.singleton_append]
        case isFalse => cases later

/-- A field of an object, as a member of a JSON value. -/
def asMember (field : CodeUnits × Scalar) : CodeUnits × JsonValue := (field.1, .scalar field.2)

theorem member_scalar (text : CodeUnits) (field : CodeUnits × Scalar) :
    MemberText ScalarText text field ↔ MemberText ValueText text (asMember field) := by
  obtain ⟨key, value⟩ := field
  constructor
  · rintro ⟨leading, string, gap, padded⟩
    obtain ⟨leading', scalar, trailing⟩ := padded
    exact .intro leading string gap (.intro leading' (.scalar scalar) trailing)
  · intro member
    generalize named : asMember (key, value) = other at member
    cases member with
    | intro leading string gap padded =>
      cases padded with
      | intro leading' valued trailing =>
        obtain ⟨rfl, rfl⟩ := Prod.mk.inj named
        cases valued with
        | scalar scalar => exact .intro leading string gap (.intro leading' scalar trailing)

/-- An object of scalars with at least one member, without spaces around it and with no key twice. -/
structure FlatObject (json : CodeUnits) (fields : Fields) : Prop where
  object : ValueText json (.object (fields.map asMember))
  nonempty : fields ≠ []
  distinct : fields.keys.Nodup

theorem flatObject_iff : FlatObject json fields ↔
    fields.keys.Nodup ∧ ∃ body, json = unit '{' :: body ++ [unit '}'] ∧ ItemsText (MemberText ScalarText) body fields := by
  constructor
  · rintro ⟨object, nonempty, distinct⟩
    generalize mapped : fields.map asMember = others at object
    cases object with
    | emptyObject => exact absurd (List.map_eq_nil_iff.mp mapped) nonempty
    | object items => exact ⟨distinct, _, rfl, (ItemsText.map member_scalar).mpr (mapped ▸ items)⟩
  · rintro ⟨distinct, body, rfl, items⟩
    refine ⟨.object ((ItemsText.map member_scalar).mp items), ?_, distinct⟩
    rintro rfl
    cases items

theorem readWalletClientData_ok : readWalletClientData json = .ok fields ↔ FlatObject json fields := by
  rw [flatObject_iff]
  constructor
  · intro read
    obtain ⟨body, opened, read⟩ := ok_bind read
    obtain ⟨inner, members, rfl, rfl, items, distinct⟩ := @readFields_sound _ [] _ _ List.nodup_nil read
    exact ⟨distinct, inner, expect_ok.mp opened, items⟩
  · rintro ⟨distinct, body, rfl, items⟩
    refine bind_run (expect_ok.mpr rfl) (readFields_complete items distinct ?_)
    rw [List.length_append, List.length_cons]
    omega

variable {error : WalletAssertionError}

theorem take_error {scan : CodeUnits → Option (CodeUnits × CodeUnits)}
    (failed : take scan json = .error error) : error ≠ exhausted := by
  unfold take at failed
  split at failed
  · cases failed
    decide
  · cases failed

theorem expect_error {u : UInt16} (failed : expect u json = .error error) : error ≠ exhausted := by
  unfold expect at failed
  split at failed
  · cases failed
    decide
  · split at failed
    · cases failed
    · cases failed
      decide

theorem readField_error (failed : readField fields json = .error error) : error ≠ exhausted := by
  obtain failed | ⟨_, _, failed⟩ := except_bind_error failed
  · exact take_error failed
  obtain rfl | ⟨_, failed⟩ := refuse_bind_error failed
  · decide
  obtain failed | ⟨_, _, failed⟩ := except_bind_error failed
  · exact expect_error failed
  obtain failed | ⟨_, _, failed⟩ := except_bind_error failed
  · exact take_error failed
  · cases failed

/-- Every field takes a part of the text, which is finite. -/
theorem readFields_ends (enough : json.length < fuel) : readFields fuel fields json ≠ .error exhausted := by
  induction fuel generalizing fields json with
  | zero => exact absurd enough (Nat.not_lt_zero _)
  | succ fuel ih =>
    intro failed
    have answered : (.error invalid : Except WalletAssertionError Fields) ≠ .error exhausted := by decide
    obtain failed | ⟨⟨field, behind⟩, read, later⟩ := except_bind_error failed
    · exact readField_error failed rfl
    · obtain ⟨text, rfl, _⟩ := readField_sound read
      dsimp only at later
      split at later
      case h_1 => exact answered later
      case h_2 u rest =>
        split at later
        case isTrue =>
          split at later
          · cases later
          · exact answered later
        case isFalse =>
          split at later
          case isTrue =>
            rw [List.length_append, List.length_cons] at enough
            exact ih (by omega) later
          case isFalse => exact answered later

theorem readWalletClientData_ends (json : CodeUnits) : readWalletClientData json ≠ .error exhausted := by
  intro failed
  obtain failed | ⟨body, opened, failed⟩ := except_bind_error failed
  · exact expect_error failed rfl
  · refine readFields_ends ?_ failed
    rw [expect_ok.mp opened]
    exact Nat.lt_succ_self _

end Objects

end JBCenter.Wallet.Webauthn
