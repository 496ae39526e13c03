import JBCenter.Base.JsonTexts
import JBCenter.Wallet.Assertions
import JBCenter.Transactions.Store

/-! The cursors of the lists of plans: the time and the name of the last plan of a page, as a text that may stand in a URL. -/
namespace JBCenter.Transactions
open Rest
open Utf16 (unit spelled isHigh isLow Paired)
open JsonTokens JsonTexts
open Wallet.Webauthn (literal base64Alphabet base64Unit toBase64url fromBase64url)

structure ListCursor where
  createdAt : Int
  id : CodeUnits

def createdAtName : CodeUnits := literal "createdAt"

def idName : CodeUnits := literal "id"

def ListCursor.document (cursor : ListCursor) : JsonValue :=
  .object [(createdAtName, .scalar (.number (integerText cursor.createdAt))), (idName, .scalar (.text cursor.id))]

def encodeCursor (cursor : ListCursor) : CodeUnits := toBase64url (Utf16.encode (render cursor.document))

/-- What the platform reads: bytes as a text, and a numeral as a number where that is a safe integer. -/
structure Decoding where
  text : List UInt8 → CodeUnits
  number : CodeUnits → Option Int

/-- What is documented of both, about texts that were written: the bytes of a text without lone surrogates are read as that
text, and so is the numeral of a safe integer as that integer. -/
structure Decoding.Documented (decoding : Decoding) : Prop where
  text : ∀ {text}, Paired text → decoding.text (Utf16.encode text) = text
  number : ∀ {value}, isSafeInteger value = true → decoding.number (integerText value) = some value

def invalidCursor : RestError := invalid "Invalid transaction cursor."

/-- `assertText`, of a text that may have lone surrogates. -/
def isText (value : CodeUnits) : Bool :=
  !(value.length < 1 || 192 < (Utf16.encode value).length || value.any (fun u => u.toNat ≤ 0x1f || u.toNat == 0x7f))

def member (members : List (CodeUnits × JsonValue)) (name : CodeUnits) : Option JsonValue := members.reverse.lookup name

variable (decoding : Decoding)

/-- What the try block of `decodeCursor` returns, where it returns. -/
def readCursor (cursor : CodeUnits) : Option ListCursor :=
  match parse (decoding.text (fromBase64url cursor)) with
  | some (.object members) =>
    match member members createdAtName, member members idName with
    | some (.scalar (.number numeral)), some (.scalar (.text id)) =>
      match decoding.number numeral with
      | some createdAt =>
        if 0 ≤ createdAt ∧ isText id = true ∧ encodeCursor ⟨createdAt, id⟩ = cursor then some ⟨createdAt, id⟩ else none
      | none => none
    | _, _ => none
  | _ => none

def decodeCursor : Option CodeUnits → Except RestError (Option ListCursor)
  | none => .ok none
  | some cursor => do
    refuse (512 < cursor.length || cursor.isEmpty || !cursor.all base64Alphabet.contains) invalidCursor
    match readCursor decoding cursor with
    | some value => return some value
    | none => .error invalidCursor

/-- A cursor that a stored plan can have. -/
structure ListCursor.Valid (cursor : ListCursor) : Prop where
  safe : isSafeInteger cursor.createdAt = true
  natural : 0 ≤ cursor.createdAt
  text : isText cursor.id = true

theorem base64Unit_place : ∀ v < 64, base64Alphabet.idxOf (base64Unit v) = v ∧ base64Unit v ∈ base64Alphabet := by
  decide +kernel

theorem byte_of_mod {n : Nat} (byte : UInt8) (same : n % 256 = byte.toNat) : UInt8.ofNat n = byte :=
  UInt8.toNat_inj.mp ((UInt8.toNat_ofNat').trans same)

theorem fromBase64url_toBase64url (bytes : List UInt8) : fromBase64url (toBase64url bytes) = bytes := by
  fun_induction toBase64url bytes with
  | case1 => rfl
  | case2 a =>
    have bound := a.toNat_lt
    rw [fromBase64url, (base64Unit_place _ (by omega)).1, (base64Unit_place _ (by omega)).1]
    rw [byte_of_mod a (by omega)]
  | case3 a b =>
    have bound := a.toNat_lt
    have bound' := b.toNat_lt
    rw [fromBase64url, (base64Unit_place _ (by omega)).1, (base64Unit_place _ (by omega)).1, (base64Unit_place _ (by omega)).1]
    rw [byte_of_mod a (by omega), byte_of_mod b (by omega)]
  | case4 a b c rest ih =>
    have bound := a.toNat_lt
    have bound' := b.toNat_lt
    have bound'' := c.toNat_lt
    rw [fromBase64url, (base64Unit_place _ (by omega)).1, (base64Unit_place _ (by omega)).1, (base64Unit_place _ (by omega)).1,
      (base64Unit_place _ (by omega)).1, ih]
    rw [byte_of_mod a (by omega), byte_of_mod b (by omega), byte_of_mod c (by omega)]

theorem toBase64url_alphabet (bytes : List UInt8) : ∀ u ∈ toBase64url bytes, u ∈ base64Alphabet := by
  fun_induction toBase64url bytes with
  | case1 => exact nofun
  | case2 a =>
    have bound := a.toNat_lt
    simp only [List.forall_mem_cons, List.not_mem_nil, false_imp_iff, implies_true, and_true]
    exact ⟨(base64Unit_place _ (by omega)).2, (base64Unit_place _ (by omega)).2⟩
  | case3 a b =>
    have bound := a.toNat_lt
    have bound' := b.toNat_lt
    simp only [List.forall_mem_cons, List.not_mem_nil, false_imp_iff, implies_true, and_true]
    exact ⟨(base64Unit_place _ (by omega)).2, (base64Unit_place _ (by omega)).2, (base64Unit_place _ (by omega)).2⟩
  | case4 a b c rest ih =>
    have bound := a.toNat_lt
    have bound' := b.toNat_lt
    have bound'' := c.toNat_lt
    simp only [List.forall_mem_cons]
    exact ⟨(base64Unit_place _ (by omega)).2, (base64Unit_place _ (by omega)).2, (base64Unit_place _ (by omega)).2,
      (base64Unit_place _ (by omega)).2, ih⟩

theorem length_toBase64url (bytes : List UInt8) : (toBase64url bytes).length = (4 * bytes.length + 2) / 3 := by
  fun_induction toBase64url bytes with
  | case1 => rfl
  | case2 | case3 => simp only [List.length_cons, List.length_nil]
  | case4 a b c rest ih =>
    simp only [List.length_cons, ih]
    omega

section Cursors

variable {decoding : Decoding} {cursor : ListCursor}

theorem numerals_document (cursor : ListCursor) : Numerals cursor.document := by
  refine numerals_object.mpr (List.forall_mem_cons.mpr ⟨number_integerText cursor.createdAt, ?_⟩)
  exact List.forall_mem_cons.mpr ⟨trivial, nofun⟩

theorem parse_cursor (documented : decoding.Documented) (cursor : ListCursor) :
    parse (decoding.text (fromBase64url (encodeCursor cursor))) = some cursor.document := by
  rw [encodeCursor, fromBase64url_toBase64url, documented.text (paired_render (numerals_document cursor)),
    parse_render (numerals_document cursor)]

theorem members_document (time id : JsonValue) :
    member [(createdAtName, time), (idName, id)] createdAtName = some time ∧
    member [(createdAtName, time), (idName, id)] idName = some id :=
  ⟨rfl, rfl⟩

theorem readCursor_encodeCursor (documented : decoding.Documented) (valid : cursor.Valid) :
    readCursor decoding (encodeCursor cursor) = some cursor := by
  obtain ⟨time, name⟩ := members_document (.scalar (.number (integerText cursor.createdAt))) (.scalar (.text cursor.id))
  rw [readCursor, parse_cursor documented, ListCursor.document]
  simp only [time, name, documented.number valid.safe]
  exact if_pos ⟨valid.natural, valid.text, trivial⟩

theorem readCursor_some {text : CodeUnits} (found : readCursor decoding text = some cursor) :
    0 ≤ cursor.createdAt ∧ isText cursor.id = true ∧ encodeCursor cursor = text := by
  unfold readCursor at found
  split at found
  · split at found
    · split at found
      · obtain ⟨checked, same⟩ := Option.ite_none_right_eq_some.mp found
        cases same
        exact checked
      · cases found
    · cases found
  · cases found

theorem encodeCursor_nonempty (cursor : ListCursor) : 0 < (encodeCursor cursor).length := by
  have braces : 0 < (Utf16.encode (render cursor.document)).length := by
    refine lt_of_lt_of_le ?_ (paired_render (numerals_document cursor)).length_le_encode
    rw [ListCursor.document, render, braced]
    exact Nat.zero_lt_succ _
  rw [encodeCursor, length_toBase64url]
  omega

/-- A cursor is read back exactly when its text is not too long. -/
theorem decodeCursor_encodeCursor (documented : decoding.Documented) (valid : cursor.Valid) :
    decodeCursor decoding (some (encodeCursor cursor)) =
      if (encodeCursor cursor).length ≤ 512 then .ok (some cursor) else .error invalidCursor := by
  have some : (encodeCursor cursor).isEmpty = false := by
    rw [List.isEmpty_eq_false_iff_exists_mem, ← List.length_pos_iff_exists_mem]
    exact encodeCursor_nonempty cursor
  have alphabet : (encodeCursor cursor).all base64Alphabet.contains = true :=
    List.all_eq_true.mpr fun u member => List.contains_iff_mem.mpr (toBase64url_alphabet _ u member)
  rw [decodeCursor, some, alphabet, Bool.not_true, Bool.or_false, Bool.or_false, readCursor_encodeCursor documented valid]
  by_cases short : (encodeCursor cursor).length ≤ 512
  · rw [if_pos short, decide_eq_false (Nat.not_lt.mpr short)]
    rfl
  · rw [if_neg short, decide_eq_true (Nat.lt_of_not_le short)]
    rfl

theorem decodeCursor_ok {text : CodeUnits} (decoded : decodeCursor decoding (some text) = .ok (some cursor)) :
    encodeCursor cursor = text ∧ text.length ≤ 512 ∧ 0 ≤ cursor.createdAt ∧ isText cursor.id = true := by
  obtain ⟨checked, decoded⟩ := ok_refuse decoded
  cases found : readCursor decoding text with
  | none => rw [found] at decoded; cases decoded
  | some value =>
    rw [found] at decoded
    cases decoded
    obtain ⟨natural, isText, written⟩ := readCursor_some found
    simp only [Bool.or_eq_false_iff, decide_eq_false_iff_not] at checked
    exact ⟨written, Nat.not_lt.mp checked.1.1, natural, isText⟩

def Plain (text : CodeUnits) : Prop := Paired text ∧ ∀ u ∈ text, 32 ≤ u.toNat ∧ u ≠ quote ∧ u ≠ backslash

theorem escapeUnit_plain {u : UInt16} (printable : 32 ≤ u.toNat) (notQuote : u ≠ quote) (notBackslash : u ≠ backslash)
    (high : isHigh u = false) (low : isLow u = false) : escapeUnit u = [u] := by
  have controls : ∀ pair ∈ shortEscapes, pair.1 = quote ∨ pair.1 = backslash ∨ pair.1.toNat < 32 := forall_of_all (by decide)
  have long : shortEscapes.lookup u = none := by
    rw [List.lookup_eq_none_iff]
    intro pair listed
    obtain same | same | small := controls pair listed
    · exact bne_iff_ne.mpr (same ▸ notQuote)
    · exact bne_iff_ne.mpr (same ▸ notBackslash)
    · refine bne_iff_ne.mpr ?_
      rintro rfl
      exact absurd small (Nat.not_lt.mpr printable)
  rw [escapeUnit, long, high, low, decide_eq_false (Nat.not_lt.mpr printable)]
  rfl

theorem escapeText_plain {text : CodeUnits} (plain : Plain text) : escapeText text = text := by
  obtain ⟨pairs, units⟩ := plain
  induction pairs with
  | nil => rfl
  | @alone u rest high low pairs ih =>
    obtain ⟨⟨printable, notQuote, notBackslash⟩, others⟩ := List.forall_mem_cons.mp units
    have unit := escapeUnit_plain printable notQuote notBackslash high low
    cases rest with
    | nil => rw [escapeText, unit]
    | cons v rest => rw [escapeText, high, Bool.false_and, if_neg Bool.false_ne_true, ih others, unit, List.singleton_append]
  | @pair u v rest high low pairs ih =>
    obtain ⟨_, others⟩ := List.forall_mem_cons.mp units
    rw [escapeText, high, low, Bool.and_self, if_pos rfl, ih (List.forall_mem_cons.mp others).2]

theorem length_encode_ascii {text : CodeUnits} (ascii : ∀ u ∈ text, u.toNat < 128) :
    (Utf16.encode text).length = text.length := by
  induction text with
  | nil => rfl
  | cons u text ih =>
    obtain ⟨small, others⟩ := List.forall_mem_cons.mp ascii
    obtain ⟨high, low⟩ := Utf16.not_surrogate (u := u) (by omega)
    have one : (Char.ofNat u.toNat).utf8Size = 1 := by
      have each : ∀ n < 128, (Char.ofNat n).utf8Size = 1 := by decide
      exact each u.toNat small
    rw [Utf16.encode, Utf16.characters_alone text high low, Utf16.utf8, List.flatMap_cons,
      List.length_append, String.length_utf8EncodeChar,
      one, ← Utf16.utf8, ← Utf16.encode, ih others, List.length_cons, Nat.add_comm]

theorem ascii_digits (n : Nat) : ∀ u ∈ digits n, u.toNat < 128 := by
  intro u member
  have digit := isDigit_digits n u member
  rw [JsonTokens.isDigit, Bool.and_eq_true, decide_eq_true_eq, decide_eq_true_eq] at digit
  omega

/-- What stands before the time in a cursor's document, and what between the time and the name. -/
def documentOpening : CodeUnits := unit '{' :: quoted createdAtName ++ [unit ':']

def documentMiddle : CodeUnits := unit ',' :: quoted idName ++ [unit ':', quote]

theorem ascii_document : (∀ u ∈ documentOpening, u.toNat < 128) ∧ (∀ u ∈ documentMiddle, u.toNat < 128) ∧
    documentOpening.length = 13 ∧ documentMiddle.length = 7 :=
  ⟨forall_of_all (by decide +kernel), forall_of_all (by decide +kernel), by decide +kernel, by decide +kernel⟩

theorem render_document (cursor : ListCursor) :
    render cursor.document = (documentOpening ++ integerText cursor.createdAt ++ documentMiddle) ++
      (escapeText cursor.id ++ [quote, unit '}']) := by
  simp only [ListCursor.document, render, renderMembers, scalarText, braced, commas,
    memberText, quoted, documentOpening, documentMiddle,
    List.append_assoc, List.cons_append, List.nil_append]

theorem short_cursor (valid : cursor.Valid) (plain : Plain cursor.id) : (encodeCursor cursor).length ≤ 512 := by
  obtain ⟨n, time⟩ := Int.eq_ofNat_of_zero_le valid.natural
  have sixteen : (digits n).length ≤ 16 := by
    have safe := valid.safe
    rw [time, isSafeInteger, Bool.and_eq_true, decide_eq_true_eq, decide_eq_true_eq] at safe
    have bound : (n : Int) ≤ 9007199254740991 := safe.2
    rw [digits, List.length_map]
    exact (Nat.length_toDigits_le_iff (by decide) (by decide)).mpr (by omega)
  have name : (Utf16.encode cursor.id).length ≤ 192 := by
    have text := valid.text
    rw [isText, Bool.not_eq_true', Bool.or_eq_false_iff, Bool.or_eq_false_iff, decide_eq_false_iff_not] at text
    exact Nat.not_lt.mp (of_decide_eq_false text.1.2)
  obtain ⟨opening, middle, openingLength, middleLength⟩ := ascii_document
  have head : ∀ u ∈ documentOpening ++ integerText cursor.createdAt ++ documentMiddle, u.toNat < 128 := by
    rw [time]
    exact List.forall_mem_append.mpr ⟨List.forall_mem_append.mpr ⟨opening, ascii_digits n⟩, middle⟩
  have bytes : (Utf16.encode (render cursor.document)).length ≤ 230 := by
    have closing : ∀ u ∈ [quote, unit '}'], u.toNat < 128 := forall_of_all (by decide)
    rw [render_document, (Paired.of_forall fun u member => lt_trans (head u member) (by decide)).encode_append,
      List.length_append,
      length_encode_ascii head, escapeText_plain plain, plain.1.encode_append]
    simp only [List.length_append]
    rw [length_encode_ascii closing, openingLength, middleLength, time]
    change 13 + (digits n).length + 7 + (_ + 2) ≤ 230
    omega
  rw [encodeCursor, length_toBase64url]
  omega

end Cursors

/-- Reading a cursor undoes writing it, for every plan that can be stored and whose cursor is short enough, and a plan
whose name has no quotes, backslashes or lone surrogates has such a cursor. Nothing is read but what was written. -/
theorem cursor_round_trip {decoding : Decoding} (documented : decoding.Documented) :
    (∀ cursor : ListCursor, cursor.Valid → decodeCursor decoding (some (encodeCursor cursor)) =
      if (encodeCursor cursor).length ≤ 512 then .ok (some cursor) else .error invalidCursor) ∧
    (∀ cursor : ListCursor, cursor.Valid → Plain cursor.id → (encodeCursor cursor).length ≤ 512) ∧
    (∀ text cursor, decodeCursor decoding (some text) = .ok (some cursor) →
      encodeCursor cursor = text ∧ text.length ≤ 512 ∧ 0 ≤ cursor.createdAt ∧ isText cursor.id = true) :=
  ⟨fun _ valid => decodeCursor_encodeCursor documented valid, fun _ valid plain => short_cursor valid plain,
    fun _ _ decoded => decodeCursor_ok decoded⟩

/-- A reader of decimal texts. -/
def sampleNumber : CodeUnits → Option Int
  | [] => none
  | u :: rest =>
    if u = unit '-' then some (-(numeralValue 10 (rest.map fun v => Char.ofNat v.toNat) : Nat))
    else some (numeralValue 10 ((u :: rest).map fun v => Char.ofNat v.toNat) : Nat)

def sampleDecoding : Decoding where
  text bytes := ((Utf16.decodeUtf8 bytes).map spelled).getD []
  number := sampleNumber

theorem sampleNumber_digits (n : Nat) : numeralValue 10 ((digits n).map fun v => Char.ofNat v.toNat) = n := by
  have back : ∀ d < 10, Char.ofNat (unit (Nat.digitChar d)).toNat = Nat.digitChar d := by decide
  have same : (digits n).map (fun v => Char.ofNat v.toNat) = Nat.toDigits 10 n := by
    rw [digits, List.map_map]
    refine (List.map_congr_left fun c member => ?_).trans (List.map_id _)
    have numeral : IsNumeral 10 (Nat.toDigits 10 n) := isNumeral_toDigits (by decide)
    obtain ⟨d, small, rfl⟩ := numeral c member
    exact back d small
  rw [same, numeralValue_toDigits (by decide) (by decide)]

theorem sampleDecoding_documented : sampleDecoding.Documented where
  text pairs := by
    change ((Utf16.decodeUtf8 (Utf16.encode _)).map spelled).getD [] = _
    rw [pairs.decodeUtf8_encode, Option.getD_some]
  number := by
    intro value safe
    cases value with
    | ofNat n =>
      change sampleNumber (digits n) = some (n : Int)
      have read := sampleNumber_digits n
      cases spelled : digits n with
      | nil => exact absurd (List.map_eq_nil_iff.mp spelled) Nat.toDigits_ne_nil
      | cons u rest =>
        have plain : u ≠ unit '-' := by
          rintro rfl
          exact absurd (isDigit_digits n _ (spelled ▸ List.mem_cons_self)) (by decide)
        rw [sampleNumber, if_neg plain, ← spelled, read]
    | negSucc n =>
      change sampleNumber (unit '-' :: digits (n + 1)) = some (Int.negSucc n)
      rw [sampleNumber, if_pos rfl, sampleNumber_digits]
      rfl

theorem cursor_round_trip_sample :
    decodeCursor sampleDecoding (some (encodeCursor ⟨5, [unit 'a']⟩)) = .ok (some ⟨5, [unit 'a']⟩) := by
  have valid : (⟨5, [unit 'a']⟩ : ListCursor).Valid := ⟨by decide, by decide, by decide +kernel⟩
  have plain : Plain [unit 'a'] := ⟨.of_forall (forall_of_all (by decide)), forall_of_all (by decide)⟩
  have trip := cursor_round_trip sampleDecoding_documented
  rw [trip.1 _ valid, if_pos (trip.2.1 _ valid plain)]

end JBCenter.Transactions
