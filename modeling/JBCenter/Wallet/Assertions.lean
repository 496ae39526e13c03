import JBCenter.Wallet.ClientData

/-! The verification of a passkey's assertion: what it signs, for whom, and where. -/
namespace JBCenter.Wallet.Webauthn
open JsonTokens
open Utf16 (unit spelled encode decodeUtf8)

def literal (text : String) : CodeUnits := spelled text.toList

structure Origin where
  origin : CodeUnits
  hostname : CodeUnits
  protocol : CodeUnits

structure PublicKey where
  x : CodeUnits
  y : CodeUnits

/-- The platform's hash, its reading of locations, its check of a signature, which fails on keys that are none, and the
encoding of the contract's signature. -/
structure Platform where
  sha256 : List UInt8 → List UInt8
  parseUrl : CodeUnits → Option Origin
  verify : List UInt8 → List UInt8 → List UInt8 → List UInt8 → Bool
  encodeSignature : List UInt8 → CodeUnits → Nat → Nat → List UInt8

structure WalletAssertion where
  credentialId : CodeUnits
  authenticatorData : List UInt8
  clientDataJSON : List UInt8
  signature : List UInt8
  userHandle : Option CodeUnits

structure Credential where
  id : CodeUnits
  publicKey : PublicKey
  userHandle : CodeUnits
  backupEligible : Option Bool

structure WalletAssertionExpectation where
  challenge : CodeUnits
  rpId : CodeUnits
  origin : CodeUnits
  topOrigin : Option CodeUnits
  credential : Credential
  requireUserHandle : Bool

structure VerifiedAssertion where
  credentialId : CodeUnits
  userHandle : Option CodeUnits
  signCount : Nat
  backupEligible : Bool
  backedUp : Bool
  authenticatorData : List UInt8
  clientDataFields : CodeUnits
  r : Nat
  s : Nat
  contractSignature : List UInt8

def hexPairs : CodeUnits → Option (List UInt8)
  | [] => some []
  | [_] => none
  | high :: low :: rest => do
    let high ← hexDigit high
    let low ← hexDigit low
    let bytes ← hexPairs rest
    return UInt8.ofNat (high * 16 + low) :: bytes

def bytes32 (value : CodeUnits) : Except WalletAssertionError (List UInt8) :=
  match value with
  | zero :: x :: digits =>
    if zero = unit '0' ∧ x = unit 'x' ∧ digits.length = 64 then
      match hexPairs digits with
      | none => .error (invalid "Invalid wallet challenge or public key")
      | some bytes => .ok bytes
    else .error (invalid "Invalid wallet challenge or public key")
  | _ => .error (invalid "Invalid wallet challenge or public key")

def base64Alphabet : CodeUnits := literal "ABCDEFGHIJKLMNOPQRSTUVWXYZabcdefghijklmnopqrstuvwxyz0123456789-_"

def base64Unit (value : Nat) : UInt16 := base64Alphabet.getD value 0

/-- `Buffer.toString("base64url")`. -/
def toBase64url : List UInt8 → CodeUnits
  | [] => []
  | [a] => [base64Unit (a.toNat / 4), base64Unit (a.toNat % 4 * 16)]
  | [a, b] => [base64Unit (a.toNat / 4), base64Unit (a.toNat % 4 * 16 + b.toNat / 16), base64Unit (b.toNat % 16 * 4)]
  | a :: b :: c :: rest =>
    base64Unit (a.toNat / 4) :: base64Unit (a.toNat % 4 * 16 + b.toNat / 16) :: base64Unit (b.toNat % 16 * 4 + c.toNat / 64) ::
      base64Unit (c.toNat % 64) :: toBase64url rest

/-- `Buffer.from(value, "base64url")`, where all the code units are of the alphabet. -/
def fromBase64url : CodeUnits → List UInt8
  | a :: b :: c :: d :: rest =>
    let value := ((base64Alphabet.idxOf a * 64 + base64Alphabet.idxOf b) * 64 + base64Alphabet.idxOf c) * 64 +
      base64Alphabet.idxOf d
    UInt8.ofNat (value / 65536) :: UInt8.ofNat (value / 256) :: UInt8.ofNat value :: fromBase64url rest
  | [a, b, c] =>
    let value := (base64Alphabet.idxOf a * 64 + base64Alphabet.idxOf b) * 64 + base64Alphabet.idxOf c
    [UInt8.ofNat (value / 1024), UInt8.ofNat (value / 4)]
  | [a, b] => [UInt8.ofNat ((base64Alphabet.idxOf a * 64 + base64Alphabet.idxOf b) / 16)]
  | _ => []

def base64url (value : CodeUnits) (maxBytes : Nat) : Except WalletAssertionError (List UInt8) := do
  refuse (value.isEmpty || (maxBytes * 4 + 2) / 3 < value.length || !value.all base64Alphabet.contains) invalid
  let decoded := fromBase64url value
  refuse (maxBytes < decoded.length || toBase64url decoded != value) invalid
  return decoded

def boundedBytes (value : List UInt8) (min max : Nat) : Except WalletAssertionError (List UInt8) := do
  refuse (value.length < min || max < value.length) invalid
  return value

def localHosts : List CodeUnits := [literal "localhost", literal "127.0.0.1", literal "[::1]"]

def validateWalletRpConfiguration (platform : Platform) (expected : WalletAssertionExpectation) :
    Except WalletAssertionError Unit :=
  match platform.parseUrl expected.origin with
  | none => .error (invalid "Invalid wallet RP configuration")
  | some origin =>
    refuse (origin.origin != expected.origin || origin.hostname != expected.rpId || 253 < expected.rpId.length ||
        expected.rpId.getLast? == some (unit '.') ||
        (origin.protocol != literal "https:" &&
          !(origin.protocol == literal "http:" && localHosts.contains origin.hostname)))
      (invalid "Invalid wallet RP configuration")

def checkUserHandle (assertion : WalletAssertion) (expected : WalletAssertionExpectation) : Except WalletAssertionError Unit := do
  let stored ← base64url expected.credential.userHandle 64
  match assertion.userHandle with
  | none => refuse expected.requireUserHandle (invalid "Wallet user handle required")
  | some held =>
    let held ← base64url held 64
    refuse (held != stored) invalid

/-- Whether the flags of the authenticator are wrong, given whether the credential can be backed up. -/
def flagsRefused (flags : Nat) (backupEligible : Option Bool) : Bool :=
  flags &&& 0x05 != 0x05 || flags &&& 0xe2 != 0 || (flags &&& 0x10 != 0 && flags &&& 0x08 == 0) ||
    backupEligible.any (fun recorded => recorded != (flags &&& 0x08 != 0))

def Fields.get (fields : Fields) (key : String) : Option Scalar := fields.lookup (literal key)

def checkOrigins (fields : Fields) (expected : WalletAssertionExpectation) : Except WalletAssertionError Unit :=
  if fields.get "crossOrigin" = some (.boolean true) then
    refuse ((expected.topOrigin.getD []).isEmpty ||
        (fields.get "topOrigin").any (fun top => top != .text (expected.topOrigin.getD [])))
      (invalid "Invalid wallet client data")
  else refuse (fields.get "topOrigin").isSome (invalid "Invalid wallet client data")

def isBoolean : Scalar → Bool
  | .boolean _ => true
  | _ => false

def checkFields (fields : Fields) (challenge : List UInt8) (expected : WalletAssertionExpectation) :
    Except WalletAssertionError Unit := do
  refuse (fields.get "type" != some (.text (literal "webauthn.get")) ||
      fields.get "challenge" != some (.text (toBase64url challenge)) ||
      fields.get "origin" != some (.text expected.origin) ||
      (fields.get "crossOrigin").any (fun value => !isBoolean value))
    (invalid "Invalid wallet client data")
  checkOrigins fields expected

def clientDataPrefix (challenge : List UInt8) : CodeUnits :=
  literal "\x7b\"type\":\"webauthn.get\",\"challenge\":\"" ++ toBase64url challenge ++ literal "\","

/-- The fields that the contract is given: what stands behind the prefix and before the closing brace. -/
def readSignedFields (clientDataJSON challenge : List UInt8) (expected : WalletAssertionExpectation) :
    Except WalletAssertionError CodeUnits :=
  match decodeUtf8 clientDataJSON with
  | none => .error (invalid "Invalid wallet client data encoding")
  | some text => do
    let json := spelled text
    refuse (!(clientDataPrefix challenge).isPrefixOf json || json.getLast? != some (unit '}'))
      (invalid "Unsupported wallet client data encoding or challenge")
    let fields ← readWalletClientData json
    checkFields fields challenge expected
    return (json.drop (clientDataPrefix challenge).length).dropLast

def checkSignature (platform : Platform) (publicKey : PublicKey) (authenticatorData clientDataJSON signature : List UInt8) :
    Except WalletAssertionError Unit :=
  match bytes32 publicKey.x, bytes32 publicKey.y with
  | .ok x, .ok y =>
    refuse (!platform.verify x y (authenticatorData ++ platform.sha256 clientDataJSON) signature)
      (invalid "Invalid wallet signature or public key")
  | _, _ => .error (invalid "Invalid wallet signature or public key")

def verifyWalletAssertion (platform : Platform) (assertion : WalletAssertion) (expected : WalletAssertionExpectation) :
    Except WalletAssertionError VerifiedAssertion := do
  let challenge ← bytes32 expected.challenge
  validateWalletRpConfiguration platform expected
  let credentialId ← base64url assertion.credentialId 1023
  let storedCredentialId ← base64url expected.credential.id 1023
  refuse (credentialId != storedCredentialId) invalid
  checkUserHandle assertion expected
  let authenticatorData ← boundedBytes assertion.authenticatorData 37 37
  refuse (authenticatorData.take 32 != platform.sha256 (encode expected.rpId)) (invalid "Wallet RP does not match")
  let flags := (authenticatorData.getD 32 0).toNat
  refuse (flagsRefused flags expected.credential.backupEligible) (invalid "Invalid wallet authenticator flags")
  let clientDataJSON ← boundedBytes assertion.clientDataJSON 1 2048
  let clientDataFields ← readSignedFields clientDataJSON challenge expected
  let signature ← boundedBytes assertion.signature 8 72
  let (r, s) ← readDerSignature signature
  checkSignature platform expected.credential.publicKey authenticatorData clientDataJSON signature
  return {
    credentialId := assertion.credentialId
    userHandle := assertion.userHandle
    signCount := bigEndian (authenticatorData.drop 33)
    backupEligible := flags &&& 0x08 != 0
    backedUp := flags &&& 0x10 != 0
    authenticatorData
    clientDataFields
    r
    s
    contractSignature := platform.encodeSignature authenticatorData clientDataFields r s }

section Signed

variable {platform : Platform} {assertion : WalletAssertion} {expected : WalletAssertionExpectation}
  {result : VerifiedAssertion} {challenge clientDataJSON : List UInt8} {clientDataFields : CodeUnits}

theorem between {front json : CodeUnits} {last : UInt16} (starts : front.isPrefixOf json = true)
    (ends : json.getLast? = some last)
    (proper : front.getLast? ≠ some last) : front ++ (json.drop front.length).dropLast ++ [last] = json := by
  obtain ⟨rest, rfl⟩ := List.isPrefixOf_iff_prefix.mp starts
  have nonempty : rest ≠ [] := by
    rintro rfl
    rw [List.append_nil] at ends
    exact proper ends
  rw [List.getLast?_append_of_ne_nil _ nonempty, List.getLast?_eq_some_getLast nonempty] at ends
  rw [List.drop_left, List.append_assoc, ← Option.some.inj ends, List.dropLast_concat_getLast]

theorem clientDataPrefix_last (challenge : List UInt8) : (clientDataPrefix challenge).getLast? = some (unit ',') := by
  rw [clientDataPrefix, List.getLast?_append_of_ne_nil _ (by decide)]
  decide

theorem readSignedFields_signed (read : readSignedFields clientDataJSON challenge expected = .ok clientDataFields) :
    encode (clientDataPrefix challenge ++ clientDataFields ++ [unit '}']) = clientDataJSON := by
  unfold readSignedFields at read
  split at read
  case h_1 => cases read
  case h_2 text decoded =>
    obtain ⟨framed, read⟩ := ok_refuse read
    obtain ⟨fields, _, read⟩ := ok_bind read
    obtain ⟨_, _, read⟩ := ok_bind read
    cases read
    rw [Bool.or_eq_false_iff, Bool.not_eq_eq_eq_not, Bool.not_false, bne_eq_false_iff_eq] at framed
    have proper : (clientDataPrefix challenge).getLast? ≠ some (unit '}') := by
      rw [clientDataPrefix_last]
      decide
    rw [between framed.1 framed.2 proper]
    exact Utf16.encode_spelled decoded

theorem verifyWalletAssertion_signed (verified : verifyWalletAssertion platform assertion expected = .ok result) :
    ∃ challenge, bytes32 expected.challenge = .ok challenge ∧
      encode (clientDataPrefix challenge ++ result.clientDataFields ++ [unit '}']) = assertion.clientDataJSON := by
  obtain ⟨challenge, named, verified⟩ := ok_bind verified
  iterate 8 obtain ⟨_, _, verified⟩ := ok_bind verified
  obtain ⟨clientDataJSON, bounded, verified⟩ := ok_bind verified
  obtain ⟨clientDataFields, read, verified⟩ := ok_bind verified
  obtain ⟨_, _, verified⟩ := ok_bind verified
  obtain ⟨⟨r, s⟩, _, verified⟩ := ok_bind verified
  obtain ⟨_, _, verified⟩ := ok_bind verified
  cases verified
  obtain ⟨_, bounded⟩ := ok_refuse bounded
  cases bounded
  exact ⟨challenge, named, readSignedFields_signed read⟩

/-- Client data is read exactly where it is a flat object, without loss and without end; and what an accepted assertion
hands to the contract spells the bytes that were signed. -/
theorem clientData_lossless :
    (∀ json fields, readWalletClientData json = .ok fields ↔ FlatObject json fields) ∧
    (∀ json, readWalletClientData json ≠ .error exhausted) ∧
    ∀ platform assertion expected result, verifyWalletAssertion platform assertion expected = .ok result →
      ∃ challenge, bytes32 expected.challenge = .ok challenge ∧
        encode (clientDataPrefix challenge ++ result.clientDataFields ++ [unit '}']) = assertion.clientDataJSON :=
  ⟨fun _ _ => readWalletClientData_ok, readWalletClientData_ends, fun _ _ _ _ => verifyWalletAssertion_signed⟩

/-- A platform on which every key verifies. -/
def samplePlatform : Platform := ⟨fun _ => List.replicate 32 0, fun text => some ⟨text, literal "a", literal "https:"⟩,
  fun _ _ _ _ => true, fun data _ _ _ => data⟩

def sampleWord : CodeUnits := literal "0x" ++ List.replicate 64 (unit '0')

def sampleExpected : WalletAssertionExpectation :=
  ⟨sampleWord, literal "a", literal "https://a", none, ⟨literal "AA", ⟨sampleWord, sampleWord⟩, literal "AA", none⟩, true⟩

def sampleFields : CodeUnits := literal "\"origin\":\"https://a\",\"crossOrigin\":false"

def sampleAssertion : WalletAssertion where
  credentialId := literal "AA"
  authenticatorData := List.replicate 32 0 ++ [5, 0, 0, 0, 1]
  clientDataJSON := encode (clientDataPrefix (List.replicate 32 0) ++ sampleFields ++ [unit '}'])
  signature := [0x30, 6, 2, 1, 1, 2, 1, 1]
  userHandle := some (literal "AA")

theorem clientData_lossless_sample : ∃ result challenge,
    verifyWalletAssertion samplePlatform sampleAssertion sampleExpected = .ok result ∧ result.clientDataFields = sampleFields ∧
    bytes32 sampleExpected.challenge = .ok challenge ∧
    encode (clientDataPrefix challenge ++ result.clientDataFields ++ [unit '}']) = sampleAssertion.clientDataJSON := by
  have ran : (verifyWalletAssertion samplePlatform sampleAssertion sampleExpected).toOption.map (·.clientDataFields) =
      some sampleFields := by decide +kernel
  obtain ⟨result, accepted, fields⟩ := Option.map_eq_some_iff.mp ran
  obtain ⟨challenge, named, spells⟩ := clientData_lossless.2.2 _ _ _ _ (toOption_ok accepted)
  exact ⟨result, challenge, toOption_ok accepted, fields, named, spells⟩

/-- A key that is spelled twice, once with an escape, is refused; a key that names a prototype is a field like any other. -/
example : readWalletClientData (literal "\x7b\"a\":1,\"\\u0061\":2\x7d") =
      .error (invalid "Duplicate wallet client data field") ∧
    (readWalletClientData (literal "\x7b \"__proto__\" : -0.5e+1 , \"b\":null\x7d")).toOption =
      some [(literal "__proto__", .number (literal "-0.5e+1")), (literal "b", .null)] := by decide +kernel

end Signed

end JBCenter.Wallet.Webauthn
