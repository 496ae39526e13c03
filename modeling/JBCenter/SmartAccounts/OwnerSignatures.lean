import JBCenter.Base.OrderedMap
import JBCenter.Base.Words
import JBCenter.Rest.Core
import Mathlib.Data.List.Sort

/-! The packed signatures of a Safe's owners: a table of 65 bytes for each owner, then the data of the contract owners in
order, each before its length. Hex texts are the bytes they write, and addresses the numbers they name. -/
namespace JBCenter.OwnerSignatures
open Rest
open List (drop_zero forall_mem_cons length_append length_cons map_cons pairwise_cons)

abbrev Bytes := List UInt8
abbrev Address := BitVec 160

inductive OwnerKind where
  | ecdsa
  | contract
  deriving DecidableEq

structure SafeOwnerSignature where
  kind : OwnerKind
  owner : Address
  signature : Bytes

structure SafeOwner where
  address : Address
  kind : OwnerKind

/-- The table names the owner of a contract entry only. -/
inductive DecodedSafeOwnerSignature where
  | ecdsa (signature : Bytes)
  | contract (owner : Address) (signature : Bytes)
  deriving DecidableEq

def maxPackedBytes : Nat := 8192 - 20
def maxContractBytes : Nat := 4096
def maxOwners : Nat := 16

def secp256k1Order : Nat := 0xfffffffffffffffffffffffffffffffebaaedce6af48a03bbfd25e8cd0364141

def failure (message : String) : RestError := { status := 400, code := "SMART_ACCOUNT_ENVELOPE_INVALID", message }

def invalidArgument (path message : String) : RestError :=
  { status := 400, code := "ABI_ARGUMENT_INVALID", message := path ++ ": " ++ message }

def invalidSignature (message : String) : RestError :=
  { status := 403, code := "SMART_OWNER_SIGNATURE_INVALID", message }

def bytes (value : Bytes) (label : String) (minimum maximum : Nat) : Except RestError Bytes := do
  refuse (value.length < minimum || maximum < value.length)
    (failure (label ++ " must contain " ++ toString minimum ++ " to " ++ toString maximum ++ " complete bytes."))
  return value

def thresholdChecked (threshold : Nat) : Except RestError Unit :=
  refuse (threshold < 1 || maxOwners < threshold) (failure "Supply a current owner threshold between 1 and 16.")

/-- `address(value, path, true)` -/
def nonzero (owner : Address) (path : String) : Except RestError Unit :=
  refuse (owner = 0) (invalidArgument path "Address must be nonzero.")

/-- The bytes from one place up to another. -/
def sliceHex (data : Bytes) (start stop : Nat) : Bytes := (data.drop start).take (stop - start)

/-- Low-s signatures with a recovery byte of 27 or 28. -/
def canonicalEoaSignature (signature : Bytes) : Except RestError Bytes := do
  let r := bigEndian (sliceHex signature 0 32)
  let s := bigEndian (sliceHex signature 32 64)
  let v := bigEndian (sliceHex signature 64 65)
  refuse (r = 0 || secp256k1Order ≤ r || s = 0 || secp256k1Order / 2 < s || (v ≠ 27 && v ≠ 28))
    (failure "Use canonical low-s ECDSA signatures with recovery byte 27 or 28.")
  return signature

def ecdsaChecked (value : Bytes) : Except RestError Bytes := do
  let signature ← bytes value "ECDSA signature" 65 65
  canonicalEoaSignature signature

/-- The entries from a place of the table on, with the place their data goes to. -/
def packEntries : Nat → List SafeOwnerSignature → Except RestError (Bytes × Bytes)
  | _, [] => .ok ([], [])
  | offset, entry :: rest =>
    match entry.kind with
    | .ecdsa => do
      let signature ← ecdsaChecked entry.signature
      let (head, tail) ← packEntries offset rest
      return (signature ++ head, tail)
    | .contract => do
      let signature ← bytes entry.signature "contract signature" 1 maxContractBytes
      let (head, tail) ← packEntries (offset + (32 + signature.length)) rest
      return (bytesOf 32 entry.owner.toNat ++ bytesOf 32 offset ++ [0] ++ head,
        bytesOf 32 signature.length ++ signature ++ tail)

def sortedByOwner (entries : List SafeOwnerSignature) : List SafeOwnerSignature :=
  entries.mergeSort (fun a b => a.owner ≤ b.owner)

def encodeSafeOwnerSignatures (entries : List SafeOwnerSignature) : Except RestError Bytes := do
  thresholdChecked entries.length
  entries.forM (fun entry => nonzero entry.owner "owner")
  let sorted := sortedByOwner entries
  refuse (¬(sorted.map SafeOwnerSignature.owner).Nodup) (failure "Owner signatures must be distinct.")
  let (head, tail) ← packEntries (65 * sorted.length) sorted
  bytes (head ++ tail) "packed owner signatures" 65 maxPackedBytes

def readEntry (data entry : Bytes) (dynamicOffset : Nat) : Except RestError (DecodedSafeOwnerSignature × Nat) :=
  if bigEndian (sliceHex entry 64 65) ≠ 0 then do
    let signature ← ecdsaChecked entry
    return (.ecdsa signature, dynamicOffset)
  else do
    let ownerWord := bigEndian (sliceHex entry 0 32)
    refuse (ownerWord = 0 || 2 ^ 160 ≤ ownerWord) (failure "Contract owner address must use canonical zero padding.")
    let offset := bigEndian (sliceHex entry 32 64)
    refuse (offset ≠ dynamicOffset || data.length < dynamicOffset + 32)
      (failure "Contract signature offsets must follow the static table without gaps, aliases or overlap.")
    let length := bigEndian (sliceHex data dynamicOffset (dynamicOffset + 32))
    refuse (length < 1 || maxContractBytes < length || data.length < dynamicOffset + 32 + length)
      (failure "Contract signature length is outside the bounded envelope.")
    let signature := sliceHex data (dynamicOffset + 32) (dynamicOffset + 32 + length)
    return (.contract (BitVec.ofNat 160 ownerWord) signature, dynamicOffset + (32 + length))

def readEntries (data : Bytes) : Nat → Nat → Nat → Except RestError (List DecodedSafeOwnerSignature × Nat)
  | 0, _, dynamicOffset => .ok ([], dynamicOffset)
  | count + 1, i, dynamicOffset => do
    let (first, next) ← readEntry data (sliceHex data (i * 65) ((i + 1) * 65)) dynamicOffset
    let (rest, last) ← readEntries data count (i + 1) next
    return (first :: rest, last)

def decodeSafeOwnerSignatures (value : Bytes) (threshold : Nat) : Except RestError (List DecodedSafeOwnerSignature) := do
  thresholdChecked threshold
  let data ← bytes value "packed owner signatures" (65 * threshold) maxPackedBytes
  let (result, dynamicOffset) ← readEntries data threshold 0 (65 * threshold)
  refuse (dynamicOffset ≠ data.length) (failure "Owner signatures cannot contain trailing bytes or extra entries.")
  return result

def validityPrefix (validAfter validUntil : Nat) : Except RestError Bytes := do
  refuse (2 ^ 48 ≤ validAfter) (invalidArgument "validAfter" "Value does not fit uint48.")
  refuse (2 ^ 48 ≤ validUntil) (invalidArgument "validUntil" "Value does not fit uint48.")
  refuse (validUntil ≤ validAfter) (failure "Owner operations require a finite ordered validity interval.")
  return bytesOf 6 validAfter ++ bytesOf 6 validUntil

def encodeSafe7579PasskeyOwnerSignature (validAfter validUntil : Nat) (signatures : List SafeOwnerSignature) :
    Except RestError Bytes := do
  let validity ← validityPrefix validAfter validUntil
  let packed ← encodeSafeOwnerSignatures signatures
  return validity ++ packed

def decodeSafe7579PasskeyOwnerSignature (signature : Bytes) (validAfter validUntil threshold : Nat) :
    Except RestError (List DecodedSafeOwnerSignature) := do
  let signature ← bytes signature "SafeOp owner envelope" 77 (12 + maxPackedBytes)
  let validity ← validityPrefix validAfter validUntil
  refuse (sliceHex signature 0 12 ≠ validity) (failure "Owner signature validity differs from its review.")
  decodeSafeOwnerSignatures (signature.drop 12) threshold

def zeroAddress : Bytes := List.replicate 20 0

def encodeSafe7579MessageSignature (entries : List SafeOwnerSignature) : Except RestError Bytes := do
  let packed ← encodeSafeOwnerSignatures entries
  return zeroAddress ++ packed

def decodeSafe7579MessageSignature (signature : Bytes) (threshold : Nat) :
    Except RestError (List DecodedSafeOwnerSignature) := do
  let value ← bytes signature "SafeMessage owner envelope" 85 (20 + maxPackedBytes)
  refuse (sliceHex value 0 20 ≠ zeroAddress) (failure "SafeMessage must select the zero-validator owner path.")
  decodeSafeOwnerSignatures (value.drop 20) threshold

/-- Hashing, recovery and the contracts' own checks; recovery may throw, and a check may fail to answer. -/
structure Verifier where
  keccak256 : Bytes → Bytes
  recoverAddress : Bytes → Bytes → Option Address
  verifyContractSignature : Address → Bytes → Bytes → Bytes → Option Bool

structure VerificationInput where
  digest : Bytes
  signedData : Bytes
  signatures : Bytes
  owners : List SafeOwner
  threshold : Nat

def currentOwners (owners : List SafeOwner) : Except RestError (OrderedMap Address OwnerKind) := do
  refuse (maxOwners < owners.length) (failure "Supply the bounded current owner set.")
  owners.foldlM (fun known owner => do
    nonzero owner.address "owner"
    refuse (known.has owner.address) (failure "The current owner set must be distinct.")
    return known.set owner.address owner.kind) OrderedMap.empty

namespace DecodedSafeOwnerSignature

def kind : DecodedSafeOwnerSignature → OwnerKind
  | .ecdsa _ => .ecdsa
  | .contract _ _ => .contract

end DecodedSafeOwnerSignature

variable (platform : Verifier) (input : VerificationInput)

def ownerOf : DecodedSafeOwnerSignature → Option Address
  | .contract owner _ => some owner
  | .ecdsa signature => platform.recoverAddress input.digest signature

def answered : Address → DecodedSafeOwnerSignature → Bool
  | owner, .contract _ signature =>
    platform.verifyContractSignature owner input.digest input.signedData signature = some true
  | _, .ecdsa _ => true

def verifyEntries (owners : OrderedMap Address OwnerKind) :
    Nat → List DecodedSafeOwnerSignature → Except RestError (List Address)
  | _, [] => .ok []
  | previous, entry :: rest =>
    match ownerOf platform input entry with
    | none => .error (invalidSignature "The current owner signature is invalid.")
    | some owner => do
      refuse (owners.get owner ≠ some entry.kind || owner.toNat ≤ previous)
        (invalidSignature "Use sorted distinct signatures from the current owner threshold.")
      refuse (!answered platform input owner entry)
        (invalidSignature "The contract owner signature could not be verified.")
      let verified ← verifyEntries owners owner.toNat rest
      return owner :: verified

def verifySafeOwnerSignatures : Except RestError (List Address) := do
  let signedData ← bytes input.signedData "signed preimage" 1 4096
  let digest ← bytes input.digest "digest" 32 32
  refuse (platform.keccak256 signedData ≠ digest)
    (failure "Signature verification must bind the exact signed preimage.")
  let entries ← decodeSafeOwnerSignatures input.signatures input.threshold
  let owners ← currentOwners input.owners
  refuse (owners.entries.length < input.threshold) (failure "The current threshold exceeds the owner set.")
  verifyEntries platform input owners 0 entries

section Slices
variable {data : Bytes} {start middle stop : Nat}

theorem sliceHex_length (within : stop ≤ data.length) : (sliceHex data start stop).length = stop - start := by
  rw [sliceHex, List.length_take, List.length_drop]
  omega

theorem sliceHex_join (first : start ≤ middle) (second : middle ≤ stop) :
    sliceHex data start middle ++ sliceHex data middle stop = sliceHex data start stop := by
  have widths : stop - start = (middle - start) + (stop - middle) := by omega
  have place : start + (middle - start) = middle := by omega
  rw [sliceHex, sliceHex, sliceHex, widths, List.take_add, List.drop_drop, place]

theorem sliceHex_within {first last : Nat} (inside : start + last ≤ stop) :
    sliceHex (sliceHex data start stop) first last = sliceHex data (start + first) (start + last) := by
  have widths : start + last - (start + first) = last - first := by omega
  rw [sliceHex, sliceHex, sliceHex, List.drop_take, List.take_take, List.drop_drop, widths, Nat.min_eq_left (by omega)]

theorem sliceHex_whole (within : data.length ≤ stop) : sliceHex data 0 stop = data := by
  rw [sliceHex, drop_zero, Nat.sub_zero, List.take_of_length_le within]

theorem sliceHex_left {front rest : Bytes} (width : front.length = stop) : sliceHex (front ++ rest) 0 stop = front := by
  rw [sliceHex, drop_zero, Nat.sub_zero, ← width, List.take_left]

theorem sliceHex_skip {front rest : Bytes} (width : front.length = start) :
    sliceHex (front ++ rest) start stop = sliceHex rest 0 (stop - start) := by
  rw [sliceHex, sliceHex, ← width, List.drop_left, drop_zero, Nat.sub_zero]

end Slices

namespace SafeOwnerSignature

/-- What of an entry its packing keeps. -/
def strip (entry : SafeOwnerSignature) : DecodedSafeOwnerSignature :=
  match entry.kind with
  | .ecdsa => .ecdsa entry.signature
  | .contract => .contract entry.owner entry.signature

def head (offset : Nat) (entry : SafeOwnerSignature) : Bytes :=
  match entry.kind with
  | .ecdsa => entry.signature
  | .contract => bytesOf 32 entry.owner.toNat ++ (bytesOf 32 offset ++ [0])

/-- The data behind the table. -/
def tail (entry : SafeOwnerSignature) : Bytes :=
  match entry.kind with
  | .ecdsa => []
  | .contract => bytesOf 32 entry.signature.length ++ entry.signature

/-- The signatures the encoder takes. -/
def Acceptable (entry : SafeOwnerSignature) : Prop :=
  match entry.kind with
  | .ecdsa => ecdsaChecked entry.signature = .ok entry.signature
  | .contract => 1 ≤ entry.signature.length ∧ entry.signature.length ≤ maxContractBytes ∧ entry.owner ≠ 0

end SafeOwnerSignature

theorem bytes_ok {value result : Bytes} {label : String} {minimum maximum : Nat}
    (accepted : bytes value label minimum maximum = .ok result) :
    result = value ∧ minimum ≤ value.length ∧ value.length ≤ maximum := by
  unfold bytes at accepted
  obtain ⟨inside, accepted⟩ := ok_refuse accepted
  cases accepted
  simpa using inside

theorem bytes_run {value : Bytes} {label : String} {minimum maximum : Nat} (low : minimum ≤ value.length)
    (high : value.length ≤ maximum) : bytes value label minimum maximum = .ok value := by
  unfold bytes
  exact bind_run (refuse_ok.mpr (by simpa using ⟨low, high⟩)) rfl

theorem ecdsaChecked_ok {value signature : Bytes} (accepted : ecdsaChecked value = .ok signature) :
    signature = value ∧ value.length = 65 ∧ bigEndian (sliceHex value 64 65) ≠ 0 := by
  unfold ecdsaChecked at accepted
  obtain ⟨measured, bounded, checked⟩ := ok_bind accepted
  obtain ⟨same, low, high⟩ := bytes_ok bounded
  subst same
  unfold canonicalEoaSignature at checked
  obtain ⟨canonical, checked⟩ := ok_refuse checked
  cases checked
  simp only [Bool.or_eq_false_iff, Bool.and_eq_false_iff, decide_eq_false_iff_not, not_not] at canonical
  exact ⟨rfl, Nat.le_antisymm high low, by omega⟩

section Entry
variable {data entry : Bytes} {offset next : Nat} {signed : SafeOwnerSignature}

theorem head_length (acceptable : signed.Acceptable) : (signed.head offset).length = 65 := by
  obtain ⟨kind, owner, signature⟩ := signed
  cases kind with
  | ecdsa => exact (ecdsaChecked_ok acceptable).2.1
  | contract => simp [SafeOwnerSignature.head]

theorem head_contract (owner : Address) (signature : Bytes) (offset : Nat) :
    let entry := SafeOwnerSignature.head offset { kind := .contract, owner, signature }
    sliceHex entry 0 32 = bytesOf 32 owner.toNat ∧ sliceHex entry 32 64 = bytesOf 32 offset ∧
      sliceHex entry 64 65 = [0] := by
  refine ⟨sliceHex_left (bytesOf_length ..), ?_, ?_⟩
  · change sliceHex (bytesOf 32 owner.toNat ++ (bytesOf 32 offset ++ [0])) 32 64 = _
    rw [sliceHex_skip (bytesOf_length ..), sliceHex_left (bytesOf_length ..)]
  · change sliceHex (bytesOf 32 owner.toNat ++ (bytesOf 32 offset ++ [0])) 64 65 = _
    rw [← List.append_assoc, sliceHex_skip (by simp)]
    rfl

theorem readEntry_run (acceptable : signed.Acceptable) (short : data.length ≤ maxPackedBytes)
    (within : offset + signed.tail.length ≤ data.length)
    (placed : sliceHex data offset (offset + signed.tail.length) = signed.tail) :
    readEntry data (signed.head offset) offset = .ok (signed.strip, offset + signed.tail.length) := by
  obtain ⟨kind, owner, signature⟩ := signed
  cases kind with
  | ecdsa =>
    obtain ⟨_, _, recovery⟩ := ecdsaChecked_ok acceptable
    unfold readEntry
    refine (if_pos recovery).trans ?_
    exact bind_run acceptable rfl
  | contract =>
    obtain ⟨some, few, owned⟩ : 1 ≤ signature.length ∧ signature.length ≤ maxContractBytes ∧ owner ≠ 0 :=
      acceptable
    obtain ⟨first, second, third⟩ := head_contract owner signature offset
    have long : (SafeOwnerSignature.tail ⟨.contract, owner, signature⟩).length = 32 + signature.length := by
      simp [SafeOwnerSignature.tail]
    rw [long] at within placed ⊢
    -- the two parts of the data: the length, then the signature
    have length : sliceHex data offset (offset + 32) = bytesOf 32 signature.length := by
      have front := congrArg (sliceHex · 0 32) placed
      rw [sliceHex_within (by omega)] at front
      exact front.trans (sliceHex_left (bytesOf_length ..))
    have body : sliceHex data (offset + 32) (offset + 32 + signature.length) = signature := by
      have back := congrArg (sliceHex · 32 (32 + signature.length)) placed
      rw [sliceHex_within (Nat.le_refl _), ← Nat.add_assoc] at back
      refine back.trans ((sliceHex_skip (bytesOf_length ..)).trans ?_)
      exact sliceHex_whole (by rw [Nat.add_sub_cancel_left])
    have word : ∀ value, value ≤ 2 ^ 160 → bigEndian (bytesOf 32 value) = value := fun value small =>
      bigEndian_bytesOf (Nat.lt_of_le_of_lt small (by decide))
    have owner' := owner.isLt
    unfold maxPackedBytes at short
    unfold readEntry
    rw [third, if_neg (by decide), first, second, length, word _ (by omega), word _ (by omega), word _ (by omega)]
    have named : owner.toNat ≠ 0 := fun zero => owned (BitVec.eq_of_toNat_eq zero)
    refine bind_run (refuse_ok.mpr ?_) (bind_run (refuse_ok.mpr ?_)
      (bind_run (refuse_ok.mpr ?_) ?_))
    · simpa using ⟨named, owner'⟩
    · simpa using Nat.le_trans (by omega) within
    · simp only [Bool.or_eq_false_iff, decide_eq_false_iff_not]
      omega
    · rw [body, BitVec.ofNat_toNat, BitVec.setWidth_eq]
      rfl

theorem readEntry_ok (width : entry.length = 65) (within : offset ≤ data.length)
    (read : readEntry data entry offset = .ok (signed.strip, next)) :
    signed.Acceptable ∧ entry = signed.head offset ∧ next = offset + signed.tail.length ∧ next ≤ data.length ∧
      sliceHex data offset next = signed.tail := by
  obtain ⟨kind, owner, signature⟩ := signed
  unfold readEntry at read
  split at read
  · obtain ⟨held, checked, read⟩ := ok_bind read
    obtain ⟨same, _⟩ := ecdsaChecked_ok checked
    cases kind with
    | contract => cases read
    | ecdsa =>
      cases read
      subst same
      exact ⟨checked, rfl, rfl, within, by simp [sliceHex, SafeOwnerSignature.tail]⟩
  · rename_i recovery
    obtain ⟨padded, read⟩ := ok_refuse read
    obtain ⟨placed, read⟩ := ok_refuse read
    obtain ⟨measured, read⟩ := ok_refuse read
    cases kind with
    | ecdsa => cases read
    | contract =>
      simp only [Bool.or_eq_false_iff, decide_eq_false_iff_not, not_not] at padded placed measured
      obtain ⟨same, rfl⟩ := Prod.mk.inj (Except.ok.inj read)
      obtain ⟨named, signed⟩ : BitVec.ofNat 160 (bigEndian (sliceHex entry 0 32)) = owner ∧
          sliceHex data (offset + 32) (offset + 32 + bigEndian (sliceHex data offset (offset + 32))) = signature :=
        DecodedSafeOwnerSignature.contract.inj same
      have lengthWord : (sliceHex data offset (offset + 32)).length = 32 := by
        rw [sliceHex_length (by omega), Nat.add_sub_cancel_left]
      have bodyLength : signature.length = bigEndian (sliceHex data offset (offset + 32)) := by
        rw [← signed, sliceHex_length (by omega), Nat.add_sub_cancel_left]
      have ownerWord : owner.toNat = bigEndian (sliceHex entry 0 32) := by
        rw [← named, BitVec.toNat_ofNat, Nat.mod_eq_of_lt (by omega)]
      have zero : sliceHex entry 64 65 = [0] := by
        have single : (sliceHex entry 64 65).length = 1 := sliceHex_length (Nat.le_of_eq width.symm)
        have one := bytesOf_of_length single
        rw [Decidable.not_not.mp recovery] at one
        exact one.symm
      refine ⟨?_, ?_, ?_, ?_, ?_⟩
      · change 1 ≤ signature.length ∧ signature.length ≤ maxContractBytes ∧ owner ≠ 0
        exact ⟨by omega, by omega, fun none => padded.1 (by rw [← ownerWord, none]; rfl)⟩
      · have first : bytesOf 32 owner.toNat = sliceHex entry 0 32 := by
          rw [ownerWord]
          exact bytesOf_of_length (sliceHex_length (by omega))
        have second : bytesOf 32 offset = sliceHex entry 32 64 := by
          rw [← placed.1]
          exact bytesOf_of_length (sliceHex_length (by omega))
        change entry = bytesOf 32 owner.toNat ++ (bytesOf 32 offset ++ [0])
        rw [first, second, ← zero, sliceHex_join (by omega) (by omega), sliceHex_join (by omega) (by omega),
          sliceHex_whole (Nat.le_of_eq width)]
      · simp [SafeOwnerSignature.tail, bodyLength]
      · omega
      · have tail : SafeOwnerSignature.tail ⟨.contract, owner, signature⟩ =
            sliceHex data offset (offset + 32) ++ signature := by
          simp only [SafeOwnerSignature.tail]
          rw [bodyLength, bytesOf_of_length lengthWord]
        rw [tail, ← signed, sliceHex_join (by omega) (by omega), Nat.add_assoc]

end Entry

/-- The table of some entries, the data of the first at the offset. -/
def table : Nat → List SafeOwnerSignature → Bytes
  | _, [] => []
  | offset, entry :: rest => entry.head offset ++ table (offset + entry.tail.length) rest
open SafeOwnerSignature (head owner strip tail)

def contents (entries : List SafeOwnerSignature) : Bytes := entries.flatMap tail

section Entries
variable {data head tail : Bytes} {offset i last : Nat} {entries : List SafeOwnerSignature}

theorem contents_cons (entry : SafeOwnerSignature) (rest : List SafeOwnerSignature) :
    contents (entry :: rest) = entry.tail ++ contents rest := List.flatMap_cons

theorem table_length (acceptable : ∀ entry ∈ entries, entry.Acceptable) :
    (table offset entries).length = entries.length * 65 := by
  induction entries generalizing offset with
  | nil => rfl
  | cons entry rest ih =>
    obtain ⟨first, others⟩ := forall_mem_cons.mp acceptable
    rw [table, length_append, head_length first, ih others, length_cons]
    omega

theorem packEntries_run (acceptable : ∀ entry ∈ entries, entry.Acceptable) :
    packEntries offset entries = .ok (table offset entries, contents entries) := by
  induction entries generalizing offset with
  | nil => rfl
  | cons entry rest ih =>
    obtain ⟨first, others⟩ := forall_mem_cons.mp acceptable
    obtain ⟨kind, owner, signature⟩ := entry
    cases kind with
    | ecdsa => exact bind_run first (bind_run (ih others) rfl)
    | contract =>
      obtain ⟨some, few, _⟩ : 1 ≤ signature.length ∧ signature.length ≤ maxContractBytes ∧ owner ≠ 0 :=
        first
      have size : (tail ⟨.contract, owner, signature⟩).length = 32 + signature.length := by
        simp [tail]
      refine bind_run (bytes_run some few) (bind_run (ih others) ?_)
      rw [table, size, contents_cons]
      simp only [head, tail, List.append_assoc]
      rfl

theorem packEntries_ok (owned : ∀ entry ∈ entries, entry.owner ≠ 0)
    (packed : packEntries offset entries = .ok (head, tail)) : ∀ entry ∈ entries, entry.Acceptable := by
  induction entries generalizing offset head tail with
  | nil => exact nofun
  | cons entry rest ih =>
    obtain ⟨named, others⟩ := forall_mem_cons.mp owned
    obtain ⟨kind, owner, signature⟩ := entry
    cases kind with
    | ecdsa =>
      obtain ⟨held, checked, packed⟩ := ok_bind packed
      obtain ⟨⟨_, _⟩, after, _⟩ := ok_bind packed
      obtain ⟨rfl, _⟩ := ecdsaChecked_ok checked
      exact forall_mem_cons.mpr ⟨checked, ih others after⟩
    | contract =>
      obtain ⟨held, measured, packed⟩ := ok_bind packed
      obtain ⟨⟨_, _⟩, after, _⟩ := ok_bind packed
      obtain ⟨_, some, few⟩ := bytes_ok measured
      exact forall_mem_cons.mpr ⟨⟨some, few, named⟩, ih others after⟩

theorem readEntries_run (acceptable : ∀ entry ∈ entries, entry.Acceptable) (short : data.length ≤ maxPackedBytes)
    (heads : sliceHex data (i * 65) ((i + entries.length) * 65) = table offset entries)
    (within : offset + (contents entries).length ≤ data.length)
    (tails : sliceHex data offset (offset + (contents entries).length) = contents entries) :
    readEntries data entries.length i offset =
      .ok (entries.map strip, offset + (contents entries).length) := by
  induction entries generalizing offset i with
  | nil => rfl
  | cons entry rest ih =>
    obtain ⟨first, others⟩ := forall_mem_cons.mp acceptable
    rw [contents_cons] at within tails ⊢
    rw [length_append] at within tails ⊢
    rw [table] at heads
    have headFirst : sliceHex data (i * 65) ((i + 1) * 65) = entry.head offset := by
      have front := congrArg (sliceHex · 0 65) heads
      rw [sliceHex_within (by simp only [length_cons]; omega), sliceHex_left (head_length first)] at front
      rwa [Nat.add_mul, Nat.one_mul]
    have headRest : sliceHex data ((i + 1) * 65) ((i + 1 + rest.length) * 65) =
        table (offset + entry.tail.length) rest := by
      have back := congrArg (sliceHex · 65 ((rest.length + 1) * 65)) heads
      rw [sliceHex_within (by simp only [length_cons]; omega), sliceHex_skip (head_length first),
        sliceHex_whole (by rw [table_length others]; omega)] at back
      rw [← back]
      congr 1 <;> omega
    have tailFirst : sliceHex data offset (offset + entry.tail.length) = entry.tail := by
      have front := congrArg (sliceHex · 0 entry.tail.length) tails
      rwa [sliceHex_within (by omega), sliceHex_left rfl] at front
    have tailRest : sliceHex data (offset + entry.tail.length)
        (offset + entry.tail.length + (contents rest).length) = contents rest := by
      have back := congrArg (sliceHex · entry.tail.length (entry.tail.length + (contents rest).length)) tails
      rw [sliceHex_within (by omega), sliceHex_skip rfl, sliceHex_whole (by omega)] at back
      rwa [Nat.add_assoc]
    have read := readEntry_run first short (by omega) tailFirst
    have next := ih others headRest (by omega) tailRest
    rw [length_cons, readEntries, headFirst]
    refine bind_run read (bind_run next ?_)
    rw [map_cons, ← Nat.add_assoc]
    rfl

theorem readEntries_ok (within : offset ≤ data.length) (whole : (i + entries.length) * 65 ≤ data.length)
    (read : readEntries data entries.length i offset = .ok (entries.map strip, last)) :
    (∀ entry ∈ entries, entry.Acceptable) ∧
      sliceHex data (i * 65) ((i + entries.length) * 65) = table offset entries ∧
      last = offset + (contents entries).length ∧ last ≤ data.length ∧
      sliceHex data offset last = contents entries := by
  induction entries generalizing offset i with
  | nil =>
    cases read
    exact ⟨nofun, by simp [sliceHex, table], rfl, within, by simp [sliceHex, contents]⟩
  | cons entry rest ih =>
    rw [length_cons] at whole read
    obtain ⟨⟨firstRead, next⟩, first, read⟩ := ok_bind read
    obtain ⟨⟨others, final⟩, rested, read⟩ := ok_bind read
    cases read
    have width : (sliceHex data (i * 65) ((i + 1) * 65)).length = 65 := by
      rw [sliceHex_length (by omega)]
      omega
    obtain ⟨acceptable, head, rfl, inside, tail⟩ := readEntry_ok width within first
    obtain ⟨all, heads, rfl, bounded, tails⟩ := ih inside (by omega) rested
    refine ⟨forall_mem_cons.mpr ⟨acceptable, all⟩, ?_, ?_, bounded, ?_⟩
    · have places : (i + 1 + rest.length) * 65 = (i + (rest.length + 1)) * 65 := by omega
      rw [table, ← head, ← heads, places, length_cons, sliceHex_join (by omega) (by omega)]
    · rw [contents_cons, length_append, Nat.add_assoc]
    · rw [contents_cons, ← sliceHex_join (Nat.le_add_right ..) (Nat.le_add_right ..), tail, tails]

end Entries

def Ascending (owners : List Address) : Prop := (0 :: owners).Pairwise (· < ·)

section Codec
variable {data : Bytes} {threshold : Nat} {entries : List SafeOwnerSignature} {decoded : List DecodedSafeOwnerSignature}

theorem thresholdChecked_iff : thresholdChecked threshold = .ok () ↔ 1 ≤ threshold ∧ threshold ≤ maxOwners := by
  unfold thresholdChecked
  rw [refuse_ok, Bool.or_eq_false_iff, decide_eq_false_iff_not, decide_eq_false_iff_not]
  omega

theorem sortedByOwner_perm (entries : List SafeOwnerSignature) : (sortedByOwner entries).Perm entries :=
  List.mergeSort_perm ..

theorem ascending_iff : Ascending (entries.map owner) ↔
    (∀ entry ∈ entries, entry.owner ≠ 0) ∧ (entries.map owner).Pairwise (· < ·) := by
  have positive : ∀ owner : Address, 0 < owner ↔ owner ≠ 0 := by
    intro owner
    rw [BitVec.lt_def]
    constructor
    · rintro positive rfl
      exact absurd positive (by decide)
    · exact fun nonzero => Nat.pos_of_ne_zero (fun zero => nonzero (BitVec.eq_of_toNat_eq zero))
  simp only [Ascending, pairwise_cons, List.forall_mem_map, positive]

theorem sortedByOwner_ascending (distinct : ((sortedByOwner entries).map owner).Nodup) :
    ((sortedByOwner entries).map owner).Pairwise (· < ·) := by
  have sorted : (sortedByOwner entries).Pairwise (fun a b => a.owner ≤ b.owner) := by
    have ordered := @List.pairwise_mergeSort SafeOwnerSignature (fun a b => decide (a.owner ≤ b.owner))
      (fun a b c first second => by
        simp only [decide_eq_true_eq] at *
        exact BitVec.le_trans first second)
      (fun a b => by
        simp only [Bool.or_eq_true, decide_eq_true_eq]
        exact BitVec.le_total ..) entries
    exact ordered.imp of_decide_eq_true
  have owners := List.pairwise_map.mpr sorted
  exact owners.imp₂ (fun a b le ne => BitVec.lt_of_le_ne le ne) distinct

theorem sortedByOwner_eq (ascending : (entries.map owner).Pairwise (· < ·)) :
    sortedByOwner entries = entries :=
  List.mergeSort_of_pairwise ((List.pairwise_map.mp ascending).imp (fun less => decide_eq_true (BitVec.le_of_lt less)))

theorem encode_ok (encoded : encodeSafeOwnerSignatures entries = .ok data) :
    let sorted := sortedByOwner entries
    thresholdChecked entries.length = .ok () ∧ Ascending (sorted.map owner) ∧
      (∀ entry ∈ sorted, entry.Acceptable) ∧ data = table (65 * sorted.length) sorted ++ contents sorted ∧
      data.length ≤ maxPackedBytes := by
  unfold encodeSafeOwnerSignatures at encoded
  obtain ⟨_, bounded, encoded⟩ := ok_bind encoded
  obtain ⟨_, owned, encoded⟩ := ok_bind encoded
  obtain ⟨distinct, encoded⟩ := ok_refuse encoded
  obtain ⟨⟨head, tail⟩, packed, encoded⟩ := ok_bind encoded
  obtain ⟨rfl, _, short⟩ := bytes_ok encoded
  have owned : ∀ entry ∈ sortedByOwner entries, entry.owner ≠ 0 := by
    intro entry member
    have checked := forM_ok.mp owned entry ((sortedByOwner_perm entries).mem_iff.mp member)
    simpa using refuse_ok.mp checked
  have acceptable := packEntries_ok owned packed
  rw [packEntries_run acceptable] at packed
  cases packed
  have ascending := sortedByOwner_ascending (by simpa using distinct)
  exact ⟨bounded, ascending_iff.mpr ⟨owned, ascending⟩, acceptable, rfl, short⟩

theorem encode_run (bounded : thresholdChecked entries.length = .ok ())
    (acceptable : ∀ entry ∈ entries, entry.Acceptable) (ascending : Ascending (entries.map owner))
    (written : data = table (65 * entries.length) entries ++ contents entries) (short : data.length ≤ maxPackedBytes) :
    encodeSafeOwnerSignatures entries = .ok data := by
  obtain ⟨owned, ordered⟩ := ascending_iff.mp ascending
  have some := (thresholdChecked_iff.mp bounded).1
  unfold encodeSafeOwnerSignatures
  refine bind_run bounded (bind_run (forM_refuse_ok fun entry member => ?_) ?_)
  · exact decide_eq_false (owned entry member)
  · rw [sortedByOwner_eq ordered]
    refine bind_run (refuse_ok.mpr ?_) (bind_run (packEntries_run acceptable) ?_)
    · exact decide_eq_false (not_not.mpr (ordered.imp (fun less => BitVec.ne_of_lt less)))
    · change bytes (table (65 * entries.length) entries ++ contents entries) _ _ _ = _
      rw [← written]
      refine bytes_run ?_ short
      rw [written, length_append, table_length acceptable]
      omega

theorem decode_encode (encoded : encodeSafeOwnerSignatures entries = .ok data) :
    decodeSafeOwnerSignatures data entries.length = .ok ((sortedByOwner entries).map strip) := by
  obtain ⟨bounded, _, acceptable, written, short⟩ := encode_ok encoded
  have count := (sortedByOwner_perm entries).length_eq
  have length : data.length = 65 * entries.length + (contents (sortedByOwner entries)).length := by
    rw [written, length_append, table_length acceptable, count]
    omega
  have heads : sliceHex data (0 * 65) ((0 + (sortedByOwner entries).length) * 65) =
      table (65 * entries.length) (sortedByOwner entries) := by
    rw [written, Nat.zero_mul, sliceHex_left (by rw [table_length acceptable]; omega), count]
  have tails : sliceHex data (65 * entries.length) (65 * entries.length + (contents (sortedByOwner entries)).length) =
      contents (sortedByOwner entries) := by
    rw [written, sliceHex_skip (by rw [table_length acceptable, count]; omega), sliceHex_whole (by omega)]
  have read := readEntries_run acceptable short heads (Nat.le_of_eq length.symm) tails
  rw [count] at read
  unfold decodeSafeOwnerSignatures
  refine bind_run bounded (bind_run (bytes_run (by omega) short) (bind_run read ?_))
  exact bind_run (refuse_ok.mpr (by simp [length])) rfl

theorem decode_ok (read : decodeSafeOwnerSignatures data threshold = .ok decoded) :
    thresholdChecked threshold = .ok () ∧ 65 * threshold ≤ data.length ∧ data.length ≤ maxPackedBytes ∧
      readEntries data threshold 0 (65 * threshold) = .ok (decoded, data.length) := by
  unfold decodeSafeOwnerSignatures at read
  obtain ⟨_, bounded, read⟩ := ok_bind read
  obtain ⟨measured, inside, rest⟩ := ok_bind read
  obtain ⟨same, long, short⟩ := bytes_ok inside
  subst same
  obtain ⟨⟨result, last⟩, listed, rest⟩ := ok_bind rest
  obtain ⟨exact, rest⟩ := ok_refuse rest
  cases rest
  rw [decide_eq_false_iff_not, not_not] at exact
  exact ⟨bounded, long, short, exact ▸ listed⟩

theorem readEntries_length {i offset count last : Nat} (read : readEntries data count i offset = .ok (decoded, last)) :
    decoded.length = count := by
  induction count generalizing i offset decoded with
  | zero =>
    cases read
    rfl
  | succ count ih =>
    obtain ⟨⟨first, next⟩, _, read⟩ := ok_bind read
    obtain ⟨⟨rest, final⟩, rested, read⟩ := ok_bind read
    cases read
    rw [length_cons, ih rested]

theorem encode_decode (read : decodeSafeOwnerSignatures data threshold = .ok decoded)
    (assigned : entries.map strip = decoded)
    (ascending : Ascending (entries.map owner)) : encodeSafeOwnerSignatures entries = .ok data := by
  subst assigned
  obtain ⟨bounded, long, short, read⟩ := decode_ok read
  have count := readEntries_length read
  rw [List.length_map] at count
  subst count
  obtain ⟨acceptable, heads, ended, _, tails⟩ := readEntries_ok long (by omega) read
  refine encode_run bounded acceptable ascending ?_ short
  have start : 0 * 65 = 0 := Nat.zero_mul 65
  have middle : (0 + entries.length) * 65 = 65 * entries.length := by omega
  rw [start, middle] at heads
  rw [← heads, ← tails, sliceHex_join (Nat.zero_le _) long, sliceHex_whole (Nat.le_refl _)]

theorem packed_length (encoded : encodeSafeOwnerSignatures entries = .ok data) :
    65 ≤ data.length ∧ data.length ≤ maxPackedBytes := by
  obtain ⟨bounded, long, short, _⟩ := decode_ok (decode_encode encoded)
  have some := (thresholdChecked_iff.mp bounded).1
  exact ⟨by omega, short⟩

theorem prefixed {front : Bytes} {width : Nat} (fronted : sliceHex data 0 width = front) :
    front ++ data.drop width = data := by
  rw [← fronted, sliceHex, drop_zero, Nat.sub_zero, List.take_append_drop]

theorem decode_encode_message (encoded : encodeSafe7579MessageSignature entries = .ok data) :
    decodeSafe7579MessageSignature data entries.length =
      .ok ((sortedByOwner entries).map strip) := by
  unfold encodeSafe7579MessageSignature at encoded
  obtain ⟨packed, written, same⟩ := ok_bind encoded
  cases same
  obtain ⟨long, short⟩ := packed_length written
  have size : (zeroAddress ++ packed).length = 20 + packed.length := length_append ..
  unfold decodeSafe7579MessageSignature
  refine bind_run (bytes_run (by omega) (by omega)) (bind_run (refuse_ok.mpr ?_) ?_)
  · exact decide_eq_false (not_not.mpr (sliceHex_left rfl))
  · rw [List.drop_left' (show zeroAddress.length = 20 from rfl)]
    exact decode_encode written

theorem encode_decode_message (read : decodeSafe7579MessageSignature data threshold = .ok decoded)
    (assigned : entries.map strip = decoded)
    (ascending : Ascending (entries.map owner)) :
    encodeSafe7579MessageSignature entries = .ok data := by
  unfold decodeSafe7579MessageSignature at read
  obtain ⟨value, measured, rest⟩ := ok_bind read
  obtain ⟨same, _⟩ := bytes_ok measured
  subst same
  obtain ⟨selected, rest⟩ := ok_refuse rest
  rw [decide_eq_false_iff_not, not_not] at selected
  exact bind_run (encode_decode rest assigned ascending) (congrArg Except.ok (prefixed selected))

variable {validAfter validUntil : Nat}

theorem validityPrefix_length {validity : Bytes}
    (computed : validityPrefix validAfter validUntil = .ok validity) : validity.length = 12 := by
  unfold validityPrefix at computed
  iterate 3 obtain ⟨_, computed⟩ := ok_refuse computed
  cases computed
  simp

theorem decode_encode_owner
    (encoded : encodeSafe7579PasskeyOwnerSignature validAfter validUntil entries = .ok data) :
    decodeSafe7579PasskeyOwnerSignature data validAfter validUntil entries.length =
      .ok ((sortedByOwner entries).map strip) := by
  unfold encodeSafe7579PasskeyOwnerSignature at encoded
  obtain ⟨validity, computed, rest⟩ := ok_bind encoded
  obtain ⟨packed, written, same⟩ := ok_bind rest
  cases same
  obtain ⟨long, short⟩ := packed_length written
  have width := validityPrefix_length computed
  have size : (validity ++ packed).length = 12 + packed.length := by rw [length_append, width]
  unfold decodeSafe7579PasskeyOwnerSignature
  refine bind_run (bytes_run (by omega) (by omega)) (bind_run computed
    (bind_run (refuse_ok.mpr ?_) ?_))
  · exact decide_eq_false (not_not.mpr (sliceHex_left width))
  · rw [List.drop_left' width]
    exact decode_encode written

theorem encode_decode_owner
    (read : decodeSafe7579PasskeyOwnerSignature data validAfter validUntil threshold = .ok decoded)
    (assigned : entries.map strip = decoded)
    (ascending : Ascending (entries.map owner)) :
    encodeSafe7579PasskeyOwnerSignature validAfter validUntil entries = .ok data := by
  unfold decodeSafe7579PasskeyOwnerSignature at read
  obtain ⟨signature, measured, rest⟩ := ok_bind read
  obtain ⟨same, _⟩ := bytes_ok measured
  subst same
  obtain ⟨validity, computed, rest⟩ := ok_bind rest
  obtain ⟨agreed, rest⟩ := ok_refuse rest
  rw [decide_eq_false_iff_not, not_not] at agreed
  exact bind_run computed
    (bind_run (encode_decode rest assigned ascending) (congrArg Except.ok (prefixed agreed)))

end Codec

section Verification
variable {platform : Verifier} {input : VerificationInput} {verified : List Address}

theorem currentOwners_ok {owners : List SafeOwner} {known : OrderedMap Address OwnerKind}
    (read : currentOwners owners = .ok known) {owner : Address} {kind : OwnerKind}
    (held : known.get owner = some kind) : ⟨owner, kind⟩ ∈ owners := by
  unfold currentOwners at read
  obtain ⟨_, read⟩ := ok_refuse read
  refine foldlM_ok (P := fun table => ∀ owner kind, table.get owner = some kind → ⟨owner, kind⟩ ∈ owners) read
    (fun _ _ none => by cases none) ?_ owner kind held
  intro table item next member before stepped owner kind held
  iterate 2 obtain ⟨_, _, stepped⟩ := ok_bind stepped
  cases stepped
  rw [OrderedMap.get_set] at held
  split at held
  · rename_i same
    cases held
    exact same ▸ member
  · exact before owner kind held

structure Attests (platform : Verifier) (input : VerificationInput) (entry : DecodedSafeOwnerSignature)
    (owner : Address) : Prop where
  current : ⟨owner, entry.kind⟩ ∈ input.owners
  named : ownerOf platform input entry = some owner
  answered : OwnerSignatures.answered platform input owner entry = true

theorem verifyEntries_ok {known : OrderedMap Address OwnerKind} (read : currentOwners input.owners = .ok known)
    {previous : Nat} {entries : List DecodedSafeOwnerSignature}
    (ran : verifyEntries platform input known previous entries = .ok verified) :
    List.Forall₂ (Attests platform input) entries verified ∧ verified.Pairwise (· < ·) ∧
      ∀ owner ∈ verified, previous < owner.toNat := by
  induction entries generalizing previous verified with
  | nil =>
    cases ran
    exact ⟨.nil, .nil, nofun⟩
  | cons entry rest ih =>
    rw [verifyEntries] at ran
    cases named : ownerOf platform input entry with
    | none =>
      rw [named] at ran
      cases ran
    | some owner =>
      rw [named] at ran
      obtain ⟨fits, ran⟩ := ok_refuse ran
      obtain ⟨valid, ran⟩ := ok_refuse ran
      obtain ⟨others, rested, ran⟩ := ok_bind ran
      cases ran
      rw [Bool.or_eq_false_iff, decide_eq_false_iff_not, decide_eq_false_iff_not, not_not] at fits
      obtain ⟨attested, ordered, later⟩ := ih rested
      have attests : Attests platform input entry owner :=
        ⟨currentOwners_ok read fits.1, named, by simpa using valid⟩
      refine ⟨.cons attests attested, ?_, forall_mem_cons.mpr ⟨by omega, fun other member => ?_⟩⟩
      · exact pairwise_cons.mpr ⟨fun other member => BitVec.lt_def.mpr (later other member), ordered⟩
      · have after := later other member
        omega

theorem verify_ok (ran : verifySafeOwnerSignatures platform input = .ok verified) : ∃ decoded,
    decodeSafeOwnerSignatures input.signatures input.threshold = .ok decoded ∧ verified.length = input.threshold ∧
      Ascending verified ∧ List.Forall₂ (Attests platform input) decoded verified := by
  unfold verifySafeOwnerSignatures at ran
  obtain ⟨signedData, _, ran⟩ := ok_bind ran
  obtain ⟨digest, _, ran⟩ := ok_bind ran
  obtain ⟨_, ran⟩ := ok_refuse ran
  obtain ⟨decoded, read, ran⟩ := ok_bind ran
  obtain ⟨known, owners, ran⟩ := ok_bind ran
  obtain ⟨_, ran⟩ := ok_refuse ran
  obtain ⟨attested, ordered, positive⟩ := verifyEntries_ok owners ran
  obtain ⟨_, _, _, listed⟩ := decode_ok read
  refine ⟨decoded, read, ?_, ?_, attested⟩
  · rw [← attested.length_eq, readEntries_length listed]
  · exact pairwise_cons.mpr ⟨fun owner member => BitVec.lt_def.mpr (positive owner member), ordered⟩

end Verification

/-- Owner signatures are packed exactly. What is encoded decodes to the entries in ascending order of their owners; what
is decoded encodes to the same bytes, however its ECDSA entries are assigned owners that make the whole ascend; the two
prefixed envelopes invert each other alike; and verification returns as many current owners as the threshold asks, in
strictly ascending order and each of the kind that signed. -/
theorem owner_signatures_exact (platform : Verifier) :
    (∀ entries data, encodeSafeOwnerSignatures entries = .ok data → (sortedByOwner entries).Perm entries ∧
      Ascending ((sortedByOwner entries).map owner) ∧
      decodeSafeOwnerSignatures data entries.length = .ok ((sortedByOwner entries).map strip)) ∧
    (∀ data threshold decoded entries, decodeSafeOwnerSignatures data threshold = .ok decoded →
      entries.map strip = decoded → Ascending (entries.map owner) →
      encodeSafeOwnerSignatures entries = .ok data) ∧
    (∀ validAfter validUntil,
      (∀ entries data, encodeSafe7579PasskeyOwnerSignature validAfter validUntil entries = .ok data →
        decodeSafe7579PasskeyOwnerSignature data validAfter validUntil entries.length =
          .ok ((sortedByOwner entries).map strip)) ∧
      ∀ data threshold decoded entries,
        decodeSafe7579PasskeyOwnerSignature data validAfter validUntil threshold = .ok decoded →
        entries.map strip = decoded → Ascending (entries.map owner) →
        encodeSafe7579PasskeyOwnerSignature validAfter validUntil entries = .ok data) ∧
    ((∀ entries data, encodeSafe7579MessageSignature entries = .ok data →
        decodeSafe7579MessageSignature data entries.length =
          .ok ((sortedByOwner entries).map strip)) ∧
      ∀ data threshold decoded entries, decodeSafe7579MessageSignature data threshold = .ok decoded →
        entries.map strip = decoded → Ascending (entries.map owner) →
        encodeSafe7579MessageSignature entries = .ok data) ∧
    ∀ input verified, verifySafeOwnerSignatures platform input = .ok verified → ∃ decoded,
      decodeSafeOwnerSignatures input.signatures input.threshold = .ok decoded ∧ verified.length = input.threshold ∧
        Ascending verified ∧ List.Forall₂ (Attests platform input) decoded verified := by
  refine ⟨fun entries data encoded => ?_, ?_, fun validAfter validUntil => ⟨?_, ?_⟩, ⟨?_, ?_⟩, ?_⟩
  · exact ⟨sortedByOwner_perm entries, (encode_ok encoded).2.1, decode_encode encoded⟩
  · exact fun _ _ _ _ => encode_decode
  · exact fun _ _ => decode_encode_owner
  · exact fun _ _ _ _ => encode_decode_owner
  · exact fun _ _ => decode_encode_message
  · exact fun _ _ _ _ => encode_decode_message
  · exact fun _ _ => verify_ok

/-- A contract owner and an ECDSA owner, both ways, and verified against the account's owners. -/
theorem owner_signatures_exact_sample :
    let ecdsa : Bytes := bytesOf 32 5 ++ bytesOf 32 6 ++ [27]
    let entries : List SafeOwnerSignature := [⟨.contract, 2, [7]⟩, ⟨.ecdsa, 3, ecdsa⟩]
    let data := table 130 entries ++ contents entries
    let platform : Verifier := ⟨fun _ => List.replicate 32 0, fun _ _ => some 3, fun _ _ _ _ => some true⟩
    let input : VerificationInput := ⟨List.replicate 32 0, [1], data, [⟨3, .ecdsa⟩, ⟨2, .contract⟩], 2⟩
    decodeSafeOwnerSignatures data 2 = .ok [.contract 2 [7], .ecdsa ecdsa] ∧ encodeSafeOwnerSignatures entries = .ok data ∧
      ∃ verified, verifySafeOwnerSignatures platform input = .ok verified ∧ verified.length = 2 ∧ Ascending verified := by
  intro ecdsa entries data platform input
  obtain ⟨_, decoding, _, _, verification⟩ := owner_signatures_exact platform
  have ascending : Ascending (entries.map owner) := by
    simp only [Ascending, entries, map_cons, List.map_nil]
    decide
  have decoded : decodeSafeOwnerSignatures data 2 = .ok [.contract 2 [7], .ecdsa ecdsa] := by decide +kernel
  have verified : verifySafeOwnerSignatures platform input = .ok [2, 3] := by decide +kernel
  obtain ⟨_, _, count, ordered, _⟩ := verification input [2, 3] verified
  exact ⟨decoded, decoding data 2 _ entries decoded rfl ascending, [2, 3], verified, count, ordered⟩

end JBCenter.OwnerSignatures
