import JBCenter.Auth.Signatures

/-! The wallet owner's approval of one effect: a document that names the effect, its window and the owner's
signature. What the signal and the clock show is read again after every wait. -/
namespace JBCenter.Dispatch
open Rest Auth
variable {δ : Type}

structure TransactionApprovalBinding where
  accountId : String
  principalId : String
  planId : String
  commitment : String
  stepIndex : Int
  transactionHash : String

structure SponsorshipApprovalBinding where
  accountId : String
  principalId : String
  sponsorshipId : String
  commitment : String
  submissionHash : String

/-- The window of an approval, and the nonce that tells it from others. -/
structure ApprovalWindow where
  issuedAt : Int
  expiresAt : Int
  nonce : String

structure TransactionApprovalClaims extends TransactionApprovalBinding, ApprovalWindow where

structure SponsorshipApprovalClaims extends SponsorshipApprovalBinding, ApprovalWindow where

/-- The signal and the clock, look by look, in the order of one authorization. -/
structure Readings where
  aborted : Nat → Bool
  now : Nat → Int

def approvalError (message : String) : RestError := ⟨400, "INVALID_OWNER_APPROVAL", message, none⟩
def malformed : RestError := approvalError "The owner approval is malformed"

/-- The value of a safe integer above zero. -/
def time : Number → Option Int
  | .integer value => if isSafeInteger value && 0 < value then some value else none
  | _ => none

/-- Matches `/^bot:/` and the canonical identifier after it. -/
def isBotPrincipal (principalId : String) : Bool :=
  match principalId.toList with
  | 'b' :: 'o' :: 't' :: ':' :: grant => matchesShape uuidShape grant
  | _ => false

def identity (crypto : Crypto δ) (accountId principalId : Option String) : Except RestError (String × String) :=
  match accountId with
  | none => .error malformed
  | some accountId =>
    match parseAccountId crypto accountId with
    | .error _ => .error (approvalError "The approval account identity is invalid")
    | .ok _ =>
      match principalId.filter (fun principal => principal = "owner:" ++ accountId || isBotPrincipal principal) with
      | none => .error (approvalError "The approval must identify an account principal")
      | some principalId => .ok (accountId, principalId)

def step : Number → Option Int
  | .integer value => if isSafeInteger value && 0 ≤ value && value ≤ 31 then some value else none
  | _ => none

/-- The checks of a binding, its fields as they were read: nothing where a field has another type. -/
def transactionBinding (crypto : Crypto δ) (accountId principalId planId commitment transactionHash : Option String)
    (stepIndex : Option Number) : Except RestError TransactionApprovalBinding := do
  let identified ← identity crypto accountId principalId
  match planId.filter isUuid, commitment.filter (isHex 64), transactionHash.filter (isHex 64), stepIndex.bind step with
  | some planId, some commitment, some transactionHash, some stepIndex =>
    .ok ⟨identified.1, identified.2, planId, commitment, stepIndex, transactionHash⟩
  | _, _, _, _ =>
    .error (approvalError "The approval must identify an account principal, plan, and exact transaction step")

def TransactionApprovalBinding.binding (crypto : Crypto δ) (input : TransactionApprovalBinding) :
    Except RestError TransactionApprovalBinding :=
  transactionBinding crypto (some input.accountId) (some input.principalId) (some input.planId) (some input.commitment)
    (some input.transactionHash) (some (.integer input.stepIndex))

def sponsorshipBinding (crypto : Crypto δ) (accountId principalId sponsorshipId commitment submissionHash : Option String) :
    Except RestError SponsorshipApprovalBinding := do
  let identified ← identity crypto accountId principalId
  match sponsorshipId.filter isUuid, commitment.filter (isHex 64), submissionHash.filter (isHex 64) with
  | some sponsorshipId, some commitment, some submissionHash =>
    .ok ⟨identified.1, identified.2, sponsorshipId, commitment, submissionHash⟩
  | _, _, _ => .error malformed

def SponsorshipApprovalBinding.binding (crypto : Crypto δ) (input : SponsorshipApprovalBinding) :
    Except RestError SponsorshipApprovalBinding :=
  sponsorshipBinding crypto (some input.accountId) (some input.principalId) (some input.sponsorshipId)
    (some input.commitment) (some input.submissionHash)

def window (issuedAt expiresAt : Option Number) (nonce : Option String) : Except RestError ApprovalWindow :=
  match issuedAt.bind time, expiresAt.bind time, nonce.filter (isLowerHex 64) with
  | some issuedAt, some expiresAt, some nonce => do
    refuse (expiresAt ≤ issuedAt || 300 < expiresAt - issuedAt) (approvalError
      "The owner approval requires a validity window of at most five minutes and a 32-byte nonce")
    return ⟨issuedAt, expiresAt, nonce⟩
  | _, _, _ => .error (approvalError
      "The owner approval requires a validity window of at most five minutes and a 32-byte nonce")

def transactionClaims (crypto : Crypto δ) (document : JsonFields) : Except RestError TransactionApprovalClaims := do
  let bound ← transactionBinding crypto (document.text "accountId") (document.text "principalId") (document.text "planId")
    (document.text "commitment") (document.text "transactionHash") (document.number "stepIndex")
  let valid ← window (document.number "issuedAt") (document.number "expiresAt") (document.text "nonce")
  return ⟨bound, valid⟩

def sponsorshipClaims (crypto : Crypto δ) (document : JsonFields) : Except RestError SponsorshipApprovalClaims := do
  let bound ← sponsorshipBinding crypto (document.text "accountId") (document.text "principalId")
    (document.text "sponsorshipId") (document.text "commitment") (document.text "submissionHash")
  let valid ← window (document.number "issuedAt") (document.number "expiresAt") (document.text "nonce")
  return ⟨bound, valid⟩

/-- The document to sign, for claims that were checked before; the code checks them once more. -/
def buildTransactionApprovalTypedData (crypto : Crypto δ) (audience : String) (value : TransactionApprovalClaims) :
    Except RestError TypedData := do
  let audience ← validateAudience crypto audience
  let owner ← parseAccountId crypto value.accountId
  return ⟨owner.authorityChainId, crypto.keccakText audience, "CenterTransactionApproval",
    [("audience", .string audience), ("accountId", .string value.accountId), ("principalId", .string value.principalId),
      ("planId", .string value.planId), ("commitment", .bytes32 value.commitment), ("stepIndex", .uint value.stepIndex),
      ("transactionHash", .bytes32 value.transactionHash), ("issuedAt", .uint value.issuedAt),
      ("expiresAt", .uint value.expiresAt), ("nonce", .bytes32 value.nonce)]⟩

def buildSponsorshipApprovalTypedData (crypto : Crypto δ) (audience : String) (value : SponsorshipApprovalClaims) :
    Except RestError TypedData := do
  let audience ← validateAudience crypto audience
  let owner ← parseAccountId crypto value.accountId
  return ⟨owner.authorityChainId, crypto.keccakText audience, "CenterSponsorshipApproval",
    [("audience", .string audience), ("accountId", .string value.accountId), ("principalId", .string value.principalId),
      ("sponsorshipId", .string value.sponsorshipId), ("commitment", .bytes32 value.commitment),
      ("submissionHash", .bytes32 value.submissionHash), ("issuedAt", .uint value.issuedAt),
      ("expiresAt", .uint value.expiresAt), ("nonce", .bytes32 value.nonce)]⟩

def submissionText (commitment : String) (signatures : List String) : String :=
  "\x7b\"commitment\":\"" ++ toLowerCase commitment ++ "\",\"signatures\":[" ++
    String.intercalate "," (signatures.map (fun signature => "\"" ++ toLowerCase signature ++ "\"")) ++ "]\x7d"

/-- The identity of a publication; the order of the signatures counts. -/
def sponsorshipSubmissionHash (crypto : Crypto δ) (commitment : String) (signatures : List Json) : Except RestError String :=
  match signatures.mapM (fun signature => signature.text?.filter (isHex 130)) with
  | some signatures => do
    refuse (!isHex 64 commitment || signatures.length < 1 || 4 < signatures.length) malformed
    return crypto.sha256Text (submissionText commitment signatures)
  | none => .error malformed

def clockUnavailable : RestError := ⟨500, "APPROVAL_CLOCK_UNAVAILABLE", "The approval clock is unavailable", none⟩
def approvalExpired : RestError := ⟨403, "OWNER_APPROVAL_EXPIRED", "A fresh owner approval is required before dispatch", none⟩

def fresh (value : ApprovalWindow) (now : Int) : Except RestError Unit := do
  refuse (!isSafeInteger now || now ≤ 0) clockUnavailable
  refuse (value.expiresAt ≤ now || now + 30 < value.issuedAt) approvalExpired

def notAborted (aborted : Bool) : Except RestError Unit :=
  refuse aborted ⟨408, "REQUEST_ABORTED", "Owner approval verification was interrupted", none⟩

/-- Whether the owner signed: recovered from the signature, or else as the contract wallet answers. -/
def ownerSignature (crypto : Crypto δ) (owner : AccountOwner) (digest : δ) (signature : String) (value : ApprovalWindow)
    (readings : Readings) : Except RestError Bool :=
  if recovers crypto digest signature owner.ownerAddress then .ok true
  else if crypto.verifyContractOwner.isNone then .ok false
  else do
    notAborted (readings.aborted 3)
    notAborted (readings.aborted 4)
    fresh value (readings.now 2)
    return acceptedByContract crypto owner digest signature

def verifyOwnerSignature (crypto : Crypto δ) (typedData : TypedData) (signature accountId : String) (value : ApprovalWindow)
    (readings : Readings) : Except RestError AccountOwner := do
  notAborted (readings.aborted 1)
  fresh value (readings.now 0)
  let owner ← parseAccountId crypto accountId
  let digest := crypto.hashTypedData typedData
  notAborted (readings.aborted 2)
  fresh value (readings.now 1)
  let accepted ← ownerSignature crypto owner digest signature value readings
  refuse (!accepted)
    ⟨403, "INVALID_OWNER_APPROVAL_SIGNATURE", "The wallet owner did not sign this approval", none⟩
  return owner

def documentSignature (input : Option Json) (allowedFields : List String) : Except RestError (JsonFields × String) :=
  match input with
  | none | some .null =>
    .error ⟨428, "OWNER_APPROVAL_REQUIRED", "A fresh wallet-owner approval is required for bot dispatch", none⟩
  | some (.object document) =>
    if JsonFields.unknownKey document (allowedFields ++ ["signature"]) then .error malformed
    else match (JsonFields.text document "signature").filter isSignature with
      | none => .error malformed
      | some signature => .ok (document, signature)
  | some _ => .error malformed

def transactionFields : List String :=
  ["accountId", "principalId", "planId", "commitment", "stepIndex", "transactionHash", "issuedAt", "expiresAt", "nonce"]

def sponsorshipFields : List String :=
  ["accountId", "principalId", "sponsorshipId", "commitment", "submissionHash", "issuedAt", "expiresAt", "nonce"]

def verifyTransactionApproval (crypto : Crypto δ) (audience : String) (input : Option Json)
    (expectedBinding : TransactionApprovalBinding) (readings : Readings) : Except RestError TransactionApprovalClaims := do
  let (document, signature) ← documentSignature input transactionFields
  let value ← transactionClaims crypto document
  let expected ← expectedBinding.binding crypto
  refuse (value.accountId ≠ expected.accountId || value.principalId ≠ expected.principalId ||
      value.planId ≠ expected.planId || value.stepIndex ≠ expected.stepIndex ||
      toLowerCase value.commitment ≠ toLowerCase expected.commitment ||
      toLowerCase value.transactionHash ≠ toLowerCase expected.transactionHash)
    ⟨409, "OWNER_APPROVAL_MISMATCH",
      "The owner approval does not match this principal and exact planned transaction", none⟩
  let typedData ← buildTransactionApprovalTypedData crypto audience value
  discard (verifyOwnerSignature crypto typedData signature value.accountId value.toApprovalWindow readings)
  return value

def verifySponsorshipApproval (crypto : Crypto δ) (audience : String) (input : Option Json)
    (expectedBinding : SponsorshipApprovalBinding) (readings : Readings) : Except RestError SponsorshipApprovalClaims := do
  let (document, signature) ← documentSignature input sponsorshipFields
  let value ← sponsorshipClaims crypto document
  let expected ← expectedBinding.binding crypto
  refuse (value.accountId ≠ expected.accountId || value.principalId ≠ expected.principalId ||
      value.sponsorshipId ≠ expected.sponsorshipId || toLowerCase value.commitment ≠ toLowerCase expected.commitment ||
      toLowerCase value.submissionHash ≠ toLowerCase expected.submissionHash)
    ⟨409, "OWNER_APPROVAL_MISMATCH",
      "The owner approval does not match this principal and exact sponsorship publication", none⟩
  let typedData ← buildSponsorshipApprovalTypedData crypto audience value
  discard (verifyOwnerSignature crypto typedData signature value.accountId value.toApprovalWindow readings)
  return value

end JBCenter.Dispatch
