import JBCenter.Auth.Requests
import JBCenter.Rest.Json

/-! Signed requests as they arrive: what a request's headers claim, the typed document its signature is over,
and who must have signed it. Hashes, the recovery of a signer and the answers of a contract wallet are opaque. -/
namespace JBCenter.Auth
open Rest
variable {δ : Type}

/-- A field of a typed document, with its type. -/
inductive TypedField where
  | string (value : String)
  | bytes32 (value : String)
  | address (value : String)
  | uint (value : Int)
  | strings (values : List String)

/-- A typed document; its domain's name and version are the same for all. -/
structure TypedData where
  chainId : Int
  salt : String
  primaryType : String
  message : List (String × TypedField)

/-- Hexadecimal text stands for bytes, whatever the case of its letters. -/
def TypedField.bytes : TypedField → TypedField
  | .bytes32 value => .bytes32 (toLowerCase value)
  | .address value => .address (toLowerCase value)
  | field => field

/-- What is hashed of a typed document. -/
def TypedData.encoded (typedData : TypedData) : TypedData :=
  { typedData with
    salt := toLowerCase typedData.salt
    message := typedData.message.map (fun entry => (entry.1, entry.2.bytes)) }

structure AccountOwner where
  ownerAddress : String
  authorityChainId : Int

/-- The functions that the code imports, with digests of typed documents of any type. `verifyContractOwner`
is what the deployment's verifier answers, a time-out or a failure of it being a refusal. -/
structure Crypto (δ : Type) where
  isServiceUrl : String → Bool
  isAddress : String → Bool
  getAddress : String → String
  /-- Of the bytes that a hexadecimal text spells. -/
  keccak256 : String → String
  keccakText : String → String
  keccakBody : List UInt8 → String
  sha256Text : String → String
  hashTypedData : TypedData → δ
  recoverAddress : δ → String → Option String
  verifyContractOwner : Option (AccountOwner → δ → String → Bool)
  /-- `JSON.parse` of the body decoded as UTF-8; nothing where either throws. -/
  parseBody : List UInt8 → Option Json

def REST_AUTH_HEADERS.account : String := "X-Juicebox-Account"
def REST_AUTH_HEADERS.signer : String := "X-Juicebox-Signer"
def REST_AUTH_HEADERS.grant : String := "X-Juicebox-Grant"
def REST_AUTH_HEADERS.issuedAt : String := "X-Juicebox-Issued-At"
def REST_AUTH_HEADERS.expiresAt : String := "X-Juicebox-Expires-At"
def REST_AUTH_HEADERS.nonce : String := "X-Juicebox-Nonce"
def REST_AUTH_HEADERS.signature : String := "X-Juicebox-Signature"
def REST_AUTH_HEADERS.idempotencyKey : String := "Idempotency-Key"

structure SignedRequestInput where
  method : String
  requestTarget : String
  contentType : String
  body : List UInt8
  headers : String → Option String

structure RequestClaims where
  accountId : String
  signer : String
  grantId : String
  method : String
  requestTarget : String
  contentType : String
  bodyHash : String
  issuedAt : Int
  expiresAt : Int
  nonce : String
  idempotencyKey : String

def invalid (message : String) : RestError := authError "INVALID_AUTH" 400 message

def dropTrailingSlash (audience : String) : String :=
  if audience.toList.getLast? = some '/' then String.ofList audience.toList.dropLast else audience

def validateAudience (crypto : Crypto δ) (audience : String) : Except RestError String := do
  refuse (!crypto.isServiceUrl audience) (invalid "Invalid authentication audience")
  return dropTrailingSlash audience

/-- Matches `/^[1-9][0-9]{0,n}$/`. -/
def isPositiveDecimal (more : Nat) (text : String) : Bool :=
  match text.toList with
  | first :: rest => isDigit first && first != '0' && rest.length ≤ more && rest.all isDigit
  | [] => false

def parseAccountId (crypto : Crypto δ) (accountId : String) : Except RestError AccountOwner :=
  match split accountId ':' with
  | ["eip155", chain, owner] => do
    refuse (!isPositiveDecimal 15 chain || !isLowerHex 40 owner) (invalid "Invalid account identity")
    refuse (!isSafeInteger (decimalValue chain)) (invalid "Invalid authority chain")
    return ⟨crypto.getAddress owner, decimalValue chain⟩
  | _ => .error (invalid "Invalid account identity")

def buildRequestTypedData (crypto : Crypto δ) (audience : String) (claims : RequestClaims) : Except RestError TypedData := do
  let audience ← validateAudience crypto audience
  let owner ← parseAccountId crypto claims.accountId
  return ⟨owner.authorityChainId, crypto.keccakText audience, "CenterRequest",
    [("audience", .string audience), ("accountId", .string claims.accountId), ("signer", .address claims.signer),
      ("grantId", .string claims.grantId), ("method", .string claims.method),
      ("requestTarget", .string claims.requestTarget), ("contentType", .string claims.contentType),
      ("bodyHash", .bytes32 claims.bodyHash), ("issuedAt", .uint claims.issuedAt), ("expiresAt", .uint claims.expiresAt),
      ("nonce", .bytes32 claims.nonce), ("idempotencyKey", .string claims.idempotencyKey)]⟩

def required (headers : String → Option String) (name : String) : Except RestError String :=
  match (headers name).filter (· ≠ "") with
  | none => .error (authError "AUTH_REQUIRED" 401 "Signed request headers are required")
  | some value => .ok value

def timestamp (value : String) : Except RestError Int := do
  refuse (!isPositiveDecimal 12 value) (invalid "Invalid signature timestamp")
  refuse (!isSafeInteger (decimalValue value)) (invalid "Invalid signature timestamp")
  return decimalValue value

/-- Matches `/^0x(?:[0-9a-fA-F]{2}){1,8192}$/`. -/
def isSignature (text : String) : Bool := isHexBytes text && text.length ≤ 2 + 2 * 8192

/-- Matches `/%(?![0-9a-fA-F]{2})/`. -/
def hasBareEscape : List Char → Bool
  | [] => false
  | '%' :: a :: b :: rest => !(isHexDigit a && isHexDigit b) || hasBareEscape (a :: b :: rest)
  | '%' :: _ => true
  | _ :: rest => hasBareEscape rest

def isRequestTarget (target : String) : Bool :=
  utf16Length target ≤ 4096 &&
    (match target.toList with
    | '/' :: rest => rest.all (inRange '!' '~')
    | _ => false) &&
    !target.toList.any (fun c => c = '#' || c = '\\') && !hasBareEscape target.toList

def readRequestClaims (crypto : Crypto δ) (input : SignedRequestInput) : Except RestError (RequestClaims × String) := do
  let accountId ← required input.headers REST_AUTH_HEADERS.account
  discard (parseAccountId crypto accountId)
  let signer ← required input.headers REST_AUTH_HEADERS.signer
  refuse (!crypto.isAddress signer) (invalid "Invalid request signer")
  let grantId := (input.headers REST_AUTH_HEADERS.grant).getD ""
  refuse (grantId ≠ "" && !isUuid grantId) (invalid "Invalid bot grant identifier")
  let nonce ← required input.headers REST_AUTH_HEADERS.nonce
  refuse (!isLowerHex 64 nonce) (invalid "Signature nonce must be 32 random bytes")
  let signature ← required input.headers REST_AUTH_HEADERS.signature
  refuse (!isSignature signature) (invalid "Invalid signature encoding")
  let idempotencyKey := (input.headers REST_AUTH_HEADERS.idempotencyKey).getD ""
  refuse (idempotencyKey ≠ "" && !(idempotencyKey.length ≤ 128 && idempotencyKey.toList.all (fun c =>
      isAlphanumeric c || c ∈ ['.', '_', ':', '-'])))
    (invalid "Invalid idempotency key")
  refuse (input.method ∉ ["GET", "HEAD", "POST", "PUT", "PATCH", "DELETE", "OPTIONS"]) (invalid "Invalid HTTP method")
  refuse (!isRequestTarget input.requestTarget) (invalid "Invalid HTTP request target")
  refuse (256 < utf16Length input.contentType || input.contentType.toList.any (fun c => c ∈ ['\r', '\n', '\x00']) ||
      input.contentType ≠ (input.headers "content-type").getD "")
    (invalid "Invalid content type")
  let issuedAt ← required input.headers REST_AUTH_HEADERS.issuedAt >>= timestamp
  let expiresAt ← required input.headers REST_AUTH_HEADERS.expiresAt >>= timestamp
  return (⟨accountId, crypto.getAddress signer, grantId, input.method, input.requestTarget, input.contentType,
    crypto.keccakBody input.body, issuedAt, expiresAt, nonce, idempotencyKey⟩, signature)

/-- The digest recovers to the signer. -/
def recovers (crypto : Crypto δ) (digest : δ) (signature signer : String) : Bool :=
  (crypto.recoverAddress digest signature).any (fun recovered => toLowerCase recovered = toLowerCase signer)

def acceptedByContract (crypto : Crypto δ) (owner : AccountOwner) (digest : δ) (signature : String) : Bool :=
  crypto.verifyContractOwner.any (fun verifier => verifier owner digest signature)

def interrupted (message : String) : RestError := authError "REQUEST_ABORTED" 408 message

def verifyRequestSignature (crypto : Crypto δ) (audience : String) (claims : RequestClaims) (signature : String)
    (aborted : Bool) : Except RestError Unit := do
  refuse aborted (interrupted "Signature verification was interrupted")
  let typedData ← buildRequestTypedData crypto audience claims
  let digest := crypto.hashTypedData typedData
  let owner ← parseAccountId crypto claims.accountId
  refuse (!(recovers crypto digest signature claims.signer ||
      (claims.grantId = "" && toLowerCase claims.signer = toLowerCase owner.ownerAddress &&
        acceptedByContract crypto owner digest signature)))
    (authError "INVALID_SIGNATURE" 401 "Request signature is invalid")

end JBCenter.Auth
