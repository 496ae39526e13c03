import JBCenter.Rest.Core

/-! Signed requests and the checks made on them before and while they are authorized. -/
namespace JBCenter.Auth
open Rest

inductive BotScope where
  | read | plan | relay
  deriving DecidableEq

/-- A request whose signature was verified. Its audience and origin are read only by the
checks of a wallet application's grant, which are not part of this model. -/
structure VerifiedRequest where
  accountId : String
  signer : String
  grantId : Option String
  nonce : String
  issuedAt : Int
  expiresAt : Int
  idempotencyKey : Option String
  requiredScopes : List BotScope
  ownerOnly : Bool
  /-- Set by checks of authority that was already authenticated, never by a request. -/
  principalId : Option String := none
  now : Int
  deriving DecidableEq

def authError (code : String) (status : Nat) (message : String) : RestError := ⟨status, code, message, none⟩

def assertTime (value : Int) : Except RestError Unit :=
  refuse (!isSafeInteger value || value < 0) (authError "AUTH_REQUIRED" 401 "Invalid request time")

/-- Matches `/^[a-zA-Z0-9:_-]{1,192}$/`. -/
def assertIdentifier (value : String) : Except RestError Unit :=
  refuse (value.length < 1 || 192 < value.length || !value.toList.all (fun c =>
      isDigit c || inRange 'a' 'z' c || inRange 'A' 'Z' c || c = ':' || c = '_' || c = '-'))
    (authError "FORBIDDEN" 403 "Invalid account or grant identifier")

def assertAddress (value : String) : Except RestError Unit :=
  refuse (!isHex 40 value) (authError "AUTH_REQUIRED" 401 "Invalid signer address")

def validScopes (scopes : List BotScope) (allowEmpty : Bool) : Bool :=
  (allowEmpty || 0 < scopes.length) && scopes.length ≤ 3 && scopes.Nodup

def assertRequest (request : VerifiedRequest) : Except RestError Unit := do
  assertIdentifier request.accountId
  assertAddress request.signer
  optionally assertIdentifier request.grantId
  assertTime request.now
  assertTime request.issuedAt
  assertTime request.expiresAt
  refuse (!isHex 64 request.nonce || request.expiresAt ≤ request.now || request.expiresAt ≤ request.issuedAt ||
      request.now + 30 < request.issuedAt || 300 < request.expiresAt - request.issuedAt ||
      !validScopes request.requiredScopes true || request.idempotencyKey.any (fun key => !isIdempotencyKey key))
    (authError "AUTH_REQUIRED" 401 "Invalid or expired authenticated request")

theorem assertRequest_ok (accepted : assertRequest request = .ok ()) : request.now < request.expiresAt := by
  unfold assertRequest at accepted
  iterate 6 obtain ⟨_, _, accepted⟩ := ok_bind accepted
  have checked := refuse_ok.mp accepted
  simp only [Bool.or_eq_false_iff, decide_eq_false_iff_not, Int.not_le] at checked
  exact checked.1.1.1.1.1.2

def ownerNonceReserve : Int := 32

/-- The slots of an account a request may fill; some are kept for the owner. -/
def nonceCapacity (maximum : Int) (grantId : Option String) : Int :=
  let reserved := min ownerNonceReserve (max 1 (maximum / 2))
  if grantId.isNone then maximum else maximum - reserved

end JBCenter.Auth
