import JBCenter.Auth.Requests

/-! Accounts, the bot grants that act for them, and the decision whether a request may act
under one. An application grant of the wallet is never stored with these grants. -/
namespace JBCenter.Auth
open Rest

structure Profile where
  displayName : String
  bio : String
  avatarUri : Option String

structure Account where
  id : String
  ownerAddress : String
  authorityChainId : Int
  profile : Profile
  createdAt : Int
  updatedAt : Int

structure BotGrant where
  id : String
  accountId : String
  botAddress : String
  scopes : List BotScope
  label : String
  createdAt : Int
  expiresAt : Int
  revokedAt : Option Int

structure RestPrincipal where
  principalId : String
  account : Account
  signer : String
  grantId : Option String
  scopes : List BotScope
  isOwner : Bool
  requestNonce : String
  idempotencyKey : Option String

structure ActiveAuthority where
  accountId : String
  signer : String
  grantId : Option String
  requiredScopes : List BotScope
  ownerOnly : Option Bool := none
  principalId : Option String := none
  now : Int

def allBotScopes : List BotScope := [.read, .plan, .relay]

def isCanonicalGrantScopes (scopes : List BotScope) : Bool :=
  1 ≤ scopes.length && scopes.length ≤ allBotScopes.length && allBotScopes.take scopes.length = scopes

def boundedText (value : String) (bytes : Nat) : Bool :=
  value.utf8ByteSize ≤ bytes && !value.toList.any (fun c => c.toNat = 0)

def assertProfile (profile : Profile) : Except RestError Unit :=
  refuse (!boundedText profile.displayName 120 || !boundedText profile.bio 2000 ||
      profile.avatarUri.any (fun uri => !boundedText uri 2048))
    (authError "STORAGE_LIMIT" 429 "Profile storage limit exceeded")

def assertAccount (account : Account) : Except RestError Unit := do
  assertIdentifier account.id
  assertAddress account.ownerAddress
  assertProfile account.profile
  assertTime account.createdAt
  assertTime account.updatedAt
  refuse (!isSafeInteger account.authorityChainId || account.authorityChainId < 1 ||
      account.updatedAt < account.createdAt) (authError "FORBIDDEN" 403 "Invalid account")

def assertGrant (grant : BotGrant) : Except RestError Unit := do
  assertIdentifier grant.id
  assertIdentifier grant.accountId
  assertAddress grant.botAddress
  assertTime grant.createdAt
  assertTime grant.expiresAt
  refuse (grant.revokedAt.isSome || grant.expiresAt ≤ grant.createdAt || !isCanonicalGrantScopes grant.scopes ||
      !boundedText grant.label 120) (authError "FORBIDDEN" 403 "Invalid bot grant")

def sameAddress (a b : String) : Bool := toLowerCase a = toLowerCase b

/-- The request names no grant and is signed by the owner. -/
def isOwner (account : Account) (request : VerifiedRequest) : Bool :=
  request.grantId.isNone && sameAddress account.ownerAddress request.signer

/-- The grant the request names is there, is the account's and its signer's, and is in force. -/
def grantInForce (account : Account) (grant : Option BotGrant) (request : VerifiedRequest) : Bool :=
  !request.ownerOnly && grant.any (fun grant =>
    grant.accountId = account.id && some grant.id = request.grantId && sameAddress grant.botAddress request.signer &&
      grant.revokedAt.isNone && request.now < grant.expiresAt && grant.createdAt ≤ request.now &&
      isCanonicalGrantScopes grant.scopes)

def principalFor (account : Account) (grant : Option BotGrant) (request : VerifiedRequest) :
    Except RestError RestPrincipal := do
  let owner := isOwner account request
  refuse (request.accountId ≠ account.id || (!owner && !grantInForce account grant request))
    (authError "FORBIDDEN" 403 "Account authority is missing or expired")
  let scopes := if owner then allBotScopes else grant.elim [] BotGrant.scopes
  refuse (!request.requiredScopes.all (fun scope => scope ∈ scopes))
    (authError "FORBIDDEN" 403 "Bot grant does not permit this operation")
  let principalId := if owner then "owner:" ++ account.id else "bot:" ++ grant.elim "" BotGrant.id
  refuse (request.principalId.any (fun id => id ≠ principalId))
    (authError "FORBIDDEN" 403 "Authenticated actor identity changed")
  return ⟨principalId, account, request.signer, request.grantId, scopes, owner, request.nonce,
    request.idempotencyKey⟩

/-- Matches `/^[1-9][0-9]{0,18}$/`, up to the largest signed 64-bit integer. -/
def walletAppBigint (text : String) : Bool :=
  (match text.toList with
  | first :: rest => isDigit first && first != '0' && rest.length ≤ 18 && rest.all isDigit
  | [] => false) && decimalValue text ≤ 9223372036854775807

/-- The grant identifier of a wallet application's principal, `app:` id `:` incarnation. -/
def parseWalletAppPrincipalId (value : String) : Option String :=
  if 60 < utf16Length value then none
  else match Rest.split value ':' with
    | ["app", id, incarnation] => if isUuid id && walletAppBigint incarnation then some id else none
    | _ => none

def actorGrantId (actor : RestActor) : Except RestError (Option String) := do
  assertIdentifier actor.accountId
  if actor.principalId = "owner:" ++ actor.accountId then
    return none
  match parseWalletAppPrincipalId actor.principalId with
  | some id => return some id
  | none =>
    if actor.principalId.toList.take 4 = "bot:".toList then
      let id := String.ofList (actor.principalId.toList.drop 4)
      assertIdentifier id
      return some id
    else
      .error (authError "FORBIDDEN" 403 "Invalid authenticated actor")

def zeroNonce : String := "0x" ++ String.ofList (List.replicate 64 '0')

def authorityRequest (authority : ActiveAuthority) : Except RestError VerifiedRequest := do
  assertIdentifier authority.accountId
  assertAddress authority.signer
  optionally assertIdentifier authority.grantId
  assertTime authority.now
  optionally (fun principalId => discard (actorGrantId ⟨authority.accountId, principalId⟩)) authority.principalId
  refuse (!validScopes authority.requiredScopes true) (authError "FORBIDDEN" 403 "Invalid required authority")
  return {
    accountId := authority.accountId
    signer := authority.signer
    grantId := authority.grantId
    nonce := zeroNonce
    issuedAt := authority.now
    expiresAt := authority.now + 1
    idempotencyKey := none
    requiredScopes := authority.requiredScopes
    ownerOnly := authority.ownerOnly.getD false
    principalId := authority.principalId
    now := authority.now }

def assertActorAuthority (account : Account) (grant : Option BotGrant) (actor : RestActor) (scopes : List BotScope)
    (now : Int) : Except RestError Unit := do
  let grantId ← actorGrantId actor
  let request ← authorityRequest {
    accountId := actor.accountId
    signer := if grantId.isNone then account.ownerAddress else grant.elim account.ownerAddress BotGrant.botAddress
    grantId
    principalId := some actor.principalId
    requiredScopes := scopes
    now }
  let principal ← principalFor account grant request
  refuse (principal.principalId ≠ actor.principalId)
    (authError "FORBIDDEN" 403 "Authenticated actor identity changed")

end JBCenter.Auth
