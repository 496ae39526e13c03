import JBCenter.Dispatch.Approvals

/-! The authority of one dispatch: the authenticated principal of the request, and either the owner's own
request that carries the effect or an approval that names it. -/
namespace JBCenter.Dispatch
open Rest Auth
variable {δ : Type}

structure WalletApp where
  origin : String
  audience : String
  incarnation : String

inductive PrincipalKind where
  | owner | bot | walletApp
  deriving DecidableEq

/-- The principal a request was authenticated as; the first three fields are its account's. -/
structure RestPrincipal where
  accountId : String
  ownerAddress : String
  authorityChainId : Int
  principalId : String
  signer : String
  grantId : Option String
  scopes : List BotScope
  isOwner : Bool
  requestNonce : String
  kind : Option PrincipalKind
  walletApp : Option WalletApp

structure RestRequestContext where
  authority : Option (RestPrincipal × SignedRequestInput)
  ownerApprovals : Int → Option Json
  sponsorshipOwnerApproval : Option Json

structure DispatchApprovalWindow where
  issuedAt : Int
  expiresAt : Int
  deriving DecidableEq

/-- What the checks of a dispatch read of a stored plan. -/
structure StoredPlan where
  id : String
  actor : RestActor
  commitment : String

structure SponsorshipRecord where
  id : String
  actor : RestActor
  commitment : String

structure Authority where
  principal : RestPrincipal
  claims : RequestClaims
  signature : String
  input : SignedRequestInput

def mismatch : RestError :=
  ⟨403, "DISPATCH_AUTHORITY_MISMATCH", "Dispatch requires the authenticated principal that owns this preparation", none⟩

def dispatchInterrupted : RestError := ⟨408, "REQUEST_ABORTED", "Dispatch authorization was interrupted", none⟩

def walletAppBigintMaximum : Nat := 9223372036854775807

/-- Matches `/^app:([^:]+):([^:]+)$/`, an identifier and an incarnation. -/
def parseWalletAppPrincipalId (value : String) : Option (String × String) :=
  if 60 < utf16Length value then none
  else match split value ':' with
  | ["app", id, incarnation] =>
    if isUuid id && isPositiveDecimal 18 incarnation && decimalValue incarnation ≤ walletAppBigintMaximum then
      some (id, incarnation) else none
  | _ => none

/-- The principal is of the kind its fields say it is. -/
def kindAgrees (audience : String) (actor : RestActor) (owner : AccountOwner) (claims : RequestClaims)
    (principal : RestPrincipal) (input : SignedRequestInput) : Bool :=
  if principal.kind = some .walletApp then
    !principal.isOwner && owner.authorityChainId = 8453 &&
      (match parseWalletAppPrincipalId actor.principalId, principal.walletApp with
      | some app, some walletApp => some app.1 = principal.grantId && app.2 = walletApp.incarnation &&
          walletApp.audience = audience && input.headers "origin" = some walletApp.origin
      | _, _ => false)
  else if principal.walletApp.isSome then false
  else if principal.isOwner then
    principal.grantId.isNone && actor.principalId = "owner:" ++ actor.accountId &&
      toLowerCase claims.signer = toLowerCase owner.ownerAddress
  else principal.grantId.any (fun grantId => grantId ≠ "" && actor.principalId = "bot:" ++ grantId)

def currentAuthority (crypto : Crypto δ) (context : Option RestRequestContext) (actor : RestActor) (audience : String)
    (readings : Readings) : Except RestError (RestRequestContext × Authority) :=
  match context, context.bind RestRequestContext.authority with
  | some context, some (principal, input) => do
    refuse (readings.aborted 0) dispatchInterrupted
    let owner ← parseAccountId crypto actor.accountId
    refuse (principal.accountId ≠ actor.accountId || principal.principalId ≠ actor.principalId ||
        toLowerCase principal.ownerAddress ≠ toLowerCase owner.ownerAddress ||
        principal.authorityChainId ≠ owner.authorityChainId || BotScope.relay ∉ principal.scopes) mismatch
    let (claims, signature) ← readRequestClaims crypto input
    refuse (claims.accountId ≠ actor.accountId || toLowerCase claims.signer ≠ toLowerCase principal.signer ||
        claims.nonce ≠ principal.requestNonce ||
        (if claims.grantId = "" then none else some claims.grantId) ≠ principal.grantId) mismatch
    refuse (!kindAgrees audience actor owner claims principal input) mismatch
    return (context, ⟨principal, claims, signature, input⟩)
  | _, _ => .error ⟨401, "AUTH_REQUIRED", "Dispatch requires an authenticated REST request", none⟩

/-- What `trim` removes. -/
def isWhitespace (c : Char) : Bool :=
  inRange '\t' '\r' c || c ∈ [' ', '\u00a0', '\u1680', '\u2028', '\u2029', '\u202f', '\u205f', '\u3000', '\ufeff'] ||
    inRange '\u2000' '\u200a' c

def trim (text : String) : String :=
  String.ofList ((text.toList.dropWhile isWhitespace).reverse.dropWhile isWhitespace).reverse

def isJson (contentType : String) : Bool :=
  ((split contentType ';').head?).any (fun media => toLowerCase (trim media) = "application/json")

def requestBody (crypto : Crypto δ) (authority : Authority) : Except RestError JsonFields := do
  refuse (authority.claims.method ≠ "POST" || !isJson authority.claims.contentType ||
      1048576 < authority.input.body.length) mismatch
  match crypto.parseBody authority.input.body with
  | some (.object fields) => .ok fields
  | _ => .error mismatch

/-- The step an entry of a batch names. -/
def entryStep (entry : Json) : Except RestError (Int × JsonFields) :=
  match entry with
  | .object item =>
    match ((JsonFields.field item "stepIndex").bind Json.safeInteger).filter (fun index => 0 ≤ index && index ≤ 31) with
    | some index =>
      if JsonFields.unknownKey item ["stepIndex", "rawSignedTransaction", "ownerApproval"] then
        .error mismatch else .ok (index, item)
    | none => .error mismatch
  | _ => .error mismatch

/-- The loop over a batch: the steps seen, and what the entry of the wanted step carries. -/
def batchRaw (stepIndex : Int) : List Json → List Int → Option Json → Except RestError (Option Json)
  | [], _, raw => .ok raw
  | entry :: rest, seen, raw => do
    let (index, item) ← entryStep entry
    refuse (index ∈ seen) mismatch
    batchRaw stepIndex rest (index :: seen) (if index = stepIndex then item.field "rawSignedTransaction" else raw)

def stepTarget (planId : String) (stepIndex : Int) : String :=
  "/api/v1/plans/" ++ planId ++ "/steps/" ++ toString stepIndex ++ "/submissions"

def batchTarget (planId : String) : String := "/api/v1/plans/" ++ planId ++ "/submissions"

def sponsorshipTarget (sponsorshipId : String) : String := "/api/v1/sponsorships/" ++ sponsorshipId ++ "/submissions"

/-- What the request carries for the step. -/
def carriedRaw (body : JsonFields) (requestTarget planId : String) (stepIndex : Int) : Except RestError (Option Json) :=
  if requestTarget = stepTarget planId stepIndex then do
    refuse (body.unknownKey ["rawSignedTransaction", "ownerApproval"]) mismatch
    return body.field "rawSignedTransaction"
  else if requestTarget = batchTarget planId then
    match body.field "submissions" with
    | some (.array submissions) => do
      refuse (body.unknownKey ["submissions"] || submissions.length < 1 || 32 < submissions.length) mismatch
      batchRaw stepIndex submissions [] none
    | _ => .error mismatch
  else .error mismatch

def transactionIntent (crypto : Crypto δ) (authority : Authority) (planId : String) (stepIndex : Int)
    (transactionHash : String) : Except RestError Unit := do
  let body ← requestBody crypto authority
  let raw ← carriedRaw body authority.claims.requestTarget planId stepIndex
  match raw with
  | some (.text raw) =>
    refuse (!isHexBytes raw || toLowerCase (crypto.keccak256 raw) ≠ toLowerCase transactionHash) mismatch
  | _ => .error mismatch

def sponsorshipIntent (crypto : Crypto δ) (authority : Authority) (record : SponsorshipRecord) (submissionHash : String) :
    Except RestError Unit := do
  let body ← requestBody crypto authority
  match body.field "signatures" with
  | some (.array signatures) =>
    refuse (authority.claims.requestTarget ≠ sponsorshipTarget record.id || body.unknownKey ["signatures", "ownerApproval"])
      mismatch
    match sponsorshipSubmissionHash crypto record.commitment signatures with
    | .ok actual => refuse (toLowerCase actual ≠ toLowerCase submissionHash) mismatch
    | .error _ => .error mismatch
  | _ => .error mismatch

/-- The freshness that dispatch asks of any window. -/
def freshWindow (window : DispatchApprovalWindow) (now : Int) : Except RestError Unit := do
  refuse (!isSafeInteger now || now ≤ 0) clockUnavailable
  refuse (!isSafeInteger window.issuedAt || !isSafeInteger window.expiresAt || window.issuedAt ≤ 0 ||
      window.expiresAt ≤ window.issuedAt || 300 < window.expiresAt - window.issuedAt || window.expiresAt ≤ now ||
      now + 30 < window.issuedAt) approvalExpired

/-- The last look at the signal and the clock. -/
def completedWindow (window : DispatchApprovalWindow) (readings : Readings) : Except RestError DispatchApprovalWindow := do
  refuse (readings.aborted 5) dispatchInterrupted
  freshWindow window (readings.now 3)
  return window

def ownerWindow (crypto : Crypto δ) (authority : Authority) (audience : String) (readings : Readings) :
    Except RestError (Option DispatchApprovalWindow) :=
  if !authority.principal.isOwner then .ok none
  else do
    let window := DispatchApprovalWindow.mk authority.claims.issuedAt authority.claims.expiresAt
    freshWindow window (readings.now 0)
    verifyRequestSignature crypto audience authority.claims authority.signature (readings.aborted 1)
    refuse (readings.aborted 2) dispatchInterrupted
    freshWindow window (readings.now 1)
    return some window

/-- A check of the owner's own request only. -/
def ofOwner (principal : RestPrincipal) (check : Except RestError Unit) : Except RestError Unit :=
  if principal.isOwner then check else .ok ()

def authorizeTransaction (crypto : Crypto δ) (audience : String) (context : Option RestRequestContext) (plan : StoredPlan)
    (stepIndex : Int) (transactionHash : String) (readings : Readings) : Except RestError DispatchApprovalWindow := do
  let (context, authority) ← currentAuthority crypto context plan.actor audience readings
  refuse (authority.principal.kind = some .walletApp) mismatch
  ofOwner authority.principal (transactionIntent crypto authority plan.id stepIndex transactionHash)
  let owner ← ownerWindow crypto authority audience readings
  match owner with
  | some owner => completedWindow owner readings
  | none =>
    let verified ← verifyTransactionApproval crypto audience (context.ownerApprovals stepIndex)
      ⟨plan.actor.accountId, plan.actor.principalId, plan.id, plan.commitment, stepIndex, transactionHash⟩ readings
    completedWindow ⟨verified.issuedAt, verified.expiresAt⟩ readings

def authorizeSponsorship (crypto : Crypto δ) (audience : String) (context : Option RestRequestContext)
    (record : SponsorshipRecord) (submissionHash : String) (readings : Readings) :
    Except RestError DispatchApprovalWindow := do
  let (context, authority) ← currentAuthority crypto context record.actor audience readings
  refuse (authority.principal.kind = some .walletApp) mismatch
  ofOwner authority.principal (sponsorshipIntent crypto authority record submissionHash)
  let owner ← ownerWindow crypto authority audience readings
  match owner with
  | some owner => completedWindow owner readings
  | none =>
    let verified ← verifySponsorshipApproval crypto audience context.sponsorshipOwnerApproval
      ⟨record.actor.accountId, record.actor.principalId, record.id, record.commitment, submissionHash⟩ readings
    completedWindow ⟨verified.issuedAt, verified.expiresAt⟩ readings

/-- The authorizers of a service, for its audience. -/
def createTransactionDispatchAuthorizer (crypto : Crypto δ) (audience : String) :
    Except RestError (Option RestRequestContext → StoredPlan → Int → String → Readings →
      Except RestError DispatchApprovalWindow) :=
  (validateAudience crypto audience).map (authorizeTransaction crypto)

def createSponsorshipDispatchAuthorizer (crypto : Crypto δ) (audience : String) :
    Except RestError (Option RestRequestContext → SponsorshipRecord → String → Readings →
      Except RestError DispatchApprovalWindow) :=
  (validateAudience crypto audience).map (authorizeSponsorship crypto)

end JBCenter.Dispatch
