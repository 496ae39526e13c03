import JBCenter.Sponsor.Worker

/-! The deploy route. A request reads its intent, works out which chains it can queue, compares the budget and its
quota, and only then queues the rows; every read and write is a statement of its own. -/
namespace JBCenter.Sponsor

/-- A value in the list of chains of a request body. -/
inductive ChainIdValue where
  | text (value : String)
  | integer (value : Int)
  | other

inductive ChainIdsValue where
  | list (items : List ChainIdValue)
  | other

/-- What was sent as the body: nothing a parser accepts, a value that is no object, or an object with
its `chainIds` property. An empty body stands for an empty object. -/
inductive Body where
  | malformed
  | notObject
  | object (chainIds : Option ChainIdsValue)

structure DeployRequest where
  id : String
  body : Body
  /-- Whom the request is charged to; the co-hosted MCP is one client. -/
  client : String

inductive RouteFailure where
  | badRequest (message : String)
  | store (error : Failure)

inductive DeployResponse where
  | refused (status : Nat) (code message : String) (retryAfter : Option String)
  | listed (status : Nat) (deploys : List (Nat × IntentDeployRow))

def mcpClient : String := "mcp"
def retryAfterSeconds : String := "86400"

structure Allowance where
  allowed : Bool
  remaining : Nat

/-- The store and the clock of the process, as one request sees them. -/
structure Store where
  db : Database
  quotas : OrderedMap (String × Nat) Nat
  clock : Nat

inductive RouteOp where
  | now
  | selectIntent (intentId : String)
  | selectDeployments (intentId : String)
  | selectDeploys (intentId : String)
  | sponsoredWeiSince (since : Nat) (requester : Option String)
  | consumeRequest (client : String) (limit windowSeconds : Nat)
  | queueDeploys (intentId : String) (chainIds : List Nat) (requester : String) (reservedWeiPerChain : Nat)
      (retryFailed : Bool)
deriving DecidableEq

namespace RouteOp

def Result : RouteOp → Type
  | now => Nat
  | selectIntent _ => Option IntentEnvelope
  | selectDeployments _ => List (Nat × Deployment)
  | selectDeploys _ => List (Nat × IntentDeployRow)
  | sponsoredWeiSince _ _ => Nat
  | consumeRequest _ _ _ => Allowance
  | queueDeploys _ _ _ _ _ => Unit

def Reply : RouteOp → Type
  | now => Unit
  | _ => Fate

/-- One statement counts the request and says how many its window has seen. -/
def consume (store : Store) (client : String) (limit windowSeconds : Nat) : Allowance × Store :=
  let window := store.db.now / 1000 / windowSeconds * windowSeconds
  let count := (store.quotas.get (client, window)).getD 0 + 1
  ({ allowed := count ≤ limit, remaining := limit - count },
    { store with quotas := store.quotas.set (client, window) count })

def run : (op : RouteOp) → Store → Except Failure (op.Result × Store)
  | now, store => .ok (store.clock, store)
  | selectIntent intentId, store => .ok (store.db.intents.get intentId, store)
  | selectDeployments intentId, store => .ok (store.db.selectDeployments intentId, store)
  | selectDeploys intentId, store => .ok (store.db.selectDeploys intentId, store)
  | sponsoredWeiSince since requester, store => .ok (store.db.sponsoredWeiSince since requester, store)
  | consumeRequest client limit windowSeconds, store => .ok (consume store client limit windowSeconds)
  | queueDeploys intentId chainIds requester reserved retry, store =>
    (store.db.queueDeploys intentId chainIds requester reserved retry).map fun db => ((), { store with db })

/-- What becomes of a statement; the clock is always answered. -/
def fate : (op : RouteOp) → op.Reply → Fate
  | now, _ => .served
  | selectIntent _, fate => fate
  | selectDeployments _, fate => fate
  | selectDeploys _, fate => fate
  | sponsoredWeiSince _ _, fate => fate
  | consumeRequest _ _ _, fate => fate
  | queueDeploys _ _ _ _ _, fate => fate

def perform (op : RouteOp) (reply : op.Reply) (store : Store) : Except RouteFailure op.Result × Store :=
  match op.fate reply, op.run store with
  | .served, .ok (value, next) => (.ok value, next)
  | .served, .error error => (.error (.store error), store)
  | .lost name, .ok (_, next) => (.error (.store (.other name)), next)
  | .lost name, .error _ => (.error (.store (.other name)), store)
  | .refused name, _ => (.error (.store (.other name)), store)

end RouteOp

abbrev RouteAct := Action RouteOp RouteFailure RouteOp.Result Unit

namespace Route

def call (op : RouteOp) : RouteAct op.Result := Action.request op

def badRequest (message : String) : Except RouteFailure α := .error (.badRequest message)

/-- Matches `/^[0-9a-f]{8}-[0-9a-f]{4}-[1-8][0-9a-f]{3}-[89ab][0-9a-f]{3}-[0-9a-f]{12}$/iu`. -/
def isUuid (text : String) : Bool :=
  text.toList.length == 36 && text.toList.zipIdx.all (fun (c, index) =>
    if [8, 13, 18, 23].contains index then c == '-'
    else if index == 14 then Rest.inRange '1' '8' c
    else if index == 19 then ['8', '9', 'a', 'b', 'A', 'B'].contains c
    else Rest.isHexDigit c)

/-- A decimal text counts as its number. -/
def positiveInteger (value : ChainIdValue) (name : String) : Except RouteFailure Nat :=
  let parsed : Option Int := match value with
    | .text digits => if digits ≠ "" ∧ digits.toList.all Rest.isDigit then some (Rest.decimalValue digits) else none
    | .integer value => some value
    | .other => none
  match parsed.filter (fun value => Rest.isSafeInteger value && 0 < value) with
  | some value => .ok value.toNat
  | none => badRequest (name ++ " must be a positive safe integer")

def optionalChainIds (value : Option ChainIdsValue) (within : List Nat) : Except RouteFailure (Option (List Nat)) :=
  match value with
  | none => .ok none
  | some .other => badRequest "chainIds must contain between 1 and 16 chains"
  | some (.list items) =>
    if items.isEmpty || 16 < items.length then badRequest "chainIds must contain between 1 and 16 chains"
    else do
      let chainIds ← items.mapM (positiveInteger · "chainIds")
      if ¬ chainIds.Nodup then badRequest "chainIds must contain unique chains"
      else if chainIds.any (fun chainId => !within.contains chainId) then
        badRequest "chainIds must be part of this intent"
      else .ok (some chainIds)

def requestedChains (body : Body) (within : List Nat) : Except RouteFailure (Option (List Nat)) :=
  match body with
  | .malformed => badRequest "Request body must be valid JSON"
  | .notObject => badRequest "Request body must be a JSON object"
  | .object value => optionalChainIds value within

/-- Every chain of an intent is deployed by one sender, and a deployment that was not forwarded came from a wallet. -/
def walletDeployed (intent : Intent) : Bool := intent.deployments.any (fun (_, deployment) => !deployment.forwarded)

/-- The chains this request can queue: sponsored ones without a deployment, of one family. -/
def selectedChains (intent : Intent) (requested : Option (List Nat)) : Except RouteFailure (List Nat) :=
  let deployed := intent.deployments.map Prod.fst
  if requested.any (fun chains => chains.any deployed.contains) then
    badRequest "chainIds must name chains with no deployment"
  else if requested.any (fun chains => chains.any (fun chainId => !isSponsoredChain chainId)) then
    badRequest "chainIds must name chains Center sponsors"
  else
    let selected := (sponsoredChains (requested.getD intent.envelope.chainIds)).filter
      (fun chainId => !deployed.contains chainId)
    if selected.isEmpty then badRequest "intent has no sponsored chain left to deploy"
    else if (sponsorFamily selected).isNone then badRequest "intent chains are not sponsorable"
    else .ok selected

/-- A named chain that failed is asked for again, so its row counts as absent. -/
def retryable (intent : Intent) (requested : Option (List Nat)) (chainId : Nat) : Bool :=
  requested.isSome && intent.deploys.any (fun (chain, row) => chain == chainId && row.status == .failed)

def freshChains (intent : Intent) (requested : Option (List Nat)) (selected : List Nat) : List Nat :=
  selected.filter fun chainId =>
    !intent.deploys.any (fun (chain, _) => chain == chainId) || retryable intent requested chainId

def reservedFor (policy : SponsorPolicy) (intent : Intent) (fresh : List Nat) : Nat :=
  reservationWei policy (intent.envelope.deploymentCalls.filter (fun call => fresh.contains call.chainId)).length

def unavailable : DeployResponse := .refused 503 "unavailable" "Sponsored deploys are paused" none
def notFound : DeployResponse := .refused 404 "not_found" "Intent not found" none
def mixedSender : DeployResponse :=
  .refused 409 "mixed_sender" "A wallet already deployed a chain of this intent; deploy the rest from it" none
def budgetSpent : DeployResponse :=
  .refused 429 "sponsor_budget" "The daily sponsorship budget is spent" (some retryAfterSeconds)
def quotaReached : DeployResponse :=
  .refused 429 "sponsor_quota" "Daily sponsored deploy quota reached" (some retryAfterSeconds)

/-- The three reads of an intent. -/
def getIntent (intentId : String) : RouteAct (Option Intent) := do
  let envelope : Option IntentEnvelope ← call (.selectIntent intentId)
  let deployments : List (Nat × Deployment) ← call (.selectDeployments intentId)
  let deploys : List (Nat × IntentDeployRow) ← call (.selectDeploys intentId)
  return envelope.map fun envelope => { id := intentId, envelope, deployments, deploys }

/-- What a request that passed its checks queues. -/
structure Plan where
  intentId : String
  client : String
  selected : List Nat
  fresh : List Nat
  reserved : Nat
  retryFailed : Bool

def queue (plan : Plan) : RouteAct DeployResponse := do
  call (.queueDeploys plan.intentId plan.fresh plan.client (plan.reserved / plan.fresh.length) plan.retryFailed)
  let deploys : List (Nat × IntentDeployRow) ← call (.selectDeploys plan.intentId)
  return .listed 202 (deploys.filter (fun (chainId, _) => plan.selected.contains chainId))

/-- The budget is checked before the quota, so a budget refusal costs the requester nothing. -/
def checkBudget (policy : SponsorPolicy) (plan : Plan) (since : Nat) : RouteAct DeployResponse := do
  let spent : Nat ← call (.sponsoredWeiSince since none)
  if spent + plan.reserved > policy.dailyBudgetWei then return budgetSpent
  else do
    let quota : Allowance ← call (.consumeRequest ("deploy:" ++ plan.client) policy.perRequesterPerDay 86400)
    if !quota.allowed then return quotaReached else queue plan

/-- The co-hosted MCP draws on its own slice of the day's budget first. -/
def checkSlice (policy : SponsorPolicy) (plan : Plan) : RouteAct DeployResponse := do
  let clock : Nat ← call .now
  let since := clock - dayMs
  if plan.client = mcpClient then do
    let mcpSpent : Nat ← call (.sponsoredWeiSince since (some mcpClient))
    if mcpSpent + plan.reserved > policy.mcpDailyBudgetWei then return budgetSpent else checkBudget policy plan since
  else checkBudget policy plan since

def deployIntent (policy : SponsorPolicy) (request : DeployRequest) (intent : Intent) : RouteAct DeployResponse := do
  let requested ← Action.ofExcept (requestedChains request.body intent.envelope.chainIds)
  let selected ← Action.ofExcept (selectedChains intent requested)
  let fresh := freshChains intent requested selected
  let plan : Plan := { intentId := intent.id, client := request.client, selected, fresh
                       reserved := reservedFor policy intent fresh, retryFailed := requested.isSome }
  if fresh.isEmpty then return .listed 200 (intent.deploys.filter (fun (chainId, _) => selected.contains chainId))
  else checkSlice policy plan

/-- The store compares ids as UUIDs, in lower case. -/
def deploy (sponsor : Option SponsorPolicy) (request : DeployRequest) : RouteAct DeployResponse :=
  match sponsor.filter (fun policy => !policy.paused) with
  | none => pure unavailable
  | some policy => do
    if !isUuid request.id then Action.raise (.badRequest "intent id is invalid")
    else match ← getIntent (Rest.toLowerCase request.id) with
      | none => return notFound
      | some intent => if walletDeployed intent then return mixedSender else deployIntent policy request intent

def onError : RouteFailure → DeployResponse
  | .badRequest message => .refused 400 "bad_request" message none
  | .store (.conflict message) => .refused 409 "conflict" message none
  | .store (.verification message) => .refused 422 "deployment_unverified" message none
  | .store _ => .refused 500 "internal_error" "Internal server error" none

def handle (sponsor : Option SponsorPolicy) (request : DeployRequest) : RouteAct DeployResponse :=
  Action.tryCatch (deploy sponsor request) (fun error => pure (onError error))

end Route

structure InFlight where
  request : DeployRequest
  program : Program RouteOp RouteFailure RouteOp.Result (Except RouteFailure DeployResponse × Unit)

structure Site where
  sponsor : System
  quotas : OrderedMap (String × Nat) Nat
  /-- The clock of the process, which is not the clock of the store. -/
  clock : Nat
  requests : List InFlight

inductive SiteEvent where
  | sponsor (event : Event)
  | tick (elapsed : Nat)
  | arrive (request : DeployRequest)
  | serve (index : Nat) (op : RouteOp) (reply : op.Reply)

namespace Site

def store (s : Site) : Store := { db := s.sponsor.world.db, quotas := s.quotas, clock := s.clock }

/-- The site after a request changed the store. -/
def commit (s : Site) (store : Store) : Site :=
  { s with sponsor := { s.sponsor with world := { s.sponsor.world with db := store.db } }, quotas := store.quotas }

/-- Rows are queued by requests only. -/
def step (options : LaneOptions) (leaseSeconds : Nat) (s : Site) : SiteEvent → Option Site
  | .sponsor (.queueDeploys _ _ _ _ _) => none
  | .sponsor event => (s.sponsor.step options leaseSeconds event).map fun sponsor => { s with sponsor }
  | .tick elapsed => some { s with clock := s.clock + elapsed }
  | .arrive request => some { s with
      requests := s.requests ++ [⟨request, Route.handle (some options.policy) request ()⟩] }
  | .serve index op reply => match s.requests[index]? with
    | some ⟨request, .call current next⟩ =>
      if same : op = current then
        let (answer, store) := current.perform (same ▸ reply) s.store
        some { s.commit store with requests := s.requests.set index ⟨request, next answer⟩ }
      else none
    | _ => none

end Site
end JBCenter.Sponsor
