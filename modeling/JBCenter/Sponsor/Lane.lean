import JBCenter.Sponsor.Operations

/-! The Relayr lane: it signs one forward request per chain, has Relayr quote the bundle, prepays it
and follows it to its destination receipts. A later claim resumes a bundle that was already submitted. -/
namespace JBCenter.Sponsor

/-- What one claim keeps between two awaits: the worker's variables, the chains the lane's
tracker settled, and the error a catch block is handling. -/
structure Locals where
  bundleUuid : Option String := none
  done : List Nat := []
  deferred : Bool := false
  settled : List Nat := []
  handling : Option Failure := none

abbrev Act := Action Op Failure Op.Result Locals

def ask (request : External) : Act request.Result := Action.request (Op.external request)

def store (statement : Query) : Act statement.Result := Action.request (Op.query statement)

def mark (point : Mark) : Act Unit := Action.request (Op.mark point)

/-- A catch block. It is marked, and the error counts as handled once the block is through. -/
def catching (site : CatchSite) (body : Act Unit) (handler : Failure → Act Unit) : Act Unit :=
  Action.tryCatch body fun error => do
    mark (.caught site error)
    Action.modify (fun l => { l with handling := some error })
    handler error
    Action.modify (fun l => { l with handling := none })

structure LaneReport where
  bundle : String → Act Unit
  paid : Nat → Nat → Act Unit
  sent : Nat → String → String → Act Unit
  confirmed : Nat → String → String → Act Unit
  failed : Nat → String → Act Unit
  deferred : Act Unit

structure Intent where
  id : String
  envelope : IntentEnvelope
  deployments : List (Nat × Deployment)
  deploys : List (Nat × IntentDeployRow)

inductive EntryKind where
  | setup
  | launch
deriving DecidableEq

/-- Which committed call of a chain an entry carries, and where it sits in that chain. -/
structure EntryRole where
  chainId : Nat
  role : EntryKind
  index : Nat
deriving DecidableEq

structure EntryHash extends EntryRole where
  hash : String
deriving DecidableEq

/-- The configuration of a lane, with what it uses of the Safe codec, the quote checks
and the payment event. -/
structure LaneOptions where
  policy : SponsorPolicy
  rpcChains : List Nat
  projectsAddress : String
  createTopic : String
  safeFactory : String
  canonicalFactory : String → Bool
  decodeSafeSetupCall : DeploymentCall → Option String
  predictSafeAddress : String → String → String
  quotedPayments : QuoteDocument → List RelayrEntry → Nat → Nat →
    Except Failure (List (String × RelayrEntry) × List RelayrPayment)
  boundEntries : Option StatusDocument → RelayrQuote → Except Failure (List (String × RelayrEntry))
  parseStatus : Option StatusDocument → RelayrQuote → Except Failure (List (Nat × Option String))
  verifyRelayrPaymentEvent : List Log → String → Nat → Nat → Except Failure Unit
  /-- How many rounds of polling are modelled before the lane is taken to hang. -/
  rounds : Nat

def requestTtlSeconds : Nat := 47 * 3600
def pollLimitMs : Nat := 15 * 60000
def paymentGas : Nat := 150000
def notExecuted : String := "relayr did not execute the bundle in time"
def l1ChainIds : List Nat := [1, 11155111]

/-- The last call for a chain launches the project; every earlier call sets it up. -/
def callsForChain (calls : List DeploymentCall) (chainId : Nat) : List DeploymentCall × Option DeploymentCall :=
  let group := calls.filter (fun call => call.chainId == chainId)
  (group.dropLast, group.getLast?)

/-- Configured payment options, rollups before L1s, in the order Relayr offered them. -/
def rankPayments (payments : List RelayrPayment) (rpcChains : List Nat) : List RelayrPayment :=
  let configured := payments.filter (fun payment => rpcChains.contains payment.chainId)
  configured.filter (fun payment => !l1ChainIds.contains payment.chainId) ++
    configured.filter (fun payment => l1ChainIds.contains payment.chainId)

/-- A canonical lower case UUID. -/
def uuid (text : String) : Bool :=
  text.toList.length == 36 && text.toList.zipIdx.all (fun (c, index) =>
    if [8, 13, 18, 23].contains index then c == '-' else Rest.isDigit c || Rest.inRange 'a' 'f' c)

def invalidQuote : Failure := .rest "RELAYR_INVALID_QUOTE"

def parseFamilyQuote (options : LaneOptions) (document : QuoteDocument) (entries : List RelayrEntry)
    (now maximumValue : Nat) : Except Failure RelayrQuote := do
  if !uuid document.bundleUuid then throw invalidQuote
  let (bound, payments) ← options.quotedPayments document entries now maximumValue
  return { bundleUuid := document.bundleUuid, entries := bound, payments }

def bindFamilyQuoteStatus (options : LaneOptions) (status : Option StatusDocument) (provisional : RelayrQuote) :
    Except Failure RelayrQuote := do
  let entries ← options.boundEntries status provisional
  return { provisional with entries }

namespace Tracker

def fail (report : LaneReport) (chainId : Nat) (message : String) : Act Unit := do
  Action.modify (fun l => { l with settled := l.settled ++ [chainId] })
  report.failed chainId message

def failRest (report : LaneReport) (chainIds : List Nat) (message : String) : Act Unit :=
  Action.each (fun chainId => do
    let l ← Action.read
    if l.settled.contains chainId then pure () else fail report chainId message) chainIds

def confirm (report : LaneReport) (chainId : Nat) (transactionHash projectId : String) : Act Unit := do
  Action.modify (fun l => { l with settled := l.settled ++ [chainId] })
  report.confirmed chainId transactionHash projectId

end Tracker

/-- What polling has found so far: the launch of each chain, and the Safe creations. -/
structure Sightings where
  launches : List (Nat × String) := []
  setups : List EntryHash := []

/-- One status: every new launch is reported, a Safe creation is only remembered. -/
def sight (report : LaneReport) (chainIds : List Nat) (bundleUuid : String) :
    List EntryHash → Sightings → Act Sightings
  | [], seen => pure seen
  | found :: rest, seen =>
    if !chainIds.contains found.chainId then sight report chainIds bundleUuid rest seen
    else if found.role = .setup then
      let known := seen.setups.any (fun other => other.chainId == found.chainId && other.index == found.index)
      sight report chainIds bundleUuid rest (if known then seen else { seen with setups := seen.setups ++ [found] })
    else if (seen.launches.lookup found.chainId).isSome then sight report chainIds bundleUuid rest seen
    else do
      report.sent found.chainId found.hash bundleUuid
      sight report chainIds bundleUuid rest
        { seen with launches := seen.launches ++ [(found.chainId, found.hash)] }

def pause (waiting : Bool) : Act Unit := if waiting then ask .wait else pure ()

/-- The bundle is paid for by the time it is polled, so an unexecuted one waits for a later claim. -/
def poll (report : LaneReport) (chainIds : List Nat) (bundleUuid : String)
    (hashesFrom : Option StatusDocument → Except Failure (List EntryHash)) (started : Nat) :
    Nat → Sightings → Act Sightings
  | 0, seen => if seen.launches.length < chainIds.length then do mark .stall; pure seen else pure seen
  | rounds + 1, seen =>
    if seen.launches.length < chainIds.length then do
      let clock : Nat ← ask .now
      if clock - started > pollLimitMs then Action.raise (.lane notExecuted (some "RELAYR_TIMEOUT"))
      else do
        let status : Option StatusDocument ← ask (.status bundleUuid)
        let found ← Action.ofExcept (hashesFrom status)
        let seen ← sight report chainIds bundleUuid found seen
        pause (seen.launches.length < chainIds.length)
        poll report chainIds bundleUuid hashesFrom started rounds seen
    else pure seen

/-- The project a `Create` event names, read from its first indexed topic. -/
def createdProject (options : LaneOptions) (receipt : Receipt) : Option String :=
  (receipt.logs.find? (fun log => Rest.toLowerCase log.address == Rest.toLowerCase options.projectsAddress &&
    log.topics[0]? == some options.createTopic)).bind
    (fun log => (log.topics[1]?).filter (· ≠ ""))

def hexDigit (c : Char) : Nat :=
  if Rest.isDigit c then c.toNat - '0'.toNat else (c.toLower.toNat - 'a'.toNat) + 10

/-- `BigInt(topic).toString()` of a topic, which is a hex quantity. -/
def topicDecimal (topic : String) : String :=
  toString ((topic.toList.drop 2).foldl (fun value c => value * 16 + hexDigit c) 0)

/-- The outcome of one launched chain; a chain that reverts fails alone. -/
def settleChain (options : LaneOptions) (report : LaneReport) (seen : Sightings) (chainId : Nat) : Act Unit := do
  let hash := (seen.launches.lookup chainId).getD ""
  let receipt : Receipt ← ask (.waitForTransactionReceipt chainId hash)
  if !receipt.success then Tracker.fail report chainId "the relayed deployment reverted"
  else match createdProject options receipt with
    | none => Tracker.fail report chainId "the relayed deployment logged no Create event"
    | some topic => Tracker.confirm report chainId hash (topicDecimal topic)

/-- A Safe creation only has to be observed: neither its outcome nor its absence changes anything. -/
def observeSetups (setups : List EntryHash) : Act Unit :=
  Action.each (fun item => Action.tryCatch
    (do let _ ← ask (.waitForTransactionReceipt item.chainId item.hash); pure ()) (fun _ => pure ())) setups

/-- Follow one submitted bundle to its destination receipts. -/
def settle (options : LaneOptions) (report : LaneReport) (chainIds : List Nat) (bundleUuid : String)
    (hashesFrom : Option StatusDocument → Except Failure (List EntryHash)) : Act Unit := do
  let started : Nat ← ask .now
  let seen ← poll report chainIds bundleUuid hashesFrom started options.rounds {}
  Action.each (settleChain options report seen) chainIds
  observeSetups seen.setups

def invalidStatus : Failure :=
  .lane "the execution service status does not match the stored bundle" (some "RELAYR_INVALID_STATUS")

/-- Text compared as `same` does. -/
def same (a b : String) : Bool := Rest.toLowerCase a == Rest.toLowerCase b

/-- The committed setup call an item carries, when its target is the Safe factory. -/
def setupIndex (options : LaneOptions) (item : StatusItem) (setup : List DeploymentCall) : Option Nat :=
  if item.target.any (same · options.safeFactory) then
    setup.findIdx? (fun call => item.data.any (same · call.data))
  else none

/-- An item that names its chain and a transaction. -/
def resumedEntry (options : LaneOptions) (calls : List DeploymentCall) (item : StatusItem) : Option EntryHash := do
  let chainId ← item.chain
  let hash ← item.hash.filter (Rest.isHex 64)
  let setup := (callsForChain calls chainId).1
  return match setupIndex options item setup with
    | some index => { chainId, role := .setup, index, hash }
    | none => { chainId, role := .launch, index := setup.length, hash }

/-- A resumed bundle has no retained quote to bind against: a Safe creation is the factory carrying
a committed setup call, and the one remaining call on a chain is its launch. -/
def resumedEntries (options : LaneOptions) (bundleUuid : String) (calls : List DeploymentCall)
    (status : Option StatusDocument) : Except Failure (List EntryHash) :=
  match status.filter (fun document => document.bundleUuid = some bundleUuid) >>= StatusDocument.transactions with
  | none => .error invalidStatus
  | some transactions =>
    let found := transactions.reduceOption.filterMap (resumedEntry options calls)
    let launches : List Nat := (found.filter (fun item => item.role = .launch)).map (fun item => item.chainId)
    if launches.Nodup then .ok found else .error invalidStatus

/-- The prepayment of a resumed bundle was spent by the attempt that submitted it. -/
def resume (options : LaneOptions) (intent : Intent) (chainIds : List Nat) (bundleUuid : String)
    (report : LaneReport) : Act Unit :=
  settle options report chainIds bundleUuid
    (resumedEntries options bundleUuid intent.envelope.deploymentCalls)

end JBCenter.Sponsor
