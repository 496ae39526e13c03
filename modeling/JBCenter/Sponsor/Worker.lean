import JBCenter.Sponsor.Deploy

/-! The sponsor worker: it claims queued deploys and runs one claim after the other. -/
namespace JBCenter.Sponsor

/-- A row update, with the error the code is handling as its cause. -/
def updateDeploy (intentId : String) (chainId : Nat) (patch : DeployPatch) : Act Unit := do
  let l ← Action.read
  store (.updateDeploy intentId chainId patch l.handling)

/-- The three reads of an intent. They run beside each other, so others may write between them. -/
def getIntent (intentId : String) : Act (Option Intent) := do
  let envelope : Option IntentEnvelope ← store (.selectIntent intentId)
  let deployments : List (Nat × Deployment) ← store (.selectDeployments intentId)
  let deploys : List (Nat × IntentDeployRow) ← store (.selectDeploys intentId)
  return envelope.map fun envelope => { id := intentId, envelope, deployments, deploys }

def claimQueuedDeploys (leaseSeconds limit : Nat) : Act (List (String × List Nat)) := do
  store .retireExhausted
  store .retireWaiting
  store .retireUnpaidForWallet
  store (.leaseQueued leaseSeconds limit)

/-- The bundle of the first claimed row that carries one. -/
def carriedBundle (intent : Intent) (claimed : List Nat) : Option String :=
  (intent.deploys.find? (fun (chainId, row) => claimed.contains chainId && row.bundleUuid.any (· ≠ ""))).bind
    (fun (_, row) => row.bundleUuid)

def fail (intentId : String) (chainId : Nat) (error : String) : Act Unit := do
  updateDeploy intentId chainId { status := some .failed, error := some error }
  Action.modify (fun l => { l with done := l.done ++ [chainId] })

def unlessDone (chainId : Nat) (action : Act Unit) : Act Unit := do
  let l ← Action.read
  if l.done.contains chainId then pure () else action

namespace Report
variable (intent : Intent) (chainIds : List Nat)

/-- From here the prepayment may leave the key, so the rows wait for the bundle's own outcome. -/
def bundle (submitted : String) : Act Unit := do
  Action.modify (fun l => { l with bundleUuid := some submitted })
  Action.each (fun chainId =>
    updateDeploy intent.id chainId { status := some .queued, bundleUuid := some submitted }) chainIds

/-- The launch is verified against the chain and recorded. -/
def record (chainId : Nat) (transactionHash projectId : String) : Act Unit := do
  let call := (callsForChain intent.envelope.deploymentCalls chainId).2
  ask (.verify chainId projectId transactionHash intent.envelope.deploymentVersion call)
  store (.recordDeployment intent.id chainId { projectId, transactionHash, forwarded := true })
  updateDeploy intent.id chainId { status := some .confirmed, transactionHash := some transactionHash }
  Action.modify (fun l => { l with done := l.done ++ [chainId] })

/-- Whatever went wrong while a launch was recorded fails its row. -/
def recordFailed (chainId : Nat) (transactionHash : String) (error : Failure) : Act Unit := do
  updateDeploy intent.id chainId
    { status := some .failed, transactionHash := some transactionHash, error := some (laneErrorMessage error) }
  Action.modify (fun l => { l with done := l.done ++ [chainId] })

def confirmed (chainId : Nat) (transactionHash projectId : String) : Act Unit :=
  catching .confirming (record intent chainId transactionHash projectId) (recordFailed intent chainId transactionHash)

end Report

def report (intent : Intent) (chainIds : List Nat) : LaneReport where
  bundle := Report.bundle intent chainIds
  paid chainId spentWei := updateDeploy intent.id chainId { status := some .queued, spentWei := some spentWei }
  sent chainId transactionHash bundleUuid := updateDeploy intent.id chainId
    { status := some .sent, transactionHash := some transactionHash, bundleUuid := some bundleUuid }
  confirmed := Report.confirmed intent
  failed := fail intent.id
  deferred := Action.modify (fun l => { l with deferred := true })

/-- The lane call of a claim: a bundle already submitted is followed, never paid again. -/
def callLane (options : LaneOptions) (view : ClaimView) (intent : Intent) (chainIds : List Nat)
    (carried : Option String) : Act Unit :=
  match carried with
  | some bundleUuid => do
    mark (.resume view chainIds bundleUuid)
    resume options intent chainIds bundleUuid (report intent chainIds)
  | none => do
    mark (.deploy view chainIds)
    deploy options intent chainIds (report intent chainIds)

/-- The catch block of a claim. A row that waits keeps its status and its bundle, and says why. -/
def laneFailed (intent : Intent) (chainIds : List Nat) (error : Failure) : Act Unit := do
  let l ← Action.read
  match laneOutcome error l.bundleUuid.isSome with
  | .terminal => Action.each (fun chainId => unlessDone chainId (fail intent.id chainId (laneErrorMessage error))) chainIds
  | .retry => do
    Action.each (fun chainId => unlessDone chainId
      (updateDeploy intent.id chainId { error := some (laneErrorMessage error) })) chainIds
    (report intent chainIds).deferred

def releaseClaim (intentId : String) (chainIds : List Nat) : Act Unit := store (.releaseClaim intentId chainIds)

/-- A deferral spent nothing, so it must not spend one of the three attempts either. -/
def closeClaim (intent : Intent) (chainIds : List Nat) : Act Unit := do
  let l ← Action.read
  if l.deferred then releaseClaim intent.id chainIds
  else Action.each (fun chainId => unlessDone chainId
    (fail intent.id chainId "not attempted: an earlier chain failed")) chainIds

/-- The chains of a claim that no deployment is recorded for. -/
def runChains (options : LaneOptions) (view : ClaimView) (intent : Intent) (chainIds : List Nat)
    (carried : Option String) : Act Unit := do
  catching .claim (callLane options view intent chainIds carried) (laneFailed intent chainIds)
  closeClaim intent chainIds

def runIntent (options : LaneOptions) (intent : Intent) (claimed : List Nat) : Act Unit := do
  let carried := carriedBundle intent claimed
  Action.modify (fun _ => { bundleUuid := carried })
  if carried.isNone && intent.deployments.any (fun (_, deployment) => !deployment.forwarded) then
    Action.each (fun chainId => updateDeploy intent.id chainId { status := some .failed, error := some "mixed sender" }) claimed
  else do
    let recorded := intent.deployments.map Prod.fst
    Action.each (fun chainId => updateDeploy intent.id chainId
      { status := some .failed, error := some "chain already deployed" }) (claimed.filter recorded.contains)
    let chainIds := claimed.filter (fun chainId => !recorded.contains chainId)
    if chainIds.isEmpty then pure ()
    else runChains options { intentId := intent.id, claimed, recorded } intent chainIds carried

def runClaim (options : LaneOptions) (intentId : String) (claimed : List Nat) : Act Unit := do
  match ← getIntent intentId with
  | none => pure ()
  | some intent => runIntent options intent claimed

/-- One pass. An error that leaves a claim costs the rest of the batch nothing. -/
def runOnce (options : LaneOptions) (leaseSeconds : Nat) : Act Unit := do
  let claims ← claimQueuedDeploys leaseSeconds 5
  Action.each (fun (intentId, chainIds) => Action.tryCatch (runClaim options intentId chainIds)
    (fun error => mark (.escaped intentId chainIds error))) claims

/-- The system: the worker beside requests that queue rows, wallets that record deployments, and the clock. -/
structure System where
  world : World
  /-- What is left of the pass the worker is in. -/
  worker : Option (Program Op Failure Op.Result (Except Failure Unit × Locals))

inductive Event where
  | queueDeploys (intentId : String) (chainIds : List Nat) (requester : String) (reservedWeiPerChain : Nat)
      (retryFailed : Bool)
  | recordDeployment (intentId : String) (chainId : Nat) (value : Deployment)
  | createIntent (intentId : String) (envelope : IntentEnvelope)
  | tick (elapsed : Nat)
  | start
  | work (op : Op) (reply : op.Reply)
  | finish
  | crash

def World.commit (w : World) : Except Failure Database → World
  | .ok db => { w with db }
  | .error _ => w

def System.step (options : LaneOptions) (leaseSeconds : Nat) (s : System) : Event → Option System
  | .queueDeploys intentId chainIds requester reserved retry =>
    some { s with world := s.world.commit (s.world.db.queueDeploys intentId chainIds requester reserved retry) }
  | .recordDeployment intentId chainId value =>
    some { s with world := s.world.commit (s.world.db.recordDeployment intentId chainId value) }
  | .createIntent intentId envelope =>
    if s.world.db.intents.has intentId then none
    else some { s with world := { s.world with db := { s.world.db with
      intents := s.world.db.intents.set intentId envelope } } }
  | .tick elapsed => some { s with world := { s.world with db := { s.world.db with now := s.world.db.now + elapsed } } }
  | .start => match s.worker with
    | none => some { s with worker := some (runOnce options leaseSeconds {}) }
    | some _ => none
  | .work op reply => match s.worker with
    | some (.call current next) =>
      if same : op = current then
        let (answer, world) := current.perform (same ▸ reply) s.world
        some { world, worker := some (next answer) }
      else none
    | _ => none
  | .finish => match s.worker with
    | some (.done _) => some { s with worker := none }
    | _ => none
  | .crash => some { s with worker := none }

end JBCenter.Sponsor
