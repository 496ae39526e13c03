import JBCenter.Base.Programs
import JBCenter.Sponsor.Policy
import JBCenter.Sponsor.Queue

/-! The operations the sponsor worker and the deploy route perform one at a time: statements
of the store, calls to nodes, the signer, the verifier and Relayr, and marks that name a
point of the code without doing anything. -/
namespace JBCenter.Sponsor

structure RelayrEntry where
  chain : Nat
  target : String
  data : String
  value : Nat
  virtualNonce : Nat
deriving DecidableEq

structure RelayrPayment where
  chainId : Nat
  target : String
  data : String
  value : Nat
  deadline : Nat
deriving DecidableEq

structure RelayrQuote where
  bundleUuid : String
  entries : List (String × RelayrEntry)
  payments : List RelayrPayment

/-- Relayr's answer to a create request, by the part every quote is read from. -/
structure QuoteDocument where
  bundleUuid : String
  body : String

/-- A transaction of a status whose record, request and status are objects, by the properties that are
read and have the type they are read at. -/
structure StatusItem where
  txUuid : Option String
  chain : Option Nat
  target : Option String
  data : Option String
  hash : Option String

/-- A status that is an object. `none` stands for a property that is absent or of another type. -/
structure StatusDocument where
  bundleUuid : Option String
  transactions : Option (List (Option StatusItem))

structure Log where
  address : String
  topics : List String

structure Receipt where
  success : Bool
  logs : List Log
  gasUsed : Nat
  effectiveGasPrice : Nat

/-- A prepared forward request: the gas it asks for and the message to sign. -/
structure Prepared where
  gas : Nat
  message : String
deriving DecidableEq

structure Fees where
  maxFeePerGas : Nat
  maxPriorityFeePerGas : Nat

/-- A claim being run: its chains, and the chains of its intent with a deployment when it was read. -/
structure ClaimView where
  intentId : String
  claimed : List Nat
  recorded : List Nat
deriving DecidableEq

/-- A bundle and the chains of the intent it holds entries for. -/
structure Bundle where
  bundleUuid : String
  intentId : String
  chainIds : List Nat
deriving DecidableEq

/-- Statements of the store. `cause` is the error the code is handling when it updates a row. -/
inductive Query where
  | retireExhausted
  | retireWaiting
  | retireUnpaidForWallet
  | leaseQueued (leaseSeconds limit : Nat)
  | selectIntent (intentId : String)
  | selectDeployments (intentId : String)
  | selectDeploys (intentId : String)
  | updateDeploy (intentId : String) (chainId : Nat) (patch : DeployPatch) (cause : Option Failure)
  | recordDeployment (intentId : String) (chainId : Nat) (value : Deployment)
  | releaseClaim (intentId : String) (chainIds : List Nat)
deriving DecidableEq

inductive External where
  | now
  | wait
  | getCode (chainId : Nat) (address : String)
  | proxyCreationCode (chainId : Nat)
  | simulate (chainId : Nat) (data : String)
  | estimateGas (chainId : Nat) (data : String)
  | creationFee (chainId : Nat)
  | getBalance (chainId : Nat)
  | prepare (chainId : Nat) (launch : DeploymentCall) (fee preceding deadline : Nat)
  | signTypedData (prepared : Prepared)
  | signed (prepared : Prepared) (signature : String)
  | create (intentId : String) (chainIds : List Nat) (entries : List RelayrEntry)
  | status (bundleUuid : String)
  | estimateFeesPerGas (chainId : Nat)
  | getTransactionCount (chainId : Nat)
  | signTransaction (payment : RelayrPayment) (maxFeePerGas maxPriorityFeePerGas nonce : Nat)
  | sendPayment (bundle : Bundle) (payment : RelayrPayment) (raw : String)
  | waitForTransactionReceipt (chainId : Nat) (hash : String)
  | verify (chainId : Nat) (projectId transactionHash deploymentVersion : String) (call : Option DeploymentCall)
deriving DecidableEq

inductive CatchSite where
  | confirming
  | claim
deriving DecidableEq

inductive Mark where
  | deploy (view : ClaimView) (chainIds : List Nat)
  | resume (view : ClaimView) (chainIds : List Nat) (bundleUuid : String)
  | caught (site : CatchSite) (error : Failure)
  | escaped (intentId : String) (claimed : List Nat) (error : Failure)
  | stall
deriving DecidableEq

inductive Op where
  | query (statement : Query)
  | external (request : External)
  | mark (point : Mark)
deriving DecidableEq

def Query.Result : Query → Type
  | .leaseQueued _ _ => List (String × List Nat)
  | .selectIntent _ => Option IntentEnvelope
  | .selectDeployments _ => List (Nat × Deployment)
  | .selectDeploys _ => List (Nat × IntentDeployRow)
  | _ => Unit

def External.Result : External → Type
  | .now => Nat
  | .wait => Unit
  | .getCode _ _ => Option String
  | .proxyCreationCode _ => String
  | .simulate _ _ => Unit
  | .estimateGas _ _ => Nat
  | .creationFee _ => Nat
  | .getBalance _ => Nat
  | .prepare _ _ _ _ _ => Prepared
  | .signTypedData _ => String
  | .signed _ _ => RelayrEntry
  | .create _ _ _ => QuoteDocument
  | .status _ => Option StatusDocument
  | .estimateFeesPerGas _ => Fees
  | .getTransactionCount _ => Nat
  | .signTransaction _ _ _ _ => String
  | .sendPayment _ _ _ => String
  | .waitForTransactionReceipt _ _ => Receipt
  | .verify _ _ _ _ _ => Unit

def Op.Result : Op → Type
  | .query statement => statement.Result
  | .external request => request.Result
  | .mark _ => Unit

/-- The store, and what Relayr was asked: the bundles it quoted and those a prepayment was sent for. -/
structure World where
  db : Database
  quotes : List Bundle
  paid : List Bundle

/-- What becomes of a statement: it is answered, it commits but its answer is lost, or it
does not reach the store. -/
inductive Fate where
  | served
  | lost (name : String)
  | refused (name : String)

def Op.Reply : Op → Type
  | .query _ => Fate
  | .external request => Except Failure request.Result
  | .mark .stall => Empty
  | .mark _ => Unit

def Query.run : (statement : Query) → Database → Except Failure (statement.Result × Database)
  | .retireExhausted, db => .ok ((), db.retireExhausted)
  | .retireWaiting, db => .ok ((), db.retireWaiting)
  | .retireUnpaidForWallet, db => .ok ((), db.retireUnpaidForWallet none)
  | .leaseQueued leaseSeconds limit, db => .ok (db.leased limit, db.leaseQueued leaseSeconds limit)
  | .selectIntent intentId, db => .ok (db.intents.get intentId, db)
  | .selectDeployments intentId, db => .ok (db.selectDeployments intentId, db)
  | .selectDeploys intentId, db => .ok (db.selectDeploys intentId, db)
  | .updateDeploy intentId chainId patch _, db => (db.updateDeploy intentId chainId patch).map (((), ·))
  | .recordDeployment intentId chainId value, db => (db.recordDeployment intentId chainId value).map (((), ·))
  | .releaseClaim intentId chainIds, db => .ok ((), db.releaseClaim intentId chainIds)

def Query.perform (statement : Query) (fate : Fate) (db : Database) : Except Failure statement.Result × Database :=
  match fate, statement.run db with
  | .served, .ok (value, next) => (.ok value, next)
  | .served, .error error => (.error error, db)
  | .lost name, .ok (_, next) => (.error (.other name), next)
  | .lost name, .error _ => (.error (.other name), db)
  | .refused name, _ => (.error (.other name), db)

/-- A quote exists once Relayr answered with it. A prepayment may be on its way whatever the node answered. -/
def External.perform : (request : External) → Except Failure request.Result → World → World
  | .create intentId chainIds _, .ok document, w =>
    { w with quotes := w.quotes ++ [⟨document.bundleUuid, intentId, chainIds⟩] }
  | .sendPayment bundle _ _, _, w => { w with paid := w.paid ++ [bundle] }
  | _, _, w => w

theorem External.perform_db {request : External} (answer : Except Failure request.Result) (w : World) :
    (request.perform answer w).db = w.db := by
  cases request with
  | create intentId chainIds entries => cases answer <;> rfl
  | _ => rfl

def Op.perform : (op : Op) → op.Reply → World → Except Failure op.Result × World
  | .query statement, fate, w =>
    ((statement.perform fate w.db).1, { w with db := (statement.perform fate w.db).2 })
  | .external request, answer, w => (answer, request.perform answer w)
  | .mark _, _, w => (.ok (), w)

end JBCenter.Sponsor
