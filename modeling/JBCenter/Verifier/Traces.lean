import JBCenter.Base.Worklists
import JBCenter.Rest.Hex
import JBCenter.Rest.Json

/-! The evidence for a recorded deployment. A transaction stands for the committed call when it carries the call itself,
or when its trace shows the call, made directly or by the trusted forwarder. -/
namespace JBCenter.Verifier
open Rest

/-- A 20-byte address. The case of its letters is not kept, since `isAddressEqual` does not compare it. -/
structure Address where
  text : String
  valid : isHex 40 text = true ∧ toLowerCase text = text
  deriving DecidableEq

/-- Throws on anything but 40 digits, so a result is an address. -/
def getAddress (text : String) : Option Address :=
  if valid : isHex 40 text = true then some ⟨toLowerCase text, isHex_toLowerCase valid, toLowerCase_twice text⟩ else none

/-- Bytes, as the text that was given for them. -/
structure HexData where
  text : String
  valid : isHexData text = true

def HexData.parse (text : String) : Option HexData :=
  if valid : isHexData text = true then some ⟨text, valid⟩ else none

/-- The text of a `DeploymentVerificationError`. -/
abbrev VerificationError := String

/-- How the committed call reached the chain. -/
structure VerifiedDeployment where
  forwarded : Bool

structure DeploymentCall where
  chainId : Nat
  target : Address
  data : HexData

inductive TraceCall where
  | frame (type : String) (sender : Option Address) (target : Address) (input : HexData) (error : Option String)
      (calls : List TraceCall)

namespace TraceCall

def type : TraceCall → String
  | frame type _ _ _ _ _ => type

/-- The `from` of the frame. -/
def sender : TraceCall → Option Address
  | frame _ sender _ _ _ _ => sender

/-- The `to` of the frame. -/
def target : TraceCall → Address
  | frame _ _ target _ _ _ => target

def input : TraceCall → HexData
  | frame _ _ _ input _ _ => input

def error : TraceCall → Option String
  | frame _ _ _ _ error _ => error

def calls : TraceCall → List TraceCall
  | frame _ _ _ _ _ calls => calls

mutual
/-- The frames of a tree, its root among them. -/
def frames : TraceCall → Nat
  | frame _ _ _ _ _ calls => framesAll calls + 1

def framesAll : List TraceCall → Nat
  | [] => 0
  | call :: rest => call.frames + framesAll rest
end

mutual
/-- How far the deepest frame is from the root. -/
def depth : TraceCall → Nat
  | frame _ _ _ _ _ calls => depthAll calls

/-- One more than the deepest of the trees, and zero for none. -/
def depthAll : List TraceCall → Nat
  | [] => 0
  | call :: rest => max (call.depth + 1) (depthAll rest)
end

end TraceCall

/-- The canonical ERC2771Forwarder, at the same address on every supported chain. -/
def FORWARDER : Address := ⟨"0x3ba60b60933916a7c87d0860dcee62a0ce34e3e2", by decide⟩

def forwardedSenderHexLength : Nat := 40

def maxTraceDepth : Nat := 128

def maxTraceFrames : Nat := 100000

def malformedTrace : VerificationError := "RPC returned a malformed transaction trace"

def traceLimits : VerificationError := "Transaction trace exceeds verification limits"

/-- The frames of a list, read one after the other with one count. -/
def traceCalls (read : Json → Nat → Except VerificationError (TraceCall × Nat)) :
    List Json → Nat → Except VerificationError (List TraceCall × Nat)
  | [], count => .ok ([], count)
  | value :: rest, count => do
    let (call, count) ← read value count
    let (calls, count) ← traceCalls read rest count
    return (call :: calls, count)

def optionalText (fields : JsonFields) (key : String) : Except VerificationError (Option String) :=
  match fields.field key with
  | none => .ok none
  | some (.text text) => .ok (some text)
  | some _ => .error malformedTrace

def optionalItems (fields : JsonFields) (key : String) : Except VerificationError (List Json) :=
  match fields.field key with
  | none => .ok []
  | some (.array items) => .ok items
  | some _ => .error malformedTrace

/-- What a frame says of itself. A sender that is not a text is none, and an empty error is no error. -/
def traceFields (fields : JsonFields) :
    Except VerificationError (String × Option Address × Address × HexData × Option String × List Json) := do
  let type ← (fields.text "type").elim (.error malformedTrace) .ok
  let target ← (fields.text "to").elim (.error malformedTrace) .ok
  let input ← ((fields.text "input").bind HexData.parse).elim (.error malformedTrace) .ok
  let target ← (getAddress target).elim (.error malformedTrace) .ok
  let sender ← match fields.text "from" with
    | none => .ok none
    | some text => (getAddress text).elim (.error malformedTrace) (fun address => .ok (some address))
  let error ← optionalText fields "error"
  let calls ← optionalItems fields "calls"
  return (type, sender, target, input, error.filter (· ≠ ""), calls)

/-- A frame and the frames under it. `levels` is how many levels are left: none are beyond the greatest depth. -/
def traceCall : Nat → Json → Nat → Except VerificationError (TraceCall × Nat)
  | levels, .object fields, count =>
    match levels with
    | 0 => .error traceLimits
    | levels + 1 =>
      if maxTraceFrames < count + 1 then .error traceLimits
      else do
        let (type, sender, target, input, error, items) ← traceFields fields
        let (calls, count) ← traceCalls (traceCall levels) items (count + 1)
        return (.frame type sender target input error calls, count)
  | _, _, _ => .error malformedTrace

/-- As `toUpperCase`, for the letters a frame's type may be written with. -/
def toUpperCase (text : String) : String := String.ofList (text.toList.map Char.toUpper)

/-- A direct call carries the committed calldata verbatim; the forwarder appends the 20 bytes of the signer. -/
def executesCommittedData (call : TraceCall) (data : HexData) (sponsor : Option Address) : Option VerifiedDeployment :=
  let input := (toLowerCase call.input.text).toList
  let committed := (toLowerCase data.text).toList
  if input = committed then some { forwarded := false }
  else if call.sender ≠ some FORWARDER || input.length ≠ committed.length + forwardedSenderHexLength ||
      !committed.isPrefixOf input then none
  else
    let sender := getAddress (String.ofList ('0' :: 'x' :: input.drop committed.length))
    some { forwarded := sponsor.any (fun sponsor => sender = some sponsor) }

/-- A frame on the stack, and whether a frame above it failed. -/
structure Pending where
  call : TraceCall
  ancestorFailed : Bool

def Pending.failed (pending : Pending) : Bool := pending.ancestorFailed || pending.call.error.isSome

theorem framesAll_sum (calls : List TraceCall) : TraceCall.framesAll calls = (calls.map TraceCall.frames).sum := by
  induction calls with
  | nil => rfl
  | cons call rest ih => rw [TraceCall.framesAll, ih, List.map_cons, List.sum_cons]

theorem frames_calls (call : TraceCall) : call.frames = (call.calls.map TraceCall.frames).sum + 1 := by
  cases call with
  | frame type sender target input error calls => rw [TraceCall.frames, framesAll_sum, TraceCall.calls]

/-- The frames right under each frame. They are pushed in order and popped last first. -/
def pendingCalls : Forest Pending where
  next pending := (pending.call.calls.map (fun child => ⟨child, pending.failed⟩)).reverse
  weight pending := pending.call.frames
  shrinks pending := by
    rw [List.map_reverse, List.sum_reverse, List.map_map, frames_calls pending.call]
    exact Nat.lt_succ_self _

/-- What one frame shows, if it is a call to the committed target that ran. -/
def executedCall (expected : DeploymentCall) (sponsor : Option Address) (pending : Pending) : Option VerifiedDeployment :=
  if !pending.failed && toUpperCase pending.call.type = "CALL" && pending.call.target = expected.target then
    executesCommittedData pending.call expected.data sponsor
  else none

def committedCall (trace : Json) (expected : DeploymentCall) (sponsor : Option Address) :
    Except VerificationError (Option VerifiedDeployment) := do
  let (root, _) ← traceCall (maxTraceDepth + 1) trace 0
  return pendingCalls.search (executedCall expected sponsor) [⟨root, false⟩]

/-- The evidence `verify` asks for beside the calls. -/
structure ChainRpcConfig where
  projectsAddress : Address
  confirmations : Nat
  deploymentVersion : String

structure DeploymentClaim where
  chainId : Nat
  projectId : Nat
  deploymentVersion : String
  call : DeploymentCall

structure Receipt (ν : Type) where
  success : Bool
  blockNumber : Nat
  logs : List (Address × ν)

structure Transaction where
  target : Option Address
  input : HexData

/-- What the node of the chain replies about the claimed transaction; `none` is a call that failed. A trace that fails
with an error of verification keeps its text. -/
structure Reader (ν : Type) where
  receipt : Option (Receipt ν)
  blockNumber : Option Nat
  transaction : Option Transaction
  trace : Except (Option VerificationError) Json

def chainText (chainId : Nat) : String := "Chain " ++ toString chainId

/-- How many blocks a receipt is deep, its own among them. -/
def confirmations (head blockNumber : Nat) : Nat := if blockNumber ≤ head then head - blockNumber + 1 else 0

/-- The projects that a receipt says were created. The canonical contract logs other events too. -/
def createdProjectIds (decodeCreate : ν → Option Nat) (projectsAddress : Address) (logs : List (Address × ν)) : List Nat :=
  (logs.filter (fun log => log.1 = projectsAddress)).filterMap (fun log => decodeCreate log.2)

def configured (chains : Nat → Option (ChainRpcConfig × Reader ν)) (claim : DeploymentClaim) :
    Except VerificationError (ChainRpcConfig × Reader ν) :=
  match chains claim.chainId with
  | none => .error (chainText claim.chainId ++ " is not configured")
  | some (config, reader) =>
    if claim.deploymentVersion ≠ config.deploymentVersion then
      .error (chainText claim.chainId ++ " is not configured for deployment version " ++ claim.deploymentVersion)
    else if claim.call.chainId ≠ claim.chainId then .error "Deployment call chain does not match the claim"
    else .ok (config, reader)

/-- The receipt is deep enough and logs the claimed project alone. -/
def verifyReceipt (decodeCreate : ν → Option Nat) (config : ChainRpcConfig) (reader : Reader ν) (claim : DeploymentClaim) :
    Except VerificationError Unit := do
  let receipt ← reader.receipt.elim (.error "Transaction receipt is not available from RPC") .ok
  if !receipt.success then .error "Deployment transaction reverted"
  else do
    let head ← reader.blockNumber.elim (.error "Current chain height is not available from RPC") .ok
    let confirmations := confirmations head receipt.blockNumber
    if confirmations < config.confirmations then
      .error ("Deployment has " ++ toString confirmations ++ " confirmations; " ++ toString config.confirmations ++
        " required")
    else if createdProjectIds decodeCreate config.projectsAddress receipt.logs ≠ [claim.projectId] then
      .error "Transaction must create exactly the claimed project on canonical JBProjects"
    else .ok ()

def Transaction.direct (transaction : Transaction) (call : DeploymentCall) : Bool :=
  transaction.target = some call.target && toLowerCase transaction.input.text = toLowerCase call.data.text

def Reader.traced (reader : Reader ν) : Except VerificationError Json :=
  match reader.trace with
  | .ok trace => .ok trace
  | .error text => .error (text.getD "Transaction trace is not available from RPC")

def verify (decodeCreate : ν → Option Nat) (chains : Nat → Option (ChainRpcConfig × Reader ν)) (sponsor : Option Address)
    (claim : DeploymentClaim) : Except VerificationError VerifiedDeployment := do
  let (config, reader) ← configured chains claim
  verifyReceipt decodeCreate config reader claim
  let transaction ← reader.transaction.elim (.error "Transaction is not available from RPC") .ok
  if transaction.direct claim.call then return { forwarded := false }
  else do
    let trace ← reader.traced
    let executed ← committedCall trace claim.call sponsor
    executed.elim (.error "The transaction did not execute the committed deployment call") .ok

end JBCenter.Verifier
