import JBCenter.Rest.Decimals
import JBCenter.Rest.Json

/-! What the discovery of an omnichain group reads of its sources: project identities, observations that keep the known
and the unknown apart, block evidence, and the state of a member. -/
namespace JBCenter.Omnichain
open Rest

inductive IndexerNetwork where
  | mainnet
  | testnet
  deriving DecidableEq

/-- `CHAINS` -/
def network : Int → Option IndexerNetwork
  | 1 | 10 | 8453 | 42161 => some .mainnet
  | 11155111 | 11155420 | 84532 | 421614 => some .testnet
  | _ => none

structure OmnichainProject where
  chainId : Nat
  projectId : String
  deriving DecidableEq

inductive Observation (α : Type) where
  | known (value : α)
  | unknown (code : String)

def maxMembers : Nat := 8
def bridgesPerMember : Nat := 32
def terminalsPerMember : Nat := 32
def contextsPerTerminal : Nat := 32

def failure (code message : String) (status : Nat) : RestError := { status, code, message }

def malformed : RestError := failure "OMNICHAIN_INVALID_RESPONSE" "The selected source returned a malformed object." 502

def invalidIdentity : RestError := failure "OMNICHAIN_INVALID_IDENTITY"
  "Use a supported chain, positive exact project ID, and explicit version 6." 400

def differentIdentity : RestError := failure "OMNICHAIN_IDENTITY_MISMATCH"
  "The selected source returned a different project identity." 502

def notPreserved : RestError := failure "OMNICHAIN_INVALID_RESPONSE"
  "The source did not preserve known and unknown state." 502

def responseLimit : RestError := failure "OMNICHAIN_RESPONSE_LIMIT" "The source array exceeds its declared bound." 502

def noEvidence : RestError := failure "OMNICHAIN_INVALID_RESPONSE" "Onchain reads require block evidence." 502

def wrongEvidence : RestError := failure "OMNICHAIN_INVALID_RESPONSE"
  "Onchain block evidence has the wrong chain or shape." 502

def invalidAddress : RestError := failure "OMNICHAIN_INVALID_RESPONSE"
  "A bridge relation contains an invalid EVM address." 502

def unsupportedPeer : RestError := failure "OMNICHAIN_UNSUPPORTED_PEER"
  "The source peer is not a supported EVM address." 502

def inexactAmount : RestError := failure "OMNICHAIN_INVALID_RESPONSE"
  "Indexed amounts must remain exact decimal strings." 502

def malformedUnits : RestError := failure "OMNICHAIN_INVALID_RESPONSE" "Terminal accounting units are malformed." 502

/-- The only way a value is read as an object; an absent one is not. -/
def record : Option Json → Except RestError JsonFields
  | some (.object fields) => .ok fields
  | _ => .error malformed

/-- `/^[1-9]\d{0,77}$/`, and below 2²⁵⁶ -/
def isProjectId (text : String) : Bool :=
  match text.toList with
  | first :: rest => inRange '1' '9' first && rest.all isDigit && rest.length ≤ 77 && decimalValue text < 2 ^ 256
  | [] => false

def projectOf (input : JsonFields) : Option OmnichainProject := do
  guard (input.number "version" = some (.integer 6))
  let chainId ← (input.field "chainId").bind Json.safeInteger
  guard (network chainId).isSome
  let projectId ← input.text "projectId"
  guard (isProjectId projectId)
  some { chainId := chainId.toNat, projectId }

def project (value : Option Json) : Except RestError OmnichainProject := do
  let input ← record value
  match projectOf input with
  | some ref => .ok ref
  | none => .error invalidIdentity

def key (ref : OmnichainProject) : String := toString ref.chainId ++ ":" ++ ref.projectId ++ ":6"

/-- The keys compare as the projects do: the text of a number has no colon. -/
theorem key_inj {a b : OmnichainProject} : key a = key b ↔ a = b := by
  refine ⟨fun same => ?_, fun same => same ▸ rfl⟩
  have noColon : ∀ n : Nat, ∀ c ∈ Nat.toDigits 10 n, (c != ':') = true := by
    intro n c member
    have digit := Nat.isDigit_of_mem_toDigits (by decide) (by decide) member
    exact bne_iff_ne.mpr (fun colon => absurd (colon ▸ digit) (by decide))
  have spelled : ∀ ref, (key ref).toList =
      Nat.toDigits 10 ref.chainId ++ ':' :: (ref.projectId.toList ++ [':', '6']) := by
    intro ref
    simp only [key, String.toList_append, toString_toList, List.append_assoc]
    rfl
  have first : ∀ ref, (key ref).toList.takeWhile (· != ':') = Nat.toDigits 10 ref.chainId := by
    intro ref
    rw [spelled, List.takeWhile_append_of_pos (noColon _), List.takeWhile_cons_of_neg (by decide), List.append_nil]
  have chains : Nat.toDigits 10 a.chainId = Nat.toDigits 10 b.chainId := by rw [← first, ← first, same]
  have rest := congrArg String.toList same
  rw [spelled, spelled, chains] at rest
  cases a
  cases b
  congr
  · simpa only [digitsValue_toDigits] using congrArg digitsValue chains
  · exact String.toList_inj.mp (List.append_cancel_right (List.cons.inj (List.append_cancel_left rest)).2)

def matchingProject (value : Option Json) (expected : OmnichainProject) : Except RestError OmnichainProject := do
  let actual ← project value
  refuse (key actual ≠ key expected) differentIdentity
  return actual

/-- `/^[A-Z][A-Z0-9_]{0,79}$/` -/
def isErrorCode (code : String) : Bool :=
  match code.toList with
  | first :: rest =>
    inRange 'A' 'Z' first && rest.all (fun c => inRange 'A' 'Z' c || isDigit c || c == '_') && rest.length ≤ 79
  | [] => false

/-- The code of an unknown observation, where it has the shape of one. -/
def errorCode (item : JsonFields) : String :=
  match item.field "error" with
  | some (.object error) => ((JsonFields.text error "code").filter isErrorCode).getD "SOURCE_UNKNOWN"
  | _ => "SOURCE_UNKNOWN"

def observation (value : Option Json) : Except RestError (Observation Json) := do
  let item ← record value
  match item.text "status", item.field "value" with
  | some "known", some held => return .known held
  | some "unknown", _ => return .unknown (errorCode item)
  | _, _ => .error notPreserved

def boundedArray (value : Option Json) (maximum : Nat) : Except RestError (List Json) :=
  match value with
  | some (.array items) => if items.length ≤ maximum then .ok items else .error responseLimit
  | _ => .error responseLimit

/-- `/^0x[0-9a-f]{n}$/i` -/
def isAnyHex (digits : Nat) (text : String) : Bool :=
  match text.toList with
  | '0' :: x :: rest => (x == 'x' || x == 'X') && rest.length == digits && rest.all isHexDigit
  | _ => false

/-- `/^\d+$/` -/
def isDecimalText (text : String) : Bool := !text.toList.isEmpty && text.toList.all isDigit

/-- `String(value)`: of an array, an object, or a number that is not a safe integer, as the language renders it. -/
def stringOf (rendered : Json → String) : Option Json → String
  | none => "undefined"
  | some .null => "null"
  | some (.boolean value) => toString value
  | some (.text value) => value
  | some (.number (.integer value)) => if isSafeInteger value then toString value else rendered (.number (.integer value))
  | some (.number .negativeZero) => "0"
  | some value => rendered value

structure Evidence where
  chainId : Nat
  blockNumber : String
  blockHash : String
  timestamp : String
  source : Option Json

variable (rendered : Json → String)

def blockEvidence (expectedChainId : Nat) (item : Option Json) : Except RestError Evidence := do
  let block ← record item
  let source := block.field "source"
  refuse ((block.field "chainId").bind Json.safeInteger ≠ some ↑expectedChainId ||
    stringOf rendered source ∉ ["rpc", "onchain"]) wrongEvidence
  match block.text "blockHash", block.text "blockNumber", block.text "timestamp" with
  | some blockHash, some blockNumber, some timestamp => do
    refuse (!isAnyHex 64 blockHash || !isDecimalText blockNumber || !isDecimalText timestamp) wrongEvidence
    return { chainId := expectedChainId, blockNumber, blockHash, timestamp, source }
  | _, _, _ => .error wrongEvidence

def evidence (value : Option Json) (expectedChainId : Nat) : Except RestError (List Evidence) := do
  let items ← boundedArray value 8
  refuse items.isEmpty noEvidence
  items.mapM (fun item => blockEvidence rendered expectedChainId (some item))

def address (value : Option Json) : Except RestError String :=
  match value with
  | some (.text text) =>
    if isAnyHex 40 text && (text.toList.drop 2).any (· ≠ '0') then .ok text else .error invalidAddress
  | _ => .error invalidAddress

/-- `/^0x0{24}[0-9a-f]{40}$/i`, read as the address in its last forty digits -/
def peerAddress (value : Option Json) : Except RestError String :=
  match value with
  | some (.text text) =>
    if isAnyHex 64 text && ((text.toList.drop 2).take 24).all (· == '0') then
      address (some (.text (String.ofList ('0' :: 'x' :: text.toList.drop 26))))
    else .error unsupportedPeer
  | _ => .error unsupportedPeer

/-- `/^-?(0|[1-9]\d{0,99})$/` -/
def isExactAmount (text : String) : Bool :=
  let unsigned := fun digits : List Char =>
    match digits with
    | ['0'] => true
    | first :: rest => inRange '1' '9' first && rest.all isDigit && rest.length ≤ 99
    | [] => false
  match text.toList with
  | '-' :: digits => unsigned digits
  | digits => unsigned digits

def exactAmount (value : Option Json) : Except RestError String :=
  match value with
  | some (.text text) => if isExactAmount text then .ok text else .error inexactAmount
  | _ => .error inexactAmount

/-- Whole, and a byte: the fractions and the numbers beyond the exact ones are neither. -/
def isDecimals : Option Json → Bool
  | some value => value.safeInteger.any (fun decimals => 0 ≤ decimals && decimals ≤ 255)
  | none => false

def accountingContext (rawContext : Json) : Except RestError Unit := do
  let context ← record (some rawContext)
  refuse (!(context.text "token").any (isAnyHex 40) || !isDecimals (context.field "decimals") ||
    ((context.text "currency").isNone && (context.number "currency").isNone)) malformedUnits
  match ← observation (context.field "balance") with
  | .known balance => discard (exactAmount (some balance))
  | .unknown _ => return ()

def terminal (rawTerminal : Json) : Except RestError Unit := do
  let item ← record (some rawTerminal)
  match ← observation (item.field "contexts") with
  | .known contexts => do
    let contexts ← boundedArray (some contexts) contextsPerTerminal
    contexts.forM accountingContext
  | .unknown _ => return ()

structure MemberState where
  owner : Observation Json
  controller : Observation Json
  token : Observation Json
  supply : JsonFields
  terminals : Observation Json
  evidence : List Evidence

def onchainState (raw : Option Json) (ref : OmnichainProject) : Except RestError MemberState := do
  let data ← record raw
  discard (matchingProject (data.field "project") ref)
  let terminals ← observation (data.field "terminals")
  match terminals with
  | .known value => do
    let items ← boundedArray (some value) terminalsPerMember
    items.forM terminal
  | .unknown _ => pure ()
  return {
    owner := ← observation (data.field "owner")
    controller := ← observation (data.field "controller")
    token := ← observation (data.field "token")
    supply := ← record (data.field "supply")
    terminals
    evidence := ← evidence rendered (data.field "evidence") ref.chainId }

/-- What an operation comes back with, or the error it throws, unless the read was cancelled first. -/
inductive Reply where
  | answered (value : Option Json)
  | refused (error : RestError)
  | failed (code : Option String)
  | cancelled

def cancelledRead : RestError := failure "OMNICHAIN_CANCELLED"
  "The omnichain read was cancelled or exceeded its deadline." 499

/-- A source that is out is unknown; what it got wrong is never downgraded into that. -/
def unavailable (code : Option String) : Observation α := .unknown ((code.filter isErrorCode).getD "SOURCE_UNAVAILABLE")

def recovered (error : RestError) : Except RestError (Observation α) :=
  if "OMNICHAIN_".toList.isPrefixOf error.code.toList then .error error else .ok (unavailable (some error.code))

def read (reply : Reply) (work : Option Json → Except RestError α) : Except RestError (Observation α) :=
  match reply with
  | .cancelled => .error cancelledRead
  | .failed code => .ok (unavailable code)
  | .refused error => recovered error
  | .answered value =>
    match work value with
    | .ok result => .ok (.known result)
    | .error error => recovered error

end JBCenter.Omnichain
