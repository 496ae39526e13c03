import JBCenter.Rest.Json
import JBCenter.Sponsor.Lane
import JBCenter.Sponsorship.Types

/-! The provider's status documents. The identifiers of a quote come in no order, so a first status binds each of
them to the one call it echoes; every later status names the calls by these identifiers. -/
namespace JBCenter.Sponsorship
open Rest

/-- A call as it was sent to the provider. An independent one carries no nonce. -/
structure RequestedCall where
  chain : Int
  target : String
  data : String
  value : String
  virtualNonce : Option Int
  deriving DecidableEq

structure BoundCall where
  txUuid : String
  entry : RequestedCall

/-- A quote as the status checks read it, without its commitment. -/
structure CallQuote where
  bundleUuid : String
  entries : List BoundCall
  payments : List RelayrPayment
  observedAt : Int

structure CommittedQuote extends CallQuote where
  commitment : String

/-- What a status says of one entry. -/
structure StepStatus where
  step : Nat
  providerState : String
  hash : Option String

def invalidStatus (message : String) : RestError := ⟨502, "RELAYR_INVALID_STATUS", message, none⟩

def incompleteEcho : RestError := invalidStatus "The stored bundle does not echo every requested call."
def ambiguousBinding : RestError :=
  invalidStatus "Provider identifiers do not uniquely bind the exact requested calls."
def otherBundle : RestError := invalidStatus "The execution service status does not match the stored bundle."
def malformedRecord : RestError :=
  invalidStatus "The execution service returned malformed or duplicate transaction records."
def changedBinding (field : String) : RestError :=
  invalidStatus ("Provider status changed the stored transaction binding (" ++ field ++ ").")
def conflictingHashes : RestError := invalidStatus "The execution service returned conflicting destination hashes."
def invalidHash : RestError := invalidStatus "The execution service returned an invalid destination hash."

namespace Status

def object : Json → Option JsonFields
  | .object fields => some fields
  | _ => none

/-- `value === expected`, of a number that is safe. -/
def isNumber (value : Option Json) (expected : Int) : Bool :=
  match value with
  | some (.number (.integer n)) => n = expected
  | some (.number .negativeZero) => expected = 0
  | _ => false

def isNullish : Option Json → Bool
  | none => true
  | some .null => true
  | _ => false

/-- `typeof value === "string" && same(value, expected)` -/
def isSame (value : Option Json) (expected : String) : Bool :=
  match value with
  | some (.text text) => Sponsor.same text expected
  | _ => false

/-- A canonical decimal string of a number below 2^256. -/
def decimal (text : String) : Option Nat := if isUint256 text then some (decimalValue text) else none

/-- The digits of `/^0x(0|[1-9a-fA-F][0-9a-fA-F]{0,63})$/`. -/
def quantity (text : String) : Option Nat :=
  match text.toList with
  | ['0', 'x', '0'] => some 0
  | '0' :: 'x' :: first :: rest =>
    if isHexDigit first && first != '0' && rest.length ≤ 63 && rest.all isHexDigit then
      some ((first :: rest).foldl (fun value c => value * 16 + Sponsor.hexDigit c) 0)
    else none
  | _ => none

/-- Relayr serializes a number as hex; the calls keep canonical decimals. -/
def providerUint256 : Option Json → Option Nat
  | some (.text text) => if text.startsWith "0x" then quantity text else decimal text
  | _ => none

def sameProviderValue (value : Option Json) (expected : String) : Bool :=
  match providerUint256 value, decimal expected with
  | some given, some wanted => given == wanted
  | _, _ => false

/-- The nonce of an entry. One sent unordered carries none, which the provider may echo as null. -/
def isNonce (value : Option Json) : Option Int → Bool
  | none => isNullish value
  | some nonce => isNumber value nonce

/-- The first field of a request that is not the entry's own. -/
def changedField (request : JsonFields) (entry : RequestedCall) : Option String :=
  if !isNumber (request.field "chain") entry.chain then some "chain"
  else if !isSame (request.field "target") entry.target then some "target"
  else if !isSame (request.field "data") entry.data then some "data"
  else if !sameProviderValue (request.field "value") entry.value then some "value"
  else if !isNonce (request.field "virtual_nonce") entry.virtualNonce then some "virtual_nonce"
  else none

/-- The exact requested call, field for field. -/
def requestIsEntry (request : JsonFields) (entry : RequestedCall) : Bool :=
  isNumber (request.field "chain") entry.chain && isSame (request.field "target") entry.target &&
    isSame (request.field "data") entry.data && sameProviderValue (request.field "value") entry.value &&
    isNonce (request.field "virtual_nonce") entry.virtualNonce

/-- The transactions of a status of this bundle, when there are as many as were asked for. -/
def transactions (value : Json) (bundleUuid : String) (count : Nat) : Option (List Json) := do
  let record ← object value
  let id ← record.text "bundle_uuid"
  guard (id = bundleUuid)
  match record.field "transactions" with
  | some (.array items) => if items.length = count then some items else none
  | _ => none

/-- Whether a record echoes the entry. -/
def echoes (entry : RequestedCall) (item : Json) : Bool :=
  match (object item).bind (fun record => (record.field "request").bind object) with
  | some request => requestIsEntry request entry
  | none => false

/-- The identifier of a record, if it is one. -/
def identifier (item : Json) : Option String :=
  ((object item).bind (fun record => record.text "tx_uuid")).filter Sponsor.uuid

/-- Each entry with the identifier of the one record that echoes it. -/
def bindCalls (records : List Json) (ids : List String) : List String → List RequestedCall →
    Except RestError (List BoundCall)
  | _, [] => .ok []
  | used, entry :: rest =>
    match records.filter (echoes entry) with
    | [item] =>
      match (identifier item).filter (fun id => ids.contains id && !used.contains id) with
      | some id => do
        let bound ← bindCalls records ids (used ++ [id]) rest
        return ⟨id, entry⟩ :: bound
      | none => .error ambiguousBinding
    | _ => .error ambiguousBinding

/-- A transaction the service has not started yet carries no status record. -/
def statusRecord : Option Json → Option (Option JsonFields)
  | none => some none
  | some .null => some none
  | some (.object fields) => some (some fields)
  | some _ => none

/-- A record that was not seen before: its identifier, its request and its status. -/
def record (observed : List String) (item : Json) : Option (String × JsonFields × Option JsonFields) := do
  let fields ← object item
  let id ← (identifier item).filter (fun id => !observed.contains id)
  let request ← (fields.field "request").bind object
  let status ← statusRecord (fields.field "status")
  return (id, request, status)

/-- `a !== b` of two values that are there. Objects and arrays of a parsed document are distinct. -/
def differs : Json → Json → Bool
  | .null, .null => false
  | .boolean a, .boolean b => a != b
  | .number a, .number b => a != b
  | .text a, .text b => a != b
  | _, _ => true

def conflicting : Option Json → Option Json → Bool
  | some a, some b => differs a b
  | _, _ => false

/-- The destination hash of a status record, which may be nested. -/
def destinationHash (status : Option JsonFields) : Except RestError (Option String) :=
  let details := ((status.bind (fun fields => fields.field "data")).bind object).getD []
  let hash := JsonFields.field details "hash"
  let nested := ((JsonFields.field details "transaction").bind object).bind (fun fields => fields.field "hash")
  if conflicting hash nested then .error conflictingHashes
  else match if isNullish hash then nested else hash with
    | none => .ok none
    | some (.text text) => if isHex 64 text then .ok (some text) else .error invalidHash
    | some _ => .error invalidHash

/-- The state of a status record: a text of at most 64 characters, or `Pending` while there is no record. -/
def state : Option JsonFields → Option String
  | none => some "Pending"
  | some fields => (fields.text "state").filter (fun state => utf16Length state ≤ 64)

/-- What one record says of the entry it names. -/
def stepStatus (entries : List BoundCall) (id : String) (request : JsonFields) (status : Option JsonFields) :
    Except RestError StepStatus :=
  match entries.findIdx? (fun entry => entry.txUuid = id) with
  | none => .error (changedBinding "tx_uuid")
  | some step =>
    match (entries[step]?).bind (fun entry => changedField request entry.entry) with
    | some field => .error (changedBinding field)
    | none => match state status with
      | none => .error (changedBinding "status.state")
      | some providerState => do
        let hash ← destinationHash status
        return { step, providerState, hash }

def stepStatuses (entries : List BoundCall) : List String → List Json → Except RestError (List StepStatus)
  | _, [] => .ok []
  | observed, item :: rest =>
    match record observed item with
    | none => .error malformedRecord
    | some (id, request, status) => do
      let first ← stepStatus entries id request status
      let others ← stepStatuses entries (observed ++ [id]) rest
      return first :: others

end Status

/-- What every record of a status says, in the order of the document. -/
def boundStatus (value : Json) (quote : CallQuote) : Except RestError (List StepStatus) :=
  match Status.transactions value quote.bundleUuid quote.entries.length with
  | none => .error otherBundle
  | some items => Status.stepStatuses quote.entries [] items

def detailLimit : Nat := 2048

/-- A rejected status is reported with its scrubbed body. -/
def withStatusDetail (stringify : Json → String) (value : Json) (bound : Except RestError α) : Except RestError α :=
  match bound with
  | .ok result => .ok result
  | .error error =>
    if error.code ≠ "RELAYR_INVALID_STATUS" then .error error
    else match error.details with
      | some (.text _) => .error error
      | _ => .error { error with
          details := some (.text (Sponsor.scrub (error.message ++ " " ++ stringify value) detailLimit)) }

section
variable (stringify : Json → String) (digest : CallQuote → Except RestError String)

def statusBinding (value : Json) (quote : CallQuote) : Except RestError (List StepStatus) :=
  withStatusDetail stringify value (boundStatus value quote)

/-- The order of the identifiers is not the order of the requests: the bijection comes from the echoed calls. -/
def boundQuoteStatus (value : Json) (provisional : CallQuote) : Except RestError CommittedQuote :=
  match Status.transactions value provisional.bundleUuid provisional.entries.length with
  | none => .error incompleteEcho
  | some records => do
    let entries ← Status.bindCalls records (provisional.entries.map BoundCall.txUuid) []
      (provisional.entries.map BoundCall.entry)
    let bound : CallQuote := { provisional with entries }
    let commitment ← digest bound
    discard (statusBinding stringify value bound)
    return { bound with commitment }

def bindQuoteStatus (value : Json) (provisional : CallQuote) : Except RestError CommittedQuote :=
  withStatusDetail stringify value (boundQuoteStatus stringify digest value provisional)

end

end JBCenter.Sponsorship
