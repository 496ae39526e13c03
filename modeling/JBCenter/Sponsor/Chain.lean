import JBCenter.Rest.Core

/-! Lane failures: the classes of error a sponsored deploy can raise, the text that is
published for each, and whether it retires the claimed rows or leaves them waiting. -/
namespace JBCenter.Sponsor

/-- An error by its class. A client library error says whether a revert or a transport failure is
among its causes; `other` is every error of no class of its own, a database error included. -/
inductive Failure where
  | verification (message : String)
  | conflict (message : String)
  | lane (message : String) (code : Option String)
  | relayrResponse (code : String) (status : Nat)
  | rest (code : String)
  | base (name : String) (shortMessage : Option String) (reverted rpcFailure : Bool)
  | other (name : String)
deriving DecidableEq

inductive LaneOutcome where
  | retry
  | terminal
deriving DecidableEq

/-- Codes worth another claim when the sponsor has spent nothing yet. -/
def retryUnpaid : List String :=
  ["SPONSORSHIP_RPC_UNAVAILABLE", "RELAYR_TIMEOUT", "SPONSOR_UNFUNDED", "RELAYR_UNAVAILABLE",
    "RELAYR_INVALID_RESPONSE", "RELAYR_RESPONSE_LIMIT", "SAFE_FACTORY_UNAVAILABLE"]

def reverted : Failure → Bool
  | .base _ _ reverted _ => reverted
  | _ => false

def rpcFailure : Failure → Bool
  | .base _ _ _ rpcFailure => rpcFailure
  | _ => false

/-- A 4xx names something wrong with the request; anything else could still pass later. -/
def relayrRejected (status : Nat) : Bool := 400 ≤ status && status < 500

/-- What an error that is no definitive answer decides while nothing is paid. -/
def unpaidOutcome : Failure → LaneOutcome
  | .lane _ (some code) => if retryUnpaid.contains code then .retry else .terminal
  | .lane _ none => .terminal
  | .relayrResponse _ status => if relayrRejected status then .terminal else .retry
  | .rest code => if retryUnpaid.contains code then .retry else .terminal
  | error => if rpcFailure error then .retry else .terminal

def definitive : Failure → Bool
  | .verification _ => true
  | .conflict _ => true
  | error => reverted error

def laneOutcome (error : Failure) (paid : Bool) : LaneOutcome :=
  if definitive error then .terminal else if paid then .retry else unpaidOutcome error

/-- The characters that end a run of non-space. -/
def isSpace (c : Char) : Bool :=
  (0x09 ≤ c.toNat && c.toNat ≤ 0x0d) || (0x2000 ≤ c.toNat && c.toNat ≤ 0x200a) ||
    [0x20, 0xa0, 0x1680, 0x2028, 0x2029, 0x202f, 0x205f, 0x3000, 0xfeff].contains c.toNat

/-- What follows a URL at the head of the text. -/
def afterUrl (text : List Char) : Option (List Char) :=
  let body := match text with
    | 'h' :: 't' :: 't' :: 'p' :: ':' :: '/' :: '/' :: rest => rest
    | 'h' :: 't' :: 't' :: 'p' :: 's' :: ':' :: '/' :: '/' :: rest => rest
    | _ => []
  if body.head?.any (fun c => !isSpace c) then some (body.dropWhile (fun c => !isSpace c)) else none

/-- What follows a run of at least twenty hex digits at the head of the text. -/
def afterLongHex : List Char → Option (List Char)
  | '0' :: 'x' :: rest =>
    if 20 ≤ (rest.takeWhile Rest.isHexDigit).length then some (rest.dropWhile Rest.isHexDigit) else none
  | _ => none

def blank (secret : List Char → Option (List Char)) : Nat → List Char → List Char
  | 0, text => text
  | _, [] => []
  | fuel + 1, c :: rest => match secret (c :: rest) with
    | some after => ' ' :: blank secret fuel after
    | none => c :: blank secret fuel rest

def collapseSpaces : List Char → List Char
  | [] => []
  | c :: rest =>
    if isSpace c then if rest.head?.any isSpace then collapseSpaces rest else ' ' :: collapseSpaces rest
    else c :: collapseSpaces rest

/-- The first `limit` code units; a pair that does not fit whole is left out. -/
def slice : Nat → List Char → List Char
  | _, [] => []
  | limit, c :: rest =>
    let units := if c.toNat ≥ 0x10000 then 2 else 1
    if units ≤ limit then c :: slice (limit - units) rest else []

/-- Only authored words, codes and short values survive into a row. -/
def scrub (text : String) (limit : Nat) : String :=
  let urls := blank afterUrl text.length text.toList
  let words := collapseSpaces (blank afterLongHex urls.length urls)
  let trimmed := ((words.dropWhile isSpace).reverse.dropWhile isSpace).reverse
  String.ofList (slice limit trimmed)

def errorLimit : Nat := 300

def describeError : Failure → String
  | .lane message code => code.getD message
  | .verification message => message
  | .conflict _ => "another sender already deployed this chain"
  | .relayrResponse _ _ => "relayr request failed"
  | .rest code => code
  | .base name shortMessage _ rpcFailure =>
    if rpcFailure then "rpc request failed" else name ++ ": " ++ shortMessage.getD "lane error"
  | .other name => name ++ ": lane error"

def laneErrorMessage (error : Failure) : String :=
  let message := scrub (describeError error) errorLimit
  if message = "" then "lane error" else message

example : scrub "see  https://rpc.example/key\nfor 0x0123456789012345678901 ok" 300 = "see for ok" := by
  decide +kernel

end JBCenter.Sponsor
