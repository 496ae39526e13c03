import JBCenter.Rest.Core

/-! The records of the sponsorship store: a preparation of forward requests, the one
submission of their signed entries, and the quote the relay gave for it. -/
namespace JBCenter.Sponsorship
open Rest

structure ForwardRequest where
  sender : String
  target : String
  value : String
  gas : String
  nonce : String
  deadline : String
  data : String
  deriving DecidableEq

/-- A forward request to sign. `reviewed` holds the code hashes, the signing domain and the
block evidence, which the store keeps and never reads. -/
structure PreparedForwardRequest where
  stepIndex : Int
  chainId : Int
  forwarder : String
  message : ForwardRequest
  reviewed : Payload
  deriving DecidableEq

structure RelayrEntry where
  chain : Int
  target : String
  data : String
  value : String
  virtualNonce : Int
  deriving DecidableEq

structure RelayrPayment where
  chainId : Int
  target : String
  data : String
  value : String
  deadline : String
  deriving DecidableEq

structure QuotedEntry where
  txUuid : String
  entry : RelayrEntry

/-- A quote without its commitment. -/
structure QuotePayload where
  bundleUuid : String
  entries : List QuotedEntry
  payments : List RelayrPayment
  observedAt : Int

structure RelayrQuote extends QuotePayload where
  commitment : String

/-- What a rebinding may not change: everything but which transaction is which entry. -/
structure QuoteIdentity where
  bundleUuid : String
  payments : List RelayrPayment
  observedAt : Int
  entries : List RelayrEntry
  transactionIds : List String
  deriving DecidableEq

inductive SponsorshipState where
  | prepared
  | submitting
  | submissionUnknown
  | quoted
  deriving DecidableEq

structure Submission where
  key : String
  hash : String
  entries : List RelayrEntry
  startedAt : Int

/-- A binding that is explicitly not verified may change; an absent flag, of an older record,
leaves its mapping as it is. -/
structure SponsorshipRecord where
  id : String
  actor : RestActor
  planId : String
  planCommitment : String
  preparationKey : String
  inputHash : String
  commitment : String
  requests : List PreparedForwardRequest
  createdAt : Int
  expiresAt : Int
  revision : Int
  state : SponsorshipState
  submission : Option Submission
  quote : Option RelayrQuote
  quoteBindingVerified : Option Bool
  quoteRuntimeVerified : Option Bool
  observations : List Payload

structure Authorization where
  issuedAt : Int
  expiresAt : Int

structure SponsorshipClaim where
  actor : RestActor
  id : String
  key : String
  hash : String
  entries : List RelayrEntry
  now : Int
  authorization : Option Authorization

/-- The bytes of each document as JSON, and the digests of a quote, which refuse a document that
is not lossless JSON. -/
structure Encoding where
  record : SponsorshipRecord → Nat
  claim : SponsorshipClaim → Nat
  entries : List RelayrEntry → Nat
  payload : QuotePayload → Except RestError String
  identity : QuoteIdentity → Except RestError String

def maximumBytes : Nat := 524288
def maximumCalls : Nat := 32
def recordsPerAccount : Nat := 1000

end JBCenter.Sponsorship
