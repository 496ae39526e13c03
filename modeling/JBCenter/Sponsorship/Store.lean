import Mathlib.Data.List.Sort
import JBCenter.Sponsorship.Types
import JBCenter.Transactions.Store

/-! The transitions of a sponsorship record: its creation, the claim that publishes it, and
the settlement of what the relay answered, early, late or again. -/
namespace JBCenter.Sponsorship
open Rest
open Transactions (assertActor assertText)

def fail (code message : String) (status : Nat) : RestError := ⟨status, code, message, none⟩

def same (a b : String) : Bool := toLowerCase a = toLowerCase b

def isHash (value : String) : Bool := isHex 64 value

def assertKey (key : String) : Except RestError Unit :=
  refuse (!isIdempotencyKey key)
    (fail "INVALID_IDEMPOTENCY_KEY" "Use an idempotency key of 1–128 printable non-space characters." 400)

def clone (bytes : α → Nat) (value : α) : Except RestError α := do
  refuse (maximumBytes < bytes value) (fail "SPONSORSHIP_TOO_LARGE" "Sponsorship data exceeds the byte limit." 413)
  return value

def owns (record : SponsorshipRecord) (actor : RestActor) : Bool :=
  record.actor.accountId = actor.accountId && record.actor.principalId = actor.principalId

def missing : RestError :=
  fail "SPONSORSHIP_NOT_FOUND" "Sponsorship preparation was not found for this principal." 404

def conflict : RestError :=
  fail "SPONSORSHIP_CONFLICT" "The sponsorship binding is already reserved for a different request." 409

variable (encoding : Encoding)

def assertNew (record : SponsorshipRecord) (now : Int) : Except RestError Unit := do
  assertActor record.actor
  assertText record.id 192
  assertText record.planId 192
  assertKey record.preparationKey
  refuse (!isHash record.commitment || !isHash record.planCommitment || !isHash record.inputHash ||
      record.state ≠ .prepared || record.revision ≠ 0 || record.submission.isSome || record.quote.isSome ||
      !isSafeInteger now || !isSafeInteger record.createdAt || !isSafeInteger record.expiresAt ||
      now < record.createdAt || record.expiresAt ≤ now || record.createdAt < 0 || record.requests.length < 1 ||
      maximumCalls < record.requests.length || record.observations.length ≠ 0 ||
      !(record.requests.map PreparedForwardRequest.stepIndex).Nodup ||
      record.requests.any (fun request => request.stepIndex < 0 || 31 < request.stepIndex))
    (fail "INVALID_SPONSORSHIP_RECORD" "Invalid initial sponsorship preparation." 400)
  discard (clone encoding.record record)

def assertClaim (input : SponsorshipClaim) : Except RestError Unit := do
  assertActor input.actor
  assertText input.id 192
  assertKey input.key
  refuse (!isHash input.hash || !isSafeInteger input.now || input.now < 0 || input.entries.length < 1 ||
      maximumCalls < input.entries.length)
    (fail "INVALID_SPONSORSHIP_CLAIM" "Invalid sponsorship publication claim." 400)
  discard (clone encoding.claim input)

def assertDispatchAuthorization (authorization : Authorization) (now : Int) : Except RestError Unit :=
  let seconds := now / 1000
  refuse (!isSafeInteger authorization.issuedAt || !isSafeInteger authorization.expiresAt ||
      authorization.issuedAt < 0 || seconds + 30 < authorization.issuedAt || authorization.expiresAt ≤ seconds ||
      authorization.expiresAt ≤ authorization.issuedAt || 300 < authorization.expiresAt - authorization.issuedAt)
    (fail "AUTH_EXPIRED"
      "Publication approval expired or has an invalid validity window. Sign a fresh request." 401)

/-- A record is published once; the same claim again is answered with it and dispatches nothing. -/
def claimed (record : SponsorshipRecord) (input : SponsorshipClaim) : Except RestError (SponsorshipRecord × Bool) := do
  refuse (!owns record input.actor) missing
  match record.submission with
  | some submission =>
    refuse (submission.key ≠ input.key || !same submission.hash input.hash) conflict
    let record ← clone encoding.record record
    return (record, false)
  | none =>
    refuse (record.state ≠ .prepared || record.expiresAt ≤ input.now)
      (fail "SPONSORSHIP_EXPIRED" "Prepare a fresh plan before publishing an authorization." 409)
    optionally (fun authorization => assertDispatchAuthorization authorization input.now) input.authorization
    let record ← clone encoding.record record
    let entries ← clone encoding.entries input.entries
    return ({ record with
      revision := record.revision + 1
      state := .submitting
      submission := some ⟨input.key, input.hash, entries, input.now⟩ }, true)

def RelayrQuote.identity (quote : RelayrQuote) : QuoteIdentity where
  bundleUuid := quote.bundleUuid
  payments := quote.payments
  observedAt := quote.observedAt
  entries := quote.entries.map QuotedEntry.entry
  transactionIds := (quote.entries.map QuotedEntry.txUuid).insertionSort (· ≤ ·)

def quoteIdentity (quote : RelayrQuote) : Except RestError String := encoding.identity quote.identity

/-- Only the provisional order of the transactions may change, before any binding or fundable
quote was verified. -/
def assertRebinding (record : SponsorshipRecord) (stored quote : RelayrQuote) (bindingVerified : Bool) :
    Except RestError Unit := do
  refuse (record.quoteBindingVerified ≠ some false || record.quoteRuntimeVerified.getD false || !bindingVerified) conflict
  let before ← quoteIdentity encoding stored
  let after ← quoteIdentity encoding quote
  refuse (before ≠ after) conflict
  let digest ← encoding.payload quote.toQuotePayload
  refuse (!same quote.commitment digest) conflict

def settled (record : SponsorshipRecord) (submissionHash : String) (quote : Option RelayrQuote)
    (runtimeVerified bindingVerified : Bool) : Except RestError SponsorshipRecord := do
  refuse (!record.submission.any (fun submission => same submission.hash submissionHash)) conflict
  let bindingVerified := bindingVerified || runtimeVerified
  match record.quote, quote with
  | some _, none => clone encoding.record record
  | some stored, some quote =>
    let rebinding := !same stored.commitment quote.commitment
    if rebinding then assertRebinding encoding record stored quote bindingVerified
    let runtime := record.quoteRuntimeVerified.getD false
    let binding := record.quoteBindingVerified.getD false
    if (runtimeVerified && !runtime) || (bindingVerified && !binding && !runtime) then
      clone encoding.record { record with
        revision := record.revision + 1
        quote := some (if rebinding then quote else stored)
        quoteBindingVerified := some (binding || bindingVerified)
        quoteRuntimeVerified := some (runtime || runtimeVerified) }
    else clone encoding.record record
  | none, some quote =>
    clone encoding.record { record with
      revision := record.revision + 1
      state := .quoted
      quote := some quote
      quoteBindingVerified := some bindingVerified
      quoteRuntimeVerified := some runtimeVerified }
  | none, none =>
    if record.state = .submissionUnknown then clone encoding.record record
    else clone encoding.record { record with revision := record.revision + 1, state := .submissionUnknown }

/-- New observations of the destinations, for the revision they were made of. -/
def observed (record : SponsorshipRecord) (revision : Int) (observations : List Payload) :
    Except RestError SponsorshipRecord :=
  if record.revision ≠ revision then clone encoding.record record
  else clone encoding.record { record with revision := revision + 1, observations }

end JBCenter.Sponsorship
