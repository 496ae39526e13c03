import JBCenter.Base.Answers
import JBCenter.Base.OrderedMap
import JBCenter.Rest.Core

/-! The ceremony store: challenges that are issued, consumed once, kept as receipts and cleaned up.
Every operation runs inside a transaction and reads the clock of the database several times; what a
transaction read while it held a row is no later than what the next one to hold it reads. -/
namespace JBCenter.Wallet.Ceremonies
open Rest

inductive WalletCeremonyPurpose where
  | registration
  | login
  | session
  | deploy
  | payment
  | rotate
  | signupResume
  | device
  deriving DecidableEq

def walletCeremonyMaxLifetimeMs : Int := 900000
def walletCeremonyRetentionMs : Int := 86400000

structure WalletCeremonyDraft where
  id : String
  accountId : String
  purpose : WalletCeremonyPurpose
  contextDigest : String
  challenge : String
  expiresAt : Int
  deriving DecidableEq

structure WalletCeremony extends WalletCeremonyDraft where
  createdAt : Int
  retainUntil : Int
  consumedAt : Option Int
  proofDigest : Option String
  resultId : Option String

structure WalletCeremonyConsume extends WalletCeremonyDraft where
  proofDigest : String
  resultId : String

structure TrustedWalletControlAdmission where
  accountId : String
  contextDigest : String
  verifiedProofDigest : String

/-- The bounds of the store, the same on every replica. -/
structure CeremonyLimits where
  maxRecords : Nat
  maxAccountRecords : Nat
  reservedControlRecords : Nat
  reservedControlAccountRecords : Nat

inductive CeremonyError where
  | refused (error : RestError)
  /-- The database refused a row. -/
  | violated (constraint : String)

def invalidWalletCeremony : CeremonyError :=
  .refused ⟨400, "WALLET_CEREMONY_INVALID", "Wallet ceremony fields or bounds are invalid.", none⟩

def conflict : CeremonyError :=
  .refused ⟨409, "WALLET_CEREMONY_CONFLICT", "Wallet ceremony does not match the trusted context.", none⟩

def expired : CeremonyError :=
  .refused ⟨410, "WALLET_CEREMONY_EXPIRED", "Wallet ceremony has expired; create a fresh challenge.", none⟩

def limitReached : CeremonyError :=
  .refused ⟨429, "WALLET_CEREMONY_LIMIT", "Wallet ceremony storage admission limit reached.", none⟩

def notFound : CeremonyError :=
  .refused ⟨404, "WALLET_CEREMONY_NOT_FOUND", "Wallet ceremony receipt is unavailable.", none⟩

def replay : CeremonyError :=
  .refused ⟨409, "WALLET_CEREMONY_REPLAY", "Wallet ceremony was consumed by a different proof or operation.", none⟩

def isUuid4 (text : String) : Bool := isUuid text && text.toList[14]? = some '4'

/-- Matches `/^[0-9a-f]{64}$/`. -/
def isDigest (text : String) : Bool :=
  text.length = 64 && text.toList.all (fun c => isDigit c || inRange 'a' 'f' c)

/-- Matches `/^[A-Za-z0-9][A-Za-z0-9:._-]{0,255}$/`. -/
def isAccount (text : String) : Bool :=
  match text.toList with
  | [] => false
  | first :: rest => isAlphanumeric first && rest.length ≤ 255 &&
    rest.all (fun c => isAlphanumeric c || c = ':' || c = '.' || c = '_' || c = '-')

def base64urlValue (c : Char) : Nat :=
  if inRange 'A' 'Z' c then c.toNat - 65
  else if inRange 'a' 'z' c then c.toNat - 71
  else if isDigit c then c.toNat + 4
  else if c = '-' then 62
  else 63

/-- The unpadded text of 32 bytes: 43 characters, the last with no bits to spare. -/
def isChallenge (text : String) : Bool :=
  text.length = 43 && text.toList.all (fun c => isAlphanumeric c || c = '-' || c = '_') &&
  text.toList.getLast?.all (fun last => base64urlValue last % 4 = 0)

def assertWalletCeremonyDraft (input : WalletCeremonyDraft) : Except CeremonyError Unit :=
  refuse (!isUuid4 input.id || !isAccount input.accountId || !isDigest input.contextDigest || !isChallenge input.challenge ||
    !isSafeInteger input.expiresAt || input.expiresAt < 1) invalidWalletCeremony

def assertWalletCeremonyConsume (input : WalletCeremonyConsume) : Except CeremonyError Unit := do
  assertWalletCeremonyDraft input.toWalletCeremonyDraft
  refuse (!isDigest input.proofDigest || !isUuid4 input.resultId) invalidWalletCeremony

def sameWalletCeremony (record : WalletCeremony) (input : WalletCeremonyDraft) : Bool := record.toWalletCeremonyDraft = input

abbrev CeremonyRows := OrderedMap String WalletCeremony

/-- What a cleanup reads of the clock at each row, and the rows others hold. -/
structure CleanupReads where
  retained : String → Int
  live : String → Int
  locked : String → Bool

structure IssueReads where
  cleanup : CleanupReads
  admitted : Int
  stored : Int

structure ConsumeReads where
  found : Int
  live : Int
  consumed : Int
  stored : Int

def removable (reads : CleanupReads) (record : WalletCeremony) : Bool :=
  record.retainUntil ≤ reads.retained record.id || (record.consumedAt.isNone && record.expiresAt ≤ reads.live record.id)

/-- The rows a cleanup deletes: the earliest to expire, up to the limit, without those others hold. -/
def removals (limit : Nat) (reads : CleanupReads) (rows : CeremonyRows) : List String :=
  (((rows.values.filter (removable reads)).filter (fun record => !reads.locked record.id)).mergeSort
    (fun a b => a.expiresAt < b.expiresAt || (a.expiresAt = b.expiresAt && a.id ≤ b.id))).take limit |>.map (·.id)

def cleanupInTransaction (limit : Nat) (reads : CleanupReads) (rows : CeremonyRows) : CeremonyRows :=
  rows.deleteAll (removals limit reads rows)

def admissible (request : WalletCeremonyDraft) (admission : TrustedWalletControlAdmission) : Bool :=
  admission.accountId = request.accountId && admission.contextDigest = request.contextDigest &&
  isDigest admission.verifiedProofDigest && (request.purpose = .login || request.purpose = .rotate)

def issuedRecord (request : WalletCeremonyDraft) (nowMs : Int) : WalletCeremony :=
  { request with
    createdAt := nowMs
    retainUntil := request.expiresAt + walletCeremonyRetentionMs
    consumedAt := none
    proofDigest := none
    resultId := none }

def issueInTransaction (limits : CeremonyLimits) (request : WalletCeremonyDraft)
    (admission : Option TrustedWalletControlAdmission) (reads : IssueReads) (rows : CeremonyRows) :
    Except CeremonyError (WalletCeremony × CeremonyRows) := do
  assertWalletCeremonyDraft request
  refuse (admission.any (fun admission => !admissible request admission)) invalidWalletCeremony
  let rows := cleanupInTransaction 100 reads.cleanup rows
  match rows.get request.id with
  | some record =>
    refuse (!sameWalletCeremony record request) conflict
    refuse (record.retainUntil ≤ reads.admitted) expired
    return (record, rows)
  | none =>
    refuse (request.expiresAt ≤ reads.admitted) expired
    refuse (reads.admitted + walletCeremonyMaxLifetimeMs < request.expiresAt) invalidWalletCeremony
    let reserved := admission.isNone
    refuse (limits.maxRecords - (if reserved then limits.reservedControlRecords else 0) ≤ rows.entries.length ||
      limits.maxAccountRecords - (if reserved then limits.reservedControlAccountRecords else 0) ≤
        rows.values.countP (fun record => record.accountId = request.accountId)) limitReached
    -- The challenges are unique over all rows.
    refuse (rows.values.any (fun record => record.challenge = request.challenge)) conflict
    refuse (request.expiresAt ≤ reads.stored) expired
    return (issuedRecord request reads.admitted, rows.set request.id (issuedRecord request reads.admitted))

def consumedRecord (record : WalletCeremony) (request : WalletCeremonyConsume) (nowMs : Int) : WalletCeremony :=
  { record with
    consumedAt := some nowMs
    proofDigest := some request.proofDigest
    resultId := some request.resultId }

def consumeInTransaction (request : WalletCeremonyConsume) (reads : ConsumeReads) (rows : CeremonyRows) :
    Except CeremonyError ((WalletCeremony × Bool) × CeremonyRows) := do
  assertWalletCeremonyConsume request
  match rows.get request.id with
  | none => .error notFound
  | some record =>
    refuse (record.retainUntil ≤ reads.found) notFound
    refuse (!sameWalletCeremony record request.toWalletCeremonyDraft) conflict
    if record.consumedAt.isSome then
      refuse (record.proofDigest ≠ some request.proofDigest || record.resultId ≠ some request.resultId) replay
      return ((record, true), rows)
    else
      refuse (record.expiresAt ≤ reads.live) expired
      refuse (reads.consumed < record.createdAt || record.expiresAt ≤ reads.consumed)
        (.violated "rest_wallet_ceremonies_consumed_at_check")
      refuse (request.expiresAt ≤ reads.stored) expired
      return ((consumedRecord record request reads.consumed, false),
        rows.set request.id (consumedRecord record request reads.consumed))

inductive CeremonyOp where
  | issue (request : WalletCeremonyDraft) (admission : Option TrustedWalletControlAdmission) (reads : IssueReads)
  | consume (request : WalletCeremonyConsume) (reads : ConsumeReads)
  | cleanup (limit : Nat) (reads : CleanupReads)

inductive CeremonyOutcome where
  | issued (record : WalletCeremony)
  | consumed (record : WalletCeremony) (replayed : Bool)
  | cleaned (count : Nat)

/-- The rows, and for each identifier the last time that was read while its row was held. -/
structure CeremonyStore where
  rows : CeremonyRows
  clock : String → Int

/-- A cleanup leaves its readings with the rows it deleted. -/
def cleanedClock (limit : Nat) (reads : CleanupReads) (s : CeremonyStore) : String → Int :=
  fun id => if id ∈ removals limit reads s.rows then max (s.clock id) (max (reads.retained id) (reads.live id)) else s.clock id

def withReading (clock : String → Int) (id : String) (nowMs : Int) : String → Int :=
  fun other => if other = id then nowMs else clock other

/-- The readings of an operation do not go back, nor behind those of the row it holds. A cleanup may
have read before the rows were last held. -/
def CeremonyOp.Ordered (s : CeremonyStore) : CeremonyOp → Prop
  | .issue request _ reads => cleanedClock 100 reads.cleanup s request.id ≤ reads.admitted ∧ reads.admitted ≤ reads.stored
  | .consume request reads => s.clock request.id ≤ reads.found ∧ reads.found ≤ reads.live ∧ reads.live ≤ reads.consumed ∧
      reads.consumed ≤ reads.stored
  | .cleanup _ _ => True

instance (s : CeremonyStore) : (op : CeremonyOp) → Decidable (op.Ordered s)
  | .issue request _ reads => inferInstanceAs (Decidable
      (cleanedClock 100 reads.cleanup s request.id ≤ reads.admitted ∧ reads.admitted ≤ reads.stored))
  | .consume request reads => inferInstanceAs (Decidable (s.clock request.id ≤ reads.found ∧ reads.found ≤ reads.live ∧
      reads.live ≤ reads.consumed ∧ reads.consumed ≤ reads.stored))
  | .cleanup _ _ => inferInstanceAs (Decidable True)

def perform (limits : CeremonyLimits) (op : CeremonyOp) (s : CeremonyStore) :
    Except CeremonyError (CeremonyOutcome × CeremonyStore) := do
  match op with
  | .issue request admission reads =>
    let (record, rows) ← issueInTransaction limits request admission reads s.rows
    return (.issued record, ⟨rows, withReading (cleanedClock 100 reads.cleanup s) request.id reads.stored⟩)
  | .consume request reads =>
    let ((record, replayed), rows) ← consumeInTransaction request reads s.rows
    return (.consumed record replayed, ⟨rows, withReading s.clock request.id reads.stored⟩)
  | .cleanup limit reads =>
    refuse (limit < 1 || 10000 < limit) invalidWalletCeremony
    return (.cleaned (removals limit reads s.rows).length,
      ⟨cleanupInTransaction limit reads s.rows, cleanedClock limit reads s⟩)

def ceremony (limits : CeremonyLimits) (op : CeremonyOp) : Fallible CeremonyError CeremonyStore CeremonyOutcome :=
  transaction (perform limits op)

abbrev CeremonyAnswer := Answer CeremonyOp CeremonyError CeremonyOutcome

/-- One operation, or one that is refused. -/
def CeremonyStep (limits : CeremonyLimits) (s : CeremonyStore) (answer : CeremonyAnswer) (t : CeremonyStore) : Prop :=
  answer.op.Ordered s ∧ Performs (ceremony limits) s answer t

abbrev CeremonyRuns (limits : CeremonyLimits) := Run (CeremonyStep limits)

/-- A larger transaction: its operations all commit, or it is rolled back and leaves none of them. -/
def CeremonyTransaction (limits : CeremonyLimits) (s : CeremonyStore) (batch : List CeremonyAnswer) (t : CeremonyStore) : Prop :=
  batch = [] ∧ t = s ∨ CeremonyRuns limits s batch t ∧ ∀ answer ∈ batch, ∃ outcome, answer.result = .ok outcome

def CeremonyStore.Empty (s : CeremonyStore) : Prop := s.rows = .empty

end JBCenter.Wallet.Ceremonies
