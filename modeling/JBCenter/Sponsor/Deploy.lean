import JBCenter.Sponsor.Lane

/-! `deploy` of the Relayr lane. Every chain is simulated, priced and signed first; then Relayr quotes the
bundle, the bundle is recorded on the rows, and only then the prepayment leaves the key. -/
namespace JBCenter.Sponsor

/-- The entries built so far, with the creation code read once per chain. -/
structure Draft where
  entries : List RelayrEntry := []
  roles : List EntryRole := []
  codes : List (Nat × String) := []

/-- The entry at the next place of the bundle. -/
def Draft.push (draft : Draft) (entry : RelayrEntry) (role : EntryRole) : Draft :=
  { draft with entries := draft.entries ++ [entry], roles := draft.roles ++ [role] }

def factoryUnavailable (chainId : Nat) : Failure :=
  .lane ("the Safe proxy factory runtime on chain " ++ toString chainId ++ " is not the canonical one")
    (some "SAFE_FACTORY_UNAVAILABLE")

def unfundedFee (chainId missing : Nat) : Failure :=
  .lane ("sponsor holds less than the creation fee on chain " ++ toString chainId ++ " by " ++
    toString missing ++ " wei") (some "SPONSOR_UNFUNDED")

def unfundedPrepayment (chainId missing : Nat) : Failure :=
  .lane ("sponsor holds less than the prepayment on chain " ++ toString chainId ++ " by " ++
    toString missing ++ " wei") (some "SPONSOR_UNFUNDED")

section
variable (options : LaneOptions) (report : LaneReport) (chainIds : List Nat)

/-- The factory's creation code, read only after the factory's own runtime is the canonical one. -/
def proxyCreationCode (draft : Draft) (chainId : Nat) : Act (String × Draft) :=
  match draft.codes.lookup chainId with
  | some code => pure (code, draft)
  | none => do
    let runtime : Option String ← ask (.getCode chainId options.safeFactory)
    if !runtime.any options.canonicalFactory then Action.raise (factoryUnavailable chainId)
    else do
      let code : String ← ask (.proxyCreationCode chainId)
      return (code, { draft with codes := draft.codes ++ [(chainId, code)] })

/-- The lane gives up on the whole bundle: `none` says that every chain was failed. -/
def giveUp (message : String) : Act (Option α) := do
  Tracker.failRest report chainIds message
  return none

/-- The Safe creations of a chain, numbered before its launch. One that exists already is skipped. -/
def setupEntries (chainId : Nat) : List (DeploymentCall × Nat) → Nat → Draft → Act (Option (Nat × Draft))
  | [], nonce, draft => pure (some (nonce, draft))
  | (call, position) :: rest, nonce, draft =>
    match options.decodeSafeSetupCall call with
    | none => giveUp report chainIds "setup call is not a Safe creation"
    | some plan => do
      let (code, draft) ← proxyCreationCode options draft chainId
      let existing : Option String ← ask (.getCode chainId (options.predictSafeAddress plan code))
      if existing.any (fun code => code ≠ "" && code ≠ "0x") then setupEntries chainId rest nonce draft
      else do
        ask (.simulate chainId call.data)
        let gas : Nat ← ask (.estimateGas chainId call.data)
        if gas > options.policy.maximumGas then giveUp report chainIds "setup gas above the sponsor cap"
        else setupEntries chainId rest (nonce + 1) (draft.push
          { chain := chainId, target := options.safeFactory, data := call.data, value := 0, virtualNonce := nonce }
          { chainId, role := .setup, index := position })

/-- The signed launch of a chain, after its Safe creations. -/
def launchEntry (deadline chainId : Nat) (launch : DeploymentCall) (index nonce : Nat) (draft : Draft) :
    Act (Option Draft) := do
  let fee : Nat ← ask (.creationFee chainId)
  if fee > creationFeeCeiling then giveUp report chainIds "creation fee above the sponsor ceiling"
  else do
    let balance : Nat ← ask (.getBalance chainId)
    if balance < fee then Action.raise (unfundedFee chainId (fee - balance))
    else do
      let prepared : Prepared ← ask (.prepare chainId launch fee draft.entries.length deadline)
      if prepared.gas > options.policy.maximumGas then
        giveUp report chainIds ("gas " ++ toString prepared.gas ++ " exceeds the sponsor cap")
      else do
        let signature : String ← ask (.signTypedData prepared)
        let entry : RelayrEntry ← ask (.signed prepared signature)
        return some (draft.push { entry with virtualNonce := nonce } { chainId, role := .launch, index })

def chainEntries (calls : List DeploymentCall) (deadline chainId : Nat) (draft : Draft) : Act (Option Draft) :=
  let (setup, launch) := callsForChain calls chainId
  match launch.filter (fun _ => options.rpcChains.contains chainId) with
  | none => giveUp report chainIds ("chain " ++ toString chainId ++ " is not configured")
  | some launch => do
    match ← setupEntries options report chainIds chainId setup.zipIdx 0 draft with
    | none => return none
    | some (nonce, draft) => launchEntry options report chainIds deadline chainId launch setup.length nonce draft

def buildEntries (calls : List DeploymentCall) (deadline : Nat) : List Nat → Draft → Act (Option Draft)
  | [], draft => pure (some draft)
  | chainId :: rest, draft => do
    match ← chainEntries options report chainIds calls deadline chainId draft with
    | none => return none
    | some draft => buildEntries calls deadline rest draft

/-- A payment the key covers, with the fees it was judged by. -/
structure Chosen where
  payment : RelayrPayment
  fees : Fees
  maxFeePerGas : Nat

/-- Pay from the first ranked option that the key covers; the shortfall named is the best-ranked one's. -/
def choosePayment : List RelayrPayment → Option (Nat × Nat) → Act Chosen
  | [], shortfall =>
    let (chainId, missing) := shortfall.getD (0, 0)
    Action.raise (unfundedPrepayment chainId missing)
  | candidate :: rest, shortfall => do
    let fees : Fees ← ask (.estimateFeesPerGas candidate.chainId)
    let cap := min fees.maxFeePerGas options.policy.maximumFeePerGas
    let balance : Nat ← ask (.getBalance candidate.chainId)
    let needed := candidate.value + paymentGas * cap
    if needed ≤ balance then return { payment := candidate, fees, maxFeePerGas := cap }
    else choosePayment rest (shortfall.or (some (candidate.chainId, needed - balance)))

/-- The hashes of a status that echoes the quoted bundle, by the role of each entry. -/
def quotedEntries (quote : RelayrQuote) (roles : List EntryRole) (status : Option StatusDocument) :
    Except Failure (List EntryHash) := do
  let items ← options.parseStatus status quote
  return items.filterMap fun (step, hash) => do
    let hash ← hash
    let role ← roles[step]?
    return { toEntryRole := role, hash }

/-- Sign and send the prepayment of a recorded bundle, and wait for its receipt. -/
def prepay (bundle : Bundle) (chosen : Chosen) : Act Receipt := do
  let nonce : Nat ← ask (.getTransactionCount chosen.payment.chainId)
  let raw : String ← ask (.signTransaction chosen.payment chosen.maxFeePerGas
    (min chosen.fees.maxPriorityFeePerGas chosen.maxFeePerGas) nonce)
  let hash : String ← ask (.sendPayment bundle chosen.payment raw)
  ask (.waitForTransactionReceipt chosen.payment.chainId hash)

/-- From the quote on. The bundle is durable before any ETH leaves the key, so a re-claim resumes it. -/
def payQuote (intentId : String) (quote : RelayrQuote) (roles : List EntryRole) (chosen : Chosen) : Act Unit := do
  report.bundle quote.bundleUuid
  let receipt ← prepay { bundleUuid := quote.bundleUuid, intentId, chainIds } chosen
  if !receipt.success then Tracker.failRest report chainIds "the prepayment reverted"
  else do
    Action.ofExcept (options.verifyRelayrPaymentEvent receipt.logs quote.bundleUuid chosen.payment.value
      chosen.payment.deadline)
    report.paid (chainIds.headD 0) (receipt.gasUsed * receipt.effectiveGasPrice + chosen.payment.value)
    settle options report chainIds quote.bundleUuid (quotedEntries options quote roles)

/-- The quote of the built entries, each identifier bound to the entry it names before any ETH moves. -/
def quoteEntries (intentId : String) (draft : Draft) : Act RelayrQuote := do
  let document : QuoteDocument ← ask (.create intentId chainIds draft.entries)
  let clock : Nat ← ask .now
  let provisional ← Action.ofExcept (parseFamilyQuote options document draft.entries clock
    (reservationWei options.policy draft.entries.length))
  let status : Option StatusDocument ← ask (.status provisional.bundleUuid)
  Action.ofExcept (bindFamilyQuoteStatus options status provisional)

end

def deploy (options : LaneOptions) (intent : Intent) (chainIds : List Nat) (report : LaneReport) : Act Unit := do
  let clock : Nat ← ask .now
  match ← buildEntries options report chainIds intent.envelope.deploymentCalls (clock / 1000 + requestTtlSeconds)
      chainIds {} with
  | none => return ()
  | some draft =>
    let quote ← quoteEntries options chainIds intent.id draft
    let candidates := rankPayments quote.payments options.rpcChains
    if candidates.isEmpty then
      Tracker.failRest report chainIds "relayr returned no payment option on a configured chain"
    else do
      let chosen ← choosePayment options candidates none
      payQuote options report chainIds intent.id quote draft.roles chosen

end JBCenter.Sponsor
