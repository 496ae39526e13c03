import JBCenter.Sponsor.Coverage
import JBCenter.Sponsorship.Bindings

/-! Which committed call a transaction of a bundle is taken for. `deploy` knows the entry each identifier was bound to;
`resume` has lost the entries and reads the status of the bundle against the committed calls alone. -/
namespace JBCenter.Sponsor
open Rest Sponsorship

/-- An entry as the provider is asked for it. -/
def RelayrEntry.requested (entry : RelayrEntry) : RequestedCall :=
  ⟨entry.chain, entry.target, entry.data, toString entry.value, some entry.virtualNonce⟩

/-- What `deploy` makes of one record: nothing before the transaction was sent, and the role of its entry after. -/
def derived (roles : List EntryRole) (item : StepStatus) : Option EntryHash := do
  let hash ← item.hash
  let role ← roles[item.step]?
  return { toEntryRole := role, hash }

/-- The hashes `deploy` finds in a status, by the role of the entry each record is bound to. -/
def hashesFrom (stringify : Json → String) (quote : CallQuote) (roles : List EntryRole) (status : Json) :
    Except RestError (List EntryHash) := do
  let items ← statusBinding stringify status quote
  return items.filterMap (derived roles)

def chainNumber : Json → Option Nat
  | .number (.integer n) => if 0 ≤ n then some n.toNat else none
  | .number .negativeZero => some 0
  | _ => none

/-- What `resume` reads of a record whose request and status are objects. -/
def statusItem (item : Json) : Option StatusItem := do
  let record ← Status.object item
  let request ← (record.field "request").bind Status.object
  let status ← (record.field "status").bind Status.object
  let details := ((status.field "data").bind Status.object).getD []
  let hash := JsonFields.field details "hash"
  let nested := ((JsonFields.field details "transaction").bind Status.object).bind (fun fields => fields.field "hash")
  return {
    txUuid := record.text "tx_uuid"
    chain := (request.field "chain").bind chainNumber
    target := request.text "target"
    data := request.text "data"
    hash := (if Status.isNullish hash then nested else hash).bind Json.text? }

def statusDocument (status : Json) : Option StatusDocument :=
  (Status.object status).map fun record => {
    bundleUuid := record.text "bundle_uuid"
    transactions := match record.field "transactions" with
      | some (.array items) => some (items.map statusItem)
      | _ => none }

/-- No two setup calls of a chain carry the same data, as a committed envelope guarantees. -/
def DistinctSetups (calls : List DeploymentCall) : Prop :=
  ∀ chainId, ((callsForChain calls chainId).1.map (fun call => toLowerCase call.data)).Nodup

variable {outlook : Outlook} {options : LaneOptions} {calls : List DeploymentCall} {roles : List EntryRole}
variable {entries : List BoundCall} {item : Json} {status : StepStatus} {call : BoundCall} {request : JsonFields}
variable {details : Option JsonFields}

theorem same_iff {a b : String} : same a b = true ↔ toLowerCase a = toLowerCase b := by simp [same]

theorem findIdx?_data {setup : List DeploymentCall} {index : Nat} {committed : DeploymentCall} {text : String}
    (distinct : (setup.map (fun call => toLowerCase call.data)).Nodup) (found : setup[index]? = some committed)
    (echoed : toLowerCase text = toLowerCase committed.data) :
    setup.findIdx? (fun call => same text call.data) = some index := by
  obtain ⟨bounded, rfl⟩ := List.getElem?_eq_some_iff.mp found
  refine List.findIdx?_eq_some_iff_getElem.mpr ⟨bounded, same_iff.mpr echoed, fun j earlier => ?_⟩
  rw [Bool.not_eq_true, ← Bool.not_eq_true, same_iff, echoed]
  intro again
  have inside : index < (setup.map (fun call => toLowerCase call.data)).length := by simpa using bounded
  have before : j < (setup.map (fun call => toLowerCase call.data)).length := earlier.trans inside
  have alike : (setup.map (fun call => toLowerCase call.data))[index] =
      (setup.map (fun call => toLowerCase call.data))[j] := by simpa using again
  have clash := (List.Nodup.getElem_inj_iff distinct).mp alike
  omega

variable {items : List StepStatus} {entry : RelayrEntry}

theorem setupIndex_carried {role : EntryRole} {echo : StatusItem} (distinct : DistinctSetups calls)
    (apart : ∀ chainId, same (outlook.forwarder chainId) options.safeFactory = false)
    (carries : Carries outlook options calls entry role) {target data : String} (read : echo.target = some target)
    (carried : echo.data = some data) (sameTarget : toLowerCase target = toLowerCase entry.target)
    (sameData : toLowerCase data = toLowerCase entry.data) :
    role.chainId = entry.chain ∧ role = match setupIndex options echo (callsForChain calls entry.chain).1 with
      | some index => ⟨entry.chain, .setup, index⟩
      | none => ⟨entry.chain, .launch, (callsForChain calls entry.chain).1.length⟩ := by
  cases carries with
  | @setup index committed place toFactory payload =>
    refine ⟨rfl, ?_⟩
    have factory : same target options.safeFactory = true := by rw [same_iff, sameTarget, toFactory]
    have found := findIdx?_data (distinct entry.chain) place (sameData.trans (by rw [payload]))
    simp only [setupIndex, read, carried, Option.any_some, factory, if_true, found]
  | launch forwarded =>
    refine ⟨rfl, ?_⟩
    have other : same target options.safeFactory = false := by
      rw [Bool.eq_false_iff, ne_eq, same_iff, sameTarget, same_iff.mp forwarded, ← same_iff]
      exact Bool.eq_false_iff.mp (apart entry.chain)
    simp only [setupIndex, read, Option.any_some, other, Bool.false_eq_true, if_false]

theorem Holds_chain {value : Option Json} {n : Nat} (holds : Status.Holds value (n : Int)) :
    value.bind chainNumber = some n := by
  obtain rfl | ⟨rfl, zero⟩ := holds
  · simp [chainNumber]
  · have zero : n = 0 := by omega
    simp [chainNumber, zero]

/-- The hash of a status record, if there is one, is the text `resume` reads, and a hash. -/
theorem destinationHash_read {fields : JsonFields} {hash : Option String}
    (located : Status.destinationHash (some fields) = .ok hash) :
    let details := ((fields.field "data").bind Status.object).getD []
    let first := JsonFields.field details "hash"
    let nested := ((JsonFields.field details "transaction").bind Status.object).bind (fun fields => fields.field "hash")
    ((if Status.isNullish first then nested else first).bind Json.text?).filter (isHex 64) = hash := by
  intro details first nested
  simp only [Status.destinationHash, Option.bind_some] at located
  split at located
  · cases located
  · split at located
    · rename_i absent
      cases located
      rw [show (if Status.isNullish first then nested else first) = none from absent]
      rfl
    · rename_i text present
      rw [show (if Status.isNullish first then nested else first) = some (.text text) from present]
      split at located
      · rename_i wellFormed
        cases located
        simp [Json.text?, wellFormed]
      · cases located
    · cases located

/-- One record, read by `resume` and bound by `deploy`. -/
theorem resumedEntry_reports {role : EntryRole} (distinct : DistinctSetups calls)
    (apart : ∀ chainId, same (outlook.forwarder chainId) options.safeFactory = false)
    (reports : Status.Reports entries item status call request details) (asked : call.entry = entry.requested)
    (carries : Carries outlook options calls entry role) :
    (statusItem item).bind (resumedEntry options calls) =
      status.hash.map (fun hash => { toEntryRole := role, hash : EntryHash }) := by
  obtain ⟨read, _, equals, located⟩ := reports
  unfold Status.record at read
  simp only [Option.bind_eq_bind, Option.bind_eq_some_iff, Option.pure_def, Option.some.injEq, Prod.mk.injEq] at read
  obtain ⟨record, opened, name, _, echo, echoed, started, begun, _, rfl, rfl⟩ := read
  obtain ⟨requested, present, object⟩ := echoed
  obtain ⟨chain, ⟨target, targetText, sameTarget⟩, ⟨data, dataText, sameData⟩, _, _⟩ := equals
  rw [asked] at chain sameTarget sameData
  cases started with
  | none =>
    have unstarted : (record.field "status").bind Status.object = none := by
      cases field : record.field "status" with
      | none => rfl
      | some value => cases value <;> simp_all [Status.statusRecord, Status.object]
    have pending : status.hash = none := (Except.ok.inj located).symm
    simp only [statusItem, opened, present, object, unstarted, pending, Option.bind_eq_bind, Option.bind_some,
      Option.bind_none, Option.map_none]
  | some fields =>
    have running : (record.field "status").bind Status.object = some fields := by
      cases field : record.field "status" with
      | none => simp_all [Status.statusRecord]
      | some value => cases value <;> simp_all [Status.statusRecord, Status.object]
    simp only [statusItem, opened, present, object, running, Option.bind_eq_bind, Option.bind_some, Option.pure_def,
      resumedEntry, Holds_chain chain, destinationHash_read located]
    have targetRead : echo.text "target" = some target := by simp [JsonFields.text, targetText, Json.text?]
    have dataRead : echo.text "data" = some data := by simp [JsonFields.text, dataText, Json.text?]
    generalize whole : StatusItem.mk _ _ _ _ _ = read
    have namedTarget : read.target = some target := by
      rw [← whole]
      exact targetRead
    have namedData : read.data = some data := by
      rw [← whole]
      exact dataRead
    obtain ⟨_, role⟩ := setupIndex_carried distinct apart carries namedTarget namedData sameTarget sameData
    rw [role]
    cases status.hash with
    | none => rfl
    | some hash =>
      simp only [Option.bind_some, Option.map_some]
      cases setupIndex options read (callsForChain calls entry.chain).1 <;> rfl

theorem mem_launched {place : Nat} {role : EntryRole} (found : roles[place]? = some role) (launch : role.role = .launch) :
    role.chainId ∈ launched roles :=
  List.mem_map_of_mem (List.mem_filter.mpr ⟨List.mem_of_getElem? found, by simpa using launch⟩)

theorem launched_place {s t : Nat} {a b : EntryRole} (distinct : (launched roles).Nodup) (first : roles[s]? = some a)
    (second : roles[t]? = some b) (launchA : a.role = .launch) (launchB : b.role = .launch) (same : a.chainId = b.chainId) :
    s = t := by
  induction roles generalizing s t with
  | nil => cases first
  | cons role rest ih =>
    have parts : (launched [role] ++ launched rest).Nodup := by rwa [← launched_append]
    have inner := (List.nodup_append.mp parts).2.1
    have apart : ∀ {place : Nat} {other : EntryRole}, role.role = .launch → rest[place]? = some other → other.role = .launch →
        role.chainId ≠ other.chainId := by
      intro place other head found launch
      have first : [role][0]? = some role := rfl
      exact (List.nodup_append.mp parts).2.2 _ (mem_launched first head) _ (mem_launched found launch)
    cases s with
    | zero =>
      cases t with
      | zero => rfl
      | succ t =>
        cases first
        exact absurd same (apart launchA second launchB)
    | succ s =>
      cases t with
      | zero =>
        cases second
        exact absurd same.symm (apart launchB first launchA)
      | succ t => exact congrArg Nat.succ (ih inner first second)

theorem derived_some {item : StepStatus} {found : EntryHash} (made : derived roles item = some found) :
    roles[item.step]? = some found.toEntryRole := by
  unfold derived at made
  simp only [Option.bind_eq_bind, Option.bind_eq_some_iff, Option.pure_def, Option.some.injEq] at made
  obtain ⟨hash, _, role, named, rfl⟩ := made
  exact named

theorem derived_launches (steps : (items.map StepStatus.step).Nodup)
    (distinct : (launched roles).Nodup) :
    (((items.filterMap (derived roles)).filter (fun item => item.role = .launch)).map (fun item => item.chainId)).Nodup := by
  induction items with
  | nil => simp
  | cons item rest ih =>
    rw [List.map_cons, List.nodup_cons] at steps
    rw [List.filterMap_cons]
    split
    · exact ih steps.2
    · rename_i entry made
      rw [List.filter_cons]
      split
      · rename_i launch
        rw [List.map_cons, List.nodup_cons]
        refine ⟨fun again => ?_, ih steps.2⟩
        obtain ⟨other, listed, same⟩ := List.mem_map.mp again
        obtain ⟨among, launchToo⟩ := List.mem_filter.mp listed
        obtain ⟨later, member, madeToo⟩ := List.mem_filterMap.mp among
        have step := launched_place distinct (derived_some made) (derived_some madeToo) (by simpa using launch)
          (by simpa using launchToo) same.symm
        exact steps.1 (step ▸ List.mem_map_of_mem member)
      · exact ih steps.2

theorem statusBinding_ok {stringify : Json → String} {value : Json} {quote : CallQuote}
    (bound : statusBinding stringify value quote = .ok items) : boundStatus value quote = .ok items := by
  unfold statusBinding withStatusDetail at bound
  split at bound
  · rename_i result accepted
    cases bound
    exact accepted
  · split at bound
    · cases bound
    · split at bound <;> cases bound

theorem transactions_document {value : Json} {bundleUuid : String} {count : Nat} {records : List Json}
    (read : Status.transactions value bundleUuid count = some records) :
    ∃ document, statusDocument value = some document ∧ document.bundleUuid = some bundleUuid ∧
      document.transactions = some (records.map statusItem) := by
  unfold Status.transactions at read
  simp only [Option.bind_eq_bind, Option.bind_eq_some_iff] at read
  obtain ⟨record, opened, id, named, _, same, read⟩ := read
  have same : id = bundleUuid := by simpa [guard, Option.guard_eq_some_iff] using same
  subst same
  split at read
  · rename_i items listed
    split at read
    · cases read
      exact ⟨_, by rw [statusDocument, opened, Option.map_some], named, by rw [listed]⟩
    · cases read
  · cases read

theorem carried_at {entries : List RelayrEntry} {place : Nat}
    (carried : List.Forall₂ (Carries outlook options calls) entries roles) (found : entries[place]? = some entry) :
    ∃ role, roles[place]? = some role ∧ Carries outlook options calls entry role := by
  obtain ⟨bounded, rfl⟩ := List.getElem?_eq_some_iff.mp found
  have long : place < roles.length := carried.length_eq ▸ bounded
  exact ⟨roles[place], List.getElem?_eq_getElem long, (List.forall₂_iff_get.mp carried).2 place bounded long⟩

/-- The records of a status, read by `resume` and bound by `deploy`. -/
theorem resumed_derived {drafted : List RelayrEntry} {records : List Json}
    (distinct : DistinctSetups calls) (apart : ∀ chainId, same (outlook.forwarder chainId) options.safeFactory = false)
    (asked : entries.map BoundCall.entry = drafted.map RelayrEntry.requested)
    (carried : List.Forall₂ (Carries outlook options calls) drafted roles)
    (reports : List.Forall₂ (fun record status => ∃ call request details,
      Status.Reports entries record status call request details) records items) :
    records.filterMap (fun record => (statusItem record).bind (resumedEntry options calls)) =
      items.filterMap (derived roles) := by
  induction reports with
  | nil => rfl
  | @cons record status others rest head _ ih =>
    obtain ⟨call, request, details, reports⟩ := head
    have place : (drafted.map RelayrEntry.requested)[status.step]? = some call.entry := by
      rw [← asked, List.getElem?_map, reports.entry, Option.map_some]
    obtain ⟨entry, drawn, same⟩ := Option.map_eq_some_iff.mp ((List.getElem?_map ..).symm.trans place)
    obtain ⟨role, named, carries⟩ := carried_at carried drawn
    have first : (statusItem record).bind (resumedEntry options calls) = derived roles status := by
      rw [resumedEntry_reports distinct apart reports same.symm carries]
      unfold derived
      rw [named]
      cases status.hash <;> rfl
    rw [List.filterMap_cons, List.filterMap_cons, first, ih]

variable {stringify : Json → String} {report : LaneReport} {chainIds : List Nat} {deadline : Nat} {l l' : Locals}
variable {draft : Draft} {quote : CallQuote} {document : Json} {found : List EntryHash}

/-- What `resume` reads off a status is what `deploy` derives from it: the same chains, roles, places and hashes, in the
same order, for every status that the bound quote accepts. -/
theorem resume_agrees (distinct : DistinctSetups calls) (chains : chainIds.Nodup)
    (apart : ∀ chainId, same (outlook.forwarder chainId) options.safeFactory = false)
    (built : (buildEntries options report chainIds calls deadline chainIds {}).Yields outlook.answers l (some draft) l')
    (asked : quote.entries.map BoundCall.entry = draft.entries.map RelayrEntry.requested)
    (derives : hashesFrom stringify quote draft.roles document = .ok found) :
    resumedEntries options quote.bundleUuid calls (statusDocument document) = .ok found := by
  obtain ⟨items, bound, derives⟩ := ok_bind derives
  cases derives
  obtain ⟨entries, roles, adds, launches, _⟩ := buildEntries_yields (fun _ _ held => by cases held) built
  have drawn : draft.entries = entries ∧ draft.roles = roles := ⟨adds.entries, adds.roles⟩
  rw [drawn.1] at asked
  rw [drawn.2]
  obtain ⟨steps, records, read, reports⟩ := boundStatus_ok (statusBinding_ok bound)
  have all : (records.map statusItem).reduceOption.filterMap (resumedEntry options calls) = items.filterMap (derived roles) := by
    rw [← resumed_derived distinct apart asked adds.carried reports, List.reduceOption,
      List.filterMap_filterMap, List.filterMap_map]
    rfl
  have once := derived_launches ((steps.nodup_iff).mpr List.nodup_range) (launches.symm ▸ chains)
  obtain ⟨resumed, opened, named, listed⟩ := transactions_document read
  unfold resumedEntries
  simp only [opened, Option.filter_some, named, decide_true, if_true, Option.bind_eq_bind, Option.bind_some, listed, all]
  rw [if_pos once]

/-- The bundle of the chain with three setup calls. Its status lists the calls backwards, in capitals; the second Safe is
not sent yet. -/
def unevenUuid (letter : Char) : String := "00000000-0000-0000-0000-00000000000" ++ letter.toString

def unevenQuote (draft : Draft) : CallQuote where
  bundleUuid := sampleUuid
  entries := List.zipWith BoundCall.mk (['a', 'b', 'c', 'd'].map unevenUuid) (draft.entries.map RelayrEntry.requested)
  payments := []
  observedAt := 0

def unevenHash (letter : Char) : String := "0x" ++ String.ofList (List.replicate 64 letter)

def unevenRecord (call : BoundCall) : Json :=
  .object [("tx_uuid", .text call.txUuid), ("request", .object [("chain", .number (.integer call.entry.chain)),
      ("target", .text (String.ofList (call.entry.target.toList.map Char.toUpper))),
      ("data", .text (String.ofList (call.entry.data.toList.map Char.toUpper))), ("value", .text call.entry.value),
      ("virtual_nonce", .number (.integer (call.entry.virtualNonce.getD 0)))]),
    ("status", if call.txUuid = unevenUuid 'b' then .null else .object [("state", .text "Pending"),
      ("data", .object [("hash", .text (unevenHash (call.txUuid.toList.getLastD '0')))])])]

def unevenStatus (draft : Draft) : Json :=
  .object [("bundle_uuid", .text sampleUuid), ("transactions", .array ((unevenQuote draft).entries.reverse.map unevenRecord))]

def unevenFound : List EntryHash :=
  [⟨⟨10, .launch, 3⟩, unevenHash 'd'⟩, ⟨⟨10, .setup, 2⟩, unevenHash 'c'⟩, ⟨⟨10, .setup, 0⟩, unevenHash 'a'⟩]

theorem unevenSetups : DistinctSetups unevenIntent.envelope.deploymentCalls := by
  intro chainId
  by_cases first : chainId = 10
  · subst first
    decide
  · by_cases second : chainId = 8453
    · subst second
      decide
    · have none : unevenIntent.envelope.deploymentCalls.filter (fun call => call.chainId == chainId) = [] := by
        simp [unevenIntent, Ne.symm first, Ne.symm second]
      simp [callsForChain, none]

theorem resume_agrees_sample : ∃ draft l,
    (buildEntries unevenLane unevenReport [10] unevenIntent.envelope.deploymentCalls 0 [10] {}).Yields
      emptyOutlook.answers {} (some draft) l ∧
    resumedEntries unevenLane sampleUuid unevenIntent.envelope.deploymentCalls (statusDocument (unevenStatus draft)) =
      .ok unevenFound := by
  have ran : (unevenDraft [10]).1.toOption.join.map (fun draft =>
      ((unevenQuote draft).entries.map BoundCall.entry == draft.entries.map RelayrEntry.requested,
        (hashesFrom (fun _ => "") (unevenQuote draft) draft.roles (unevenStatus draft)).toOption)) =
      some (true, some unevenFound) := by decide +kernel
  obtain ⟨draft, held, facts⟩ := Option.map_eq_some_iff.mp ran
  obtain ⟨asked, derives⟩ := Prod.mk.inj facts
  obtain ⟨l, built⟩ := unevenDraft_yields held
  have apart : ∀ chainId, same (emptyOutlook.forwarder chainId) unevenLane.safeFactory = false := by
    intro chainId
    change same "forwarder" "factory" = false
    decide
  exact ⟨draft, l, built, resume_agrees unevenSetups (by simp) apart built (eq_of_beq asked) (toOption_ok derives)⟩

end JBCenter.Sponsor
