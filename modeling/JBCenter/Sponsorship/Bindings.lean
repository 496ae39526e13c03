import JBCenter.Base.Assignments
import JBCenter.Sponsorship.Statuses

/-! A status binds identifiers and entries one to one, in whatever order the provider lists them. -/
namespace JBCenter.Sponsorship
open Rest
open BoundCall (txUuid)
variable {stringify : Json → String} {digest : CallQuote → Except RestError String}
variable {value item : Json} {records items : List Json} {entries bound : List BoundCall} {statuses : List StepStatus}

namespace Status

/-- The number a field holds, and no other value. -/
def Holds (value : Option Json) (n : Int) : Prop :=
  value = some (.number (.integer n)) ∨ (value = some (.number .negativeZero) ∧ n = 0)

/-- The nonce of an entry, or nothing where the entry has none. -/
def HoldsNonce (value : Option Json) : Option Int → Prop
  | none => value = none ∨ value = some .null
  | some nonce => Holds value nonce

/-- A request that equals an entry, field for field. -/
structure Equals (request : JsonFields) (entry : RequestedCall) : Prop where
  chain : Holds (request.field "chain") entry.chain
  target : ∃ text, request.field "target" = some (.text text) ∧ toLowerCase text = toLowerCase entry.target
  data : ∃ text, request.field "data" = some (.text text) ∧ toLowerCase text = toLowerCase entry.data
  value : ∃ n, providerUint256 (request.field "value") = some n ∧ decimal entry.value = some n
  nonce : HoldsNonce (request.field "virtual_nonce") entry.virtualNonce

/-- A record whose request equals the entry. -/
def Echoes (entry : RequestedCall) (item : Json) : Prop :=
  ∃ (fields : JsonFields) (request : JsonFields), item = .object fields ∧
    fields.field "request" = some (.object request) ∧ Equals request entry

theorem isNumber_iff {value : Option Json} {n : Int} : isNumber value n = true ↔ Holds value n := by
  unfold isNumber Holds
  split
  · rename_i m
    simp [eq_comm]
  · simp
  · rename_i integer zero
    constructor
    · nofun
    · rintro (same | ⟨same, _⟩)
      · exact absurd same (integer n)
      · exact absurd same zero

theorem isSame_iff {value : Option Json} {expected : String} : isSame value expected = true ↔
    ∃ text, value = some (.text text) ∧ toLowerCase text = toLowerCase expected := by
  unfold isSame Sponsor.same
  split
  · simp
  · rename_i other
    constructor
    · nofun
    · rintro ⟨text, same, _⟩
      exact absurd same (other text)

theorem isNullish_iff {value : Option Json} : isNullish value = true ↔ value = none ∨ value = some .null := by
  unfold isNullish
  split
  · simp
  · simp
  · rename_i absent null
    constructor
    · nofun
    · rintro (same | same)
      · exact absurd same absent
      · exact absurd same null

theorem sameProviderValue_iff {value : Option Json} {expected : String} : sameProviderValue value expected = true ↔
    ∃ n, providerUint256 value = some n ∧ decimal expected = some n := by
  unfold sameProviderValue
  cases providerUint256 value with
  | none => simp
  | some given =>
    cases decimal expected with
    | none => simp
    | some wanted =>
      simp only [beq_iff_eq, Option.some.injEq, exists_eq_left']
      exact eq_comm

theorem isNonce_iff {value : Option Json} {nonce : Option Int} : isNonce value nonce = true ↔ HoldsNonce value nonce := by
  cases nonce with
  | none => exact isNullish_iff
  | some nonce => exact isNumber_iff

variable {request : JsonFields}

variable {entry : RequestedCall}

theorem requestIsEntry_iff :
    requestIsEntry request entry = true ↔ Equals request entry := by
  simp only [requestIsEntry, Bool.and_eq_true, isNumber_iff, isSame_iff, sameProviderValue_iff, isNonce_iff]
  constructor
  · rintro ⟨⟨⟨⟨chain, target⟩, data⟩, value⟩, nonce⟩
    exact ⟨chain, target, data, value, nonce⟩
  · rintro ⟨chain, target, data, value, nonce⟩
    exact ⟨⟨⟨⟨chain, target⟩, data⟩, value⟩, nonce⟩

/-- The check of a later status asks for the same fields as the binding. -/
theorem changedField_none :
    changedField request entry = none ↔ requestIsEntry request entry = true := by
  unfold changedField requestIsEntry
  simp only [Bool.not_eq_true', Bool.and_eq_true]
  grind

theorem echoes_iff : echoes entry item = true ↔ Echoes entry item := by
  unfold echoes Echoes
  cases item with
  | object fields =>
    simp only [object, Option.bind_some]
    cases asked : JsonFields.field fields "request" with
    | none => simp [asked]
    | some request => cases request <;> simp [object, requestIsEntry_iff, asked]
  | _ => simp [object]

/-- What the binding of the entries settles: each has one record that echoes it, and the identifiers differ. -/
theorem bindCalls_ok {ids used : List String} {calls : List RequestedCall}
    (bind : bindCalls records ids used calls = .ok bound) :
    bound.map BoundCall.entry = calls ∧ (bound.map txUuid).Nodup ∧
      (∀ id ∈ bound.map txUuid, id ∈ ids ∧ id ∉ used) ∧
      ∀ call ∈ bound, ∃ item, records.filter (echoes call.entry) = [item] ∧ identifier item = some call.txUuid := by
  induction calls generalizing used bound with
  | nil =>
    cases bind
    simp
  | cons entry rest ih =>
    unfold bindCalls at bind
    split at bind
    · rename_i item alone
      split at bind
      · rename_i id chosen
        obtain ⟨others, bindRest, bind⟩ := ok_bind bind
        cases bind
        obtain ⟨named, free⟩ := Option.filter_eq_some_iff.mp chosen
        simp only [Bool.and_eq_true, List.contains_eq_mem, decide_eq_true_eq, Bool.not_eq_true',
          decide_eq_false_iff_not] at free
        obtain ⟨entries, distinct, inside, echoed⟩ := ih bindRest
        refine ⟨by simp [entries], ?_, ?_, ?_⟩
        · rw [List.map_cons, List.nodup_cons]
          exact ⟨fun again => (inside id again).2 (by simp), distinct⟩
        · rw [List.map_cons, List.forall_mem_cons]
          exact ⟨free, fun other listed => ⟨(inside other listed).1, fun seen =>
            (inside other listed).2 (List.mem_append_left _ seen)⟩⟩
        · rw [List.forall_mem_cons]
          exact ⟨⟨item, alone, named⟩, echoed⟩
      · cases bind
    · cases bind

/-- A record and the status it gives of the entry it names. -/
structure Reports (entries : List BoundCall) (item : Json) (status : StepStatus) (call : BoundCall)
    (request : JsonFields) (details : Option JsonFields) : Prop where
  read : record [] item = some (call.txUuid, request, details)
  entry : entries[status.step]? = some call
  equals : Equals request call.entry
  hash : destinationHash details = .ok status.hash

theorem record_fresh {observed : List String} {id : String} {details : Option JsonFields}
    (read : record observed item = some (id, request, details)) :
    record [] item = some (id, request, details) ∧ id ∉ observed := by
  unfold record at read ⊢
  simp only [Option.bind_eq_bind, Option.bind_eq_some_iff, Option.pure_def, Option.some.injEq, Prod.mk.injEq,
    Option.filter_eq_some_iff] at read ⊢
  obtain ⟨fields, opened, name, ⟨named, fresh⟩, asked, requested, status, started, rfl, rfl, rfl⟩ := read
  refine ⟨⟨fields, opened, name, ⟨named, by simp⟩, asked, requested, status, started, rfl, rfl, rfl⟩, ?_⟩
  simpa using fresh

theorem stepStatus_ok {id : String} {details : Option JsonFields} {status : StepStatus}
    (reported : stepStatus entries id request details = .ok status) :
    ∃ call, entries[status.step]? = some call ∧ call.txUuid = id ∧ Equals request call.entry ∧
      destinationHash details = .ok status.hash := by
  unfold stepStatus at reported
  split at reported
  · cases reported
  · rename_i step place
    obtain ⟨bounded, named, _⟩ := List.findIdx?_eq_some_iff_getElem.mp place
    have found : entries[step]? = some entries[step] := List.getElem?_eq_getElem bounded
    split at reported
    · cases reported
    · rename_i unchanged
      rw [found, Option.bind_some, changedField_none, requestIsEntry_iff] at unchanged
      split at reported
      · cases reported
      · obtain ⟨hash, located, reported⟩ := ok_bind reported
        cases reported
        exact ⟨_, found, by simpa using named, unchanged, located⟩

/-- Every record names another entry, and reports on it. -/
theorem stepStatuses_ok {observed : List String} (reported : stepStatuses entries observed items = .ok statuses) :
    List.Forall₂ (fun item status => ∃ call request details, Reports entries item status call request details)
      items statuses ∧
    ∃ ids : List String, ids.Nodup ∧ (∀ id ∈ ids, id ∉ observed) ∧
      statuses.map (fun status => (entries[status.step]?).map txUuid) = ids.map some := by
  induction items generalizing observed statuses with
  | nil =>
    cases reported
    exact ⟨.nil, [], by simp⟩
  | cons item rest ih =>
    unfold stepStatuses at reported
    split at reported
    · cases reported
    · rename_i id request details read
      obtain ⟨first, stepped, reported⟩ := ok_bind reported
      obtain ⟨others, steppedRest, reported⟩ := ok_bind reported
      cases reported
      obtain ⟨read, fresh⟩ := record_fresh read
      obtain ⟨call, entry, rfl, equals, hash⟩ := stepStatus_ok stepped
      obtain ⟨each, ids, distinct, unseen, named⟩ := ih steppedRest
      refine ⟨.cons ⟨call, request, details, read, entry, equals, hash⟩ each, call.txUuid :: ids, ?_, ?_, ?_⟩
      · rw [List.nodup_cons]
        exact ⟨fun again => unseen _ again (by simp), distinct⟩
      · rw [List.forall_mem_cons]
        exact ⟨fresh, fun id listed seen => unseen id listed (List.mem_append_left _ seen)⟩
      · simp [entry, named]

theorem transactions_some {bundleUuid : String} {count : Nat}
    (read : transactions value bundleUuid count = some records) : records.length = count := by
  unfold transactions at read
  simp only [Option.bind_eq_bind, Option.bind_eq_some_iff] at read
  obtain ⟨_, _, _, _, _, _, read⟩ := read
  split at read
  · split at read
    · cases read
      assumption
    · cases read
  · cases read

end Status

open Status

/-- Every entry is bound to the one record that echoes it. -/
structure OneToOne (records : List Json) (bound : List BoundCall) (order : List Nat) : Prop where
  places : order.Perm (List.range records.length)
  echoed : ∀ (i : Nat) call, bound[i]? = some call → ∃ j item, order[i]? = some j ∧ records[j]? = some item ∧
    identifier item = some call.txUuid ∧ ∀ (k : Nat) other, records[k]? = some other → (Echoes call.entry other ↔ k = j)

theorem bindCalls_oneToOne {ids : List String} {calls : List RequestedCall}
    (bind : bindCalls records ids [] calls = .ok bound) (enough : records.length = calls.length) :
    OneToOne records bound (bound.map fun call => records.findIdx (echoes call.entry)) := by
  obtain ⟨same, distinct, _, echoed⟩ := bindCalls_ok bind
  have named : ∀ call ∈ bound,
      (records[records.findIdx (echoes call.entry)]?).bind identifier = some call.txUuid := by
    intro call listed
    obtain ⟨item, alone, named⟩ := echoed call listed
    rw [(filter_alone alone).1, Option.bind_some, named]
  constructor
  · apply choices_exhaust
    · refine List.Nodup.of_map (fun j => (records[j]?).bind identifier) ?_
      have choose : (bound.map fun call => records.findIdx (echoes call.entry)).map
          (fun j => (records[j]?).bind identifier) = (bound.map txUuid).map some := by
        rw [List.map_map, List.map_map]
        exact List.map_congr_left named
      rw [choose]
      exact distinct.map (Option.some_injective _)
    · intro j listed
      obtain ⟨call, member, rfl⟩ := List.mem_map.mp listed
      obtain ⟨item, alone, _⟩ := echoed call member
      exact List.mem_range.mpr (List.getElem?_eq_some_iff.mp (filter_alone alone).1).1
    · rw [List.length_range, List.length_map, ← List.length_map (f := BoundCall.entry), same, enough]
  · intro i call found
    have listed := List.mem_of_getElem? found
    obtain ⟨item, alone, named⟩ := echoed call listed
    obtain ⟨place, only⟩ := filter_alone alone
    refine ⟨_, item, ?_, place, named, ?_⟩
    · rw [List.getElem?_map, found, Option.map_some]
    · intro k other at_k
      rw [← echoes_iff]
      exact only k other at_k

theorem boundQuoteStatus_ok {quote : CallQuote} {committed : CommittedQuote}
    (accepted : boundQuoteStatus stringify digest value quote = .ok committed) :
    ∃ records, transactions value quote.bundleUuid quote.entries.length = some records ∧
      bindCalls records (quote.entries.map txUuid) [] (quote.entries.map BoundCall.entry) =
        .ok committed.entries ∧
      committed.toCallQuote = { quote with entries := committed.entries } ∧
      ∃ statuses, boundStatus value committed.toCallQuote = .ok statuses := by
  unfold boundQuoteStatus at accepted
  split at accepted
  · cases accepted
  · rename_i records read
    obtain ⟨entries, bind, accepted⟩ := ok_bind accepted
    obtain ⟨commitment, _, accepted⟩ := ok_bind accepted
    obtain ⟨_, checked, accepted⟩ := ok_bind accepted
    cases accepted
    refine ⟨records, read, bind, rfl, ?_⟩
    cases reported : boundStatus value { quote with entries } with
    | ok statuses => exact ⟨statuses, rfl⟩
    | error error =>
      unfold statusBinding withStatusDetail at checked
      simp only [reported] at checked
      split at checked
      · cases checked
      · split at checked <;> cases checked

/-- Each record of a status names another step, so together they name them all. -/
theorem stepStatuses_steps (reported : stepStatuses entries [] items = .ok statuses)
    (enough : items.length = entries.length) :
    (statuses.map StepStatus.step).Perm (List.range entries.length) := by
  obtain ⟨each, ids, distinct, _, named⟩ := stepStatuses_ok reported
  apply choices_exhaust
  · refine List.Nodup.of_map (fun step => (entries[step]?).map txUuid) ?_
    rw [List.map_map, Function.comp_def, named]
    exact distinct.map (Option.some_injective _)
  · intro step listed
    obtain ⟨status, member, rfl⟩ := List.mem_map.mp listed
    have listed : (entries[status.step]?).map txUuid ∈ ids.map some :=
      named ▸ List.mem_map_of_mem member
    obtain ⟨id, _, held⟩ := List.mem_map.mp listed
    obtain ⟨call, found, _⟩ := Option.map_eq_some_iff.mp held.symm
    exact List.mem_range.mpr (List.getElem?_eq_some_iff.mp found).1
  · rw [List.length_range, List.length_map, ← enough, each.length_eq]

/-- A status that is accepted reports once on each entry, in the provider's order. -/
theorem boundStatus_ok {quote : CallQuote} (accepted : boundStatus value quote = .ok statuses) :
    (statuses.map StepStatus.step).Perm (List.range quote.entries.length) ∧
      ∃ records, transactions value quote.bundleUuid quote.entries.length = some records ∧
        List.Forall₂ (fun record status => ∃ call request details,
          Reports quote.entries record status call request details) records statuses := by
  unfold boundStatus at accepted
  split at accepted
  · cases accepted
  · rename_i records read
    exact ⟨stepStatuses_steps accepted (transactions_some read), records, read, (stepStatuses_ok accepted).1⟩

/-- What the provider's identifiers are bound to. A first status gives the identifiers of the quote back, each at the
one entry whose echo carries it; a later status says exactly one thing of each entry, and names no other. -/
theorem status_binding_bijective (stringify : Json → String) (digest : CallQuote → Except RestError String)
    (value : Json) (quote : CallQuote) :
    (∀ committed, boundQuoteStatus stringify digest value quote = .ok committed →
      (committed.entries.map txUuid).Perm (quote.entries.map txUuid) ∧
      committed.entries.map BoundCall.entry = quote.entries.map BoundCall.entry ∧
      ∃ records order, transactions value quote.bundleUuid quote.entries.length = some records ∧
        OneToOne records committed.entries order) ∧
    ∀ statuses, boundStatus value quote = .ok statuses →
      (statuses.map StepStatus.step).Perm (List.range quote.entries.length) ∧
      ∃ records, transactions value quote.bundleUuid quote.entries.length = some records ∧
        List.Forall₂ (fun record status => ∃ call request details,
          Reports quote.entries record status call request details) records statuses := by
  constructor
  · intro committed accepted
    obtain ⟨records, read, bind, _⟩ := boundQuoteStatus_ok accepted
    obtain ⟨same, distinct, inside, _⟩ := bindCalls_ok bind
    refine ⟨choices_exhaust distinct (fun id listed => (inside id listed).1) ?_, same, records, _, read,
      bindCalls_oneToOne bind ?_⟩
    · rw [List.length_map, List.length_map, ← List.length_map (f := BoundCall.entry), ← same, List.length_map]
    · rw [List.length_map]
      exact transactions_some read
  · intro statuses accepted
    exact boundStatus_ok accepted

/-- A quote of two calls whose status lists them the other way round, under the other's identifier. -/
def echoedUuids : List String := ["00000000-0000-0000-0000-00000000000a", "00000000-0000-0000-0000-00000000000b"]

def echoedCall (chain : Int) : RequestedCall :=
  ⟨chain, "0x3ba60b60933916a7c87d0860dcee62a0ce34e3e2", "0x00", "10", some 0⟩

def echoedQuote : CallQuote where
  bundleUuid := "00000000-0000-0000-0000-000000000001"
  entries := (echoedUuids.zip [echoedCall 10, echoedCall 8453]).map fun (txUuid, entry) => ⟨txUuid, entry⟩
  payments := []
  observedAt := 0

def echoedRecord (id : String) (chain : Int) : Json :=
  .object [("tx_uuid", .text id), ("status", .null), ("request", .object [("chain", .number (.integer chain)),
    ("target", .text "0x3BA60B60933916A7C87D0860DCEE62A0CE34E3E2"), ("data", .text "0x00"), ("value", .text "0xa"),
    ("virtual_nonce", .number (.integer 0))])]

def echoedStatus : Json :=
  .object [("bundle_uuid", .text "00000000-0000-0000-0000-000000000001"), ("transactions", .array
    (List.zipWith echoedRecord echoedUuids [8453, 10]))]

theorem status_binding_bijective_sample : ∃ committed statuses,
    boundQuoteStatus (fun _ => "") (fun _ => .ok "0x00") echoedStatus echoedQuote = .ok committed ∧
    committed.entries.map txUuid = echoedUuids.reverse ∧
    (committed.entries.map txUuid).Perm (echoedQuote.entries.map txUuid) ∧
    boundStatus echoedStatus committed.toCallQuote = .ok statuses ∧
    (statuses.map StepStatus.step).Perm (List.range committed.entries.length) := by
  have ran : (boundQuoteStatus (fun _ => "") (fun _ => .ok "0x00") echoedStatus echoedQuote).toOption.map
      (fun committed => committed.entries.map txUuid) = some echoedUuids.reverse := by decide +kernel
  obtain ⟨committed, accepted, reversed⟩ := Option.map_eq_some_iff.mp ran
  have accepted := toOption_ok accepted
  obtain ⟨_, _, _, _, statuses, reported⟩ := boundQuoteStatus_ok accepted
  have bind := (status_binding_bijective _ _ echoedStatus echoedQuote).1 committed accepted
  exact ⟨committed, statuses, accepted, reversed, bind.1, reported,
    ((status_binding_bijective (fun _ => "") (fun _ => .ok "0x00") echoedStatus committed.toCallQuote).2 statuses reported).1⟩

end JBCenter.Sponsorship
