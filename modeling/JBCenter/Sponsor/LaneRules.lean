import JBCenter.Sponsor.Deploy

/-! Rules for the lane. A lane reports to whoever called it, so what a lane call does is
what its reports do, in the order of the phases a bundle goes through. The rules ask for one
fact about every report and every kind of request, and give the lane call as a whole. -/
namespace JBCenter.Sponsor
open JBCenter.Action (safe_bind safe_each safe_imp safe_modify safe_mono safe_ofExcept safe_pure)

/-- Where a bundle stands: no quote yet, quoted, recorded on the rows, polled for its launches, followed to
their receipts. `closing` is a lane call that fails all its chains with one message. -/
inductive Phase where
  | building
  | quoted (bundleUuid : String)
  | recorded (bundleUuid : String)
  | polling (bundleUuid : String)
  | settling (bundleUuid : String)
  | closing (message : String)

/-- Messages a lane fails a chain with once its bundle is on the rows. -/
def settledMessages : List String :=
  ["the prepayment reverted", "the relayed deployment reverted", "the relayed deployment logged no Create event"]

/-- Before the bundle is recorded all chains may fail for any reason. -/
def Phase.allows : Phase → String → Prop
  | .building, _ => True
  | .quoted _, _ => True
  | .recorded _, message => message ∈ settledMessages
  | _, _ => False

/-- Requests that change nothing the worker depends on. -/
def External.reads : External → Bool
  | .create _ _ _ => false
  | .sendPayment _ _ _ => false
  | _ => true

variable {W : Type} {S : Setting Op Failure Op.Result W} {report : LaneReport} {chainIds : List Nat}
variable {intentId : String} {phase : Phase → Locals → W → Prop} {err : Failure → Locals → W → Prop}

theorem safe_catching {site : CatchSite} {body : Act Unit} {handler : Failure → Act Unit} {l : Locals} {w : W}
    {ok : Unit → Locals → W → Prop} {thrown : Failure → Locals → W → Prop}
    (tried : body.safe S l ok thrown w) (caught : ∀ error l w, thrown error l w →
      (mark (.caught site error)).safe S l (fun _ l w => (handler error).safe S { l with handling := some error }
        (fun _ l w => ok () { l with handling := none } w) err w) err w) :
    (catching site body handler).safe S l ok err w := by
  refine Action.safe_tryCatch (safe_mono tried (fun _ _ _ => id) fun error l w post => ?_)
  refine safe_bind (safe_imp (caught error l w post) (fun _ l w handled => ?_))
  refine safe_bind (safe_modify (safe_bind (safe_mono handled ?_ (fun _ _ _ => id))))
  exact fun _ _ _ done => safe_modify done

/-- What every phase needs: requests, failures and confirmations keep it, and it survives a throw. -/
structure ReportRules (S : Setting Op Failure Op.Result W) (report : LaneReport) (chainIds : List Nat)
    (phase : Phase → Locals → W → Prop) (err : Failure → Locals → W → Prop) : Prop where
  throws : ∀ {p error l w}, phase p l w → err error l w
  settled : ∀ {p l w} (chains : List Nat), phase p l w → phase p { l with settled := chains } w
  ask : ∀ {p l w} {request : External}, request.reads = true → phase p l w →
    (ask request).safe S l (fun _ l' w' => l' = l ∧ phase p l w') (fun _ l' w' => l' = l ∧ phase p l w') w
  stall : ∀ {p l w}, phase p l w → (mark .stall).safe S l (fun _ l' w' => l' = l ∧ phase p l w') err w
  close : ∀ {p l w message}, p.allows message → phase p l w → phase (.closing message) l w
  closed : ∀ {l w chainId message}, chainId ∈ chainIds → phase (.closing message) l w →
    (report.failed chainId message).safe S l
      (fun _ l' w' => l'.done = l.done ++ [chainId] ∧ l'.settled = l.settled ∧ phase (.closing message) l' w') err w
  reverted : ∀ {bundleUuid l w chainId message}, chainId ∈ chainIds → message ∈ settledMessages →
    phase (.settling bundleUuid) l w → (report.failed chainId message).safe S l
      (fun _ l' w' => l'.done = l.done ++ [chainId] ∧ l'.settled = l.settled ∧ phase (.settling bundleUuid) l' w') err w
  confirmed : ∀ {bundleUuid l w chainId} {hash projectId : String}, chainId ∈ chainIds →
    phase (.settling bundleUuid) l w → (report.confirmed chainId hash projectId).safe S l
      (fun _ l' w' => l'.done = l.done ++ [chainId] ∧ phase (.settling bundleUuid) l' w') err w

/-- What following a bundle needs. A launch is reported only on a chain a status can name. -/
structure SettleRules (S : Setting Op Failure Op.Result W) (report : LaneReport) (chainIds : List Nat)
    (phase : Phase → Locals → W → Prop) (err : Failure → Locals → W → Prop) (bundleUuid : String)
    (hashesFrom : Option StatusDocument → Except Failure (List EntryHash)) (sightable : Nat → Prop) : Prop
    extends ReportRules S report chainIds phase err where
  status : ∀ {l w}, phase (.polling bundleUuid) l w → (Sponsor.ask (.status bundleUuid)).safe S l
    (fun status l' w' => l' = l ∧ phase (.polling bundleUuid) l w' ∧ ∀ found, hashesFrom status = .ok found →
      ∀ entry ∈ found, entry.role = .launch → sightable entry.chainId) err w
  sent : ∀ {l w chainId} {hash : String}, chainId ∈ chainIds → sightable chainId →
    phase (.polling bundleUuid) l w → (report.sent chainId hash bundleUuid).safe S l
      (fun _ l' w' => l' = l ∧ phase (.polling bundleUuid) l w') err w
  polled : ∀ {l w}, phase (.polling bundleUuid) l w → phase (.settling bundleUuid) l w

/-- What submitting a bundle needs. -/
structure DeployRules (S : Setting Op Failure Op.Result W) (report : LaneReport) (chainIds : List Nat)
    (intentId : String) (phase : Phase → Locals → W → Prop) (err : Failure → Locals → W → Prop) : Prop
    extends ReportRules S report chainIds phase err where
  create : ∀ {l w} {entries : List RelayrEntry}, phase .building l w →
    (Sponsor.ask (.create intentId chainIds entries)).safe S l (fun document l' w' =>
      l' = l ∧ phase .building l w' ∧ phase (.quoted document.bundleUuid) l w') err w
  bundle : ∀ {l w bundleUuid}, uuid bundleUuid = true → phase (.quoted bundleUuid) l w →
    (report.bundle bundleUuid).safe S l (fun _ l' w' =>
      l'.done = l.done ∧ l'.settled = l.settled ∧ phase (.recorded bundleUuid) l' w') err w
  pay : ∀ {l w bundleUuid payment raw}, phase (.recorded bundleUuid) l w →
    (Sponsor.ask (.sendPayment ⟨bundleUuid, intentId, chainIds⟩ payment raw)).safe S l
      (fun _ l' w' => l' = l ∧ phase (.recorded bundleUuid) l w') err w
  paid : ∀ {l w bundleUuid wei}, phase (.recorded bundleUuid) l w →
    (report.paid (chainIds.headD 0) wei).safe S l (fun _ l' w' => l' = l ∧ phase (.polling bundleUuid) l w') err w
  sent : ∀ {l w chainId bundleUuid} {hash : String}, chainId ∈ chainIds → phase (.polling bundleUuid) l w →
    (report.sent chainId hash bundleUuid).safe S l
      (fun _ l' w' => l' = l ∧ phase (.polling bundleUuid) l w') err w
  polled : ∀ {l w bundleUuid}, phase (.polling bundleUuid) l w → phase (.settling bundleUuid) l w

/-- The outcome of a lane call that returns: every chain has one. -/
def AllDone (chainIds : List Nat) (phase : Phase → Locals → W → Prop) (l : Locals) (w : W) : Prop :=
  (∀ chainId ∈ chainIds, chainId ∈ l.done) ∧ ∃ p, phase p l w

namespace ReportRules
variable (rules : ReportRules S report chainIds phase err)
include rules

variable {l : Locals} {p : Phase}

theorem raise {w : W} {error : Failure} {ok : α → Locals → W → Prop}
    (now : phase p l w) : (Action.raise error : Act α).safe S l ok err w :=
  Action.safe_raise (rules.throws now)

/-- A request in the middle of a phase. -/
theorem ask_bind {w : W} {request : External} {f : request.Result → Act α}
    {ok : α → Locals → W → Prop} (reads : request.reads = true) (now : phase p l w)
    (next : ∀ value w, phase p l w → (f value).safe S l ok err w) :
    (Sponsor.ask request >>= f).safe S l ok err w := by
  refine safe_bind (safe_mono (rules.ask reads now) ?_ ?_)
  · rintro value l' w' ⟨rfl, later⟩
    exact next value w' later
  · rintro error l' w' ⟨rfl, later⟩
    exact rules.throws later

variable {draft : Draft} {chainId : Nat}

theorem tracked_fail {w : W} {message : String}
    (failed : ∀ {l w}, phase p l w → (report.failed chainId message).safe S l (fun _ l' w' =>
      l'.done = l.done ++ [chainId] ∧ l'.settled = l.settled ∧ phase p l' w') err w) (now : phase p l w) :
    (Tracker.fail report chainId message).safe S l
      (fun _ l' w' => l'.done = l.done ++ [chainId] ∧ l'.settled = l.settled ++ [chainId] ∧ phase p l' w') err w :=
  safe_bind (safe_modify (failed (rules.settled _ now)))

/-- Failing the rest fails every chain that has no outcome yet. -/
theorem failRest {w : W} {message : String} (allowed : p.allows message)
    (now : phase p l w) (fresh : ∀ chainId ∈ l.settled, chainId ∈ l.done) :
    (Tracker.failRest report chainIds message).safe S l (fun _ => AllDone chainIds phase) err w := by
  refine safe_imp (safe_each (fun rest l w =>
    (∀ chainId ∈ rest, chainId ∈ chainIds) ∧ (∀ chainId ∈ chainIds, chainId ∈ rest ∨ chainId ∈ l.done) ∧
      (∀ chainId ∈ l.settled, chainId ∈ l.done) ∧ phase (.closing message) l w) ?_ ?_) ?_
  · exact ⟨fun _ => id, fun _ member => .inl member, fresh, rules.close allowed now⟩
  · rintro chainId rest l w ⟨within, left, fresh, now⟩
    refine safe_bind (Action.safe_read ?_)
    split
    · next skipped =>
      have done : chainId ∈ l.done := fresh chainId (by simpa using skipped)
      refine safe_pure ⟨fun other member => within other (List.mem_cons_of_mem _ member), ?_, fresh, now⟩
      intro other member
      rcases left other member with first | second
      · rcases List.mem_cons.mp first with rfl | later
        · exact .inr done
        · exact .inl later
      · exact .inr second
    · refine safe_imp (rules.tracked_fail (rules.closed (within chainId List.mem_cons_self)) now) ?_
      rintro _ l' w' ⟨done, settled, later⟩
      refine ⟨fun other member => within other (List.mem_cons_of_mem _ member), ?_, ?_, later⟩
      · intro other member
        rw [done]
        rcases left other member with first | second
        · rcases List.mem_cons.mp first with rfl | rest
          · exact .inr (by simp)
          · exact .inl rest
        · exact .inr (List.mem_append_left _ second)
      · intro other member
        rw [settled] at member
        rw [done]
        rcases List.mem_append.mp member with before | last
        · exact List.mem_append_left _ (fresh other before)
        · exact List.mem_append_right _ last
  · rintro _ l w ⟨_, left, _, now⟩
    exact ⟨fun chainId member => (left chainId member).resolve_left (by simp), _, now⟩

/-- A receipt of a Safe creation is waited for, and a failure to see it is dropped. -/
theorem observeSetups {w : W} {setups : List EntryHash} (now : phase p l w) :
    (observeSetups setups).safe S l (fun _ l' w' => l' = l ∧ phase p l w') err w := by
  refine safe_each (fun _ l' w' => l' = l ∧ phase p l w') ⟨rfl, now⟩ ?_
  rintro item rest l' w' ⟨rfl, now⟩
  refine Action.safe_tryCatch (safe_bind (safe_mono (rules.ask rfl now) ?_ ?_))
  · exact fun _ _ _ kept => safe_pure kept
  · exact fun _ _ _ kept => safe_pure kept

theorem pause {w : W} {waiting : Bool} (now : phase p l w) :
    (pause waiting).safe S l (fun _ l' w' => l' = l ∧ phase p l w') err w := by
  cases waiting with
  | false => exact safe_pure ⟨rfl, now⟩
  | true =>
    refine safe_mono (rules.ask rfl now) (fun _ _ _ => id) ?_
    rintro _ l' w' ⟨rfl, now⟩
    exact rules.throws now

theorem settleChain {options : LaneOptions} {seen : Sightings} {bundleUuid : String}
    {w : W} (member : chainId ∈ chainIds) (now : phase (.settling bundleUuid) l w) :
    (settleChain options report seen chainId).safe S l
      (fun _ l' w' => l'.done = l.done ++ [chainId] ∧ phase (.settling bundleUuid) l' w') err w := by
  refine rules.ask_bind rfl now fun receipt w now => ?_
  split
  · refine safe_imp (rules.tracked_fail (rules.reverted member (by simp [settledMessages])) now) ?_
    exact fun _ _ _ post => ⟨post.1, post.2.2⟩
  · split
    · refine safe_imp (rules.tracked_fail (rules.reverted member (by simp [settledMessages])) now) ?_
      exact fun _ _ _ post => ⟨post.1, post.2.2⟩
    · exact safe_bind (safe_modify (rules.confirmed member (rules.settled _ now)))

theorem settleChains {options : LaneOptions} {seen : Sightings} {bundleUuid : String}
    {w : W} (now : phase (.settling bundleUuid) l w) :
    (Action.each (Sponsor.settleChain options report seen) chainIds).safe S l (fun _ l' w' =>
      (∀ chainId ∈ chainIds, chainId ∈ l'.done) ∧ phase (.settling bundleUuid) l' w') err w := by
  refine safe_imp (safe_each (fun rest l w => (∀ chainId ∈ rest, chainId ∈ chainIds) ∧
    (∀ chainId ∈ chainIds, chainId ∈ rest ∨ chainId ∈ l.done) ∧ phase (.settling bundleUuid) l w)
    ⟨fun _ => id, fun _ member => .inl member, now⟩ ?_) ?_
  · rintro chainId rest l w ⟨within, left, now⟩
    refine safe_imp (rules.settleChain (within chainId List.mem_cons_self) now) ?_
    rintro _ l' w' ⟨done, later⟩
    refine ⟨fun other member => within other (List.mem_cons_of_mem _ member), fun other member => ?_, later⟩
    rw [done]
    rcases left other member with first | second
    · rcases List.mem_cons.mp first with rfl | rest
      · exact .inr (by simp)
      · exact .inl rest
    · exact .inr (List.mem_append_left _ second)
  · rintro _ l w ⟨_, left, now⟩
    exact ⟨fun chainId member => (left chainId member).resolve_left (by simp), now⟩

end ReportRules

namespace SettleRules
variable {bundleUuid : String} {hashesFrom : Option StatusDocument → Except Failure (List EntryHash)}
variable {sightable : Nat → Prop}
variable (rules : SettleRules S report chainIds phase err bundleUuid hashesFrom sightable)
include rules

theorem sight {found : List EntryHash} {seen : Sightings} {l : Locals} {w : W}
    (named : ∀ entry ∈ found, entry.role = .launch → sightable entry.chainId)
    (now : phase (.polling bundleUuid) l w) :
    (sight report chainIds bundleUuid found seen).safe S l
      (fun _ l' w' => l' = l ∧ phase (.polling bundleUuid) l w') err w := by
  induction found generalizing seen w with
  | nil => exact safe_pure ⟨rfl, now⟩
  | cons entry rest ih =>
    have later := fun other member => named other (List.mem_cons_of_mem _ member)
    rw [Sponsor.sight]
    split
    · exact ih later now
    · next listed =>
      split
      · exact ih later now
      · next launch =>
        split
        · exact ih later now
        · have role : entry.role = .launch := by
            cases kind : entry.role with
            | setup => exact absurd kind launch
            | launch => rfl
          refine safe_bind (safe_imp
            (rules.sent (by simpa using listed) (named entry List.mem_cons_self role) now) ?_)
          rintro _ l' w' ⟨rfl, now⟩
          exact ih later now

theorem poll {started rounds : Nat} {seen : Sightings} {l : Locals} {w : W}
    (now : phase (.polling bundleUuid) l w) :
    (poll report chainIds bundleUuid hashesFrom started rounds seen).safe S l
      (fun _ l' w' => l' = l ∧ phase (.polling bundleUuid) l w') err w := by
  induction rounds generalizing seen w with
  | zero =>
    rw [Sponsor.poll]
    split
    · exact safe_bind (safe_imp (rules.stall now) (fun _ _ _ kept => safe_pure kept))
    · exact safe_pure ⟨rfl, now⟩
  | succ rounds ih =>
    rw [Sponsor.poll]
    split
    · refine rules.ask_bind rfl now fun clock w now => ?_
      split
      · exact rules.raise now
      · refine safe_bind (safe_imp (rules.status now) ?_)
        rintro status l' w ⟨rfl, now, named⟩
        refine safe_bind (safe_ofExcept (fun found read => ?_) (fun _ _ => rules.throws now))
        refine safe_bind (safe_imp (rules.sight (named found read) now) ?_)
        rintro seen l' w ⟨rfl, now⟩
        refine safe_bind (safe_imp (rules.pause now) ?_)
        rintro _ l' w ⟨rfl, now⟩
        exact ih now
    · exact safe_pure ⟨rfl, now⟩

/-- Following a bundle gives every chain its outcome, or throws. -/
theorem settle {options : LaneOptions} {l : Locals} {w : W} (now : phase (.polling bundleUuid) l w) :
    (settle options report chainIds bundleUuid hashesFrom).safe S l (fun _ => AllDone chainIds phase) err w := by
  refine rules.ask_bind rfl now fun started w now => ?_
  refine safe_bind (safe_imp (rules.poll now) ?_)
  rintro seen l' w ⟨rfl, now⟩
  refine safe_bind (safe_imp (rules.settleChains (rules.polled now)) ?_)
  rintro _ l w ⟨done, now⟩
  refine safe_imp (rules.observeSetups now) ?_
  rintro _ l' w ⟨rfl, now⟩
  exact ⟨done, _, now⟩

end SettleRules

/-- Building entries either leaves everything as it was, or has failed every chain. -/
def Built (chainIds : List Nat) (phase : Phase → Locals → W → Prop) (before : Locals) (result : Option α)
    (l : Locals) (w : W) : Prop :=
  match result with
  | none => AllDone chainIds phase l w
  | some _ => l = before ∧ phase .building before w

namespace ReportRules
variable {options : LaneOptions} {l : Locals} {w : W}
variable (rules : ReportRules S report chainIds phase err) (fresh : ∀ chainId ∈ l.settled, chainId ∈ l.done)

include rules fresh in
theorem giveUp {message : String} (now : phase .building l w) :
    (giveUp report chainIds message : Act (Option α)).safe S l (Built chainIds phase l) err w :=
  safe_bind (safe_imp (rules.failRest (p := .building) trivial now fresh)
    (fun _ _ _ done => safe_pure done))

include rules in
theorem proxyCreationCode (now : phase .building l w) :
    (proxyCreationCode options draft chainId).safe S l (fun _ l' w' => l' = l ∧ phase .building l w') err w := by
  rw [Sponsor.proxyCreationCode]
  split
  · exact safe_pure ⟨rfl, now⟩
  · refine rules.ask_bind rfl now fun runtime w now => ?_
    split
    · exact rules.raise now
    · exact rules.ask_bind rfl now fun code w now => safe_pure ⟨rfl, now⟩

include rules fresh in
theorem setupEntries {nonce : Nat} {setup : List (DeploymentCall × Nat)}
    (now : phase .building l w) :
    (setupEntries options report chainIds chainId setup nonce draft).safe S l (Built chainIds phase l) err w := by
  induction setup generalizing nonce draft w with
  | nil => exact safe_pure ⟨rfl, now⟩
  | cons item rest ih =>
    obtain ⟨call, position⟩ := item
    rw [Sponsor.setupEntries]
    split
    · exact rules.giveUp fresh now
    · refine safe_bind (safe_imp (rules.proxyCreationCode now) ?_)
      rintro ⟨code, draft⟩ l' w ⟨rfl, now⟩
      refine rules.ask_bind rfl now fun existing w now => ?_
      split
      · exact ih now
      · refine rules.ask_bind rfl now fun _ w now => rules.ask_bind rfl now fun gas w now => ?_
        split
        · exact rules.giveUp fresh now
        · exact ih now

variable {deadline : Nat}

include rules fresh in
theorem launchEntry {index nonce : Nat} {launch : DeploymentCall}
    (now : phase .building l w) :
    (launchEntry options report chainIds deadline chainId launch index nonce draft).safe S l
      (Built chainIds phase l) err w := by
  refine rules.ask_bind rfl now fun fee w now => ?_
  split
  · exact rules.giveUp fresh now
  · refine rules.ask_bind rfl now fun balance w now => ?_
    split
    · exact rules.raise now
    · refine rules.ask_bind rfl now fun prepared w now => ?_
      split
      · exact rules.giveUp fresh now
      · refine rules.ask_bind rfl now fun signature w now => rules.ask_bind rfl now fun entry w now => ?_
        exact safe_pure ⟨rfl, now⟩

include rules fresh in
theorem chainEntries {calls : List DeploymentCall}
    (now : phase .building l w) :
    (chainEntries options report chainIds calls deadline chainId draft).safe S l (Built chainIds phase l) err w := by
  rw [Sponsor.chainEntries]
  generalize callsForChain calls chainId = group
  obtain ⟨setup, launch⟩ := group
  dsimp only
  split
  · exact rules.giveUp fresh now
  · refine safe_bind (safe_imp (rules.setupEntries fresh now) ?_)
    rintro built l' w post
    cases built with
    | none => exact safe_pure post
    | some progress =>
      obtain ⟨rfl, now⟩ := post
      exact rules.launchEntry fresh now

include rules fresh in
theorem buildEntries {calls : List DeploymentCall} {chains : List Nat}
    (now : phase .building l w) :
    (buildEntries options report chainIds calls deadline chains draft).safe S l (Built chainIds phase l) err w := by
  induction chains generalizing draft w with
  | nil => exact safe_pure ⟨rfl, now⟩
  | cons chainId rest ih =>
    refine safe_bind (safe_imp (rules.chainEntries fresh now) ?_)
    rintro built l' w post
    cases built with
    | none => exact safe_pure post
    | some draft =>
      obtain ⟨rfl, now⟩ := post
      exact ih now

include rules in
theorem choosePayment {p : Phase} {candidates : List RelayrPayment} {shortfall : Option (Nat × Nat)}
    (now : phase p l w) :
    (choosePayment options candidates shortfall).safe S l (fun _ l' w' => l' = l ∧ phase p l w') err w := by
  induction candidates generalizing shortfall w with
  | nil => exact rules.raise now
  | cons candidate rest ih =>
    refine rules.ask_bind rfl now fun fees w now => rules.ask_bind rfl now fun balance w now => ?_
    dsimp only
    split
    · exact safe_pure ⟨rfl, now⟩
    · exact ih now

end ReportRules

theorem parseFamilyQuote_ok {options : LaneOptions} {document : QuoteDocument} {entries : List RelayrEntry}
    {now maximumValue : Nat} {quote : RelayrQuote}
    (parsed : parseFamilyQuote options document entries now maximumValue = .ok quote) :
    quote.bundleUuid = document.bundleUuid ∧ uuid quote.bundleUuid = true := by
  simp only [parseFamilyQuote] at parsed
  split at parsed
  · cases parsed
  · next canonical =>
    obtain ⟨⟨bound, payments⟩, _, parsed⟩ := ok_bind parsed
    cases parsed
    exact ⟨rfl, by simpa using canonical⟩

theorem bindFamilyQuoteStatus_ok {options : LaneOptions} {status : Option StatusDocument}
    {provisional quote : RelayrQuote} (bound : bindFamilyQuoteStatus options status provisional = .ok quote) :
    quote.bundleUuid = provisional.bundleUuid := by
  obtain ⟨entries, _, bound⟩ := ok_bind bound
  cases bound
  rfl

namespace DeployRules
variable {options : LaneOptions} {l : Locals} {w : W}
variable (rules : DeployRules S report chainIds intentId phase err)
include rules

theorem quoteEntries (now : phase .building l w) :
    (quoteEntries options chainIds intentId draft).safe S l (fun quote l' w' =>
      l' = l ∧ uuid quote.bundleUuid = true ∧ phase (.quoted quote.bundleUuid) l w') err w := by
  refine safe_bind (safe_imp (rules.create now) ?_)
  rintro document l' w ⟨rfl, -, now⟩
  refine rules.ask_bind rfl now fun clock w now => ?_
  refine safe_bind (safe_ofExcept (fun provisional parsed => ?_) (fun _ _ => rules.throws now))
  obtain ⟨named, canonical⟩ := parseFamilyQuote_ok parsed
  refine rules.ask_bind rfl now fun status w now => ?_
  refine safe_ofExcept (fun quote bound => ?_) (fun _ _ => rules.throws now)
  rw [bindFamilyQuoteStatus_ok bound]
  exact ⟨rfl, canonical, named ▸ now⟩

theorem prepay {bundleUuid : String} {chosen : Chosen} (now : phase (.recorded bundleUuid) l w) :
    (prepay ⟨bundleUuid, intentId, chainIds⟩ chosen).safe S l
      (fun _ l' w' => l' = l ∧ phase (.recorded bundleUuid) l w') err w := by
  refine rules.ask_bind rfl now fun nonce w now => rules.ask_bind rfl now fun raw w now => ?_
  refine safe_bind (safe_imp (rules.pay now) ?_)
  rintro hash l' w ⟨rfl, now⟩
  refine safe_mono (rules.ask rfl now) (fun _ _ _ => id) ?_
  rintro error l' w ⟨rfl, now⟩
  exact rules.throws now

/-- A bundle Center submitted itself is followed by its own quote, so any of its launches may be seen. -/
theorem settleRules {bundleUuid : String} {hashesFrom : Option StatusDocument → Except Failure (List EntryHash)} :
    SettleRules S report chainIds phase err bundleUuid hashesFrom (fun _ => True) where
  toReportRules := rules.toReportRules
  status now := by
    refine safe_mono (rules.ask rfl now) ?_ ?_
    · rintro status l' w' ⟨rfl, now⟩
      exact ⟨rfl, now, fun _ _ _ _ _ => trivial⟩
    · rintro error l' w' ⟨rfl, now⟩
      exact rules.throws now
  sent member _ now := rules.sent member now
  polled := rules.polled

theorem payQuote {quote : RelayrQuote} {roles : List EntryRole} {chosen : Chosen}
    (fresh : ∀ chainId ∈ l.settled, chainId ∈ l.done) (canonical : uuid quote.bundleUuid = true)
    (now : phase (.quoted quote.bundleUuid) l w) :
    (payQuote options report chainIds intentId quote roles chosen).safe S l
      (fun _ => AllDone chainIds phase) err w := by
  refine safe_bind (safe_imp (rules.bundle canonical now) ?_)
  rintro _ l₁ w ⟨done, settled, now⟩
  have fresh : ∀ chainId ∈ l₁.settled, chainId ∈ l₁.done := by rwa [done, settled]
  refine safe_bind (safe_imp (rules.prepay now) ?_)
  rintro receipt l' w ⟨rfl, now⟩
  split
  · exact rules.failRest (by simp [Phase.allows, settledMessages]) now fresh
  · refine safe_bind (safe_ofExcept (fun _ _ => ?_) (fun _ _ => rules.throws now))
    refine safe_bind (safe_imp (rules.paid now) ?_)
    rintro _ l' w ⟨rfl, now⟩
    exact rules.settleRules.settle now

/-- A deploy gives every chain its outcome, or throws. -/
theorem deploy {intent : Intent} (same : intent.id = intentId) (fresh : ∀ chainId ∈ l.settled, chainId ∈ l.done)
    (now : phase .building l w) :
    (deploy options intent chainIds report).safe S l (fun _ => AllDone chainIds phase) err w := by
  subst same
  refine rules.ask_bind rfl now fun clock w now => ?_
  refine safe_bind (safe_imp (rules.buildEntries fresh now) ?_)
  rintro built l' w post
  cases built with
  | none => exact safe_pure post
  | some draft =>
    obtain ⟨rfl, now⟩ := post
    refine safe_bind (safe_imp (rules.quoteEntries now) ?_)
    rintro quote l' w ⟨rfl, canonical, now⟩
    dsimp only
    split
    · exact rules.failRest (p := .quoted quote.bundleUuid) trivial now fresh
    · refine safe_bind (safe_imp (rules.choosePayment now) ?_)
      rintro chosen l' w ⟨rfl, now⟩
      exact rules.payQuote fresh canonical now

end DeployRules
end JBCenter.Sponsor
