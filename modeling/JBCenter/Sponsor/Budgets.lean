import JBCenter.Sponsor.Route
import JBCenter.Sponsor.Spending

/-! The daily budget. A request compares what it read with the budget and queues its rows later, so the budget is
kept by every admission between whose read and queueing nothing else was charged. -/
namespace JBCenter.Sponsor
open JBCenter.Action (safe_bind safe_imp safe_pure safe_request)

variable {options : LaneOptions} {leaseSeconds : Nat} {policy : SponsorPolicy} {client : String}

/-- The request has compared the day's total and not queued yet. -/
def RouteOp.pastTotal : RouteOp → Bool
  | .consumeRequest _ _ _ => true
  | .queueDeploys _ _ _ _ _ => true
  | _ => false

/-- A request of the MCP that has compared its slice and not queued yet. -/
def RouteOp.pastSlice (client : String) : RouteOp → Bool
  | .sponsoredWeiSince _ none => client == mcpClient
  | op => client == mcpClient && op.pastTotal

def Fate.commits : Fate → Bool
  | .refused _ => false
  | _ => true

def SiteEvent.charged (s : Site) : SiteEvent → Option String
  | .sponsor (.work (.query statement) fate) => if Fate.commits fate then statement.charged s.sponsor.world.db else none
  | .serve _ (.queueDeploys _ _ requester _ _) fate => if Fate.commits fate then some requester else none
  | _ => none

def SiteEvent.serves : SiteEvent → Option Nat
  | .serve index _ _ => some index
  | _ => none

def InFlight.undisturbed (request : InFlight) (charged : Option String) : Bool :=
  match request.program with
  | .done _ => true
  | .call op _ => (!op.pastTotal || charged.isNone) && (!op.pastSlice request.request.client || charged != some mcpClient)

/-- Nothing is charged while another request stands between its comparison and its queueing. -/
def Site.unraced (s : Site) (event : SiteEvent) : Bool :=
  s.requests.zipIdx.all fun (request, index) =>
    event.serves == some index || request.undisturbed (event.charged s)

def Site.Step (options : LaneOptions) (leaseSeconds : Nat) (guard : Site → SiteEvent → Bool) (s : Site)
    (event : SiteEvent) (t : Site) : Prop :=
  s.step options leaseSeconds event = some t ∧ guard s event = true

structure Site.Initial (s : Site) : Prop where
  sponsor : s.sponsor.Initial
  requests : s.requests = []

/-- What a queueing request adds still fits the day's budget and, for the MCP, its slice. -/
def Fits (policy : SponsorPolicy) (requester : String) (amount : Nat) (store : Store) : Prop :=
  store.db.sponsoredWeiSince (store.clock - dayMs) none + amount ≤ policy.dailyBudgetWei ∧
    (requester = mcpClient →
      store.db.sponsoredWeiSince (store.clock - dayMs) (some mcpClient) + amount ≤ policy.mcpDailyBudgetWei)

def routeSetting (policy : SponsorPolicy) (client : String) : Setting RouteOp RouteFailure RouteOp.Result Store where
  Reply := RouteOp.Reply
  perform := RouteOp.perform
  rely op a b := a.clock ≤ b.clock ∧ (op.pastTotal = true → Unraised none a.db b.db) ∧
    (op.pastSlice client = true → Unraised (some mcpClient) a.db b.db)
  holds _ := True
  admits _ _ _ := True
  due
    | .queueDeploys _ chainIds requester reserved _, store => requester = client ∧
      Fits policy requester (chainIds.length * reserved) store
    | _, _ => True

theorem RouteOp.perform_ok {op : RouteOp} {reply : op.Reply} {store next : Store} {value : op.Result}
    (performed : op.perform reply store = (.ok value, next)) : op.run store = .ok (value, next) := by
  unfold RouteOp.perform at performed
  cases ran : op.run store with
  | error error =>
    rw [ran] at performed
    cases fate : op.fate reply <;> rw [fate] at performed <;> cases performed
  | ok result =>
    rw [ran] at performed
    cases fate : op.fate reply <;> rw [fate] at performed <;> cases performed
    rfl

section
variable {store : Store} {plan : Route.Plan} {since : Nat} {l : Unit}

/-- The total that was read fits the budget together with what the request reserves. -/
def TotalFits (policy : SponsorPolicy) (plan : Route.Plan) (since : Nat) (store : Store) : Prop :=
  store.db.sponsoredWeiSince since none + plan.reserved ≤ policy.dailyBudgetWei

def SliceFits (policy : SponsorPolicy) (plan : Route.Plan) (since : Nat) (store : Store) : Prop :=
  plan.client = mcpClient →
    store.db.sponsoredWeiSince since (some mcpClient) + plan.reserved ≤ policy.mcpDailyBudgetWei

theorem TotalFits.stable {a b : Store} (unraised : Unraised none a.db b.db) (fits : TotalFits policy plan since a) :
    TotalFits policy plan since b := Nat.le_trans (Nat.add_le_add_right (unraised since) _) fits

theorem SliceFits.stable {a b : Store} (unraised : plan.client = mcpClient → Unraised (some mcpClient) a.db b.db)
    (fits : SliceFits policy plan since a) : SliceFits policy plan since b := fun slice =>
  Nat.le_trans (Nat.add_le_add_right (unraised slice since) _) (fits slice)

/-- What is divided over the chains is at most what was compared, and a later window counts no more. -/
theorem fits_of_compared (passed : since ≤ store.clock - dayMs) (total : TotalFits policy plan since store)
    (slice : SliceFits policy plan since store) :
    Fits policy plan.client (plan.fresh.length * (plan.reserved / plan.fresh.length)) store := by
  have divided : plan.fresh.length * (plan.reserved / plan.fresh.length) ≤ plan.reserved := Nat.mul_div_le _ _
  refine ⟨?_, fun mcp => ?_⟩
  · have window := sponsoredWeiSince_mono store.db none passed
    unfold TotalFits at total
    omega
  · have window := sponsoredWeiSince_mono store.db (some mcpClient) passed
    have within := slice mcp
    omega

theorem pastTotal_slice {op : RouteOp} (past : op.pastTotal = true) (mcp : client = mcpClient) :
    op.pastSlice client = true := by
  cases op with
  | consumeRequest key limit windowSeconds => simp [RouteOp.pastSlice, RouteOp.pastTotal, mcp]
  | queueDeploys intentId chainIds requester reserved retry => simp [RouteOp.pastSlice, RouteOp.pastTotal, mcp]
  | _ => cases past

theorem compared_stable {op : RouteOp} {a b : Store} (past : op.pastTotal = true)
    (step : (routeSetting policy plan.client).rely op a b) (passed : since ≤ a.clock - dayMs)
    (total : TotalFits policy plan since a) (slice : SliceFits policy plan since a) :
    since ≤ b.clock - dayMs ∧ TotalFits policy plan since b ∧ SliceFits policy plan since b := by
  obtain ⟨later, unraised, spared⟩ := step
  refine ⟨by omega, total.stable (unraised past), slice.stable fun mcp => spared (pastTotal_slice past mcp)⟩

theorem safe_queue (passed : since ≤ store.clock - dayMs) (total : TotalFits policy plan since store)
    (slice : SliceFits policy plan since store) :
    (Route.queue plan).safe (routeSetting policy plan.client) l (fun _ _ _ => True) (fun _ _ _ => True) store := by
  refine safe_bind (safe_request (fun store => since ≤ store.clock - dayMs ∧
    TotalFits policy plan since store ∧ SliceFits policy plan since store) ⟨passed, total, slice⟩ ?_ ?_)
  · rintro a b step ⟨passed, total, slice⟩
    exact compared_stable rfl step passed total slice
  · rintro store ⟨passed, total, slice⟩ -
    refine ⟨⟨rfl, fits_of_compared passed total slice⟩, fun reply _ => ⟨fun value next _ => ?_, fun _ _ _ => trivial⟩⟩
    refine safe_bind (safe_request (fun _ => True) trivial (fun _ _ _ => id) fun store _ _ => ?_)
    exact ⟨trivial, fun reply _ => ⟨fun _ _ _ => safe_pure trivial, fun _ _ _ => trivial⟩⟩

theorem safe_checkBudget (passed : since ≤ store.clock - dayMs) (slice : SliceFits policy plan since store) :
    (Route.checkBudget policy plan since).safe (routeSetting policy plan.client) l (fun _ _ _ => True)
      (fun _ _ _ => True) store := by
  refine safe_bind (safe_request (fun store => since ≤ store.clock - dayMs ∧
    SliceFits policy plan since store) ⟨passed, slice⟩ ?_ ?_)
  · rintro a b ⟨later, -, spared⟩ ⟨passed, slice⟩
    exact ⟨by omega, slice.stable fun mcp => spared (by simp [RouteOp.pastSlice, mcp])⟩
  · rintro store ⟨passed, slice⟩ -
    refine ⟨trivial, fun reply _ => ⟨fun spent next performed => ?_, fun _ _ _ => trivial⟩⟩
    have ran := RouteOp.perform_ok performed
    cases ran
    split
    · exact safe_pure trivial
    · next within =>
      have total : TotalFits policy plan since store := Nat.le_of_not_lt within
      refine safe_bind (safe_request (fun store => since ≤ store.clock - dayMs ∧
        TotalFits policy plan since store ∧ SliceFits policy plan since store) ⟨passed, total, slice⟩ ?_ ?_)
      · rintro a b step ⟨passed, total, slice⟩
        exact compared_stable rfl step passed total slice
      · rintro store ⟨passed, total, slice⟩ -
        refine ⟨trivial, fun reply _ => ⟨fun quota next performed => ?_, fun _ _ _ => trivial⟩⟩
        have ran := RouteOp.perform_ok performed
        cases ran
        split
        · exact safe_pure trivial
        · exact safe_queue passed total slice

theorem safe_checkSlice (charged : plan.client = client) : (Route.checkSlice policy plan).safe (routeSetting policy client) l
    (fun _ _ _ => True) (fun _ _ _ => True) store := by
  subst charged
  refine safe_bind (safe_request (fun _ => True) trivial (fun _ _ _ => id) fun store _ _ => ?_)
  refine ⟨trivial, fun reply _ => ⟨fun clock next performed => ?_, fun _ _ _ => trivial⟩⟩
  cases performed
  dsimp only
  split
  · next mcp =>
    refine safe_bind (safe_request (fun later => store.clock ≤ later.clock) (Nat.le_refl _) ?_ ?_)
    · rintro a b ⟨later, -⟩ passed
      exact Nat.le_trans passed later
    · rintro later passed -
      refine ⟨trivial, fun reply _ => ⟨fun spent next performed => ?_, fun _ _ _ => trivial⟩⟩
      have ran := RouteOp.perform_ok performed
      cases ran
      split
      · exact safe_pure trivial
      · next within => exact safe_checkBudget (by omega) fun _ => Nat.le_of_not_lt within
  · next browser => exact safe_checkBudget (Nat.le_refl _) fun mcp => absurd mcp browser

theorem route_read {op : RouteOp} (free : ∀ store, (routeSetting policy client).due op store) :
    (Route.call op).safe (routeSetting policy client) l (fun _ _ _ => True) (fun _ _ _ => True) store :=
  safe_request (fun _ => True) trivial (fun _ _ _ => id) fun store _ _ =>
    ⟨free store, fun _ _ => ⟨fun _ _ _ => trivial, fun _ _ _ => trivial⟩⟩

variable {request : DeployRequest}

theorem safe_deployIntent {intent : Intent} :
    (Route.deployIntent policy request intent).safe (routeSetting policy request.client) l (fun _ _ _ => True)
      (fun _ _ _ => True) store := by
  refine safe_bind (Action.safe_ofExcept (fun requested _ => ?_) (fun _ _ => trivial))
  refine safe_bind (Action.safe_ofExcept (fun selected _ => ?_) (fun _ _ => trivial))
  dsimp only
  split
  · exact safe_pure trivial
  · exact safe_checkSlice rfl

theorem safe_deploy :
    (Route.deploy (some policy) request).safe (routeSetting policy request.client) l (fun _ _ _ => True)
      (fun _ _ _ => True) store := by
  unfold Route.deploy
  split
  · exact safe_pure trivial
  · next chosen active =>
    obtain ⟨same, -⟩ := Option.filter_eq_some_iff.mp active
    cases same
    split
    · exact Action.safe_raise trivial
    · refine safe_bind (safe_bind (safe_imp (route_read fun _ => trivial) fun envelope l store _ => ?_))
      refine safe_bind (safe_imp (route_read fun _ => trivial) fun deployments l store _ => ?_)
      refine safe_bind (safe_imp (route_read fun _ => trivial) fun deploys l store _ => ?_)
      refine safe_pure ?_
      cases envelope with
      | none => exact safe_pure trivial
      | some envelope =>
        dsimp only [Option.map_some]
        split
        · exact safe_pure trivial
        · exact safe_deployIntent

theorem safe_handle :
    (Route.handle (some policy) request).safe (routeSetting policy request.client) l (fun _ _ _ => True)
      (fun _ _ _ => True) store :=
  Action.safe_tryCatch (Action.safe_mono safe_deploy (fun _ _ _ _ => trivial)
    (fun _ _ _ _ => safe_pure trivial))

end

end JBCenter.Sponsor
