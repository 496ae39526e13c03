import JBCenter.Base.OrderedMap
import JBCenter.Omnichain.Readings
import Mathlib.Logic.Relation

/-! Discovery of an omnichain group from its chains. The list of members grows while it is walked; a project is marked
when a verified link first names it, and joins the list while there is room. -/
namespace JBCenter.Omnichain
open Rest
open List (map_append mem_append mem_append_left mem_map mem_singleton)

structure BridgeReport where
  localSucker : String
  activeRegistryMember : Observation Json
  state : Observation Json
  accountingGossip : Observation Json
  tokenStates : Observation Json
  sourceInsertions : Observation Json

/-- The peer of a bridge; the evidence of a verified one is checked after its chain. -/
inductive Peer where
  | unverified (remote : Observation Json)
  | verified (destination : OmnichainProject) (sucker : String) (proof : Option Json)

inductive Remote where
  | unverified (remote : Observation Json)
  | verified (project : OmnichainProject) (sucker : String) (evidence : List Evidence)

structure Link where
  origin : OmnichainProject
  report : BridgeReport
  remote : Remote

structure OmnichainMember where
  project : OmnichainProject
  linkage : String
  state : Observation MemberState
  bridgeEvidence : Observation (List Evidence)

inductive Reason where
  | bridgeDiscoveryUnavailable
  | memberLimit
  | memberStateUnavailable
  | unverifiedPeerLinkage
  deriving DecidableEq

inductive Operation where
  | getProject
  | getBridges

structure Entry where
  project : OmnichainProject
  linkage : String

structure Search where
  queue : List Entry
  visited : List String
  byChain : OrderedMap Nat String
  members : List OmnichainMember
  links : List Link
  reasons : List Reason

def wrongLocal : RestError := failure "OMNICHAIN_IDENTITY_MISMATCH"
  "A registered sucker reports another local project." 502

def wrongRemote : RestError := failure "OMNICHAIN_IDENTITY_MISMATCH"
  "The verified remote identity disagrees with the local peer configuration." 502

def networkMismatch : RestError := failure "OMNICHAIN_NETWORK_MISMATCH"
  "A member belongs to a different mainnet/testnet network class." 502

def linkConflict : RestError := failure "OMNICHAIN_LINK_CONFLICT"
  "Reciprocal or indexed linkage selects conflicting project IDs on the same chain." 502

variable (rendered : Json → String) (execute : Operation → OmnichainProject → Reply)

def readPeer (ref : OmnichainProject) : Observation Json → Except RestError Peer
  | .unknown code => .ok (.unverified (.unknown code))
  | .known identity => do
    let identity ← record (some identity)
    refuse (stringOf rendered (identity.field "localProjectId") ≠ ref.projectId) wrongLocal
    match ← observation (identity.field "remote") with
    | .unknown code => return .unverified (.unknown code)
    | .known remote => do
      let verified ← record (some remote)
      match verified.field "reciprocalRegistryMembershipVerified" with
      | some (.boolean true) => do
        let destination ← project (verified.field "project")
        let remoteSucker ← address (verified.field "sucker")
        refuse (stringOf rendered (identity.field "peerChainId") ≠ toString destination.chainId) wrongRemote
        let peer ← peerAddress (identity.field "peer")
        refuse (toLowerCase peer ≠ toLowerCase remoteSucker) wrongRemote
        return .verified destination remoteSucker (verified.field "evidence")
      | _ => return .unverified (.unknown "RECIPROCAL_REGISTRY_NOT_VERIFIED")

def readBridge (ref : OmnichainProject) (rawBridge : Json) : Except RestError (BridgeReport × Peer) := do
  let bridge ← record (some rawBridge)
  let localSucker ← address (bridge.field "address")
  let identity ← observation (bridge.field "identity")
  let report : BridgeReport := {
    localSucker
    activeRegistryMember := ← observation (bridge.field "activeRegistryMember")
    state := ← observation (bridge.field "state")
    accountingGossip := ← observation (bridge.field "accountingGossip")
    tokenStates := ← observation (bridge.field "tokenStates")
    sourceInsertions := ← observation (bridge.field "outboxEvents") }
  return (report, ← readPeer rendered ref identity)

def chainMembership (byChain : OrderedMap Nat String) (member root : OmnichainProject) :
    Except RestError (OrderedMap Nat String) := do
  refuse (network member.chainId ≠ network root.chainId) networkMismatch
  refuse ((byChain.get member.chainId).any (· ≠ member.projectId)) linkConflict
  return byChain.set member.chainId member.projectId

def readState (ref : OmnichainProject) : Except RestError (Observation MemberState) :=
  read (execute .getProject ref) (fun raw => onchainState rendered raw ref)

def readBridges (ref : OmnichainProject) : Except RestError (Observation (Observation Json × List Evidence)) :=
  read (execute .getBridges ref) (fun raw => do
    let data ← record raw
    discard (matchingProject (data.field "project") ref)
    let bridges ← observation (data.field "bridges")
    return (bridges, ← evidence rendered (data.field "evidence") ref.chainId))

namespace Search

def because (s : Search) (reason : Reason) : Search :=
  { s with reasons := if reason ∈ s.reasons then s.reasons else s.reasons ++ [reason] }

def note (s : Search) (read : Observation α) (reason : Reason) : Search :=
  match read with
  | .known _ => s
  | .unknown _ => s.because reason

def mark (s : Search) (ref : OmnichainProject) : Search := { s with visited := s.visited ++ [key ref] }

/-- A project a verified link names is marked whether or not the list has room for it. -/
def enqueue (maxMembers : Nat) (s : Search) (destination : OmnichainProject) : Search :=
  if key destination ∈ s.visited then s
  else if maxMembers ≤ s.queue.length then (s.mark destination).because .memberLimit
  else { s.mark destination with
    queue := s.queue ++ [{ project := destination, linkage := "verified-reciprocal-sucker" }] }

end Search

variable (maxMembers : Nat) (root : OmnichainProject)

def link (ref : OmnichainProject) (s : Search) (rawBridge : Json) : Except RestError Search := do
  let (report, peer) ← readBridge rendered ref rawBridge
  match peer with
  | .unverified remote =>
    return { s.because .unverifiedPeerLinkage with
      links := s.links ++ [{ origin := ref, report, remote := .unverified remote }] }
  | .verified destination sucker proof => do
    let byChain ← chainMembership s.byChain destination root
    let remoteEvidence ← blockEvidence rendered destination.chainId proof
    let remote := Remote.verified destination sucker [remoteEvidence]
    let s : Search := { s with byChain, links := s.links ++ [{ origin := ref, report, remote }] }
    return Search.enqueue maxMembers s destination

/-- One member of the list, its two reads in turn. -/
def visit (s : Search) (entry : Entry) : Except RestError Search := do
  let ref := entry.project
  let state ← readState rendered execute ref
  let bridgeRead ← readBridges rendered execute ref
  let s := s.note state .memberStateUnavailable
  let bridgeEvidence := match bridgeRead with
    | .known (_, evidence) => .known evidence
    | .unknown code => .unknown code
  let s : Search := { s with
    members := s.members ++ [{ project := ref, linkage := entry.linkage, state, bridgeEvidence }] }
  match bridgeRead with
  | .known (.known bridges, _) => do
    let bridges ← boundedArray (some bridges) bridgesPerMember
    bridges.foldlM (link rendered maxMembers root ref) s
  | _ => return s.because .bridgeDiscoveryUnavailable

inductive Stop where
  | refused (error : RestError)
  | exhausted

/-- The walk over the list from its place `next`, as many members of it as the fuel allows. -/
def walk : Nat → Nat → Search → Except Stop Search
  | fuel, next, s =>
    match s.queue[next]? with
    | none => .ok s
    | some entry =>
      match fuel with
      | 0 => .error .exhausted
      | fuel + 1 => do
        let s ← (visit rendered execute maxMembers root s entry).mapError Stop.refused
        walk fuel (next + 1) s

structure Coverage where
  complete : Bool
  reasons : List Reason
  maxMembers : Nat
  visitedMembers : Nat
  discoveredIdentities : Nat
  deriving DecidableEq

structure Group where
  root : OmnichainProject
  members : List OmnichainMember
  links : List Link
  coverage : Coverage

/-- The reasons in the order of their texts. -/
def sortedReasons (reasons : List Reason) : List Reason :=
  [.bridgeDiscoveryUnavailable, .memberLimit, .memberStateUnavailable, .unverifiedPeerLinkage].filter (· ∈ reasons)

def Search.start (root : OmnichainProject) : Search where
  queue := [{ project := root, linkage := "requested-root" }]
  visited := [key root]
  byChain := OrderedMap.empty.set root.chainId root.projectId
  members := []
  links := []
  reasons := []

def onchain : Except Stop Group := do
  let s ← walk rendered execute maxMembers root maxMembers 0 (Search.start root)
  return {
    root
    members := s.members
    links := s.links
    coverage := {
      complete := s.reasons.isEmpty
      reasons := sortedReasons s.reasons
      maxMembers
      visitedMembers := s.members.length
      discoveredIdentities := s.visited.length } }

def Reported (ref : OmnichainProject) (bridges : List Json) : Prop := ∃ value evidence,
  readBridges rendered execute ref = .ok (.known (.known value, evidence)) ∧
    boundedArray (some value) bridgesPerMember = .ok bridges

def Verifies (ref : OmnichainProject) (bridge : Json) (destination : OmnichainProject) : Prop :=
  ∃ report sucker proof, readBridge rendered ref bridge = .ok (report, .verified destination sucker proof)

/-- A reciprocally verified link. -/
def Linked (ref destination : OmnichainProject) : Prop :=
  ∃ bridges, Reported rendered execute ref bridges ∧ ∃ bridge ∈ bridges, Verifies rendered ref bridge destination

/-- Nothing about a project and its links is unreadable or unverified. -/
structure Resolved (ref : OmnichainProject) : Prop where
  state : ∃ state, readState rendered execute ref = .ok (.known state)
  bridges : ∃ bridges, Reported rendered execute ref bridges ∧
    ∀ bridge ∈ bridges, ∃ destination, Verifies rendered ref bridge destination

variable {rendered execute maxMembers root}

theorem Reported.unique {ref : OmnichainProject} {some all : List Json} (one : Reported rendered execute ref some)
    (other : Reported rendered execute ref all) : some = all := by
  obtain ⟨value, _, read, bounded⟩ := one
  obtain ⟨_, _, again, others⟩ := other
  cases again.symm.trans read
  exact Except.ok.inj (bounded.symm.trans others)

theorem Verifies.unique {ref first second : OmnichainProject} {bridge : Json}
    (one : Verifies rendered ref bridge first) (other : Verifies rendered ref bridge second) : first = second := by
  obtain ⟨_, _, _, read⟩ := one
  obtain ⟨_, _, _, again⟩ := other
  cases again.symm.trans read
  rfl

namespace Search

@[simp] theorem because_queue (s : Search) (reason : Reason) : (s.because reason).queue = s.queue := rfl
@[simp] theorem because_visited (s : Search) (reason : Reason) : (s.because reason).visited = s.visited := rfl
@[simp] theorem because_byChain (s : Search) (reason : Reason) : (s.because reason).byChain = s.byChain := rfl
@[simp] theorem because_members (s : Search) (reason : Reason) : (s.because reason).members = s.members := rfl

theorem mem_because (s : Search) (reason other : Reason) :
    other ∈ (s.because reason).reasons ↔ other = reason ∨ other ∈ s.reasons := by
  unfold because
  by_cases held : reason ∈ s.reasons
  · simp only [if_pos held]
    exact ⟨Or.inr, Or.rec (fun same => same ▸ held) id⟩
  · simp [if_neg held, or_comm]

/-- What the search still holds of what it held before: places of the list stay, reasons are never withdrawn. -/
structure Grows (s t : Search) : Prop where
  queue : s.queue <+: t.queue
  reasons : ∀ reason ∈ s.reasons, reason ∈ t.reasons
  members : t.members = s.members

theorem Grows.refl (s : Search) : Grows s s := ⟨List.prefix_rfl, fun _ held => held, rfl⟩

theorem Grows.trans {s t u : Search} (first : Grows s t) (second : Grows t u) : Grows s u where
  queue := first.queue.trans second.queue
  reasons := fun reason held => second.reasons reason (first.reasons reason held)
  members := second.members.trans first.members

theorem Grows.unreasoned {s t : Search} (grows : Grows s t) (none : t.reasons = []) : s.reasons = [] :=
  List.eq_nil_iff_forall_not_mem.mpr fun reason held => by
    have held := grows.reasons reason held
    rw [none] at held
    cases held

theorem because_grows (s : Search) (reason : Reason) : Grows s (s.because reason) where
  queue := List.prefix_rfl
  reasons := fun other held => (mem_because s reason other).mpr (Or.inr held)
  members := rfl

theorem note_grows (s : Search) (read : Observation α) (reason : Reason) : Grows s (s.note read reason) := by
  cases read with
  | known => exact .refl s
  | unknown => exact because_grows s reason

theorem because_reasons_ne_nil (s : Search) (reason : Reason) : (s.because reason).reasons ≠ [] :=
  List.ne_nil_of_mem ((mem_because s reason reason).mpr (Or.inl rfl))

theorem note_known {s : Search} {read : Observation α} {reason : Reason} (none : (s.note read reason).reasons = []) :
    ∃ value, read = .known value := by
  cases read with
  | known value => exact ⟨value, rfl⟩
  | unknown => exact absurd none (because_reasons_ne_nil s reason)

theorem enqueue_grows (s : Search) (destination : OmnichainProject) : Grows s (s.enqueue maxMembers destination) := by
  unfold enqueue
  split
  · exact .refl s
  · split
    · exact ⟨List.prefix_rfl, fun reason held => (mem_because ..).mpr (Or.inr held), rfl⟩
    · exact ⟨List.prefix_append .., fun _ held => held, rfl⟩

/-- What holds of the search at every point of the walk. -/
structure Sound (linked : OmnichainProject → OmnichainProject → Prop) (maxMembers : Nat) (root : OmnichainProject)
    (s : Search) : Prop where
  first : ∃ rest, s.queue.map Entry.project = root :: rest
  distinct : (s.queue.map Entry.project).Nodup
  few : s.queue.length ≤ maxMembers
  marked : ∀ entry ∈ s.queue, key entry.project ∈ s.visited
  kept : ∀ ref, key ref ∈ s.visited → ref ∈ s.queue.map Entry.project ∨ .memberLimit ∈ s.reasons
  reached : ∀ entry ∈ s.queue, Relation.ReflTransGen linked root entry.project
  network : ∀ entry ∈ s.queue, network entry.project.chainId = network root.chainId
  chains : ∀ entry ∈ s.queue, s.byChain.get entry.project.chainId = some entry.project.projectId

variable {linked : OmnichainProject → OmnichainProject → Prop} {s : Search}

theorem sound_start (room : 1 ≤ maxMembers) : Sound linked maxMembers root (start root) where
  first := ⟨[], rfl⟩
  distinct := List.nodup_singleton _
  few := room
  marked := by simp [start]
  kept := by
    intro ref held
    exact Or.inl (mem_singleton.mpr (key_inj.mp (mem_singleton.mp held)))
  reached := by
    intro entry held
    rw [mem_singleton.mp held]
  network := by
    intro entry held
    rw [mem_singleton.mp held]
  chains := by
    intro entry held
    rw [mem_singleton.mp held]
    exact OrderedMap.get_set_self ..

theorem Sound.because (sound : Sound linked maxMembers root s) (reason : Reason) :
    Sound linked maxMembers root (s.because reason) where
  first := sound.first
  distinct := sound.distinct
  few := sound.few
  marked := sound.marked
  kept := fun ref held => (sound.kept ref held).imp_right (fun limited => (mem_because ..).mpr (Or.inr limited))
  reached := sound.reached
  network := sound.network
  chains := sound.chains

theorem Sound.note (sound : Sound linked maxMembers root s) (read : Observation α) (reason : Reason) :
    Sound linked maxMembers root (s.note read reason) := by
  cases read with
  | known => exact sound
  | unknown => exact sound.because reason

theorem Sound.recorded (sound : Sound linked maxMembers root s) (members : List OmnichainMember) (links : List Link) :
    Sound linked maxMembers root { s with members, links } :=
  ⟨sound.first, sound.distinct, sound.few, sound.marked, sound.kept, sound.reached, sound.network, sound.chains⟩

theorem Sound.chained (sound : Sound linked maxMembers root s) {destination : OmnichainProject}
    {byChain : OrderedMap Nat String} (checked : chainMembership s.byChain destination root = .ok byChain) :
    Sound linked maxMembers root { s with byChain } := by
  unfold chainMembership at checked
  obtain ⟨_, checked⟩ := ok_refuse checked
  obtain ⟨agreed, checked⟩ := ok_refuse checked
  cases checked
  refine ⟨sound.first, sound.distinct, sound.few, sound.marked, sound.kept, sound.reached, sound.network, ?_⟩
  intro entry held
  have known := sound.chains entry held
  change (s.byChain.set destination.chainId destination.projectId).get entry.project.chainId = _
  rw [OrderedMap.get_set]
  split
  · rename_i same
    rw [← same, known] at agreed
    have agreed : entry.project.projectId = destination.projectId := by simpa using agreed
    rw [agreed]
  · exact known

theorem Sound.enqueue (sound : Sound linked maxMembers root s) {ref destination : OmnichainProject}
    (path : Relation.ReflTransGen linked root ref) (verified : linked ref destination)
    (sameNetwork : Omnichain.network destination.chainId = Omnichain.network root.chainId)
    (ownChain : s.byChain.get destination.chainId = some destination.projectId) :
    Sound linked maxMembers root (s.enqueue maxMembers destination) := by
  unfold Search.enqueue
  split
  · exact sound
  · rename_i unmarked
    split
    · refine Sound.mk sound.first sound.distinct sound.few ?_ ?_ sound.reached sound.network sound.chains
      · exact fun entry held => mem_append_left _ (sound.marked entry held)
      · exact fun ref _ => Or.inr ((mem_because ..).mpr (Or.inl rfl))
    · rename_i room
      obtain ⟨rest, first⟩ := sound.first
      have unlisted : destination ∉ s.queue.map Entry.project := by
        intro listed
        obtain ⟨entry, held, rfl⟩ := mem_map.mp listed
        exact unmarked (sound.marked entry held)
      have each : ∀ {P : Entry → Prop}, (∀ entry ∈ s.queue, P entry) →
          P { project := destination, linkage := "verified-reciprocal-sucker" } →
          ∀ entry ∈ s.queue ++ [{ project := destination, linkage := "verified-reciprocal-sucker" }], P entry := by
        intro P old new entry held
        obtain held | held := mem_append.mp held
        · exact old entry held
        · rw [mem_singleton.mp held]
          exact new
      constructor
      · exact ⟨rest ++ [destination], by rw [map_append, first]; rfl⟩
      · rw [map_append]
        exact List.nodup_append.mpr ⟨sound.distinct, List.nodup_singleton _, by
          rintro a held _ last rfl
          have same : a = destination := mem_singleton.mp last
          exact unlisted (same ▸ held)⟩
      · rw [List.length_append]
        exact Nat.lt_of_not_le room
      · exact each (fun entry held => mem_append_left _ (sound.marked entry held))
          (List.mem_append_right _ (mem_singleton.mpr rfl))
      · intro ref held
        rw [map_append]
        obtain held | held := mem_append.mp held
        · exact (sound.kept ref held).imp_left (mem_append_left _)
        · exact Or.inl (List.mem_append_right _ (mem_singleton.mpr (key_inj.mp (mem_singleton.mp held))))
      · exact each sound.reached (path.tail verified)
      · exact each sound.network sameNetwork
      · exact each sound.chains ownChain

theorem marked_enqueue (s : Search) (destination : OmnichainProject) :
    key destination ∈ (s.enqueue maxMembers destination).visited := by
  unfold Search.enqueue
  split
  · assumption
  · split <;> exact List.mem_append_right _ (mem_singleton.mpr rfl)

end Search

open Search

variable {s t : Search} {ref : OmnichainProject}

theorem link_ok {bridges : List Json} {bridge : Json} (reported : Reported rendered execute ref bridges)
    (member : bridge ∈ bridges) (path : Relation.ReflTransGen (Linked rendered execute) root ref)
    (sound : Sound (Linked rendered execute) maxMembers root s)
    (ran : link rendered maxMembers root ref s bridge = .ok t) :
    Sound (Linked rendered execute) maxMembers root t ∧ Grows s t ∧
      (t.reasons = [] → ∃ destination, Verifies rendered ref bridge destination ∧
        destination ∈ t.queue.map Entry.project) := by
  unfold link at ran
  obtain ⟨⟨report, peer⟩, read, ran⟩ := ok_bind ran
  cases peer with
  | unverified remote =>
    cases ran
    refine ⟨(sound.because _).recorded _ _, ⟨List.prefix_rfl, (because_grows s _).reasons, rfl⟩, fun none => ?_⟩
    exact absurd none (because_reasons_ne_nil s .unverifiedPeerLinkage)
  | verified destination sucker proof =>
    obtain ⟨byChain, checked, ran⟩ := ok_bind ran
    obtain ⟨evidence, _, ran⟩ := ok_bind ran
    cases ran
    have verifies : Verifies rendered ref bridge destination := ⟨report, sucker, proof, read⟩
    have sameNetwork : network destination.chainId = network root.chainId := by
      unfold chainMembership at checked
      simpa using (ok_refuse checked).1
    have ownChain : byChain.get destination.chainId = some destination.projectId := by
      unfold chainMembership at checked
      cases (ok_refuse (ok_refuse checked).2).2
      exact OrderedMap.get_set_self ..
    have linked : Linked rendered execute ref destination := ⟨bridges, reported, bridge, member, verifies⟩
    have next := ((sound.chained checked).recorded s.members
      (s.links ++ [⟨ref, report, .verified destination sucker [evidence]⟩])).enqueue path linked sameNetwork ownChain
    have grows : Grows _ (Search.enqueue maxMembers { s with
      byChain, links := s.links ++ [⟨ref, report, .verified destination sucker [evidence]⟩] } destination) :=
      enqueue_grows _ destination
    refine ⟨next, ⟨grows.queue, grows.reasons, grows.members⟩, fun none => ?_⟩
    obtain held | limited := next.kept destination (marked_enqueue _ destination)
    · exact ⟨destination, verifies, held⟩
    · rw [none] at limited
      cases limited

theorem links_ok {bridges rest : List Json} (reported : Reported rendered execute ref bridges)
    (among : ∀ bridge ∈ rest, bridge ∈ bridges) (path : Relation.ReflTransGen (Linked rendered execute) root ref)
    (sound : Sound (Linked rendered execute) maxMembers root s)
    (ran : rest.foldlM (link rendered maxMembers root ref) s = .ok t) :
    Sound (Linked rendered execute) maxMembers root t ∧ Grows s t ∧
      (t.reasons = [] → ∀ bridge ∈ rest, ∃ destination, Verifies rendered ref bridge destination ∧
        destination ∈ t.queue.map Entry.project) := by
  induction rest generalizing s with
  | nil =>
    cases ran
    exact ⟨sound, .refl _, fun _ => nofun⟩
  | cons bridge rest ih =>
    rw [List.foldlM_cons] at ran
    obtain ⟨u, first, ran⟩ := ok_bind ran
    obtain ⟨here, grows, found⟩ := link_ok reported (among _ List.mem_cons_self) path sound first
    obtain ⟨after, grown, others⟩ := ih (fun other held => among other (List.mem_cons_of_mem _ held)) here ran
    refine ⟨after, grows.trans grown, fun none => List.forall_mem_cons.mpr ⟨?_, others none⟩⟩
    obtain ⟨destination, verifies, listed⟩ := found (grown.unreasoned none)
    exact ⟨destination, verifies, (grown.queue.map _).subset listed⟩

/-- What the walk has settled of the members it has visited. -/
structure Settled (execute : Operation → OmnichainProject → Reply) (rendered : Json → String) (next : Nat)
    (s : Search) : Prop where
  members : s.members.map OmnichainMember.project = (s.queue.take next).map Entry.project
  resolved : s.reasons = [] → ∀ ref ∈ (s.queue.take next).map Entry.project, Resolved rendered execute ref ∧
    ∀ destination, Linked rendered execute ref destination → destination ∈ s.queue.map Entry.project

theorem Settled.visited {next : Nat} {entry : Entry} (settled : Settled execute rendered next s)
    (place : s.queue[next]? = some entry) (grows : s.queue <+: t.queue) (fewer : t.reasons = [] → s.reasons = [])
    (members : t.members.map OmnichainMember.project = s.members.map OmnichainMember.project ++ [entry.project])
    (resolved : t.reasons = [] → Resolved rendered execute entry.project ∧
      ∀ destination, Linked rendered execute entry.project destination → destination ∈ t.queue.map Entry.project) :
    Settled execute rendered (next + 1) t := by
  obtain ⟨added, longer⟩ := grows
  have inside := (List.getElem?_eq_some_iff.mp place).1
  have taken : (t.queue.take (next + 1)).map Entry.project =
      (s.queue.take next).map Entry.project ++ [entry.project] := by
    rw [← longer, List.take_append_of_le_length inside, List.take_add_one, place, Option.toList_some, map_append]
    rfl
  constructor
  · rw [members, settled.members, taken]
  · intro none ref held
    rw [taken] at held
    obtain held | held := mem_append.mp held
    · obtain ⟨known, links⟩ := settled.resolved (fewer none) ref held
      refine ⟨known, fun destination linked => ?_⟩
      rw [← longer, map_append]
      exact mem_append_left _ (links destination linked)
    · rw [mem_singleton.mp held]
      exact resolved none

theorem visit_ok {next : Nat} {entry : Entry} (place : s.queue[next]? = some entry)
    (sound : Sound (Linked rendered execute) maxMembers root s) (settled : Settled execute rendered next s)
    (ran : visit rendered execute maxMembers root s entry = .ok t) :
    Sound (Linked rendered execute) maxMembers root t ∧ Settled execute rendered (next + 1) t := by
  have path := sound.reached entry (List.mem_of_getElem? place)
  unfold visit at ran
  obtain ⟨state, stateRead, ran⟩ := ok_bind ran
  obtain ⟨bridgeRead, bridgesRead, ran⟩ := ok_bind ran
  have grows := note_grows s state .memberStateUnavailable
  have noted := sound.note state .memberStateUnavailable
  -- without a known list of bridges the member counts as visited, for a reason
  have missed : ∀ bridgeEvidence, t = Search.because { s.note state .memberStateUnavailable with
      members := (s.note state .memberStateUnavailable).members ++
        [⟨entry.project, entry.linkage, state, bridgeEvidence⟩] } .bridgeDiscoveryUnavailable →
      Sound (Linked rendered execute) maxMembers root t ∧ Settled execute rendered (next + 1) t := by
    rintro bridgeEvidence rfl
    refine ⟨(noted.recorded _ _).because _, settled.visited place grows.queue ?_ ?_ ?_⟩
    · exact fun none => absurd none (because_reasons_ne_nil _ _)
    · rw [because_members, map_append, grows.members]
      rfl
    · exact fun none => absurd none (because_reasons_ne_nil _ _)
  cases bridgeRead with
  | unknown code =>
    cases ran
    exact missed _ rfl
  | known report =>
    obtain ⟨bridges, evidence⟩ := report
    cases bridges with
    | unknown code =>
      cases ran
      exact missed _ rfl
    | known value =>
      obtain ⟨bridges, bounded, ran⟩ := ok_bind ran
      have reported : Reported rendered execute entry.project bridges := ⟨value, evidence, bridgesRead, bounded⟩
      obtain ⟨after, grown, links⟩ := links_ok reported (fun _ held => held) path (noted.recorded _ _) ran
      refine ⟨after, settled.visited place (grows.queue.trans grown.queue) ?_ ?_ ?_⟩
      · exact fun none => grows.unreasoned (grown.unreasoned none)
      · rw [grown.members, map_append, grows.members]
        rfl
      · intro none
        obtain ⟨known, stateKnown⟩ := note_known (grown.unreasoned none)
        refine ⟨⟨⟨known, stateKnown ▸ stateRead⟩, bridges, reported, fun bridge held => ?_⟩, ?_⟩
        · obtain ⟨destination, verifies, _⟩ := links none bridge held
          exact ⟨destination, verifies⟩
        · rintro destination ⟨others, also, bridge, held, verifies⟩
          obtain ⟨known, same, listed⟩ := links none bridge (also.unique reported ▸ held)
          rwa [verifies.unique same]

/-- The walk ends, and ends having visited the whole list. -/
theorem walk_ok {fuel next : Nat} (room : maxMembers ≤ fuel + next)
    (sound : Sound (Linked rendered execute) maxMembers root s) (settled : Settled execute rendered next s) :
    match walk rendered execute maxMembers root fuel next s with
    | .ok t => Sound (Linked rendered execute) maxMembers root t ∧
        ∃ last, t.queue.length ≤ last ∧ Settled execute rendered last t
    | .error stop => ∃ error, stop = .refused error := by
  induction fuel generalizing next s with
  | zero =>
    have past : s.queue.length ≤ next := by have few := sound.few; omega
    rw [walk, List.getElem?_eq_none past]
    exact ⟨sound, next, past, settled⟩
  | succ fuel ih =>
    rw [walk]
    cases place : s.queue[next]? with
    | none => exact ⟨sound, next, List.getElem?_eq_none_iff.mp place, settled⟩
    | some entry =>
      cases ran : visit rendered execute maxMembers root s entry with
      | error error =>
        simp only [ran]
        exact ⟨error, rfl⟩
      | ok t =>
        obtain ⟨sound, settled⟩ := visit_ok place sound settled ran
        simp only [ran]
        exact ih (by omega) sound settled

/-- Discovery ends. A group it returns holds distinct members that verified links reach from the root, few enough, of the
root's network and one for each chain; a complete one holds all that links reach, and missed nothing of any of them. -/
theorem discovery_exact (room : 1 ≤ maxMembers) :
    onchain rendered execute maxMembers root ≠ .error .exhausted ∧
    ∀ group, onchain rendered execute maxMembers root = .ok group →
      (group.members.map OmnichainMember.project).Nodup ∧ group.members.length ≤ maxMembers ∧
      (∀ member ∈ group.members, Relation.ReflTransGen (Linked rendered execute) root member.project ∧
        network member.project.chainId = network root.chainId) ∧
      (∀ member ∈ group.members, ∀ other ∈ group.members, member.project.chainId = other.project.chainId →
        member.project = other.project) ∧
      (group.coverage.complete = true →
        (∀ ref, ref ∈ group.members.map OmnichainMember.project ↔
          Relation.ReflTransGen (Linked rendered execute) root ref) ∧
        ∀ member ∈ group.members, Resolved rendered execute member.project) := by
  have sound : Sound (Linked rendered execute) maxMembers root (start root) := sound_start room
  have settled : Settled execute rendered 0 (start root) := ⟨rfl, fun _ _ held => by cases held⟩
  have ended := walk_ok (Nat.le_add_right maxMembers 0) sound settled
  unfold onchain
  cases ran : walk rendered execute maxMembers root maxMembers 0 (start root) with
  | error stop =>
    rw [ran] at ended
    obtain ⟨error, rfl⟩ := ended
    exact ⟨nofun, nofun⟩
  | ok s =>
    rw [ran] at ended
    obtain ⟨sound, last, whole, settled⟩ := ended
    refine ⟨nofun, ?_⟩
    rintro group ⟨rfl⟩
    have listed : s.members.map OmnichainMember.project = s.queue.map Entry.project := by
      rw [settled.members, List.take_of_length_le whole]
    have entryOf : ∀ member ∈ s.members, ∃ entry ∈ s.queue, entry.project = member.project := by
      intro member held
      have held : member.project ∈ s.members.map OmnichainMember.project := List.mem_map_of_mem held
      rw [listed] at held
      exact mem_map.mp held
    refine ⟨listed ▸ sound.distinct, ?_, ?_, ?_, fun complete => ?_⟩
    · have count := congrArg List.length listed
      rw [List.length_map, List.length_map] at count
      exact count ▸ sound.few
    · intro member held
      obtain ⟨entry, held, same⟩ := entryOf member held
      exact same ▸ ⟨sound.reached entry held, sound.network entry held⟩
    · intro member held other also same
      obtain ⟨entry, held, first⟩ := entryOf member held
      obtain ⟨another, also, second⟩ := entryOf other also
      have chain := sound.chains entry held
      have others := sound.chains another also
      rw [first, same, ← second, others, second] at chain
      cases one : member.project
      cases two : other.project
      simp_all
    · have none : s.reasons = [] := List.isEmpty_iff.mp complete
      have resolved := settled.resolved none
      rw [List.take_of_length_le whole] at resolved
      change (∀ ref, ref ∈ s.members.map OmnichainMember.project ↔ _) ∧ ∀ member ∈ s.members, _
      rw [listed]
      refine ⟨fun ref => ⟨fun held => ?_, fun path => ?_⟩, fun member held => ?_⟩
      · obtain ⟨entry, place, rfl⟩ := mem_map.mp held
        exact sound.reached entry place
      · induction path with
        | refl =>
          obtain ⟨rest, first⟩ := sound.first
          rw [first]
          exact List.mem_cons_self
        | tail _ linked held => exact (resolved _ held).2 _ linked
      · obtain ⟨entry, held, same⟩ := entryOf member held
        exact same ▸ (resolved _ (List.mem_map_of_mem held)).1

namespace DiscoverySample

def account : String := "0x1111111111111111111111111111111111111111"

def known (value : Json) : Json := .object [("status", .text "known"), ("value", value)]

def unknown : Json := .object [("status", .text "unknown")]

def named (ref : OmnichainProject) : Json :=
  .object [("version", .number (.integer 6)), ("chainId", .number (.integer ref.chainId)), ("projectId", .text ref.projectId)]

def block (ref : OmnichainProject) : Json :=
  .object [("chainId", .number (.integer ref.chainId)), ("source", .text "rpc"), ("blockNumber", .text "1"),
    ("blockHash", .text "0x2222222222222222222222222222222222222222222222222222222222222222"), ("timestamp", .text "1")]

/-- The three projects of a ring: each is linked to the next. -/
def after (ref : OmnichainProject) : OmnichainProject :=
  if ref.chainId = 1 then ⟨10, "8"⟩ else if ref.chainId = 10 then ⟨8453, "9"⟩ else ⟨1, "7"⟩

def bridge (ref : OmnichainProject) : Json :=
  .object [("address", .text account), ("activeRegistryMember", unknown), ("state", unknown), ("accountingGossip", unknown),
    ("tokenStates", unknown), ("outboxEvents", unknown), ("identity", known (.object [
      ("localProjectId", .text ref.projectId), ("peerChainId", .number (.integer (after ref).chainId)),
      ("peer", .text "0x0000000000000000000000001111111111111111111111111111111111111111"),
      ("remote", known (.object [("reciprocalRegistryMembershipVerified", .boolean true), ("project", named (after ref)),
        ("sucker", .text account), ("evidence", block (after ref))]))]))]

def ring : Operation → OmnichainProject → Reply
  | .getProject, ref => .answered (some (.object [("project", named ref), ("owner", unknown), ("controller", unknown),
      ("token", unknown), ("supply", .object []), ("terminals", unknown), ("evidence", .array [block ref])]))
  | .getBridges, ref => .answered (some (.object [("project", named ref), ("bridges", known (.array [bridge ref])),
      ("evidence", .array [block ref])]))

/-- What the discovery of the ring from its first project comes to. -/
def discovered (maxMembers : Nat) : Option (List OmnichainProject × Coverage) :=
  (onchain (fun _ => "") ring maxMembers ⟨1, "7"⟩).toOption.map fun group =>
    (group.members.map OmnichainMember.project, group.coverage)

end DiscoverySample

open DiscoverySample

/-- The ring is walked until it closes, and is complete; where it does not fit, its last project is left out. -/
theorem discovery_exact_sample :
    (discovered 8 = some ([⟨1, "7"⟩, ⟨10, "8"⟩, ⟨8453, "9"⟩], ⟨true, [], 8, 3, 3⟩) ∧
      ∀ ref, ref ∈ [(⟨1, "7"⟩ : OmnichainProject), ⟨10, "8"⟩, ⟨8453, "9"⟩] ↔
        Relation.ReflTransGen (Linked (fun _ => "") ring) ⟨1, "7"⟩ ref) ∧
    discovered 2 = some ([⟨1, "7"⟩, ⟨10, "8"⟩], ⟨false, [.memberLimit], 2, 2, 3⟩) := by
  have whole : discovered 8 = some ([⟨1, "7"⟩, ⟨10, "8"⟩, ⟨8453, "9"⟩], ⟨true, [], 8, 3, 3⟩) := by decide +kernel
  refine ⟨⟨whole, ?_⟩, by decide +kernel⟩
  unfold discovered at whole
  cases ran : onchain (fun _ => "") ring 8 ⟨1, "7"⟩ with
  | error stop =>
    rw [ran] at whole
    cases whole
  | ok group =>
    rw [ran] at whole
    obtain ⟨members, coverage⟩ := Prod.mk.inj (Option.some.inj whole)
    have complete := ((discovery_exact (by decide)).2 group ran).2.2.2.2 (congrArg Coverage.complete coverage)
    exact members ▸ complete.1

end JBCenter.Omnichain
