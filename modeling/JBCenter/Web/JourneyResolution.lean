import JBCenter.Web.JourneyGraph
import Mathlib.Data.List.Nodup
import Mathlib.Data.List.Perm.Subperm
import Mathlib.Logic.Relation

/-! The resolution pass refuses exactly the graphs with a place to be stuck or to go round in,
so that every walk through an accepted graph ends at a resource. -/
namespace JBCenter.Journeys
open Relation

variable {nodes : List JourneyNode} {id : String} {s next : Sets}

/-- An edge from one place to another. -/
def Edge (nodes : List JourneyNode) (a b : String) : Prop :=
  ∃ node ∈ nodes, node.id = a ∧ ∃ edge ∈ node.edges, edge.target = b

/-- An edge out of a question. A cycle of such edges consists of questions only. -/
def Leads (nodes : List JourneyNode) (a b : String) : Prop :=
  ∃ node, nodeById nodes a = some node ∧ node.kind = .question ∧ ∃ edge ∈ node.edges, edge.target = b

/-- What the pass refuses: a resource or a question that leads nowhere, or questions in a circle. -/
inductive Flawed (nodes : List JourneyNode) : Prop
  | resource {place node} (found : nodeById nodes place = some node) (kind : node.kind = .resource)
      (nowhere : node.hasDestination = false)
  | question {place node} (found : nodeById nodes place = some node) (kind : node.kind = .question)
      (nowhere : node.edges = [])
  | cycle {place} (round : TransGen (Leads nodes) place place)

/-- Every choice of edges from here ends at a resource. -/
inductive Settled (nodes : List JourneyNode) : String → Prop
  | resource {place node} (found : nodeById nodes place = some node) (kind : node.kind = .resource)
      (usable : node.hasDestination = true) : Settled nodes place
  | question {place node} (found : nodeById nodes place = some node) (kind : node.kind = .question)
      (leads : node.edges ≠ []) (each : ∀ edge ∈ node.edges, Settled nodes edge.target) : Settled nodes place

variable {node : JourneyNode}

theorem nodeById_mem (found : nodeById nodes id = some node) : node ∈ nodes ∧ node.id = id := by
  have member := List.mem_of_getLast? found
  rw [List.mem_filter] at member
  exact ⟨member.1, of_decide_eq_true member.2⟩

theorem nodeById_known (member : node ∈ nodes) : ∃ found, nodeById nodes node.id = some found := by
  have filtered : node ∈ nodes.filter (fun other => other.id = node.id) :=
    List.mem_filter.mpr ⟨member, decide_eq_true rfl⟩
  exact ⟨_, List.getLast?_eq_some_getLast (List.ne_nil_of_mem filtered)⟩

theorem nodeById_unique (unique : (nodes.map JourneyNode.id).Nodup) (member : node ∈ nodes) :
    nodeById nodes node.id = some node := by
  obtain ⟨found, held⟩ := nodeById_known member
  obtain ⟨other, same⟩ := nodeById_mem held
  rw [held, List.inj_on_of_nodup_map unique other member same]

/-- The visited path is one of known questions without repeats, and all that is resolved is settled. -/
structure Sound (nodes : List JourneyNode) (s : Sets) : Prop where
  distinct : s.visiting.Nodup
  known : ∀ id ∈ s.visiting, ∃ node, nodeById nodes id = some node ∧ node.kind = .question
  settled : ∀ id ∈ s.resolved, Settled nodes id

theorem Sound.start : Sound nodes ⟨[], []⟩ := ⟨.nil, nofun, nofun⟩

theorem Sound.visiting_length (sound : Sound nodes s) : s.visiting.length ≤ nodes.length := by
  have among : s.visiting ⊆ nodes.map JourneyNode.id := by
    intro id member
    obtain ⟨node, found, _⟩ := sound.known id member
    obtain ⟨held, named⟩ := nodeById_mem found
    exact named ▸ List.mem_map_of_mem held
  calc s.visiting.length ≤ (nodes.map JourneyNode.id).length := (List.Nodup.subperm sound.distinct among).length_le
    _ = nodes.length := List.length_map ..

theorem Sound.visit (sound : Sound nodes s) (found : nodeById nodes id = some node)
    (kind : node.kind = .question) (fresh : id ∉ s.visiting) : Sound nodes { s with visiting := s.visiting ++ [id] } := by
  refine ⟨?_, ?_, sound.settled⟩
  · exact List.nodup_append.mpr ⟨sound.distinct, List.nodup_singleton id, by
      rintro other member _ (_ | ⟨_, ⟨⟩⟩) rfl
      exact fresh member⟩
  · intro other member
    rcases List.mem_append.mp member with earlier | here
    · exact sound.known other earlier
    · exact List.mem_singleton.mp here ▸ ⟨node, found, kind⟩

/-- What a call that returns has done: the path is as it was, and its place is resolved. -/
structure Advance (nodes : List JourneyNode) (s : Sets) (ids : List String) (next : Sets) : Prop where
  sound : Sound nodes next
  visiting : next.visiting = s.visiting
  grows : s.resolved ⊆ next.resolved
  marked : ∀ id ∈ ids, id ∈ next.resolved

theorem Advance.foldlM {f : Sets → α → Except Thrown Sets} {mark : α → String} {items : List α} {path : List String}
    (folded : items.foldlM f s = .ok next) (sound : Sound nodes s) (there : s.visiting = path)
    (each : ∀ s item next, item ∈ items → Sound nodes s → s.visiting = path → f s item = .ok next →
      Advance nodes s [mark item] next) : Advance nodes s (items.map mark) next := by
  induction items generalizing s with
  | nil =>
    cases folded
    exact ⟨sound, rfl, List.Subset.refl _, nofun⟩
  | cons item rest ih =>
    rw [List.foldlM_cons] at folded
    obtain ⟨middle, first, folded⟩ := ok_bind folded
    have step := each s item middle List.mem_cons_self sound there first
    have others := ih folded step.sound (step.visiting.trans there)
      (fun s other next member => each s other next (List.mem_cons_of_mem _ member))
    refine ⟨others.sound, others.visiting.trans step.visiting, List.Subset.trans step.grows others.grows, ?_⟩
    exact List.forall_mem_cons.mpr ⟨others.grows (step.marked _ List.mem_cons_self), others.marked⟩

/-- The questions of the path lead to the place the call is about. -/
def Approaches (nodes : List JourneyNode) (s : Sets) (id : String) : Prop := ∀ v ∈ s.visiting, TransGen (Leads nodes) v id

theorem Approaches.step {edge : JourneyEdge} (path : Approaches nodes s id)
    (found : nodeById nodes id = some node) (kind : node.kind = .question) (member : edge ∈ node.edges)
    (visiting : next.visiting = s.visiting ++ [id]) : Approaches nodes next edge.target := by
  have leads : Leads nodes id edge.target := ⟨node, found, kind, edge, member, rfl⟩
  intro v visited
  rw [visiting] at visited
  rcases List.mem_append.mp visited with earlier | here
  · exact (path v earlier).tail leads
  · exact List.mem_singleton.mp here ▸ TransGen.single leads

theorem resolveQuestion_ok {fuel : Nat} {path : List String} (sound : Sound nodes s)
    (ran : resolveQuestion nodes fuel path id s = .ok next) : Advance nodes s [id] next := by
  induction fuel generalizing path id s next with
  | zero => cases ran
  | succ fuel ih =>
    rw [resolveQuestion] at ran
    by_cases done : s.resolved.contains id = true
    · rw [if_pos done] at ran
      cases ran
      exact ⟨sound, rfl, List.Subset.refl _, fun _ member => List.mem_singleton.mp member ▸ List.contains_iff_mem.mp done⟩
    · rw [if_neg done] at ran
      cases found : nodeById nodes id with
      | none =>
        rw [found] at ran
        cases ran
      | some node =>
        rw [found] at ran
        -- a resolved place is settled, whichever kind it is
        have marks {after : Sets} (kept : Sound nodes after) (settled : Settled nodes id) :
            ∀ other ∈ after.resolved ++ [id], Settled nodes other := by
          intro other member
          rcases List.mem_append.mp member with earlier | here
          · exact kept.settled other earlier
          · exact List.mem_singleton.mp here ▸ settled
        have last {resolved : List String} : ∀ other ∈ [id], other ∈ resolved ++ [id] :=
          fun _ member => List.mem_append_right _ member
        cases kind : node.kind with
        | resource =>
          simp only [kind] at ran
          obtain ⟨usable, ran⟩ := ok_refuse ran
          cases ran
          have settled : Settled nodes id := .resource found kind (by simpa using usable)
          exact ⟨⟨sound.distinct, sound.known, marks sound settled⟩, rfl, List.subset_append_left _ _, last⟩
        | question =>
          simp only [kind] at ran
          obtain ⟨unvisited, ran⟩ := ok_refuse ran
          obtain ⟨leads, ran⟩ := ok_refuse ran
          obtain ⟨after, folded, ran⟩ := ok_bind ran
          cases ran
          have fresh : id ∉ s.visiting := fun visited =>
            absurd (List.contains_iff_mem.mpr visited) (ne_true_of_eq_false unvisited)
          have edges : node.edges ≠ [] := fun empty => by simp [empty] at leads
          have walked : Advance nodes _ _ after := Advance.foldlM folded (sound.visit found kind fresh) rfl
            (fun acc edge other _ kept _ called => ih kept called)
          have settled : Settled nodes id := .question found kind edges
            (fun edge member => walked.sound.settled _ (walked.marked _ (List.mem_map_of_mem member)))
          have restored : after.visiting.filter (· ≠ id) = s.visiting := by
            have others : ∀ other ∈ s.visiting, decide (other ≠ id) = true := by
              rintro other member
              exact decide_eq_true fun same => fresh (same ▸ member)
            rw [walked.visiting, List.filter_append, List.filter_eq_self.mpr others]
            simp
          refine ⟨⟨?_, ?_, marks walked.sound settled⟩, restored, fun _ member => ?_, last⟩
          · exact restored ▸ sound.distinct
          · exact restored ▸ sound.known
          · exact List.mem_append_left _ (walked.grows member)

/-- An edge to a place that is no node. -/
def Dangling (nodes : List JourneyNode) : Prop :=
  ∃ place node, nodeById nodes place = some node ∧ ∃ edge ∈ node.edges, nodeById nodes edge.target = none

theorem resolveQuestion_error {fuel : Nat} {path : List String} {thrown : Thrown} (sound : Sound nodes s)
    (room : nodes.length < fuel + s.visiting.length) (approach : Approaches nodes s id)
    (ran : resolveQuestion nodes fuel path id s = .error thrown) :
    thrown = .typeError ∧ (nodeById nodes id = none ∨ Dangling nodes) ∨
      (∃ message, thrown = .error message) ∧ Flawed nodes := by
  induction fuel generalizing path id s with
  | zero =>
    have short := sound.visiting_length
    omega
  | succ fuel ih =>
    rw [resolveQuestion] at ran
    by_cases done : s.resolved.contains id = true
    · rw [if_pos done] at ran
      cases ran
    · rw [if_neg done] at ran
      cases found : nodeById nodes id with
      | none =>
        rw [found] at ran
        cases ran
        exact Or.inl ⟨rfl, Or.inl rfl⟩
      | some node =>
        rw [found] at ran
        cases kind : node.kind with
        | resource =>
          simp only [kind] at ran
          obtain ⟨nowhere, thrown⟩ | ⟨_, ⟨⟩⟩ := refuse_bind_cases ran
          exact Or.inr ⟨⟨_, thrown⟩, .resource found kind (by simpa using nowhere)⟩
        | question =>
          simp only [kind] at ran
          obtain ⟨visited, thrown⟩ | ⟨unvisited, ran⟩ := refuse_bind_cases ran
          · exact Or.inr ⟨⟨_, thrown⟩, .cycle (approach id (List.contains_iff_mem.mp visited))⟩
          obtain ⟨nowhere, thrown⟩ | ⟨_, ran⟩ := refuse_bind_cases ran
          · exact Or.inr ⟨⟨_, thrown⟩, .question found kind (List.isEmpty_iff.mp nowhere)⟩
          obtain failed | ⟨after, _, ⟨⟩⟩ := except_bind_error ran
          have fresh : id ∉ s.visiting := fun visited =>
            absurd (List.contains_iff_mem.mpr visited) (ne_true_of_eq_false unvisited)
          -- the call that failed was made for an edge, with this question on the path
          obtain ⟨acc, edge, member, ⟨kept, visiting⟩, failed⟩ := foldlM_error
            (P := fun acc => Sound nodes acc ∧ acc.visiting = s.visiting ++ [id]) failed ⟨sound.visit found kind fresh, rfl⟩
            (fun acc edge after _ ⟨kept, visiting⟩ called =>
              have advance := resolveQuestion_ok kept called
              ⟨advance.sound, advance.visiting.trans visiting⟩)
          have deeper : nodes.length < fuel + acc.visiting.length := by
            rw [visiting, List.length_append, List.length_singleton]
            omega
          obtain ⟨thrown, unknown | dangling⟩ | flawed := ih kept deeper (approach.step found kind member visiting) failed
          · exact Or.inl ⟨thrown, Or.inr ⟨id, node, found, edge, member, unknown⟩⟩
          · exact Or.inl ⟨thrown, Or.inr dangling⟩
          · exact Or.inr flawed

theorem resolvePass_settled (ran : resolvePass nodes = .ok s) : ∀ node ∈ nodes, Settled nodes node.id := by
  have whole : Advance nodes ⟨[], []⟩ (nodes.map JourneyNode.id) s :=
    Advance.foldlM ran .start rfl (fun _ _ _ _ sound _ called => resolveQuestion_ok sound called)
  exact fun node member => whole.sound.settled _ (whole.marked _ (List.mem_map_of_mem member))

theorem resolvePass_error {thrown : Thrown} (ran : resolvePass nodes = .error thrown) :
    thrown = .typeError ∧ Dangling nodes ∨ (∃ message, thrown = .error message) ∧ Flawed nodes := by
  obtain ⟨acc, node, member, ⟨sound, visiting⟩, failed⟩ := foldlM_error
    (P := fun acc => Sound nodes acc ∧ acc.visiting = []) ran ⟨.start, rfl⟩
    (fun acc node after _ ⟨sound, visiting⟩ called =>
      have advance := resolveQuestion_ok sound called
      ⟨advance.sound, advance.visiting.trans visiting⟩)
  have approach : Approaches nodes acc node.id := fun v visited => absurd (visiting ▸ visited) List.not_mem_nil
  obtain ⟨thrown, unknown | dangling⟩ | flawed := resolveQuestion_error sound (by omega) approach failed
  · obtain ⟨found, held⟩ := nodeById_known member
    exact absurd (held.symm.trans unknown) nofun
  · exact Or.inl ⟨thrown, dangling⟩
  · exact Or.inr flawed

theorem resolvePass_terminates : resolvePass nodes ≠ .error .exhausted := by
  intro ran
  obtain ⟨⟨⟩, _⟩ | ⟨⟨_, ⟨⟩⟩, _⟩ := resolvePass_error ran

theorem Settled.no_cycle (settled : Settled nodes id) : ¬ TransGen (Leads nodes) id id := by
  induction settled with
  | @resource place node found kind _ =>
    intro round
    obtain ⟨_, ⟨other, held, question, _⟩, _⟩ := TransGen.head'_iff.mp round
    cases found.symm.trans held
    exact absurd (kind.symm.trans question) nofun
  | @question place node found kind _ _ ih =>
    intro round
    obtain ⟨after, leads, back⟩ := TransGen.head'_iff.mp round
    have ⟨other, held, _, edge, member, target⟩ := leads
    cases found.symm.trans held
    exact ih edge member (target ▸ TransGen.tail' back leads)

theorem Flawed.unsettled (flawed : Flawed nodes) : ¬ ∀ node ∈ nodes, Settled nodes node.id := by
  intro settled
  have known {place : String} {node : JourneyNode} (found : nodeById nodes place = some node) : Settled nodes place := by
    obtain ⟨member, rfl⟩ := nodeById_mem found
    exact settled node member
  cases flawed with
  | resource found kind nowhere =>
    cases known found with
    | resource held _ usable =>
      cases found.symm.trans held
      exact absurd (nowhere.symm.trans usable) nofun
    | question held question _ _ =>
      cases found.symm.trans held
      exact absurd (kind.symm.trans question) nofun
  | question found kind nowhere =>
    cases known found with
    | resource held resource _ =>
      cases found.symm.trans held
      exact absurd (kind.symm.trans resource) nofun
    | question held _ leads _ =>
      cases found.symm.trans held
      exact leads nowhere
  | cycle round =>
    obtain ⟨_, ⟨node, found, _⟩, _⟩ := TransGen.head'_iff.mp round
    exact (known found).no_cycle round

/-- A walk starts at a node and takes an edge for as long as there is one. -/
structure Walk (nodes : List JourneyNode) (walk : Nat → String) : Prop where
  starts : ∃ node ∈ nodes, node.id = walk 0
  follows : ∀ k, Edge nodes (walk k) (walk (k + 1)) ∨ (∀ other, ¬ Edge nodes (walk k) other) ∧ walk (k + 1) = walk k

def AtResource (nodes : List JourneyNode) (id : String) : Prop := ∃ node ∈ nodes, node.id = id ∧ node.kind = .resource

theorem Settled.reaches (unique : (nodes.map JourneyNode.id).Nodup) (settled : Settled nodes id) {walk : Nat → String}
    (follows : ∀ k, Edge nodes (walk k) (walk (k + 1)) ∨ (∀ other, ¬ Edge nodes (walk k) other) ∧ walk (k + 1) = walk k)
    (starts : walk 0 = id) : ∃ k, AtResource nodes (walk k) := by
  induction settled generalizing walk with
  | @resource place node found kind _ =>
    obtain ⟨member, named⟩ := nodeById_mem found
    exact ⟨0, node, member, named.trans starts.symm, kind⟩
  | @question place node found kind leads _ ih =>
    obtain ⟨member, named⟩ := nodeById_mem found
    have taken : ∃ edge ∈ node.edges, edge.target = walk 1 := by
      rcases follows 0 with ⟨other, present, same, edge⟩ | ⟨stuck, _⟩
      · obtain rfl := List.inj_on_of_nodup_map unique present member (same.trans (starts.trans named.symm))
        exact edge
      · obtain ⟨edge, first⟩ := List.exists_mem_of_ne_nil _ leads
        exact absurd ⟨node, member, named.trans starts.symm, edge, first, rfl⟩ (stuck edge.target)
    obtain ⟨edge, first, target⟩ := taken
    obtain ⟨k, there⟩ := @ih edge first (fun k => walk (k + 1)) (fun k => follows (k + 1)) target.symm
    exact ⟨k + 1, there⟩

variable {protocol : Protocol}

theorem assertNode_ok {ids after : List String}
    (ran : assertNode protocol ids node = .ok after) : after = ids ++ [node.id] ∧ node.id ∉ ids := by
  obtain ⟨named, ran⟩ := ok_refuse ran
  iterate 3 obtain ⟨_, _, ran⟩ := ok_bind ran
  cases ran
  refine ⟨rfl, fun member => ?_⟩
  rw [List.contains_iff_mem.mpr member, Bool.or_true] at named
  cases named

theorem assertNodes_ok {ids after : List String} (distinct : ids.Nodup)
    (ran : nodes.foldlM (assertNode protocol) ids = .ok after) : after = ids ++ nodes.map JourneyNode.id ∧ after.Nodup := by
  induction nodes generalizing ids with
  | nil =>
    cases ran
    exact ⟨(List.append_nil _).symm, distinct⟩
  | cons node rest ih =>
    rw [List.foldlM_cons] at ran
    obtain ⟨next, first, ran⟩ := ok_bind ran
    obtain ⟨rfl, fresh⟩ := assertNode_ok first
    have longer : (ids ++ [node.id]).Nodup := List.nodup_append.mpr ⟨distinct, List.nodup_singleton _, by
      rintro other member _ (_ | ⟨_, ⟨⟩⟩) rfl
      exact fresh member⟩
    obtain ⟨rfl, kept⟩ := ih longer ran
    exact ⟨by rw [List.append_assoc]; rfl, kept⟩

/-- The identifiers are unique, and every edge leads to one of them. -/
structure Connected (nodes : List JourneyNode) : Prop where
  unique : (nodes.map JourneyNode.id).Nodup
  known : ∀ node ∈ nodes, ∀ edge ∈ node.edges, ∃ other ∈ nodes, other.id = edge.target

theorem Connected.not_dangling (connected : Connected nodes) : ¬ Dangling nodes := by
  rintro ⟨place, node, found, edge, member, unknown⟩
  obtain ⟨other, present, target⟩ := connected.known node (nodeById_mem found).1 edge member
  obtain ⟨held, found⟩ := nodeById_known present
  rw [target, unknown] at found
  cases found

theorem validateJourneyGraph_ok {views : List JourneyView}
    (ran : validateJourneyGraph protocol nodes views = .ok ()) : Connected nodes ∧ ∃ s, resolvePass nodes = .ok s := by
  obtain ⟨ids, named, ran⟩ := ok_bind ran
  obtain ⟨_, edges, ran⟩ := ok_bind ran
  obtain ⟨_, resolved, _⟩ := ok_bind ran
  obtain ⟨rfl, distinct⟩ := assertNodes_ok .nil named
  refine ⟨⟨distinct, fun node member edge taken => ?_⟩, ?_⟩
  · have known := refuse_ok.mp (forM_ok.mp (forM_ok.mp edges node member) edge taken)
    have among : edge.target ∈ [] ++ nodes.map JourneyNode.id := by simpa using known
    exact List.mem_map.mp among
  · cases pass : resolvePass nodes with
    | ok s => exact ⟨s, rfl⟩
    | error thrown =>
      rw [pass] at resolved
      cases resolved

def Asks (nodes : List JourneyNode) (a b : String) : Prop :=
  ∃ node ∈ nodes, node.id = a ∧ node.kind = .question ∧ ∃ edge ∈ node.edges, edge.target = b

/-- A resource with neither links nor content, a question without edges, or a cycle of questions only. -/
def Unresolving (nodes : List JourneyNode) : Prop :=
  (∃ node ∈ nodes, node.kind = .resource ∧ node.links.getD [] = [] ∧ node.content = none) ∨
    (∃ node ∈ nodes, node.kind = .question ∧ node.edges = []) ∨ ∃ id, TransGen (Asks nodes) id id

theorem Connected.leads_iff (connected : Connected nodes) {a b : String} : Leads nodes a b ↔ Asks nodes a b := by
  constructor
  · rintro ⟨node, found, question, edge⟩
    obtain ⟨member, named⟩ := nodeById_mem found
    exact ⟨node, member, named, question, edge⟩
  · rintro ⟨node, member, rfl, question, edge⟩
    exact ⟨node, nodeById_unique connected.unique member, question, edge⟩

theorem hasDestination_eq_false :
    node.hasDestination = false ↔ node.links.getD [] = [] ∧ node.content = none := by
  simp [JourneyNode.hasDestination]

theorem Connected.flawed_iff (connected : Connected nodes) : Flawed nodes ↔ Unresolving nodes := by
  have same : Leads nodes = Asks nodes := funext₂ fun a b => propext connected.leads_iff
  constructor
  · rintro (⟨found, kind, nowhere⟩ | ⟨found, kind, nowhere⟩ | round)
    · exact Or.inl ⟨_, (nodeById_mem found).1, kind, hasDestination_eq_false.mp nowhere⟩
    · exact Or.inr (Or.inl ⟨_, (nodeById_mem found).1, kind, nowhere⟩)
    · exact Or.inr (Or.inr ⟨_, same ▸ round⟩)
  · rintro (⟨node, member, kind, nowhere⟩ | ⟨node, member, kind, nowhere⟩ | ⟨id, round⟩)
    · exact .resource (nodeById_unique connected.unique member) kind (hasDestination_eq_false.mpr nowhere)
    · exact .question (nodeById_unique connected.unique member) kind nowhere
    · exact .cycle (same ▸ round)

theorem Connected.reaches (connected : Connected nodes) (ran : resolvePass nodes = .ok s) {walk : Nat → String}
    (walks : Walk nodes walk) : ∃ k, AtResource nodes (walk k) := by
  obtain ⟨node, member, start⟩ := walks.starts
  exact (resolvePass_settled ran node member).reaches connected.unique walks.follows start.symm

/-- The pass ends on every list of nodes. Where the identifiers are unique and the edges known, it throws
an error exactly for a graph in which a walk can get stuck or go round among questions, and every walk
through a graph it accepts comes to a resource. -/
theorem journeyGraph_validation_exact :
    (∀ nodes, resolvePass nodes ≠ .error .exhausted) ∧
      (∀ nodes, (nodes.map JourneyNode.id).Nodup →
        (∀ node ∈ nodes, ∀ edge ∈ node.edges, ∃ other ∈ nodes, other.id = edge.target) →
        ((∃ thrown, resolvePass nodes = .error thrown) ↔ Unresolving nodes) ∧
        (∀ thrown, resolvePass nodes = .error thrown → ∃ message, thrown = .error message) ∧
        ((∃ s, resolvePass nodes = .ok s) → ∀ walk, Walk nodes walk → ∃ k, AtResource nodes (walk k))) ∧
      ∀ protocol nodes views, validateJourneyGraph protocol nodes views = .ok () →
        ∀ walk, Walk nodes walk → ∃ k, AtResource nodes (walk k) := by
  refine ⟨fun _ => resolvePass_terminates, fun nodes unique known => ?_, fun protocol nodes views accepted walk walks => ?_⟩
  · have connected : Connected nodes := ⟨unique, known⟩
    have failure (thrown : Thrown) (ran : resolvePass nodes = .error thrown) :
        (∃ message, thrown = .error message) ∧ Flawed nodes :=
      (resolvePass_error ran).resolve_left fun ⟨_, dangling⟩ => connected.not_dangling dangling
    refine ⟨⟨fun ⟨thrown, ran⟩ => connected.flawed_iff.mp (failure thrown ran).2, fun unresolving => ?_⟩,
      fun thrown ran => (failure thrown ran).1, fun ⟨s, ran⟩ walk walks => connected.reaches ran walks⟩
    cases ran : resolvePass nodes with
    | error thrown => exact ⟨thrown, rfl⟩
    | ok s => exact absurd (resolvePass_settled ran) (connected.flawed_iff.mpr unresolving).unsettled
  · obtain ⟨connected, s, ran⟩ := validateJourneyGraph_ok accepted
    exact connected.reaches ran walks

def sampleQuestion (id : String) (targets : List String) : JourneyNode :=
  { id, title := "Explore", prompt := none, homeView := none, kind := .question, links := none, content := none,
    edges := targets.map fun target => { target, kind := none } }

def sampleResource (id : String) (targets : List String) : JourneyNode :=
  { sampleQuestion id targets with kind := .resource, content := some .wip }

def sampleJourneys : List JourneyNode := [sampleQuestion "wip-next" ["wip-index"], sampleResource "wip-index" ["wip-next"]]

def sampleJourneyView : JourneyView := ⟨"wip", "wip-next", [⟨"wip-next", 2, 1⟩, ⟨"wip-index", 2, 2⟩]⟩

def sampleRound (k : Nat) : String := if k % 2 = 0 then "wip-next" else "wip-index"

theorem sampleRound_walks : Walk sampleJourneys sampleRound := by
  refine ⟨⟨_, List.mem_cons_self, rfl⟩, fun k => Or.inl ?_⟩
  by_cases even : k % 2 = 0
  · have odd : (k + 1) % 2 ≠ 0 := by omega
    refine ⟨_, List.mem_cons_self, (if_pos even).symm, _, List.mem_cons_self, (if_neg odd).symm⟩
  · have even' : (k + 1) % 2 = 0 := by omega
    refine ⟨_, List.mem_cons_of_mem _ List.mem_cons_self, (if_neg even).symm, _, List.mem_cons_self, (if_pos even').symm⟩

theorem journeyGraph_validation_exact_sample :
    (¬ Unresolving sampleJourneys ∧ ∃ k, AtResource sampleJourneys (sampleRound k)) ∧
      ∃ k, AtResource sampleJourneys (sampleRound k) := by
  have accepted : ∃ s, resolvePass sampleJourneys = .ok s := ⟨⟨["wip-index", "wip-next"], []⟩, by decide +kernel⟩
  obtain ⟨throws, _, reaches⟩ := journeyGraph_validation_exact.2.1 sampleJourneys (by decide +kernel) (by decide +kernel)
  refine ⟨⟨fun unresolving => ?_, reaches accepted sampleRound sampleRound_walks⟩, ?_⟩
  · obtain ⟨s, ran⟩ := accepted
    obtain ⟨thrown, failed⟩ := throws.mpr unresolving
    exact absurd (ran.symm.trans failed) nofun
  · exact journeyGraph_validation_exact.2.2 (fun _ => none) sampleJourneys [sampleJourneyView] (by decide +kernel)
      sampleRound sampleRound_walks

end JBCenter.Journeys
