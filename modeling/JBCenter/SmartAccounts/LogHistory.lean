import Mathlib
import JBCenter.Base.Fallible
import JBCenter.Base.Runs

/-! The log history of an account. Four workers share a cursor over the blocks; each asks for a range of them at a time
and halves a range the node refuses or may have cut short. Words and addresses are the numbers their texts name. -/
namespace JBCenter.LogHistory

structure Log where
  address : Nat
  topics : List Nat
  removed : Bool
  blockNumber : Nat
  blockHash : Nat
  transactionHash : Nat
  logIndex : Nat
  deriving DecidableEq

/-- An entry of a page: the length of its JSON text, and the log where it has the shape of one. -/
structure Entry where
  size : Nat
  log : Option Log

/-- The address and the words taken at each place of the topics, any where there is no list. -/
structure Filter where
  address : Nat
  topics : List (Option (List Nat))

structure Limits where
  logs : Nat
  logBytes : Nat
  logRange : Nat

structure Range where
  start : Nat
  finish : Nat

inductive Failure where
  | history (code message : String)
  | aborted
  | rpc

/-- The answer to one request. A quota or a cancellation is fatal; other failures are repaired by halving the range. -/
inductive Reply where
  | page (entries : List Entry)
  | malformed
  | failed
  | fatal

structure Shared where
  next : Nat
  logRequests : Nat
  logBytes : Nat
  result : List Log
  failure : Option Failure
  cancelled : Bool
  deadline : Bool

inductive Worker where
  | looping
  | pending (range : Range) (rest : List Range)
  | waiting (range : Range) (rest : List Range)
  | finished
  | failed

def historyTimeout : Failure := .history "SMART_HISTORY_TIMEOUT"
  "Complete account history could not be read within the inspection deadline."

def requestBudget : Failure := .history "SMART_HISTORY_LIMIT"
  "Complete module history exceeds the configured log budget."

def byteBudget : Failure := .history "SMART_HISTORY_LIMIT"
  "Complete module history exceeds the configured log byte budget."

def eventBudget : Failure := .history "SMART_HISTORY_LIMIT" "Module history exceeds the configured event budget."

def unavailablePage : Failure := .history "SMART_HISTORY_RPC_UNAVAILABLE"
  "The configured RPC could not supply a complete account history page."

def truncatedPage : Failure := .history "SMART_HISTORY_INCOMPLETE"
  "Log history is unavailable or may have been truncated."

def mismatchedLogs : Failure := .history "SMART_HISTORY_INCOMPLETE"
  "RPC logs do not match the requested complete history."

def duplicateLog : Failure := .history "SMART_HISTORY_INCOMPLETE" "Duplicate history log."

/-- The logs an address and topics ask for. -/
def Filter.accepts (filter : Filter) (log : Log) : Bool :=
  log.address = filter.address && !log.removed && log.topics.length ≤ 4 &&
    filter.topics.zipIdx.all (fun (wanted, index) => wanted.all (fun words => log.topics[index]?.any (· ∈ words)))

def checkLogRead (s : Shared) : Except Failure Unit :=
  match s.failure with
  | some failure => .error failure
  | none => do
    refuse s.cancelled .aborted
    refuse s.deadline historyTimeout

variable (limits : Limits) (filter : Filter)

def accept (range : Range) (s : Shared) (entry : Entry) : Except Failure Shared := do
  let logBytes := s.logBytes + entry.size
  refuse (limits.logBytes < logBytes) byteBudget
  match entry.log with
  | none => .error mismatchedLogs
  | some log => do
    refuse (!filter.accepts log || log.blockNumber < range.start || range.finish < log.blockNumber) mismatchedLogs
    let result := s.result ++ [log]
    refuse (10000 < result.length) eventBudget
    return { s with logBytes, result }

/-- A page that is not known to be cut short. -/
def Reply.complete : Reply → Option (List Entry)
  | .page entries => if entries.length < 10000 then some entries else none
  | _ => none

def resume : List Range → Worker
  | [] => .looping
  | range :: rest => .pending range rest

/-- Why a range of one block cannot be read. -/
def lacking : Reply → Failure
  | .failed => unavailablePage
  | _ => truncatedPage

/-- The halves of a range that is not known to be whole are read one after the other. -/
def received (range : Range) (rest : List Range) (reply : Reply) (s : Shared) : Except Failure (Shared × Worker) :=
  match reply.complete with
  | some entries => do
    let s ← entries.foldlM (accept limits filter range) s
    return (s, resume rest)
  | none => do
    refuse (reply matches .fatal) .rpc
    refuse (range.start = range.finish) (lacking reply)
    let middle := (range.start + range.finish) / 2
    return (s, .pending ⟨range.start, middle⟩ (⟨middle + 1, range.finish⟩ :: rest))

def turn (last : Nat) (reply : Reply) (s : Shared) : Worker → Except Failure (Shared × Worker)
  | .looping =>
    if s.next ≤ last then do
      checkLogRead s
      let range : Range := { start := s.next, finish := min (s.next + limits.logRange - 1) last }
      return ({ s with next := range.finish + 1 }, .pending range [])
    else return (s, .finished)
  | .pending range rest => do
    checkLogRead s
    let s := { s with logRequests := s.logRequests + 1 }
    refuse (limits.logs < s.logRequests) requestBudget
    return (s, .waiting range rest)
  | .waiting range rest => do
    checkLogRead s
    received limits filter range rest reply s
  | worker => return (s, worker)

/-- The first failure is the one every reader sees. What a failing page had added is not read again. -/
def attempt (s : Shared) : Except Failure (Shared × Worker) → Shared × Worker
  | .ok done => done
  | .error failure => ({ s with failure := some (s.failure.getD failure) }, .failed)

structure State where
  shared : Shared
  workers : List Worker

inductive Event where
  | turn (worker : Nat) (reply : Reply)
  | elsewhere

/-- What the other streams of the inspection, the deadline and the caller do to what is shared with them. -/
structure Elsewhere (s t : Shared) : Prop where
  next : t.next = s.next
  result : t.result = s.result
  requests : s.logRequests ≤ t.logRequests
  bytes : s.logBytes ≤ t.logBytes
  failure : s.failure ≠ none → t.failure = s.failure
  cancelled : s.cancelled = true → t.cancelled = true
  deadline : s.deadline = true → t.deadline = true

/-- A worker that still has something to do. -/
def Worker.Active : Worker → Prop
  | .finished | .failed => False
  | _ => True

def Worker.Answered (answers : Range → Reply → Prop) (reply : Reply) : Worker → Prop
  | .waiting range _ => answers range reply
  | _ => True

variable (answers : Range → Reply → Prop) (last : Nat)

/-- Any worker may go on next. -/
inductive Step : State → Event → State → Prop where
  | turn {s : State} {i : Nat} {worker : Worker} {reply : Reply} (held : s.workers[i]? = some worker)
      (active : worker.Active) (answered : worker.Answered answers reply) :
      Step s (.turn i reply)
        { shared := (attempt s.shared (turn limits filter last reply s.shared worker)).1
          workers := s.workers.set i (attempt s.shared (turn limits filter last reply s.shared worker)).2 }
  | elsewhere {s : State} {shared : Shared} (changed : Elsewhere s.shared shared) :
      Step s .elsewhere { s with shared }

/-- Four workers, with whatever the other streams have used of the budgets. -/
def start (first : Nat) (shared : Shared) : State where
  shared := { shared with next := first, result := [] }
  workers := List.replicate 4 .looping

def before (a b : Log) : Bool :=
  a.blockNumber < b.blockNumber || (a.blockNumber = b.blockNumber && a.logIndex ≤ b.logIndex)

/-- The source joins the texts of the hash and of the index, so that one log under two letter cases of its hash
passes its check; the numbers are equal. -/
def Log.key (log : Log) : Nat × Nat := (log.blockHash, log.logIndex)

def settle (result : List Log) : Except Failure (List Log) := do
  let sorted := result.mergeSort before
  refuse (¬(sorted.map Log.key).Nodup) duplicateLog
  return sorted

/-- The reading fails with the first worker that does, and is done when all are. -/
def outcome (s : State) : Option (Except Failure (List Log)) :=
  if s.workers.any (fun worker => worker matches .failed) then some (.error (s.shared.failure.getD .rpc))
  else if s.workers.all (fun worker => worker matches .finished) then some (settle s.shared.result)
  else none

namespace Range

def Holds (range : Range) (block : Nat) : Prop := range.start ≤ block ∧ block ≤ range.finish

/-- Twice the requests that reading a range may take, halvings included. -/
def cost (range : Range) : Nat := 4 * (range.finish - range.start) + 2

end Range

namespace Worker

def ranges : Worker → List Range
  | .pending range rest | .waiting range rest => range :: rest
  | _ => []

/-- What is left of a worker's own turns. -/
def cost : Worker → Nat
  | .looping => 1
  | .pending range rest => range.cost + (rest.map Range.cost).sum + 1
  | .waiting range rest => range.cost + (rest.map Range.cost).sum
  | .finished | .failed => 0

end Worker

/-- The logs of the chain the node reads. Of one height it knows one block. -/
structure Chain where
  logs : List Log
  distinct : (logs.map Log.key).Nodup
  canonical : ∀ a ∈ logs, ∀ b ∈ logs, a.blockNumber = b.blockNumber → a.blockHash = b.blockHash

/-- A page that holds every log asked for in the range, and no log that would pass for one of them and is none. -/
structure Complete (chain : Chain) (filter : Filter) (range : Range) (entries : List Entry) : Prop where
  whole : ∀ log ∈ chain.logs, filter.accepts log = true → range.Holds log.blockNumber →
    ∃ entry ∈ entries, entry.log = some log
  genuine : ∀ entry ∈ entries, ∀ log, entry.log = some log → filter.accepts log = true → log ∈ chain.logs

/-- Pages of fewer than 10000 entries are complete. -/
def Honest (chain : Chain) (filter : Filter) (answers : Range → Reply → Prop) : Prop :=
  ∀ range reply entries, answers range reply → reply.complete = some entries → Complete chain filter range entries

variable {limits filter answers last} {chain : Chain}

/-- A turn of one worker: where the blocks go that are not asked for yet, and those that the worker has at hand. -/
structure Moves (chain : Chain) (filter : Filter) (last : Nat) (s : Shared) (worker : Worker) (t : Shared)
    (after : Worker) : Prop where
  kept : ∀ log ∈ s.result, log ∈ t.result
  genuine : ∀ log ∈ t.result, log ∈ s.result ∨ log ∈ chain.logs ∧ filter.accepts log = true ∧
    ∃ range ∈ worker.ranges, range.Holds log.blockNumber
  onward : s.next ≤ t.next
  within : ∀ range ∈ after.ranges, range.start ≤ range.finish ∧
    ((∃ outer ∈ worker.ranges, outer.start ≤ range.start ∧ range.finish ≤ outer.finish) ∨
      s.next ≤ range.start ∧ range.finish ≤ last)
  covered : after ≠ .failed → ∀ block ≤ last,
    (s.next ≤ block ∨ ∃ range ∈ worker.ranges, range.Holds block) →
    t.next ≤ block ∨ (∃ range ∈ after.ranges, range.Holds block) ∨
      ∀ log ∈ chain.logs, filter.accepts log = true → log.blockNumber = block → log ∈ t.result
  finished : after = .finished → last < t.next
  cheaper : 4 * (last + 1 - t.next) + after.cost < 4 * (last + 1 - s.next) + worker.cost

theorem resume_ranges (rest : List Range) : (resume rest).ranges = rest := by cases rest <;> rfl

theorem admit_page {range : Range} {entries : List Entry} {s t : Shared}
    (ran : entries.foldlM (accept limits filter range) s = .ok t) :
    t.next = s.next ∧ ∃ added, t.result = s.result ++ added ∧
      (∀ log ∈ added, filter.accepts log = true ∧ range.Holds log.blockNumber ∧
        ∃ entry ∈ entries, entry.log = some log) ∧
      ∀ entry ∈ entries, ∀ log, entry.log = some log → log ∈ added := by
  induction entries generalizing s with
  | nil =>
    cases ran
    exact ⟨rfl, [], (List.append_nil _).symm, nofun, nofun⟩
  | cons entry rest ih =>
    rw [List.foldlM_cons] at ran
    obtain ⟨u, admitted, ran⟩ := ok_bind ran
    obtain ⟨next, added, result, sound, whole⟩ := ih ran
    unfold accept at admitted
    obtain ⟨_, admitted⟩ := ok_refuse admitted
    cases shaped : entry.log with
    | none =>
      rw [shaped] at admitted
      cases admitted
    | some log =>
      rw [shaped] at admitted
      obtain ⟨matching, admitted⟩ := ok_refuse admitted
      obtain ⟨_, admitted⟩ := ok_refuse admitted
      cases admitted
      simp only [Bool.or_eq_false_iff, Bool.not_eq_false', decide_eq_false_iff_not, Nat.not_lt] at matching
      obtain ⟨⟨accepted, lower⟩, upper⟩ := matching
      refine ⟨next, log :: added, by rw [result, List.append_assoc]; rfl, ?_, ?_⟩
      · refine List.forall_mem_cons.mpr ⟨⟨accepted, ⟨lower, upper⟩, entry, List.mem_cons_self, shaped⟩, ?_⟩
        intro other member
        obtain ⟨accepted, held, found, listed, is⟩ := sound other member
        exact ⟨accepted, held, found, List.mem_cons_of_mem _ listed, is⟩
      · refine List.forall_mem_cons.mpr ⟨?_, fun other member found is => ?_⟩
        · intro found is
          cases shaped.symm.trans is
          exact List.mem_cons_self
        · exact List.mem_cons_of_mem _ (whole other member found is)

/-- A failing turn loses what the worker had at hand. -/
theorem moves_failed {s : Shared} {worker : Worker} (failure : Option Failure) (active : worker.Active) :
    Moves chain filter last s worker { s with failure } .failed where
  kept := fun _ held => held
  genuine := fun _ held => Or.inl held
  onward := Nat.le_refl _
  within := nofun
  covered := fun lives => absurd rfl lives
  finished := nofun
  cheaper := by
    have some : 0 < worker.cost := by
      cases worker with
      | looping => exact Nat.one_pos
      | pending => exact Nat.succ_pos _
      | waiting => exact Nat.add_pos_left (Nat.succ_pos _) _
      | finished => exact active.elim
      | failed => exact active.elim
    change 4 * (last + 1 - s.next) + 0 < _
    omega

theorem looping_moves (room : 1 ≤ limits.logRange) {reply : Reply} {s t : Shared} {after : Worker}
    (ran : turn limits filter last reply s .looping = .ok (t, after)) : Moves chain filter last s .looping t after := by
  rw [turn] at ran
  split at ran
  · rename_i ahead
    obtain ⟨_, _, ran⟩ := ok_bind ran
    cases ran
    have upper := Nat.min_le_right (s.next + limits.logRange - 1) last
    have lower : s.next ≤ min (s.next + limits.logRange - 1) last := Nat.le_min.mpr ⟨by omega, ahead⟩
    generalize min (s.next + limits.logRange - 1) last = finish at upper lower
    refine ⟨fun _ held => held, fun _ held => Or.inl held, Nat.le_succ_of_le lower, ?_, ?_, by simp, ?_⟩
    · intro range member
      rw [List.mem_singleton.mp member]
      exact ⟨lower, Or.inr ⟨Nat.le_refl _, upper⟩⟩
    · rintro - block - (later | ⟨range, member, _⟩)
      · by_cases beyond : block ≤ finish
        · exact Or.inr (Or.inl ⟨_, List.mem_singleton.mpr rfl, later, beyond⟩)
        · exact Or.inl (Nat.lt_of_not_le beyond)
      · cases member
    · simp only [Worker.cost, Range.cost, List.map_nil, List.sum_nil]
      omega
  · rename_i past
    cases ran
    refine ⟨fun _ held => held, fun _ held => Or.inl held, Nat.le_refl _, fun _ member => absurd member List.not_mem_nil,
      ?_, ?_, Nat.lt_succ_self _⟩
    · rintro - block - (later | ⟨range, member, _⟩)
      · exact Or.inl later
      · cases member
    · exact fun _ => Nat.lt_of_not_le past

section Waiting
variable {range : Range} {rest : List Range} {s : Shared}

/-- An admitted page settles its range. -/
theorem page_moves {entries : List Entry} {t : Shared} (complete : Complete chain filter range entries)
    (others : ∀ other ∈ rest, other.start ≤ other.finish)
    (admitted : entries.foldlM (accept limits filter range) s = .ok t) :
    Moves chain filter last s (.waiting range rest) t (resume rest) := by
  obtain ⟨next, added, result, sound, listed⟩ := admit_page admitted
  refine ⟨?_, ?_, Nat.le_of_eq next.symm, ?_, ?_, ?_, ?_⟩
  · exact fun log held => result ▸ List.mem_append_left _ held
  · intro log held
    rw [result] at held
    obtain held | new := List.mem_append.mp held
    · exact Or.inl held
    · obtain ⟨accepted, inside, entry, member, is⟩ := sound log new
      exact Or.inr ⟨complete.genuine entry member log is accepted, accepted, range, List.mem_cons_self, inside⟩
  · rw [resume_ranges]
    exact fun other member => ⟨others other member,
      Or.inl ⟨other, List.mem_cons_of_mem _ member, Nat.le_refl _, Nat.le_refl _⟩⟩
  · rw [next, resume_ranges]
    rintro - block - (later | ⟨other, member, inside⟩)
    · exact Or.inl later
    · obtain rfl | member := List.mem_cons.mp member
      · refine Or.inr (Or.inr fun log held accepted placed => ?_)
        obtain ⟨entry, member, is⟩ := complete.whole log held accepted (placed ▸ inside)
        exact result ▸ List.mem_append_right _ (listed entry member log is)
      · exact Or.inr (Or.inl ⟨other, member, inside⟩)
  · intro ended
    cases rest <;> cases ended
  · rw [next]
    refine Nat.add_lt_add_left ?_ _
    cases rest with
    | nil => exact Nat.lt_add_right _ (Nat.le_add_left 2 _)
    | cons other rest =>
      simp only [resume, Worker.cost, List.map_cons, List.sum_cons]
      have some : 2 ≤ range.cost := Nat.le_add_left 2 _
      omega

/-- A range that is halved is still at hand. -/
theorem halves_moves {middle : Nat} (lower : range.start ≤ middle) (upper : middle < range.finish)
    (others : ∀ other ∈ rest, other.start ≤ other.finish) :
    Moves chain filter last s (.waiting range rest) s
      (.pending ⟨range.start, middle⟩ (⟨middle + 1, range.finish⟩ :: rest)) := by
  refine ⟨fun _ held => held, fun _ held => Or.inl held, Nat.le_refl _, ?_, ?_, by simp, ?_⟩
  · refine List.forall_mem_cons.mpr ⟨⟨lower, ?_⟩, List.forall_mem_cons.mpr ⟨⟨upper, ?_⟩, ?_⟩⟩
    · exact Or.inl ⟨range, List.mem_cons_self, Nat.le_refl _, Nat.le_of_lt upper⟩
    · exact Or.inl ⟨range, List.mem_cons_self, Nat.le_succ_of_le lower, Nat.le_refl _⟩
    · exact fun other member =>
        ⟨others other member, Or.inl ⟨other, List.mem_cons_of_mem _ member, Nat.le_refl _, Nat.le_refl _⟩⟩
  · rintro - block - (later | ⟨other, member, inside⟩)
    · exact Or.inl later
    · refine Or.inr (Or.inl ?_)
      obtain rfl | member := List.mem_cons.mp member
      · by_cases half : block ≤ middle
        · exact ⟨_, List.mem_cons_self, inside.1, half⟩
        · exact ⟨_, List.mem_cons_of_mem _ List.mem_cons_self, Nat.lt_of_not_le half, inside.2⟩
      · exact ⟨other, List.mem_cons_of_mem _ (List.mem_cons_of_mem _ member), inside⟩
  · refine Nat.add_lt_add_left ?_ _
    simp only [Worker.cost, Range.cost, List.map_cons, List.sum_cons]
    omega

end Waiting

theorem turn_moves (honest : Honest chain filter answers) (room : 1 ≤ limits.logRange) {s : Shared} {worker : Worker}
    {reply : Reply} (active : worker.Active) (answered : worker.Answered answers reply)
    (ordered : ∀ range ∈ worker.ranges, range.start ≤ range.finish) :
    let done := attempt s (turn limits filter last reply s worker)
    Moves chain filter last s worker done.1 done.2 := by
  cases ran : turn limits filter last reply s worker with
  | error failure => exact moves_failed _ active
  | ok done =>
    obtain ⟨t, after⟩ := done
    change Moves chain filter last s worker t after
    cases worker with
    | finished => exact active.elim
    | failed => exact active.elim
    | looping => exact looping_moves room ran
    | pending range rest =>
      rw [turn] at ran
      iterate 2 obtain ⟨_, _, ran⟩ := ok_bind ran
      cases ran
      exact {
        kept := fun _ held => held
        genuine := fun _ held => Or.inl held
        onward := Nat.le_refl _
        within := fun other member => ⟨ordered other member, Or.inl ⟨other, member, Nat.le_refl _, Nat.le_refl _⟩⟩
        covered := fun _ block _ held => held.imp_right Or.inl
        finished := nofun
        cheaper := Nat.lt_succ_self _ }
    | waiting range rest =>
      rw [turn] at ran
      obtain ⟨_, _, ran⟩ := ok_bind ran
      obtain ⟨proper, others⟩ := List.forall_mem_cons.mp ordered
      unfold received at ran
      cases whole : reply.complete with
      | some entries =>
        rw [whole] at ran
        obtain ⟨u, admitted, ran⟩ := ok_bind ran
        cases ran
        exact page_moves (honest range reply entries answered whole) others admitted
      | none =>
        rw [whole] at ran
        obtain ⟨_, ran⟩ := ok_refuse ran
        obtain ⟨wide, ran⟩ := ok_refuse ran
        cases ran
        have distinct : range.start ≠ range.finish := by simpa using wide
        exact halves_moves (by omega) (by omega) others

/-- A worker has the block in a range it still has to read. -/
def State.AtHand (s : State) (block : Nat) : Prop :=
  ∃ (i : Nat) (worker : Worker), s.workers[i]? = some worker ∧ ∃ range ∈ worker.ranges, range.Holds block

/-- What holds at every point of the reading. -/
structure Sound (chain : Chain) (filter : Filter) (first last : Nat) (s : State) : Prop where
  genuine : ∀ log ∈ s.shared.result, log ∈ chain.logs ∧ filter.accepts log = true ∧
    first ≤ log.blockNumber ∧ log.blockNumber ≤ last
  started : first ≤ s.shared.next
  ordered : ∀ (i : Nat) (worker : Worker), s.workers[i]? = some worker → ∀ range ∈ worker.ranges,
    first ≤ range.start ∧ range.start ≤ range.finish ∧ range.finish ≤ last
  covered : .failed ∉ s.workers → ∀ block, first ≤ block → block ≤ last →
    s.shared.next ≤ block ∨ s.AtHand block ∨
      ∀ log ∈ chain.logs, filter.accepts log = true → log.blockNumber = block → log ∈ s.shared.result
  finished : .finished ∈ s.workers → last < s.shared.next

variable {first : Nat} {s t : State}

theorem sound_start (shared : Shared) : Sound chain filter first last (start first shared) where
  genuine := nofun
  started := Nat.le_refl _
  ordered := by
    intro i worker held range member
    rw [List.eq_of_mem_replicate (List.mem_of_getElem? held)] at member
    cases member
  covered := fun _ _ from' _ => Or.inl from'
  finished := fun member => nomatch List.eq_of_mem_replicate member

theorem Sound.turn {i : Nat} {worker after : Worker} {shared : Shared} (sound : Sound chain filter first last s)
    (held : s.workers[i]? = some worker) (active : worker.Active)
    (moves : Moves chain filter last s.shared worker shared after) :
    Sound chain filter first last { shared, workers := s.workers.set i after } := by
  have inside : i < s.workers.length := (List.getElem?_eq_some_iff.mp held).1
  have own : (s.workers.set i after)[i]? = some after := by rw [List.getElem?_set_self inside]
  have others : ∀ {j : Nat}, i ≠ j → (s.workers.set i after)[j]? = s.workers[j]? := by
    intro j other
    rw [List.getElem?_set_ne other]
  constructor
  · intro log member
    obtain member | ⟨genuine, accepted, range, at', lower, upper⟩ := moves.genuine log member
    · exact sound.genuine log member
    · obtain ⟨from', _, upTo⟩ := sound.ordered i worker held range at'
      exact ⟨genuine, accepted, from'.trans lower, upper.trans upTo⟩
  · exact sound.started.trans moves.onward
  · intro j other at' range member
    by_cases same : i = j
    · subst same
      cases own.symm.trans at'
      obtain ⟨proper, ⟨outer, member, lower, upper⟩ | ⟨lower, upper⟩⟩ := moves.within range member
      · obtain ⟨from', _, upTo⟩ := sound.ordered i worker held outer member
        exact ⟨from'.trans lower, proper, upper.trans upTo⟩
      · exact ⟨sound.started.trans lower, proper, upper⟩
    · exact sound.ordered j other (others same ▸ at') range member
  · intro alive block from' upTo
    have lives : after ≠ .failed := fun failed => alive (failed ▸ List.mem_of_getElem? own)
    have lived : .failed ∉ s.workers := by
      intro member
      obtain ⟨j, at'⟩ := List.mem_iff_getElem?.mp member
      by_cases same : i = j
      · subst same
        cases held.symm.trans at'
        exact active
      · exact alive (List.mem_of_getElem? ((others same).trans at'))
    have mine : ∀ {block}, (∃ range ∈ after.ranges, range.Holds block) →
        State.AtHand { shared, workers := s.workers.set i after } block := fun found => ⟨i, after, own, found⟩
    obtain later | ⟨j, other, at', found⟩ | read := sound.covered lived block from' upTo
    · exact (moves.covered lives block upTo (Or.inl later)).imp_right (Or.imp_left mine)
    · by_cases same : i = j
      · subst same
        cases held.symm.trans at'
        exact (moves.covered lives block upTo (Or.inr found)).imp_right (Or.imp_left mine)
      · exact Or.inr (Or.inl ⟨j, other, (others same).trans at', found⟩)
    · exact Or.inr (Or.inr fun log member accepted placed => moves.kept log (read log member accepted placed))
  · intro member
    obtain ⟨j, at'⟩ := List.mem_iff_getElem?.mp member
    by_cases same : i = j
    · subst same
      cases own.symm.trans at'
      exact moves.finished rfl
    · exact (sound.finished (List.mem_of_getElem? ((others same).symm.trans at'))).trans_le moves.onward

theorem Sound.elsewhere {shared : Shared} (sound : Sound chain filter first last s)
    (changed : Elsewhere s.shared shared) : Sound chain filter first last { s with shared } where
  genuine := changed.result ▸ sound.genuine
  started := changed.next ▸ sound.started
  ordered := sound.ordered
  covered := fun alive block from' upTo => changed.next ▸ changed.result ▸ sound.covered alive block from' upTo
  finished := changed.next ▸ sound.finished

/-- An upper bound of the turns that are still to come. -/
def State.cost (last : Nat) (s : State) : Nat := 4 * (last + 1 - s.shared.next) + (s.workers.map Worker.cost).sum

theorem sum_set {f : α → Nat} {l : List α} {i : Nat} {a : α} (held : l[i]? = some a) (b : α) :
    ((l.set i b).map f).sum + f a = (l.map f).sum + f b := by
  induction l generalizing i with
  | nil => cases held
  | cons first rest ih =>
    cases i with
    | zero =>
      cases held
      simp only [List.set_cons_zero, List.map_cons, List.sum_cons]
      omega
    | succ i =>
      have shorter := ih (i := i) held
      simp only [List.set_cons_succ, List.map_cons, List.sum_cons]
      omega

def Event.isTurn : Event → Bool
  | .turn _ _ => true
  | .elsewhere => false

theorem run_sound (honest : Honest chain filter answers) (room : 1 ≤ limits.logRange) {shared : Shared}
    {history : List Event} (run : Run (Step limits filter answers last) (start first shared) history s) :
    Sound chain filter first last s ∧
      history.countP Event.isTurn + s.cost last ≤ (start first shared).cost last := by
  refine run.invariant (P := fun history s => Sound chain filter first last s ∧
    history.countP Event.isTurn + s.cost last ≤ (start first shared).cost last) ?_ ?_
  · exact ⟨sound_start shared, Nat.le_of_eq (Nat.zero_add _)⟩
  · rintro past s event t _ ⟨sound, paid⟩ step
    cases step with
    | @turn i worker reply held active answered =>
      have ordered := fun range member => (sound.ordered i worker held range member).2.1
      have moves : Moves chain filter last s.shared worker _ _ := turn_moves honest room active answered ordered
      refine ⟨sound.turn held active moves, ?_⟩
      have cheaper := moves.cheaper
      have others := sum_set (f := Worker.cost) held
        (attempt s.shared (turn limits filter last reply s.shared worker)).2
      rw [List.countP_append]
      simp only [State.cost, List.countP_singleton, Event.isTurn, if_true] at paid ⊢
      omega
    | elsewhere changed =>
      refine ⟨sound.elsewhere changed, ?_⟩
      rw [List.countP_append]
      simp only [State.cost, changed.next] at paid ⊢
      exact paid

/-- The order of the chain. -/
def Earlier (a b : Log) : Prop :=
  a.blockNumber < b.blockNumber ∨ a.blockNumber = b.blockNumber ∧ a.logIndex < b.logIndex

/-- The logs of the chain asked for in the blocks asked for. -/
def Chain.history (chain : Chain) (filter : Filter) (first last : Nat) : List Log :=
  chain.logs.filter fun log =>
    filter.accepts log && decide (first ≤ log.blockNumber) && decide (log.blockNumber ≤ last)

theorem before_sorted (result : List Log) : (result.mergeSort before).Pairwise (fun a b => before a b = true) := by
  refine List.pairwise_mergeSort (fun a b c first second => ?_) (fun a b => ?_) result
  · simp only [before, Bool.or_eq_true, Bool.and_eq_true, decide_eq_true_eq] at *
    omega
  · simp only [before, Bool.or_eq_true, Bool.and_eq_true, decide_eq_true_eq]
    omega

theorem settle_ok {logs : List Log} (sound : Sound chain filter first last s) (some : s.workers ≠ [])
    (done : ∀ worker ∈ s.workers, worker = .finished) (settled : settle s.shared.result = .ok logs) :
    logs.Perm (chain.history filter first last) ∧ logs.Pairwise Earlier := by
  unfold settle at settled
  obtain ⟨distinct, settled⟩ := ok_refuse settled
  cases settled
  rw [decide_eq_false_iff_not, not_not] at distinct
  have genuine : ∀ log ∈ s.shared.result.mergeSort before, log ∈ chain.logs ∧ filter.accepts log = true ∧
      first ≤ log.blockNumber ∧ log.blockNumber ≤ last := fun log member =>
    sound.genuine log (List.mem_mergeSort.mp member)
  constructor
  · have unique : (chain.history filter first last).Nodup := (List.Nodup.of_map _ chain.distinct).filter _
    refine (List.perm_ext_iff_of_nodup (List.Nodup.of_map _ distinct) unique).mpr fun log => ?_
    rw [Chain.history, List.mem_filter, Bool.and_eq_true, Bool.and_eq_true, decide_eq_true_eq, decide_eq_true_eq]
    constructor
    · intro member
      obtain ⟨held, accepted, from', upTo⟩ := genuine log member
      exact ⟨held, ⟨accepted, from'⟩, upTo⟩
    · rintro ⟨held, ⟨accepted, from'⟩, upTo⟩
      have alive : .failed ∉ s.workers := fun member => nomatch done _ member
      obtain ⟨worker, member⟩ := List.exists_mem_of_ne_nil _ some
      have past := sound.finished (done worker member ▸ member)
      obtain later | ⟨i, other, at', range, listed, _⟩ | read := sound.covered alive log.blockNumber from' upTo
      · omega
      · rw [done other (List.mem_of_getElem? at')] at listed
        cases listed
      · exact List.mem_mergeSort.mpr (read log held accepted rfl)
  · have ordered := (before_sorted s.shared.result).and (List.pairwise_map.mp distinct)
    refine ordered.imp_of_mem fun {a b} first second ⟨le, differ⟩ => ?_
    simp only [before, Bool.or_eq_true, Bool.and_eq_true, decide_eq_true_eq] at le
    obtain less | ⟨same, le⟩ := le
    · exact Or.inl less
    · refine Or.inr ⟨same, Nat.lt_of_le_of_ne le fun index => differ ?_⟩
      have block := chain.canonical a (genuine a first).1 b (genuine b second).1 same
      simp only [Log.key, block, index]

/-- The history is read completely. However the workers take turns, whatever the other streams use of the budgets, and
whichever pages are refused or cut short, only so many turns can be taken; while there is no outcome some worker can take
one; and logs that are returned are those of the blocks asked for, each once and in the order of the chain. -/
theorem log_history_complete (honest : Honest chain filter answers) (room : 1 ≤ limits.logRange) {shared : Shared}
    {history : List Event} (run : Run (Step limits filter answers last) (start first shared) history s) :
    history.countP Event.isTurn ≤ (start first shared).cost last ∧
    (outcome s = none → ∃ (i : Nat) (worker : Worker), s.workers[i]? = some worker ∧ worker.Active ∧
      ∀ reply, worker.Answered answers reply → ∃ t, Step limits filter answers last s (.turn i reply) t) ∧
    ∀ logs, outcome s = some (.ok logs) →
      logs.Perm (chain.history filter first last) ∧ logs.Pairwise Earlier := by
  obtain ⟨sound, paid⟩ := run_sound honest room run
  have four : s.workers.length = 4 := by
    refine run.state_invariant (P := fun s => s.workers.length = 4) rfl ?_
    intro state event next before step
    cases step with
    | turn => exact (List.length_set ..).trans before
    | elsewhere => exact before
  refine ⟨by omega, fun unsettled => ?_, fun logs settled => ?_⟩
  · unfold outcome at unsettled
    split at unsettled
    · cases unsettled
    · rename_i alive
      split at unsettled
      · cases unsettled
      · rename_i running
        obtain ⟨worker, member, unfinished⟩ : ∃ worker ∈ s.workers, worker ≠ .finished := by
          by_contra none
          push Not at none
          refine running (List.all_eq_true.mpr fun worker member => ?_)
          rw [none worker member]
        obtain ⟨i, held⟩ := List.mem_iff_getElem?.mp member
        have active : worker.Active := by
          cases worker with
          | finished => exact unfinished rfl
          | failed => exact alive (List.any_eq_true.mpr ⟨_, member, rfl⟩)
          | looping | pending | waiting => trivial
        exact ⟨i, worker, held, active, fun reply answered => ⟨_, .turn held active answered⟩⟩
  · unfold outcome at settled
    split at settled
    · cases settled
    · split at settled
      · rename_i finished
        refine settle_ok sound (fun none => ?_) (fun worker member => ?_) (Option.some.inj settled)
        · rw [none] at four
          cases four
        · have ended := List.all_eq_true.mp finished worker member
          cases worker with
          | finished => rfl
          | looping | pending | waiting | failed => cases ended
      · cases settled

def oneLog : Log :=
  { address := 1, topics := [], removed := false, blockNumber := 5, blockHash := 2, transactionHash := 3, logIndex := 0 }

instance : DecidablePred Worker.Active
  | .looping | .pending .. | .waiting .. => isTrue trivial
  | .finished | .failed => isFalse id

/-- The turns of some workers, as a node replies to them. One that is done is passed over. -/
def turns (limits : Limits) (filter : Filter) (node : Range → Reply) (last : Nat) : List Nat → State → List Event × State
  | [], s => ([], s)
  | i :: rest, s =>
    match s.workers[i]? with
    | some worker =>
      if worker.Active then
        let reply := match worker with
          | .waiting range _ => node range
          | _ => .failed
        let done := attempt s.shared (turn limits filter last reply s.shared worker)
        let later := turns limits filter node last rest ⟨done.1, s.workers.set i done.2⟩
        (.turn i reply :: later.1, later.2)
      else turns limits filter node last rest s
    | none => turns limits filter node last rest s

theorem turns_run {node : Range → Reply} (places : List Nat) (s : State) :
    Run (Step limits filter (fun range reply => reply = node range) last) s (turns limits filter node last places s).1
      (turns limits filter node last places s).2 := by
  induction places generalizing s with
  | nil => exact .nil
  | cons i rest ih =>
    unfold turns
    split
    · next worker held =>
      split
      · next active =>
        refine (Run.nil.snoc (.turn held active ?_)).append (ih _)
        cases worker with
        | waiting => rfl
        | _ => trivial
      · exact ih s
    · exact ih s

/-- A node with one log, which answers for one block at a time. -/
def sampleNode (range : Range) : Reply :=
  if range.start < range.finish then .failed else .page (if range.start = 5 then [⟨1, some oneLog⟩] else [])

theorem log_history_complete_sample : ∃ (chain : Chain) (history : List Event) (s : State),
    Run (Step ⟨9, 9, 9⟩ ⟨1, []⟩ (fun range reply => reply = sampleNode range) 6)
      (start 5 ⟨0, 0, 0, [], none, false, false⟩) history s ∧
    outcome s = some (.ok [oneLog]) ∧ [oneLog].Perm (chain.history ⟨1, []⟩ 5 6) ∧
    history.countP Event.isTurn = 11 := by
  let chain : Chain := {
    logs := [oneLog]
    distinct := List.nodup_singleton _
    canonical := fun a first b second _ => by rw [List.mem_singleton.mp first, List.mem_singleton.mp second] }
  have honest : Honest chain ⟨1, []⟩ (fun range reply => reply = sampleNode range) := by
    rintro range reply entries rfl whole
    unfold sampleNode at whole
    split at whole
    · cases whole
    · have short : (if range.start = 5 then [⟨1, some oneLog⟩] else [] : List Entry).length < 10000 := by
        split <;> decide
      rw [Reply.complete, if_pos short] at whole
      cases whole
      refine ⟨fun log member _ ⟨lower, upper⟩ => ?_, fun entry member log is _ => ?_⟩
      · cases List.mem_singleton.mp member
        have here : range.start = 5 := by
          change range.start ≤ 5 at lower
          change 5 ≤ range.finish at upper
          omega
        rw [if_pos here]
        exact ⟨_, List.mem_cons_self, rfl⟩
      · split at member
        · rw [List.mem_singleton.mp member] at is
          exact List.mem_singleton.mpr (Option.some.inj is).symm
        · cases member
  have run := @turns_run ⟨9, 9, 9⟩ ⟨1, []⟩ 6 sampleNode
    [0, 0, 0, 0, 0, 0, 0, 0, 1, 2, 3] (start 5 ⟨0, 0, 0, [], none, false, false⟩)
  have settled : outcome (turns ⟨9, 9, 9⟩ ⟨1, []⟩ sampleNode 6 [0, 0, 0, 0, 0, 0, 0, 0, 1, 2, 3]
      (start 5 ⟨0, 0, 0, [], none, false, false⟩)).2 = some (.ok [oneLog]) := by
    change outcome ⟨⟨7, 3, 1, [oneLog], none, false, false⟩, [.finished, .finished, .finished, .finished]⟩ = _
    simp [outcome, settle, refuse, bind, Except.bind, pure, Except.pure]
  obtain ⟨_, _, exact⟩ := log_history_complete honest (by decide) run
  exact ⟨chain, _, _, run, settled, (exact _ settled).1, rfl⟩

end JBCenter.LogHistory
