import JBCenter.Base.Programs
import JBCenter.Base.Runs
import Mathlib.Logic.Function.Basic

/-! Many processes over one world. Each runs the program of its task one operation at a time and may be
stopped between any two, and the outside may change the world. A discipline says what every process may
rely on, what it owes for each operation and what is then true when it returns. -/
namespace JBCenter
variable {Task Op E Reply Change α W : Type} {Result : Op → Type}

structure Process (Task Op E : Type) (Result : Op → Type) (α : Type) where
  task : Task
  program : Program Op E Result α
  alive : Bool

structure Pool (Task Op E : Type) (Result : Op → Type) (α W : Type) where
  world : W
  processes : Nat → Option (Process Task Op E Result α)

inductive PoolEvent (Task Reply Change : Type) where
  | start (pid : Nat) (task : Task)
  | act (pid : Nat) (reply : Reply)
  | stop (pid : Nat)
  | change (change : Change)

/-- What the tasks run and what the world does with their operations. `abandon` is what the world does
when a process stops, and `change` what the outside does to it. -/
structure Machine (Task Op E Reply Change : Type) (Result : Op → Type) (α W : Type) where
  code : Task → Program Op E Result α
  perform : Nat → (op : Op) → Reply → W → Except E (Result op) × W
  admits : Op → Reply → W → Bool
  abandon : Nat → W → W
  change : Change → W → W
  possible : Change → W → Bool

def Pool.put (pool : Pool Task Op E Result α W) (pid : Nat) (process : Process Task Op E Result α) (world : W) :
    Pool Task Op E Result α W :=
  ⟨world, Function.update pool.processes pid (some process)⟩

/-- The operation a process stands at. -/
def Pool.asks (pool : Pool Task Op E Result α W) (pid : Nat) : Option Op :=
  match pool.processes pid with
  | some ⟨_, .call op _, true⟩ => some op
  | _ => none

section
variable {pool : Pool Task Op E Result α W} {process : Process Task Op E Result α} {world : W}

@[simp] theorem Pool.put_world : (pool.put pid process world).world = world := rfl

@[simp] theorem Pool.put_same : (pool.put pid process world).processes pid = some process := Function.update_self ..

theorem Pool.asks_of {rest : Except E (Result op) → Program Op E Result α}
    (found : pool.processes pid = some ⟨task, .call op rest, true⟩) : pool.asks pid = some op := by
  simp only [Pool.asks, found]

theorem Pool.put_other (differ : other ≠ pid) : (pool.put pid process world).processes other = pool.processes other :=
  Function.update_of_ne differ ..

end

namespace Machine
variable (M : Machine Task Op E Reply Change Result α W)

def next (pool : Pool Task Op E Result α W) : PoolEvent Task Reply Change → Option (Pool Task Op E Result α W)
  | .start pid task =>
    match pool.processes pid with
    | none => some (pool.put pid ⟨task, M.code task, true⟩ pool.world)
    | some _ => none
  | .act pid reply =>
    match pool.processes pid with
    | some ⟨task, .call op rest, true⟩ =>
      if M.admits op reply pool.world then
        some (pool.put pid ⟨task, rest (M.perform pid op reply pool.world).1, true⟩ (M.perform pid op reply pool.world).2)
      else none
    | _ => none
  | .stop pid =>
    match pool.processes pid with
    | some process => some (pool.put pid { process with alive := false } (M.abandon pid pool.world))
    | none => none
  | .change change => if M.possible change pool.world then some { pool with world := M.change change pool.world } else none

/-- A step that the circumstances allow. -/
def Step (Allowed : Pool Task Op E Result α W → PoolEvent Task Reply Change → Prop)
    (pool : Pool Task Op E Result α W) (event : PoolEvent Task Reply Change) (after : Pool Task Op E Result α W) : Prop :=
  Allowed pool event ∧ M.next pool event = some after

variable {M} {pool after : Pool Task Op E Result α W}

theorem next_start {task : Task} (taken : M.next pool (.start pid task) = some after) :
    pool.processes pid = none ∧ after = pool.put pid ⟨task, M.code task, true⟩ pool.world := by
  simp only [next] at taken
  split at taken
  · exact ⟨by assumption, (Option.some.inj taken).symm⟩
  · cases taken

theorem next_act {reply : Reply} (taken : M.next pool (.act pid reply) = some after) :
    ∃ task op rest, pool.processes pid = some ⟨task, .call op rest, true⟩ ∧ M.admits op reply pool.world = true ∧
      after = pool.put pid ⟨task, rest (M.perform pid op reply pool.world).1, true⟩
        (M.perform pid op reply pool.world).2 := by
  simp only [next] at taken
  split at taken
  · rename_i task op rest found
    split at taken
    · rename_i admitted
      exact ⟨task, op, rest, found, admitted, (Option.some.inj taken).symm⟩
    · cases taken
  · cases taken

theorem next_stop (taken : M.next pool (.stop pid) = some after) :
    ∃ process, pool.processes pid = some process ∧
      after = pool.put pid { process with alive := false } (M.abandon pid pool.world) := by
  simp only [next] at taken
  split at taken
  · exact ⟨_, by assumption, (Option.some.inj taken).symm⟩
  · cases taken

theorem next_change {c : Change} (taken : M.next pool (.change c) = some after) :
    M.possible c pool.world = true ∧ after = { pool with world := M.change c pool.world } := by
  simp only [next] at taken
  split at taken
  · exact ⟨by assumption, (Option.some.inj taken).symm⟩
  · cases taken

end Machine

/-- `holds` is true of every world reached. A process of a task may count on `rely` while others act, owes
`due` for each of its operations, knows `permitted` of the world where it is let to act, and ends with
`post`. -/
structure Discipline (M : Machine Task Op E Reply Change Result α W)
    (Allowed : Pool Task Op E Result α W → PoolEvent Task Reply Change → Prop) where
  holds : W → Prop
  rely : Nat → Task → W → W → Prop
  due : Nat → Op → W → Prop
  permitted : Op → W → Prop
  post : Nat → Task → α → W → Prop
  trans {pid task} {a b c : W} : rely pid task a b → rely pid task b c → rely pid task a c
  refl (pid : Nat) (task : Task) (w : W) : rely pid task w w
  code_safe (pid : Nat) (task : Task) (w : W) : holds w → (M.code task).safe
    { Reply := fun _ => Reply, perform := M.perform pid, rely := fun _ => rely pid task, holds, due := due pid,
      admits := fun op reply w => M.admits op reply w = true ∧ permitted op w } (post pid task) w
  own {pid op reply w} : holds w → due pid op w → M.admits op reply w = true → holds (M.perform pid op reply w).2
  others {pid op reply w other task} : other ≠ pid → holds w → due pid op w → M.admits op reply w = true →
    rely other task w (M.perform pid op reply w).2
  stopped {w} (pid : Nat) : holds w → holds (M.abandon pid w)
  stopped_others {pid w other task} : other ≠ pid → holds w → rely other task w (M.abandon pid w)
  changed {pool change} : Allowed pool (.change change) → M.possible change pool.world = true →
    holds pool.world → holds (M.change change pool.world)
  changed_others {pool change pid task op rest} : Allowed pool (.change change) →
    M.possible change pool.world = true → holds pool.world →
    pool.processes pid = some ⟨task, .call op rest, true⟩ → rely pid task pool.world (M.change change pool.world)
  acting {pool pid reply task op rest} : Allowed pool (.act pid reply) →
    pool.processes pid = some ⟨task, .call op rest, true⟩ → permitted op pool.world

namespace Discipline
variable {M : Machine Task Op E Reply Change Result α W}
variable {Allowed : Pool Task Op E Result α W → PoolEvent Task Reply Change → Prop} (D : Discipline M Allowed)

def setting (pid : Nat) (task : Task) : Setting Op E Result W where
  Reply := fun _ => Reply
  perform := M.perform pid
  rely := fun _ => D.rely pid task
  holds := D.holds
  due := D.due pid
  admits := fun op reply w => M.admits op reply w = true ∧ D.permitted op w

/-- What is known of a process. Of one that has returned nothing is kept. -/
def Kept (pid : Nat) (process : Process Task Op E Result α) (w : W) : Prop :=
  ∀ op rest, process.program = .call op rest → process.alive = true →
    process.program.safe (D.setting pid process.task) (D.post pid process.task) w

structure Good (pool : Pool Task Op E Result α W) : Prop where
  holds : D.holds pool.world
  kept : ∀ pid process, pool.processes pid = some process → D.Kept pid process pool.world

variable {D} {pool after start : Pool Task Op E Result α W}

theorem Kept.rely {process : Process Task Op E Result α} {w w' : W} (kept : D.Kept pid process w)
    (step : ∀ op rest, process.program = .call op rest → process.alive = true → D.rely pid process.task w w') :
    D.Kept pid process w' := by
  intro op rest calls alive
  have safely := kept op rest calls alive
  have later := step op rest calls alive
  rw [calls] at safely ⊢
  exact fun w'' next held => safely w'' (D.trans later next) held

theorem Good.put (good : D.Good pool) {process : Process Task Op E Result α} {world : W} (holds : D.holds world)
    (own : D.Kept pid process world)
    (others : ∀ other process, other ≠ pid → pool.processes other = some process →
      D.rely other process.task pool.world world) : D.Good (pool.put pid process world) := by
  refine ⟨holds, fun other found here => ?_⟩
  by_cases same : other = pid
  · subst same
    rw [Pool.put_same] at here
    cases here
    exact own
  · rw [Pool.put_other same] at here
    exact (good.kept other found here).rely fun _ _ _ _ => others other found same here

/-- One operation of a process in a good pool: what was due for it, and that the rest is safe after it. -/
theorem Good.act (good : D.Good pool) (taken : M.Step Allowed pool (.act pid reply) after) :
    ∃ task op rest, pool.processes pid = some ⟨task, .call op rest, true⟩ ∧ D.due pid op pool.world ∧
      M.admits op reply pool.world = true ∧
      (rest (M.perform pid op reply pool.world).1).safe (D.setting pid task) (D.post pid task)
        (M.perform pid op reply pool.world).2 ∧
      after = pool.put pid ⟨task, rest (M.perform pid op reply pool.world).1, true⟩
        (M.perform pid op reply pool.world).2 := by
  obtain ⟨allowed, taken⟩ := taken
  obtain ⟨task, op, rest, found, admitted, rfl⟩ := Machine.next_act taken
  obtain ⟨due, safely⟩ := good.kept pid _ found op rest rfl rfl pool.world (D.refl pid task pool.world) good.holds
  exact ⟨task, op, rest, found, due, admitted, safely reply ⟨admitted, D.acting allowed found⟩, rfl⟩

theorem Good.step (good : D.Good pool) (taken : M.Step Allowed pool event after) : D.Good after := by
  cases event with
  | start pid task =>
    obtain ⟨free, rfl⟩ := Machine.next_start taken.2
    refine good.put good.holds (fun op rest calls alive => D.code_safe pid task pool.world good.holds) ?_
    exact fun other process _ _ => D.refl other process.task pool.world
  | act pid reply =>
    obtain ⟨task, op, rest, found, due, admitted, safely, rfl⟩ := good.act taken
    refine good.put (D.own good.holds due admitted) (fun _ _ _ _ => safely) ?_
    exact fun other process differ _ => D.others differ good.holds due admitted
  | stop pid =>
    obtain ⟨process, found, rfl⟩ := Machine.next_stop taken.2
    refine good.put (D.stopped pid good.holds) (fun op rest calls alive => nomatch alive) ?_
    exact fun other process differ _ => D.stopped_others differ good.holds
  | change change =>
    obtain ⟨possible, rfl⟩ := Machine.next_change taken.2
    refine ⟨D.changed taken.1 possible good.holds, fun pid process found => ?_⟩
    refine (good.kept pid process found).rely fun op rest calls alive => ?_
    obtain ⟨task, program, _⟩ := process
    cases calls
    cases alive
    exact D.changed_others taken.1 possible good.holds found

/-- Every pool that a run reaches from one without processes is good. -/
theorem run (run : Run (M.Step Allowed) start history pool) (holds : D.holds start.world)
    (fresh : ∀ pid, start.processes pid = none) : D.Good pool :=
  run.state_invariant ⟨holds, fun pid process found => by rw [fresh pid] at found; cases found⟩
    fun good taken => good.step taken

/-- A process that returns does so in a world that meets what its task promises. -/
theorem Good.returns (good : D.Good pool) (taken : M.Step Allowed pool (.act pid reply) after)
    (returned : after.processes pid = some ⟨task, .done value, true⟩) : D.post pid task value after.world := by
  obtain ⟨task', op, rest, _, _, _, safely, rfl⟩ := good.act taken
  rw [Pool.put_same] at returned
  obtain ⟨rfl, ended, _⟩ := Process.mk.injEq .. ▸ Option.some.inj returned
  rw [ended] at safely
  exact safely

/-- What every task promises whatever the world, every process that has returned has kept. -/
theorem finished (verdict : Task → α → Prop) (run : Run (M.Step Allowed) start history pool) (holds : D.holds start.world)
    (fresh : ∀ pid, start.processes pid = none) (promised : ∀ {pid task value w}, D.post pid task value w → verdict task value)
    (returned : pool.processes pid = some ⟨task, .done value, alive⟩) : verdict task value := by
  have all : D.Good pool ∧ ∀ pid task value alive, pool.processes pid = some ⟨task, .done value, alive⟩ →
      verdict task value := by
    have first : D.Good start := ⟨holds, fun pid process found => by rw [fresh pid] at found; cases found⟩
    refine run.state_invariant (P := fun pool => D.Good pool ∧ ∀ pid task value alive,
      pool.processes pid = some ⟨task, .done value, alive⟩ → verdict task value)
      ⟨first, fun pid _ _ _ found => by rw [fresh pid] at found; cases found⟩ ?_
    rintro pool event after ⟨good, kept⟩ taken
    refine ⟨good.step taken, fun other task value alive found => ?_⟩
    cases event with
    | start pid begun =>
      obtain ⟨free, rfl⟩ := Machine.next_start taken.2
      by_cases same : other = pid
      · subst same
        rw [Pool.put_same] at found
        have safely := D.code_safe other begun pool.world good.holds
        obtain ⟨rfl, ended, _⟩ := Process.mk.injEq .. ▸ Option.some.inj found
        rw [ended] at safely
        exact promised safely
      · rw [Pool.put_other same] at found
        exact kept other task value alive found
    | act pid reply =>
      by_cases same : other = pid
      · subst same
        obtain ⟨task', op, rest, _, _, _, safely, rfl⟩ := good.act taken
        rw [Pool.put_same] at found
        obtain ⟨rfl, ended, _⟩ := Process.mk.injEq .. ▸ Option.some.inj found
        rw [ended] at safely
        exact promised safely
      · obtain ⟨task', op, rest, _, _, rfl⟩ := Machine.next_act taken.2
        rw [Pool.put_other same] at found
        exact kept other task value alive found
    | stop pid =>
      obtain ⟨process, here, rfl⟩ := Machine.next_stop taken.2
      by_cases same : other = pid
      · subst same
        rw [Pool.put_same] at found
        obtain ⟨task', program, alive'⟩ := process
        obtain ⟨rfl, rfl, _⟩ := Process.mk.injEq .. ▸ Option.some.inj found
        exact kept other _ _ _ here
      · rw [Pool.put_other same] at found
        exact kept other task value alive found
    | change c =>
      obtain ⟨_, rfl⟩ := Machine.next_change taken.2
      exact kept other task value alive found
  exact all.2 pid task value alive returned

end Discipline

/-- The events performed one after another, each where it is allowed. -/
def Machine.script (M : Machine Task Op E Reply Change Result α W)
    (Allowed : Pool Task Op E Result α W → PoolEvent Task Reply Change → Prop) [∀ pool event, Decidable (Allowed pool event)]
    (pool : Pool Task Op E Result α W) (events : List (PoolEvent Task Reply Change)) :
    Option (Pool Task Op E Result α W) :=
  events.foldlM (fun pool event => if Allowed pool event then M.next pool event else none) pool

theorem Machine.script_run {M : Machine Task Op E Reply Change Result α W}
    {Allowed : Pool Task Op E Result α W → PoolEvent Task Reply Change → Prop} [∀ pool event, Decidable (Allowed pool event)]
    {start pool : Pool Task Op E Result α W} {events : List (PoolEvent Task Reply Change)}
    (ran : M.script Allowed start events = some pool) : Run (M.Step Allowed) start events pool := by
  refine (Run.of_foldlM ran).mono fun {s event t} taken => ?_
  split at taken
  · exact ⟨by assumption, taken⟩
  · cases taken

end JBCenter
