import JBCenter.SmartAccounts.Creations

/-! The factory index is complete: whatever replicas advance it, and wherever they stop, its rows are the
canonical creations between the seed and its mark. A lookup that finds no row above the mark it read gives
every creation of its proxy exactly once. -/
namespace JBCenter.SmartAccounts

/-- The rows are exactly the canonical creations above the seed up to their mark, which is final. -/
structure Complete (seed : FactoryHistorySeed) (chain : Chain) (database : Database) : Prop where
  seeded : seed.through ≤ (seed.mark database.history).throughBlock
  final : (seed.mark database.history).throughBlock ≤ chain.finalized
  exact : database.creations = (chain.getLogs seed.factory (seed.through + 1)
    (seed.mark database.history).throughBlock none).map Log.row

structure Sound (seed : FactoryHistorySeed) (w : World) : Prop where
  lists : seed.Lists w.chain
  complete : Complete seed w.chain w.database
  agreed : ∀ run, w.outcomes run ≠ some (.error disagrees)

/-- The blocks a task asks about. -/
def Task.Reads : Task → Nat → Prop
  | .sync _, _ => False
  | .creationLogs _ _ _ _ last, n => n ≤ last

/-- What a process may count on while others act. Under `calm` the blocks it asks about stay canonical. -/
structure Relies (seed : FactoryHistorySeed) (calm : Prop) (pid : Nat) (task : Task) (w w' : World) : Prop where
  grows : w.chain.Grows w'.chain
  rises : (seed.mark w.database.history).throughBlock ≤ (seed.mark w'.database.history).throughBlock
  own : w'.own pid = w.own pid
  mine : (w.own pid).isSome = true → w'.database = w.database
  same : calm → ∀ n, task.Reads n → w'.chain.block n = w.chain.block n

/-- What a process owes for an operation: the tables it commits are complete and reach no less far. -/
def Due (seed : FactoryHistorySeed) (pid : Nat) : Op → World → Prop
  | .commit, w => ∀ working, w.own pid = some working → Complete seed w.chain working ∧
      (seed.mark w.database.history).throughBlock ≤ (seed.mark working.history).throughBlock
  | .settle _ outcome, _ => outcome ≠ .error disagrees
  | _, _ => True

/-- No row for the proxy lies above the mark of the lookup that reads the rows. -/
def Undisturbed : Op → World → Prop
  | .readCreations proxy last _ through, w =>
    ∀ row ∈ w.database.creations, row.proxy = proxy → row.blockNumber ≤ last → row.blockNumber ≤ through
  | _, _ => True

variable {seed : FactoryHistorySeed} {calm : Prop} {pid other : Nat} {task : Task} {w a b : World} {op : Op}

theorem FactoryHistorySeed.Lists.grows {chain next : Chain} (lists : seed.Lists chain) (grows : chain.Grows next) :
    seed.Lists next := by
  refine ⟨lists.final.trans grows.1, fun proxy n => ?_⟩
  rw [lists.exact]
  split
  · rw [grows.logsOf (le_trans (by assumption) lists.final)]
  · rfl

variable {database : Database} {last : Nat}

theorem Complete.grows {chain next : Chain} (complete : Complete seed chain database)
    (grows : chain.Grows next) : Complete seed next database := by
  refine ⟨complete.seeded, complete.final.trans grows.1, ?_⟩
  rw [grows.getLogs none complete.final]
  exact complete.exact

theorem Relies.refl (pid : Nat) (task : Task) (w : World) : Relies seed calm pid task w w :=
  ⟨⟨le_rfl, fun _ _ => rfl⟩, le_rfl, rfl, fun _ => rfl, fun _ _ _ => rfl⟩

theorem Relies.trans {c : World} (first : Relies seed calm pid task a b) (second : Relies seed calm pid task b c) :
    Relies seed calm pid task a c where
  grows := first.grows.trans second.grows
  rises := first.rises.trans second.rises
  own := second.own.trans first.own
  mine := fun open_ => (second.mine (by rw [first.own]; exact open_)).trans (first.mine open_)
  same := fun calmly n reads => (second.same calmly n reads).trans (first.same calmly n reads)

theorem World.own_exclusive (owned : w.own pid = some working) (differ : other ≠ pid) : w.own other = none := by
  unfold World.own at owned ⊢
  split at owned
  · rename_i owner _ held
    split at owned
    · rename_i same
      rw [if_neg fun again => differ (again.symm.trans same)]
    · cases owned
  · cases owned

/-- What an operation may do to the world: the tables change in a commit only, another's transaction never. -/
inductive Changes (pid : Nat) (w : World) : Op → World → Prop where
  | nothing (op : Op) : Changes pid w op w
  | joined (op : Op) (syncing : Nat → Option Nat) : Changes pid w op { w with syncing }
  | settled (replica : Nat) (outcome : Except Failure Unit) (syncing : Nat → Option Nat) :
      Changes pid w (.settle replica outcome)
        { w with syncing, outcomes := Function.update w.outcomes pid (some outcome) }
  | begun (op : Op) : w.transaction = none → Changes pid w op { w with transaction := some (pid, w.database) }
  | written (op : Op) (before working : Database) : w.own pid = some before →
      Changes pid w op { w with transaction := some (pid, working) }
  | ended (op : Op) (before : Database) : w.own pid = some before → Changes pid w op { w with transaction := none }
  | committed (working : Database) : w.own pid = some working →
      Changes pid w .commit { w with database := working, transaction := none }

theorem within_changes (op : Op) (change : Database → Database) : Changes pid w op (w.within pid change).2 := by
  unfold World.within
  split
  · exact .written op _ _ (by assumption)
  · exact .nothing op

theorem abandon_changes (op : Op) : Changes pid w op (w.abandon pid) := by
  unfold World.abandon
  split
  · exact .ended op _ (by assumption)
  · exact .nothing op

theorem answer_changes (factory : Nat) (op : Op) : Changes pid w op (answer factory pid w op).2 := by
  cases op with
  | join replica =>
    simp only [answer]
    split
    · exact .nothing _
    · exact .joined _ _
  | await run =>
    simp only [answer]
    split <;> exact .nothing _
  | settle replica outcome => exact .settled replica outcome _
  | begin =>
    simp only [answer]
    split
    · exact .nothing _
    · exact .begun _ (by assumption)
  | rollback => exact abandon_changes _
  | readHistory => exact .nothing _
  | insertCreations rows => exact within_changes _ _
  | upsertHistory row => exact within_changes _ _
  | commit =>
    simp only [answer]
    split
    · exact .committed _ (by assumption)
    · exact .nothing _
  | header tag =>
    simp only [answer]
    split <;> exact .nothing _
  | getLogs first last proxy => exact .nothing _
  | readCreations proxy last after through => exact .nothing _

theorem perform_changes (factory : Nat) (op : Op) (reply : Reply) :
    Changes pid w op (perform factory pid op reply w).2 := by
  cases reply with
  | answered => exact answer_changes factory op
  | lost => exact answer_changes factory op
  | failed => exact .nothing op

theorem Changes.sound (changes : Changes pid a op b) (sound : Sound seed a) (due : Due seed pid op a) :
    Sound seed b := by
  cases changes with
  | settled replica outcome syncing =>
    refine ⟨sound.lists, sound.complete, fun run => ?_⟩
    by_cases same : run = pid
    · subst same
      simp only [Function.update_self]
      exact fun impossible => due (Option.some.inj impossible)
    · simp only [Function.update_of_ne same]
      exact sound.agreed run
  | committed working owned => exact ⟨sound.lists, (due working owned).1, sound.agreed⟩
  | _ => exact ⟨sound.lists, sound.complete, sound.agreed⟩

theorem Changes.relies (changes : Changes pid a op b) (differ : other ≠ pid) (due : Due seed pid op a) :
    Relies seed calm other task a b := by
  have free (working : Database) : World.own { a with transaction := some (pid, working) } other = none := by
    simp only [World.own]
    exact if_neg fun same => differ same.symm
  cases changes with
  | begun op none =>
    have before : a.own other = Option.none := by simp only [World.own, none]
    exact ⟨⟨le_rfl, fun _ _ => rfl⟩, le_rfl, by rw [free, before], fun _ => rfl, fun _ _ _ => rfl⟩
  | written op before working owned =>
    exact ⟨⟨le_rfl, fun _ _ => rfl⟩, le_rfl, by rw [free, World.own_exclusive owned differ], fun _ => rfl,
      fun _ _ _ => rfl⟩
  | ended op before owned =>
    exact ⟨⟨le_rfl, fun _ _ => rfl⟩, le_rfl, by rw [World.own_exclusive owned differ]; rfl, fun _ => rfl,
      fun _ _ _ => rfl⟩
  | committed working owned =>
    have none := World.own_exclusive owned differ
    refine ⟨⟨le_rfl, fun _ _ => rfl⟩, (due working owned).2, by rw [none]; rfl, fun held => ?_, fun _ _ _ => rfl⟩
    rw [none] at held
    cases held
  | _ => exact ⟨⟨le_rfl, fun _ _ => rfl⟩, le_rfl, rfl, fun _ => rfl, fun _ _ _ => rfl⟩

theorem answer_error (sound : Sound seed a) (failed : answer factory pid a op = (.error e, b)) : e ≠ disagrees := by
  have refused := congrArg Prod.fst failed
  rintro rfl
  cases op with
  | await run =>
    simp only [answer] at refused
    split at refused
    · rename_i outcome found
      exact sound.agreed run (found.trans (congrArg some refused))
    · cases refused
  | header tag =>
    simp only [answer] at refused
    split at refused
    · cases refused
    · exact absurd (Except.error.inj refused) (by decide)
  | insertCreations | upsertHistory =>
    simp only [answer, World.within] at refused
    split at refused
    · cases refused
    · exact absurd (Except.error.inj refused) (by decide)
  | commit =>
    simp only [answer] at refused
    split at refused
    · cases refused
    · exact absurd (Except.error.inj refused) (by decide)
  | join | begin =>
    simp only [answer] at refused
    split at refused <;> cases refused
  | _ => cases refused

def setting (seed : FactoryHistorySeed) (calm : Prop) (pid : Nat) (task : Task) :
    Setting Op Failure Op.Result World where
  Reply := fun _ => Reply
  perform := perform seed.factory pid
  rely := fun _ => Relies seed calm pid task
  holds := Sound seed
  due := Due seed pid
  admits := fun op reply w => admits op reply w = true ∧ (calm → Undisturbed op w)

/-- Code that keeps what is due, returns in a world with `ok`, and never fails with a disagreement. -/
def Safe (seed : FactoryHistorySeed) (calm : Prop) (pid : Nat) (task : Task) {α : Type} (m : Code α)
    (ok : α → World → Prop) (w : World) : Prop :=
  Action.safe (setting seed calm pid task) m () (fun value _ => ok value) (fun error _ _ => error ≠ disagrees) w

/-- Others leave it true. -/
def Stable (seed : FactoryHistorySeed) (calm : Prop) (pid : Nat) (task : Task) (known : World → Prop) : Prop :=
  ∀ a b, Relies seed calm pid task a b → known a → known b

variable {α β : Type} {known : World → Prop}

theorem Safe.bind {m : Code α} {f : α → Code β} {ok : β → World → Prop}
    (safely : Safe seed calm pid task m (fun value w => Safe seed calm pid task (f value) ok w) w) :
    Safe seed calm pid task (m >>= f) ok w :=
  Action.safe_bind safely

theorem Safe.imp {m : Code α} {ok weaker : α → World → Prop} (safely : Safe seed calm pid task m ok w)
    (implies : ∀ value w, ok value w → weaker value w) : Safe seed calm pid task m weaker w :=
  Action.safe_imp safely fun value _ w => implies value w

theorem Safe.pure {value : α} {ok : α → World → Prop} (done : ok value w) :
    Safe seed calm pid task (Pure.pure value : Code α) ok w :=
  Action.safe_pure done

theorem Safe.raise {error : Failure} {ok : α → World → Prop} (other : error ≠ disagrees) :
    Safe seed calm pid task (Action.raise error : Code α) ok w :=
  Action.safe_raise other

theorem Safe.unless {refused : Prop} [Decidable refused] {message : String} {ok : Unit → World → Prop}
    (other : refused → Failure.unavailable message ≠ disagrees) (rest : ¬ refused → ok () w) :
    Safe seed calm pid task (unavailableIf refused message) ok w := by
  unfold unavailableIf
  split
  · exact Safe.raise (other (by assumption))
  · exact Safe.pure (rest (by assumption))

theorem Safe.query {ok : op.Result → World → Prop} (stable : Stable seed calm pid task known) (before : known w)
    (owes : ∀ a, known a → Sound seed a → Due seed pid op a)
    (gives : ∀ a value b, known a → Sound seed a → (calm → Undisturbed op a) →
      answer seed.factory pid a op = (.ok value, b) → ok value b) :
    Safe seed calm pid task (Action.request op) ok w := by
  refine Action.safe_request known before stable fun a knows sound => ⟨owes a knows sound, fun reply admitted => ?_⟩
  refine ⟨fun value b performed => ?_, fun error b performed => ?_⟩
  · cases reply with
    | answered => exact gives a value b knows sound admitted.2 performed
    | lost => cases performed
    | failed => cases performed
  · cases reply with
    | answered => exact answer_error sound performed
    | lost =>
      cases performed
      decide
    | failed =>
      cases performed
      decide

theorem header_safe (stable : Stable seed calm pid task known) (before : known w) (tag : Tag) :
    Safe seed calm pid task (header tag)
      (fun value w => known w ∧ (tag = .finalized → value.number = w.chain.finalized)) w := by
  refine Safe.query stable before (fun _ _ _ => trivial) fun a value b knows _ _ answered => ?_
  simp only [answer] at answered
  split at answered
  · rename_i found
    cases answered
    refine ⟨knows, fun same => ?_⟩
    subst same
    obtain ⟨_, _, rfl⟩ := Option.map_eq_some_iff.mp found
    rfl
  · cases answered

theorem checkPage_ok (checked : checkPage factory first last chosen result = .ok value) : value = result := by
  unfold checkPage at checked
  split at checked
  · cases checked
  · split at checked
    · cases checked
    · split at checked
      · cases checked
      · exact (Except.ok.inj checked).symm

theorem checkPage_error (checked : checkPage factory first last chosen result = .error error) : error ≠ disagrees := by
  unfold checkPage at checked
  split at checked
  · exact Except.error.inj checked ▸ by decide
  · split at checked
    · exact Except.error.inj checked ▸ by decide
    · split at checked
      · exact Except.error.inj checked ▸ by decide
      · cases checked

theorem logs_safe (stable : Stable seed calm pid task known) (before : known w) (first last : Nat)
    (chosen : Option Nat) :
    Safe seed calm pid task (logs seed.factory first last chosen)
      (fun value w => known w ∧ value = w.chain.getLogs seed.factory first last chosen) w := by
  unfold logs
  split
  · exact Safe.raise (by decide)
  · refine Safe.bind (Safe.query stable before (fun _ _ _ => trivial) fun a value b knows _ _ answered => ?_)
    cases answered
    refine Action.safe_ofExcept (fun page checked => ?_) (fun error checked => checkPage_error checked)
    exact ⟨knows, checkPage_ok checked⟩

/-- The process's transaction has the canonical rows up to `through`, no further than a `limit` that is
final, and the tables are still those it began with. -/
structure Holding (seed : FactoryHistorySeed) (pid limit through : Nat) (base : Database) (w : World) : Prop where
  database : w.database = base
  reached : seed.through ≤ through ∧ (seed.mark base.history).throughBlock ≤ through
  limited : through ≤ limit ∧ limit ≤ w.chain.finalized
  working : ∃ working, w.own pid = some working ∧
    working.creations = (w.chain.getLogs seed.factory (seed.through + 1) through none).map Log.row

variable {limit through further : Nat} {base : Database}

theorem Holding.stable (limit through : Nat) (base : Database) :
    Stable seed calm pid task (Holding seed pid limit through base) := by
  rintro a b relies ⟨rfl, reached, ⟨within, final⟩, working, owned, exact⟩
  refine ⟨relies.mine (by rw [owned]; rfl), reached, ⟨within, final.trans relies.grows.1⟩, working, ?_, ?_⟩
  · rw [relies.own, owned]
  · rw [relies.grows.getLogs none (within.trans final), exact]

theorem World.own_update (w : World) (working : Database) :
    World.own { w with transaction := some (pid, working) } pid = some working := by
  simp [World.own]

theorem storePage_safe (holding : Holding seed pid limit through base w) (later : through ≤ further)
    (within : further ≤ limit) :
    Safe seed calm pid task (storePage (w.chain.getLogs seed.factory (through + 1) further none))
      (fun _ w => Holding seed pid limit further base w) w := by
  unfold storePage
  split
  · have stable : Stable seed calm pid task (fun a => Holding seed pid limit through base a ∧
        a.chain.getLogs seed.factory (through + 1) further none =
          w.chain.getLogs seed.factory (through + 1) further none) := by
      rintro a b relies ⟨holding, same⟩
      refine ⟨Holding.stable limit through base a b relies holding, ?_⟩
      rw [relies.grows.getLogs none (within.trans holding.limited.2), same]
    refine Safe.query stable ⟨holding, rfl⟩ (fun _ _ _ => trivial) ?_
    rintro a value b ⟨⟨same, ⟨low, rises⟩, ⟨_, final⟩, working, owned, exact⟩, page⟩ _ _ answered
    simp only [answer, World.within, owned] at answered
    cases answered
    refine ⟨same, ⟨low.trans later, rises.trans later⟩, ⟨within, final⟩, _, World.own_update a _, ?_⟩
    rw [exact, ← page]
    exact insert_page (by omega) later
  · rename_i empty
    obtain ⟨same, ⟨low, rises⟩, ⟨_, final⟩, working, owned, exact⟩ := holding
    refine Safe.pure ⟨same, ⟨low.trans later, rises.trans later⟩, ⟨within, final⟩, working, owned, ?_⟩
    rw [exact, ← Chain.getLogs_append none (show seed.through + 1 ≤ through + 1 by omega) later, not_ne_iff.mp empty,
      List.append_nil]

theorem pages_safe (count : Nat) (holding : Holding seed pid limit through base w) :
    Safe seed calm pid task (pages seed.factory limit count through)
      (fun through w => Holding seed pid limit through base w) w := by
  induction count generalizing through w with
  | zero => exact Safe.pure holding
  | succ count ih =>
    unfold pages
    split
    · refine Safe.bind ((logs_safe (Holding.stable limit through base) holding _ _ none).imp ?_)
      rintro page w ⟨holding, rfl⟩
      refine Safe.bind ((storePage_safe holding ?_ (Nat.min_le_right _ _)).imp fun _ w next => ih next)
      omega
    · exact Safe.pure holding

/-- What a transaction that took the lock starts from. -/
theorem Holding.begun (sound : Sound seed w) (owned : w.own pid = some w.database) :
    Holding seed pid (seed.mark w.database.history).throughBlock (seed.mark w.database.history).throughBlock
      w.database w :=
  ⟨rfl, ⟨sound.complete.seeded, le_rfl⟩, ⟨le_rfl, sound.complete.final⟩, w.database, owned, sound.complete.exact⟩

theorem Holding.within (holding : Holding seed pid limit through base w) (final : w.chain.finalized = further) :
    Holding seed pid further through base w :=
  ⟨holding.database, holding.reached, ⟨final ▸ holding.limited.1.trans holding.limited.2, final.ge⟩, holding.working⟩

/-- The transaction's own row says how far its rows reach. -/
structure Ready (seed : FactoryHistorySeed) (pid through : Nat) (base : Database) (w : World) : Prop where
  database : w.database = base
  rises : (seed.mark base.history).throughBlock ≤ through
  working : ∃ working, w.own pid = some working ∧ (seed.mark working.history).throughBlock = through ∧
    Complete seed w.chain working

theorem Ready.stable (through : Nat) (base : Database) : Stable seed calm pid task (Ready seed pid through base) := by
  rintro a b relies ⟨rfl, rises, working, owned, same, complete⟩
  refine ⟨relies.mine (by rw [owned]; rfl), rises, working, ?_, same, complete.grows relies.grows⟩
  rw [relies.own, owned]

theorem upsertHistory_safe (holding : Holding seed pid limit through base w) (hash : Nat) :
    Safe seed calm pid task (upsertHistory ⟨through, hash⟩) (fun _ => Ready seed pid through base) w := by
  refine Safe.query (Holding.stable limit through base) holding (fun _ _ _ => trivial) ?_
  rintro a value b ⟨same, ⟨low, rises⟩, ⟨within, final⟩, working, owned, exact⟩ _ _ answered
  simp only [answer, World.within, owned] at answered
  cases answered
  exact ⟨same, rises, _, World.own_update a _, rfl, low, within.trans final, exact⟩

theorem commit_safe (ready : Ready seed pid through base w) :
    Safe seed calm pid task commit (fun _ _ => True) w := by
  refine Safe.query (Ready.stable through base) ready ?_ (fun _ _ _ _ _ _ _ => trivial)
  rintro a ⟨rfl, rises, working, owned, same, complete⟩ _ other held
  cases owned.symm.trans held
  exact ⟨complete, same ▸ rises⟩

theorem advanceFrom_safe (sound : Sound seed w) (owned : w.own pid = some w.database) :
    Safe seed calm pid task (advanceFrom seed (seed.mark w.database.history)) (fun _ _ => True) w := by
  have holding := Holding.begun sound owned
  unfold advanceFrom
  generalize w.database = base at holding ⊢
  refine Safe.bind (Safe.unless (fun _ => by decide) fun _ => ?_)
  refine Safe.bind ((header_safe (Holding.stable _ _ _) holding _).imp ?_)
  rintro anchor w ⟨holding, -⟩
  refine Safe.bind (Safe.unless (fun _ => by decide) fun _ => ?_)
  refine Safe.bind ((header_safe (Holding.stable _ _ _) holding _).imp ?_)
  rintro finalized w ⟨holding, final⟩
  refine Safe.bind ((pages_safe 12 (holding.within (final rfl).symm)).imp ?_)
  intro through w holding
  refine Safe.bind ((header_safe (Holding.stable _ _ _) holding _).imp ?_)
  rintro last w ⟨holding, -⟩
  refine Safe.bind ((upsertHistory_safe holding last.hash).imp ?_)
  intro _ w ready
  refine Safe.bind ((header_safe (Ready.stable through base) ready _).imp ?_)
  rintro again w ⟨ready, -⟩
  exact Safe.bind (Safe.unless (fun _ => by decide) fun _ => commit_safe ready)

theorem Stable.trivial : Stable seed calm pid task (fun _ => True) := fun _ _ _ known => known

/-- An operation about which nothing need be known. -/
theorem Safe.any (op : Op) (owes : ∀ a, Due seed pid op a) :
    Safe seed calm pid task (Action.request op) (fun _ _ => True) w :=
  Safe.query Stable.trivial True.intro (fun a _ _ => owes a) (fun _ _ _ _ _ _ _ => True.intro)

theorem Safe.tryCatch {m : Code α} {handler : Failure → Code α} {ok : α → World → Prop}
    (safely : Safe seed calm pid task m ok w)
    (handles : ∀ error w, error ≠ disagrees → Safe seed calm pid task (handler error) ok w) :
    Safe seed calm pid task (Action.tryCatch m handler) ok w :=
  Action.safe_tryCatch (Action.safe_mono safely (fun _ _ _ => id) fun error _ w other => handles error w other)

theorem advance_safe : Safe seed calm pid task (advance seed) (fun _ _ => True) w := by
  refine Safe.tryCatch (Safe.bind ?_) ?_
  · refine Safe.query Stable.trivial True.intro (fun _ _ _ => True.intro) fun a locked b _ sound _ answered => ?_
    simp only [answer] at answered
    split at answered
    · cases answered
      exact Safe.any .rollback fun _ => True.intro
    · cases answered
      have stable : Stable seed calm pid task (fun w => w.own pid = some w.database) := fun a b relies owned => by
        change b.own pid = some b.database
        rw [relies.own, owned, relies.mine (by rw [owned]; rfl)]
      refine Safe.bind (Safe.query stable (World.own_update a _) (fun _ _ _ => True.intro) ?_)
      rintro a row b owned sound _ answered
      cases answered
      exact advanceFrom_safe sound owned
  · intro error w other
    refine Safe.bind ((Safe.tryCatch (Safe.any .rollback fun _ => True.intro) fun _ _ _ => Safe.pure True.intro).imp ?_)
    exact fun _ _ _ => Safe.raise other

theorem sync_safe (replica : Nat) : Safe seed calm pid task (sync seed replica) (fun _ _ => True) w := by
  refine Safe.bind ((Safe.any (.join replica) fun _ => True.intro).imp fun current w _ => ?_)
  cases current with
  | some run => exact Safe.any (.await run) fun _ => True.intro
  | none =>
    have outcome : Safe seed calm pid task
        (Action.tryCatch (advance seed >>= fun _ => pure (Except.ok ())) (fun error => pure (Except.error error)))
        (fun outcome _ => outcome ≠ Except.error disagrees) w := by
      refine Safe.tryCatch (Safe.bind (advance_safe.imp fun _ _ _ => Safe.pure (nofun))) ?_
      exact fun error w other => Safe.pure fun same => other (Except.error.inj same)
    refine Safe.bind (outcome.imp fun outcome w agreed => Safe.bind ?_)
    refine (Safe.any (.settle replica outcome) fun _ => agreed).imp fun _ w _ => ?_
    exact Action.safe_ofExcept (fun _ _ => True.intro) fun error same => fun wrong => agreed (same.trans (congrArg _ wrong))

/-- The rows reach at least as far as the mark that was read. -/
def Marked (seed : FactoryHistorySeed) (through : Nat) (w : World) : Prop :=
  seed.through ≤ through ∧ through ≤ (seed.mark w.database.history).throughBlock

theorem Marked.stable (through : Nat) : Stable seed calm pid task (Marked seed through) :=
  fun _ _ relies marked => ⟨marked.1, marked.2.trans relies.rises⟩

/-- The blocks found for a proxy: each is final and stands as often as it has logs of the proxy. Under `calm`
they are all such blocks up to the mark. -/
structure Found (seed : FactoryHistorySeed) (calm : Prop) (proxy last through : Nat) (blocks : List Nat) (w : World) :
    Prop where
  final : ∀ n ∈ blocks, n ≤ w.chain.finalized
  counted : ∀ n ∈ blocks, blocks.count n = (w.chain.logsOf seed.factory proxy n).length
  reached : through ≤ w.chain.finalized
  those : calm → ∀ n, n ∈ blocks ↔ (n ≤ through ∧ n ≤ last) ∧ w.chain.logsOf seed.factory proxy n ≠ []

theorem Found.stable (proxy last through : Nat) (blocks : List Nat) :
    Stable seed calm pid task (Found seed calm proxy last through blocks) := by
  intro a b relies found
  refine ⟨fun n member => (found.final n member).trans relies.grows.1, fun n member => ?_,
    found.reached.trans relies.grows.1, fun calmly n => ?_⟩
  · rw [relies.grows.logsOf (found.final n member), found.counted n member]
  · rw [found.those calmly n]
    refine and_congr_right fun within => ?_
    rw [relies.grows.logsOf (within.1.trans found.reached)]

variable {index : FactoryHistoryIndex} {proxy : Nat}

theorem count_blocks (proxy last n : Nat)
    (lists : index.seed.Lists w.chain) (complete : Complete index.seed w.chain database) :
    (index.seed.prefixOf proxy last ++ (database.creations.filter (fun row => row.proxy == proxy &&
        decide (row.blockNumber ≤ last) && decide (index.seed.through < row.blockNumber))).map
          CreationRow.blockNumber).count n =
      if n ≤ (index.seed.mark database.history).throughBlock ∧ n ≤ last then
        (w.chain.logsOf index.seed.factory proxy n).length else 0 := by
  rw [List.count_append, count_prefixOf lists, count_tail complete.exact]
  have seeded := complete.seeded
  by_cases early : n ≤ index.seed.through
  · simp only [early, early.trans seeded, show ¬ index.seed.through < n by omega, and_false, if_false, true_and,
      Nat.add_zero]
  · simp only [early, show index.seed.through < n by omega, show index.seed.through + 1 ≤ n by omega, false_and,
      if_false, true_and, and_true, Nat.zero_add]

theorem row_of_log {n : Nat} (complete : Complete seed w.chain database)
    (above : seed.through < n) (below : n ≤ (seed.mark database.history).throughBlock)
    (created : w.chain.logsOf seed.factory proxy n ≠ []) :
    ∃ row ∈ database.creations, row.proxy = proxy ∧ row.blockNumber = n := by
  obtain ⟨log, member⟩ := List.exists_mem_of_ne_nil _ created
  obtain ⟨member, same⟩ := List.mem_filter.mp member
  refine ⟨log.row, ?_, beq_iff_eq.mp same, blockNumber_of_mem_logs member⟩
  rw [complete.exact, Chain.getLogs_none]
  exact List.mem_map_of_mem (List.mem_flatMap.mpr ⟨n, mem_span.mpr ⟨above, below⟩, member⟩)

theorem readCreations_safe (marked : Marked index.seed through w) (proxy last : Nat) :
    Safe index.seed calm pid task (readCreations proxy last index.seed.through through)
      (fun tail => Found index.seed calm proxy last through (index.seed.prefixOf proxy last ++ tail)) w := by
  refine Safe.query (Marked.stable through) marked (fun _ _ _ => True.intro) ?_
  rintro a tail b ⟨seeded, marked⟩ sound undisturbed answered
  cases answered
  have count (n : Nat) := count_blocks proxy last n sound.lists sound.complete
  have final := sound.complete.final
  refine ⟨fun n member => ?_, fun n member => ?_, marked.trans final, fun calmly n => ?_⟩
  · have positive := List.count_pos_iff.mpr member
    rw [count n] at positive
    split at positive
    · rename_i within
      exact within.1.trans final
    · cases positive
  · have positive := List.count_pos_iff.mpr member
    rw [count n] at positive ⊢
    split at positive
    · rename_i within
      rw [if_pos within]
    · cases positive
  · rw [← List.count_pos_iff, count n]
    constructor
    · intro positive
      split at positive
      · rename_i within
        have created := List.length_pos_iff.mp positive
        refine ⟨⟨?_, within.2⟩, created⟩
        by_contra beyond
        obtain ⟨row, member, rfl, rfl⟩ := row_of_log sound.complete (by omega) within.1 created
        exact beyond (undisturbed calmly row member rfl within.2)
      · cases positive
    · rintro ⟨⟨below, within⟩, created⟩
      rw [if_pos ⟨below.trans marked, within⟩]
      exact List.length_pos_iff.mpr created

theorem collect_safe {blocks : List Nat} (stable : Stable seed calm pid task known) (before : known w)
    (final : ∀ w, known w → ∀ n ∈ blocks, n ≤ w.chain.finalized) :
    Safe seed calm pid task (collect seed.factory proxy blocks)
      (fun value w => known w ∧ value = blocks.flatMap (w.chain.logsOf seed.factory proxy)) w := by
  induction blocks generalizing w known with
  | nil => exact Safe.pure ⟨before, rfl⟩
  | cons block rest ih =>
    refine Safe.bind ((logs_safe stable before block block (some proxy)).imp ?_)
    rintro found w ⟨knows, same⟩
    rw [Chain.getLogs_single] at same
    have further : Stable seed calm pid task
        (fun w => known w ∧ found = w.chain.logsOf seed.factory proxy block) := fun a b relies knows =>
      ⟨stable a b relies knows.1, knows.2.trans (relies.grows.logsOf (final a knows.1 block List.mem_cons_self)).symm⟩
    refine Safe.bind ((ih further ⟨knows, same⟩
      fun w knows n member => final w knows.1 n (List.mem_cons_of_mem _ member)).imp ?_)
    rintro others w ⟨⟨knows, rfl⟩, rfl⟩
    exact Safe.pure ⟨knows, rfl⟩

theorem scan_safe {replica chainId factory : Nat} {fuel first : Nat}
    (stable : Stable seed calm pid (.creationLogs replica chainId factory proxy last) known) (before : known w)
    (enough : last + 1 - first ≤ fuel) :
    Safe seed calm pid (.creationLogs replica chainId factory proxy last) (scan seed.factory proxy last fuel first)
      (fun value w => known w ∧ (calm → value = w.chain.getLogs seed.factory first last (some proxy))) w := by
  induction fuel generalizing first w known with
  | zero =>
    refine Safe.pure ⟨before, fun _ => ?_⟩
    rw [Chain.getLogs_empty _ (by omega)]
  | succ fuel ih =>
    unfold scan
    split
    · rename_i remaining
      refine Safe.bind ((logs_safe stable before _ _ (some proxy)).imp ?_)
      rintro found w ⟨knows, same⟩
      have further : Stable seed calm pid (.creationLogs replica chainId factory proxy last)
          (fun w => known w ∧ (calm → found = w.chain.getLogs seed.factory first
            (if first + 499 < last then first + 499 else last) (some proxy))) := by
        rintro a b relies ⟨knows, same⟩
        refine ⟨stable a b relies knows, fun calmly => (same calmly).trans (Chain.getLogs_congr _ fun n _ bound => ?_).symm⟩
        refine relies.same calmly n (bound.trans ?_)
        split
        · omega
        · exact le_rfl
      refine Safe.bind ((ih further ⟨knows, fun _ => same⟩ (by omega)).imp ?_)
      rintro others w ⟨⟨knows, same⟩, rest⟩
      refine Safe.pure ⟨knows, fun calmly => ?_⟩
      rw [same calmly, rest calmly]
      split
      · exact Chain.getLogs_append (some proxy) (show first ≤ first + 499 + 1 by omega) (by omega)
      · rw [Chain.getLogs_empty (some proxy) (show last < first + 500 by omega), List.append_nil]
    · rename_i done
      refine Safe.pure ⟨before, fun _ => ?_⟩
      rw [Chain.getLogs_empty _ (by omega)]

theorem Found.perm {blocks : List Nat} (found : Found seed calm proxy last through blocks w)
    (calmly : calm) :
    (blocks.eraseDups.flatMap (w.chain.logsOf seed.factory proxy) ++
      w.chain.getLogs seed.factory (through + 1) last (some proxy)).Perm
        (w.chain.getLogs seed.factory 0 last (some proxy)) := by
  have those := collected_perm (min through last) fun n => by
    rw [found.those calmly n, Nat.le_min]
  refine (those.append_right _).trans (List.Perm.of_eq ?_)
  by_cases within : through ≤ last
  · rw [Nat.min_eq_left within]
    exact Chain.getLogs_append (some proxy) (Nat.zero_le _) within
  · rw [Nat.min_eq_right (by omega), Chain.getLogs_empty (some proxy) (show last < through + 1 by omega), List.append_nil]

theorem creationLogsFrom_safe {replica chainId factory : Nat} {mark : HistoryRow}
    (marked : Marked index.seed mark.throughBlock w) :
    Safe index.seed calm pid (.creationLogs replica chainId factory proxy last)
      (creationLogsFrom index.seed proxy last mark)
      (fun value w => calm → value.Perm (w.chain.getLogs index.seed.factory 0 last (some proxy))) w := by
  refine Safe.bind ((header_safe (Marked.stable _) marked _).imp ?_)
  rintro anchor w ⟨marked, -⟩
  refine Safe.bind (Safe.unless (fun _ => by decide) fun _ => ?_)
  refine Safe.bind (Safe.unless (fun _ => by decide) fun _ => ?_)
  refine Safe.bind ((readCreations_safe marked proxy last).imp ?_)
  intro tail w found
  refine Safe.bind ((collect_safe (Found.stable proxy last _ _) found
    fun w found n member => found.final n (List.mem_eraseDups.mp member)).imp ?_)
  rintro collected w ⟨found, same⟩
  refine Safe.bind (Safe.unless (fun refused => absurd ?_ refused) fun _ => ?_)
  · rw [same]
    exact length_collected found.counted
  · have stable : Stable index.seed calm pid (.creationLogs replica chainId factory proxy last)
        (fun w => Found index.seed calm proxy last mark.throughBlock (index.seed.prefixOf proxy last ++ tail) w ∧
          collected = (index.seed.prefixOf proxy last ++ tail).eraseDups.flatMap
            (w.chain.logsOf index.seed.factory proxy)) := by
      rintro a b relies ⟨found, same⟩
      refine ⟨Found.stable proxy last _ _ a b relies found, same.trans (List.flatMap_congr fun n member => ?_)⟩
      exact (relies.grows.logsOf (found.final n (List.mem_eraseDups.mp member))).symm
    refine Safe.bind ((scan_safe stable ⟨found, same⟩ (by omega)).imp ?_)
    rintro live w ⟨⟨found, rfl⟩, scanned⟩
    refine Safe.pure fun calmly => ?_
    rw [scanned calmly]
    exact found.perm calmly

theorem creationLogs_safe (replica chainId factory proxy last : Nat) :
    Safe index.seed calm pid (.creationLogs replica chainId factory proxy last)
      (creationLogs index.seed replica chainId factory proxy last)
      (fun value w => calm → ∀ found, value = some found →
        found.Perm (w.chain.getLogs index.seed.factory 0 last (some proxy))) w := by
  unfold creationLogs
  split
  · exact Safe.pure (fun _ _ impossible => nomatch impossible)
  · refine Safe.bind ((sync_safe replica).imp fun _ w _ => Safe.bind ?_)
    refine Safe.query Stable.trivial True.intro (fun _ _ _ => True.intro) fun a row b _ sound _ answered => ?_
    cases answered
    refine Safe.bind ((creationLogsFrom_safe ⟨sound.complete.seeded, le_rfl⟩).imp ?_)
    rintro logs w exact
    refine Safe.pure fun calmly found same => ?_
    cases same
    exact exact calmly

abbrev HistoryPool := Pool Task Op Failure Op.Result (Outcome × Unit) World

/-- Chain changes leave the blocks that a running lookup asks about as they are. -/
def Steady (pool : HistoryPool) : PoolEvent Task Reply Chain → Prop
  | .change next => ∀ pid task op rest, pool.processes pid = some ⟨task, .call op rest, true⟩ →
      ∀ n, task.Reads n → next.block n = pool.world.chain.block n
  | _ => True

/-- When a lookup reads the rows, none for its proxy lies above the mark it read before. -/
def Quiet (pool : HistoryPool) : PoolEvent Task Reply Chain → Prop
  | .act pid _ => ∀ op ∈ pool.asks pid, Undisturbed op pool.world
  | _ => True

/-- Empty tables over a chain whose creations the seed lists, and no process yet. -/
structure Begins (index : FactoryHistoryIndex) (start : HistoryPool) : Prop where
  lists : index.seed.Lists start.world.chain
  database : start.world.database = ⟨none, []⟩
  outcomes : ∀ run, start.world.outcomes run = none
  processes : ∀ pid, start.processes pid = none

theorem Begins.sound {start : HistoryPool} (begun : Begins index start) :
    Sound index.seed start.world := by
  refine ⟨begun.lists, ?_, fun run failed => by rw [begun.outcomes run] at failed; cases failed⟩
  rw [begun.database]
  refine ⟨le_rfl, begun.lists.final, ?_⟩
  exact (congrArg (List.map Log.row) (Chain.getLogs_empty none (Nat.lt_succ_self index.seed.through))).symm

/-- What a task has promised when it returns. -/
def Kept (index : FactoryHistoryIndex) (calm : Prop) (task : Task) (outcome : Outcome × Unit) (w : World) : Prop :=
  outcome.1 ≠ .error disagrees ∧ (calm → ∀ replica chainId factory proxy last found,
    task = .creationLogs replica chainId factory proxy last → outcome.1 = .ok (some found) →
      found.Perm (w.chain.getLogs index.seed.factory 0 last (some proxy)))

theorem code_safe (pid : Nat) (task : Task) (w : World) :
    (index.code task).safe (setting index.seed calm pid task) (Kept index calm task) w := by
  cases task with
  | sync replica =>
    have safely : Safe index.seed calm pid (.sync replica)
        (sync index.seed replica >>= fun _ => pure none : Code (Option (List Log))) (fun _ _ => True) w :=
      Safe.bind ((sync_safe replica).imp fun _ _ _ => Safe.pure True.intro)
    refine Program.safe_mono safely ?_
    rintro ⟨result, _⟩ w post
    refine ⟨?_, fun _ _ _ _ _ _ _ impossible => nomatch impossible⟩
    cases result with
    | ok value => exact nofun
    | error error => exact fun same => post (Except.error.inj same)
  | creationLogs replica chainId factory proxy last =>
    refine Program.safe_mono (creationLogs_safe replica chainId factory proxy last) ?_
    rintro ⟨result, _⟩ w post
    cases result with
    | ok value =>
      refine ⟨nofun, ?_⟩
      rintro calmly _ _ _ _ _ found ⟨⟩ ⟨⟩
      exact post calmly found rfl
    | error error => exact ⟨fun same => post (Except.error.inj same), nofun⟩

/-- The discipline the processes keep, with the promise for lookups under `calm`. -/
def discipline (index : FactoryHistoryIndex) (calm : Prop) :
    Discipline index.machine (fun pool event => calm → Steady pool event ∧ Quiet pool event) where
  holds := Sound index.seed
  rely := Relies index.seed calm
  due := Due index.seed
  permitted op w := calm → Undisturbed op w
  post _ := Kept index calm
  trans := Relies.trans
  refl := Relies.refl
  code_safe pid task w _ := code_safe pid task w
  own sound due _ := (perform_changes index.seed.factory _ _).sound sound due
  others differ _ due _ := (perform_changes index.seed.factory _ _).relies differ due
  stopped _ sound := (abandon_changes .rollback).sound sound True.intro
  stopped_others differ _ := (abandon_changes .rollback).relies differ True.intro
  changed _ possible sound :=
    ⟨sound.lists.grows (of_decide_eq_true possible), sound.complete.grows (of_decide_eq_true possible), sound.agreed⟩
  changed_others allowed possible _ found :=
    ⟨of_decide_eq_true possible, le_rfl, rfl, fun _ => rfl, fun calmly => (allowed calmly).1 _ _ _ _ found⟩
  acting allowed found calmly := (allowed calmly).2 _ (Pool.asks_of found)

/-- Each canonical creation of the proxy up to a block exactly once. -/
def Exact (chain : Chain) (factory proxy last : Nat) (found : List Log) : Prop :=
  found.Nodup ∧ ∀ log, log ∈ found ↔ log ∈ chain.getLogs factory 0 last (some proxy)

theorem exact_of_perm {chain : Chain} {factory : Nat} {found : List Log}
    (perm : found.Perm (chain.getLogs factory 0 last (some proxy))) : Exact chain factory proxy last found :=
  ⟨perm.nodup_iff.mpr (nodup_getLogs (some proxy)).of_map, fun _ => perm.mem_iff⟩

/-- In every run the committed rows are exactly the canonical creations between the seed and their mark, and no
lookup finds the index in disagreement. Where no lookup reads a row of its proxy above the mark it read before,
each one that returns gives every creation of its proxy exactly once. -/
theorem factory_history_exact {index : FactoryHistoryIndex} {start pool : HistoryPool}
    {history : List (PoolEvent Task Reply Chain)}
    (begun : Begins index start) (run : Run (index.machine.Step (fun _ _ => True)) start history pool) :
    (Complete index.seed pool.world.chain pool.world.database ∧
      ∀ pid task alive, pool.processes pid ≠ some ⟨task, .done (.error disagrees, ()), alive⟩) ∧
    (Run (index.machine.Step (fun pool event => Steady pool event ∧ Quiet pool event)) start history pool →
      ∀ pid reply after replica chainId factory proxy last found,
        index.machine.Step (fun pool event => Steady pool event ∧ Quiet pool event) pool (.act pid reply) after →
        after.processes pid =
          some ⟨.creationLogs replica chainId factory proxy last, .done (.ok (some found), ()), true⟩ →
        Exact after.world.chain index.seed.factory proxy last found) := by
  refine ⟨⟨?_, fun pid task alive failed => ?_⟩, ?_⟩
  · have loosely := run.mono fun {_ _ _} taken => (⟨False.elim, taken.2⟩ :
      index.machine.Step (fun pool event => False → Steady pool event ∧ Quiet pool event) _ _ _)
    exact ((discipline index False).run loosely begun.sound begun.processes).holds.complete
  · have loosely := run.mono fun {_ _ _} taken => (⟨False.elim, taken.2⟩ :
      index.machine.Step (fun pool event => False → Steady pool event ∧ Quiet pool event) _ _ _)
    exact (discipline index False).finished (fun _ outcome => outcome.1 ≠ .error disagrees) loosely begun.sound
      begun.processes (fun kept => kept.1) failed rfl
  · intro calmly pid reply after replica chainId factory proxy last found taken returned
    have strictly := calmly.mono fun {_ _ _} taken => (⟨fun _ => taken.1, taken.2⟩ :
      index.machine.Step (fun pool event => True → Steady pool event ∧ Quiet pool event) _ _ _)
    have good := (discipline index True).run strictly begun.sound begun.processes
    have kept := good.returns ⟨fun _ => taken.1, taken.2⟩ returned
    exact exact_of_perm (kept.2 True.intro replica chainId factory proxy last found rfl rfl)

/-- Two replicas: while one looks a proxy up, the other commits the block the lookup scans live. -/
def sampleChain : Chain where
  block := fun n => if n = 0 then some ⟨100, []⟩ else if n = 1 then some ⟨101, [⟨7, 5, 0⟩]⟩ else none
  finalized := 1
  settled := by decide
  indexed := by
    intro n b found
    split at found
    · cases found
      exact List.nodup_nil
    · split at found
      · cases found
        exact List.nodup_singleton 0
      · cases found

def sampleIndex : FactoryHistoryIndex := ⟨⟨8453, 1, 0, 100, []⟩, .nil⟩

def sampleStart : HistoryPool := ⟨⟨sampleChain, ⟨none, []⟩, none, fun _ => none, fun _ => none⟩, fun _ => none⟩

theorem sampleBegins : Begins sampleIndex sampleStart := by
  refine ⟨⟨Nat.zero_le _, fun proxy n => ?_⟩, rfl, fun _ => rfl, fun _ => rfl⟩
  split
  · rename_i first
    cases Nat.le_zero.mp first
    rfl
  · rfl

def acts (pid count : Nat) : List (PoolEvent Task Reply Chain) := List.replicate count (.act pid .answered)

/-- The lookup's own `sync` finds the lock taken, and the other replica commits between its two reads. -/
def crossing : List (PoolEvent Task Reply Chain) :=
  [.start 2 (.sync 1)] ++ acts 2 2 ++ [.start 1 (.creationLogs 0 8453 1 7 1)] ++ acts 1 6 ++ acts 2 10 ++ acts 1 2

/-- The lookup alone: its own `sync` commits the block before either read. -/
def alone : List (PoolEvent Task Reply Chain) := .start 1 (.creationLogs 0 8453 1 7 1) :: acts 1 15

def sampleLog : Log := ⟨1, false, 7, 1, 101, 5, 0⟩

def returned (pool : HistoryPool) : Option (Task × List Log) :=
  match pool.processes 1 with
  | some ⟨task, .done (.ok (some found), ()), true⟩ => some (task, found)
  | _ => none

theorem returned_some {pool : HistoryPool} (ended : returned pool = some (task, found)) :
    pool.processes 1 = some ⟨task, .done (.ok (some found), ()), true⟩ := by
  unfold returned at ended
  split at ended
  · rename_i here
    cases ended
    exact here
  · cases ended

instance (op : Op) (w : World) : Decidable (Undisturbed op w) :=
  match op with
  | .readCreations _ _ _ _ => inferInstanceAs (Decidable (∀ row ∈ w.database.creations, _))
  | .join _ | .await _ | .settle _ _ | .begin | .rollback | .readHistory | .insertCreations _ | .upsertHistory _
  | .commit | .header _ | .getLogs _ _ _ => .isTrue True.intro

def Plain (quiet : Bool) (pool : HistoryPool) : PoolEvent Task Reply Chain → Prop
  | .change _ => False
  | .act pid _ => ∀ op ∈ pool.asks pid, quiet = true → Undisturbed op pool.world
  | _ => True

instance (quiet : Bool) (pool : HistoryPool) (event : PoolEvent Task Reply Chain) : Decidable (Plain quiet pool event) :=
  match event with
  | .change _ => .isFalse id
  | .act pid _ => inferInstanceAs (Decidable (∀ op ∈ pool.asks pid, _))
  | .start _ _ | .stop _ => .isTrue True.intro

theorem Plain.steady {pool : HistoryPool} {event : PoolEvent Task Reply Chain} (plain : Plain quiet pool event) :
    Steady pool event := by
  cases event with
  | change => exact plain.elim
  | _ => exact True.intro

theorem Plain.quiet {pool : HistoryPool} {event : PoolEvent Task Reply Chain} (plain : Plain true pool event) :
    Quiet pool event := by
  cases event with
  | act pid reply => exact fun op asks => plain op asks rfl
  | _ => exact True.intro

def lastAct (quiet : Bool) (events : List (PoolEvent Task Reply Chain)) : Option (Task × List Log) :=
  (sampleIndex.machine.script (Plain quiet) sampleStart events).bind fun pool =>
    (sampleIndex.machine.script (Plain quiet) pool [.act 1 .answered]).bind returned

theorem lastAct_some (ended : lastAct quiet events = some (task, found)) :
    ∃ pool after, Run (sampleIndex.machine.Step (Plain quiet)) sampleStart events pool ∧
      sampleIndex.machine.Step (Plain quiet) pool (.act 1 .answered) after ∧
      after.processes 1 = some ⟨task, .done (.ok (some found), ()), true⟩ := by
  obtain ⟨pool, ran, ended⟩ := Option.bind_eq_some_iff.mp ended
  obtain ⟨after, last, ended⟩ := Option.bind_eq_some_iff.mp ended
  exact ⟨pool, after, Machine.script_run ran, (Machine.script_run last).single, returned_some ended⟩

theorem factory_history_exact_sample : ∃ pool after : HistoryPool,
    Complete sampleIndex.seed pool.world.chain pool.world.database ∧
    after.processes 1 = some ⟨.creationLogs 0 8453 1 7 1, .done (.ok (some [sampleLog]), ()), true⟩ ∧
    Exact after.world.chain 1 7 1 [sampleLog] := by
  have ended : lastAct true alone = some (.creationLogs 0 8453 1 7 1, [sampleLog]) := by decide +kernel
  obtain ⟨pool, after, run, last, ended⟩ := lastAct_some ended
  have all := factory_history_exact sampleBegins (run.mono fun {_ _ _} taken => ⟨True.intro, taken.2⟩)
  refine ⟨pool, after, all.1.1, ended, ?_⟩
  exact all.2 (run.mono fun {_ _ _} taken => ⟨⟨taken.1.steady, taken.1.quiet⟩, taken.2⟩) 1 .answered after _ _ _ _ _ _
    ⟨⟨last.1.steady, last.1.quiet⟩, last.2⟩ ended

/-- A lookup that reads the rows after another replica committed above its mark gives those creations twice. -/
theorem lookup_repeats_creation :
    ¬ ∀ (index : FactoryHistoryIndex) (start pool after : HistoryPool) (history : List (PoolEvent Task Reply Chain))
      (pid : Nat) (reply : Reply) (replica chainId factory proxy last : Nat) (found : List Log), Begins index start →
      Run (index.machine.Step Steady) start history pool → index.machine.Step Steady pool (.act pid reply) after →
      after.processes pid = some ⟨.creationLogs replica chainId factory proxy last, .done (.ok (some found), ()), true⟩ →
      Exact after.world.chain index.seed.factory proxy last found := by
  intro always
  have ended : lastAct false crossing = some (.creationLogs 0 8453 1 7 1, [sampleLog, sampleLog]) := by decide +kernel
  obtain ⟨pool, after, run, last, ended⟩ := lastAct_some ended
  have once := always sampleIndex sampleStart pool after crossing 1 .answered 0 8453 1 7 1 [sampleLog, sampleLog]
    sampleBegins (run.mono fun {_ _ _} taken => ⟨taken.1.steady, taken.2⟩) ⟨last.1.steady, last.2⟩ ended
  exact absurd once.1 (by decide)

end JBCenter.SmartAccounts
