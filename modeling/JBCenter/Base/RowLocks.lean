import JBCenter.Base.OrderedMap

/-! A table written by concurrent transactions. A row a transaction wrote is its own until
it ends: `pending` gives each key at most one writer, so two transactions can never hold the
same row. Other transactions see the committed rows only; a writer sees its own writes. -/
namespace JBCenter

structure RowLocks (T K V : Type) where
  rows : OrderedMap K V
  pending : OrderedMap K (T × Option V)

namespace RowLocks
variable {T K V : Type} [DecidableEq T] [DecidableEq K]

def overwrite (rows : OrderedMap K V) (write : K × Option V) : OrderedMap K V :=
  match write.2 with
  | some value => rows.set write.1 value
  | none => rows.delete write.1

/-- The writes of one transaction, in the order of their keys. -/
def writesOf (table : RowLocks T K V) (t : T) : List (K × Option V) :=
  (table.pending.filter (fun _ held => held.1 = t)).entries.map (fun entry => (entry.1, entry.2.2))

/-- The rows as the transaction sees them. -/
def view (table : RowLocks T K V) (t : T) : OrderedMap K V := (table.writesOf t).foldl overwrite table.rows

/-- Whether a transaction may write the row now, or must wait for its holder. -/
def free (table : RowLocks T K V) (t : T) (key : K) : Bool :=
  match table.pending.get key with
  | none => true
  | some (holder, _) => holder = t

def write (table : RowLocks T K V) (t : T) (key : K) (value : Option V) : RowLocks T K V :=
  { table with pending := table.pending.set key (t, value) }

def rollback (table : RowLocks T K V) (t : T) : RowLocks T K V :=
  { table with pending := table.pending.filter (fun _ held => held.1 ≠ t) }

def commit (table : RowLocks T K V) (t : T) : RowLocks T K V :=
  { table.rollback t with rows := table.view t }

/-- What the transaction has written to a row, if it holds it. -/
def written (table : RowLocks T K V) (t : T) (key : K) : Option (Option V) :=
  match table.pending.get key with
  | none => none
  | some (holder, value) => if holder = t then some value else none

theorem get_overwrite (rows : OrderedMap K V) (write : K × Option V) (key : K) :
    (overwrite rows write).get key = if key = write.1 then write.2 else rows.get key := by
  obtain ⟨written, value⟩ := write
  cases value with
  | none => exact OrderedMap.get_delete rows written key
  | some value => exact OrderedMap.get_set rows written key value

theorem get_foldl_overwrite (writes : List (K × Option V)) (distinct : (writes.map Prod.fst).Nodup)
    (rows : OrderedMap K V) (key : K) :
    (writes.foldl overwrite rows).get key = (writes.lookup key).getD (rows.get key) := by
  induction writes generalizing rows with
  | nil => rfl
  | cons write rest ih =>
    obtain ⟨first, value⟩ := write
    simp only [List.map_cons, List.nodup_cons] at distinct
    rw [List.foldl_cons, ih distinct.2, get_overwrite, OrderedMap.lookup_cons_if]
    by_cases same : key = first
    · subst same
      simp [OrderedMap.lookup_absent distinct.1]
    · simp [same]

theorem lookup_writesOf (table : RowLocks T K V) (t : T) (key : K) :
    (table.writesOf t).lookup key = table.written t key := by
  have mapped := OrderedMap.lookup_mapValues (fun _ (held : T × Option V) => held.2) key
    (table.pending.filter (fun _ held => held.1 = t)).entries
  unfold writesOf written
  rw [mapped]
  change ((table.pending.filter _).get key).map _ = _
  rw [OrderedMap.get_filter]
  cases table.pending.get key with
  | none => rfl
  | some held =>
    by_cases own : held.1 = t <;> simp [Option.filter, own]

theorem get_view (table : RowLocks T K V) (t : T) (key : K) :
    (table.view t).get key = (table.written t key).getD (table.rows.get key) := by
  rw [← lookup_writesOf]
  apply get_foldl_overwrite
  simpa only [writesOf, List.map_map, Function.comp_def] using
    (table.pending.filter (fun _ held => held.1 = t)).distinct

theorem written_write (table : RowLocks T K V) (t u : T) (key other : K) (value : Option V) :
    (table.write t key value).written u other =
      if other = key then (if t = u then some value else none) else table.written u other := by
  unfold written write
  rw [OrderedMap.get_set]
  by_cases same : other = key
  · simp [same]
  · simp [same]

theorem written_rollback (table : RowLocks T K V) (t u : T) (key : K) :
    (table.rollback t).written u key = if u = t then none else table.written u key := by
  unfold written rollback
  rw [OrderedMap.get_filter]
  cases table.pending.get key with
  | none => simp
  | some held =>
    obtain ⟨holder, value⟩ := held
    by_cases own : holder = t
    · subst own
      by_cases same : holder = u
      · simp [Option.filter, same]
      · simp [Option.filter, same]
    · by_cases same : holder = u
      · subst same
        simp [Option.filter, own]
      · simp [Option.filter, own, same]

theorem written_commit (table : RowLocks T K V) (t u : T) (key : K) :
    (table.commit t).written u key = if u = t then none else table.written u key :=
  written_rollback table t u key

theorem rows_commit (table : RowLocks T K V) (t : T) (key : K) :
    (table.commit t).rows.get key = (table.written t key).getD (table.rows.get key) :=
  get_view table t key

theorem written_unique {table : RowLocks T K V} {t u : T} {key : K} {a b : Option V}
    (first : table.written t key = some a) (second : table.written u key = some b) : t = u := by
  unfold written at first second
  cases held : table.pending.get key with
  | none => simp [held] at first
  | some pair =>
    simp only [held] at first second
    split at first
    · split at second
      · rename_i one two
        exact one.symm.trans two
      · cases second
    · cases first

theorem free_of_written {table : RowLocks T K V} {t u : T} {key : K} {value : Option V}
    (free : table.free t key = true) (written : table.written u key = some value) : u = t := by
  unfold RowLocks.free at free
  unfold RowLocks.written at written
  cases held : table.pending.get key with
  | none => simp [held] at written
  | some pair =>
    simp only [held, decide_eq_true_eq] at free written
    split at written
    · rename_i own
      exact own.symm.trans free
    · cases written

end RowLocks
end JBCenter
