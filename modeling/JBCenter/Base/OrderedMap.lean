import Mathlib.Data.List.Nodup
import Mathlib.Data.List.Basic

/-! Finite maps in insertion order. Writing a present key keeps its place, a new
key goes last, and the distinctness of the keys is carried by the structure. -/
namespace JBCenter

structure OrderedMap (K V : Type) where
  entries : List (K × V)
  distinct : (entries.map Prod.fst).Nodup

namespace OrderedMap
variable {K V : Type}

theorem ext_entries {a b : OrderedMap K V} (same : a.entries = b.entries) : a = b := by
  cases a
  cases b
  cases same
  rfl

def empty : OrderedMap K V := ⟨[], List.nodup_nil⟩

def values (m : OrderedMap K V) : List V := m.entries.map Prod.snd

variable [DecidableEq K]

def get (m : OrderedMap K V) (key : K) : Option V := m.entries.lookup key

def has (m : OrderedMap K V) (key : K) : Bool := (m.get key).isSome

def put (key : K) (value : V) : List (K × V) → List (K × V)
  | [] => [(key, value)]
  | entry :: rest => if entry.1 = key then (key, value) :: rest else entry :: put key value rest

variable {key : K} {entries : List (K × V)} {m : OrderedMap K V} {value : V}

theorem mem_keys_put {other : K} :
    other ∈ (put key value entries).map Prod.fst ↔ other = key ∨ other ∈ entries.map Prod.fst := by
  induction entries with
  | nil => simp [put]
  | cons entry rest ih =>
    by_cases found : entry.1 = key
    · simp only [put, found, if_true, List.map_cons, List.mem_cons]
      tauto
    · simp only [put, if_neg found, List.map_cons, List.mem_cons, ih]
      tauto

theorem nodup_put
    (distinct : (entries.map Prod.fst).Nodup) : ((put key value entries).map Prod.fst).Nodup := by
  induction entries with
  | nil => simp [put]
  | cons entry rest ih =>
    simp only [List.map_cons, List.nodup_cons] at distinct
    by_cases found : entry.1 = key
    · simp only [put, if_pos found, List.map_cons, List.nodup_cons]
      exact ⟨found ▸ distinct.1, distinct.2⟩
    · simp only [put, if_neg found, List.map_cons, List.nodup_cons, mem_keys_put, not_or]
      exact ⟨⟨found, distinct.1⟩, ih distinct.2⟩

def set (m : OrderedMap K V) (key : K) (value : V) : OrderedMap K V :=
  ⟨put key value m.entries, nodup_put m.distinct⟩

def filter (m : OrderedMap K V) (keep : K → V → Bool) : OrderedMap K V :=
  ⟨m.entries.filter (fun entry => keep entry.1 entry.2),
    m.distinct.sublist (List.filter_sublist.map Prod.fst)⟩

def delete (m : OrderedMap K V) (key : K) : OrderedMap K V := m.filter (fun other _ => other ≠ key)

def deleteAll (m : OrderedMap K V) (keys : List K) : OrderedMap K V := m.filter (fun other _ => other ∉ keys)

/-- Every value is rewritten in place, as an unkeyed update of a whole table does. -/
def mapValues (m : OrderedMap K V) (f : K → V → V) : OrderedMap K V :=
  ⟨m.entries.map (fun entry => (entry.1, f entry.1 entry.2)), by
    simpa only [List.map_map, Function.comp_def] using m.distinct⟩

@[simp] theorem get_empty (key : K) : (empty : OrderedMap K V).get key = none := rfl

theorem lookup_cons_if (key first : K) (value : V) (rest : List (K × V)) :
    ((first, value) :: rest).lookup key = if key = first then some value else rest.lookup key := by
  by_cases same : key = first
  · simp [same]
  · simp [List.lookup_cons, same, beq_eq_false_iff_ne.mpr same]

theorem lookup_put (key other : K) (value : V) (entries : List (K × V)) :
    (put key value entries).lookup other = if other = key then some value else entries.lookup other := by
  induction entries with
  | nil => exact lookup_cons_if other key value []
  | cons entry rest ih =>
    obtain ⟨first, held⟩ := entry
    by_cases found : first = key
    · subst found
      simp only [put, if_true, lookup_cons_if]
      split <;> rfl
    · simp only [put, if_neg found, lookup_cons_if, ih]
      by_cases same : other = key
      · simp only [same, if_true, if_neg (Ne.symm found)]
      · simp only [if_neg same]

theorem get_set (m : OrderedMap K V) (key other : K) (value : V) :
    (m.set key value).get other = if other = key then some value else m.get other :=
  lookup_put key other value m.entries

@[simp] theorem get_set_self (m : OrderedMap K V) (key : K) (value : V) :
    (m.set key value).get key = some value := by
  simp [get_set]

@[simp] theorem get_set_ne (m : OrderedMap K V) {other : K} (value : V) (differ : other ≠ key) :
    (m.set key value).get other = m.get other := by
  simp [get_set, differ]

theorem get_foldl_set (keys : List K) (value : V) (m : OrderedMap K V) (key : K) :
    (keys.foldl (fun m k => m.set k value) m).get key =
      if key ∈ keys then some value else m.get key := by
  induction keys generalizing m with
  | nil => simp
  | cons first rest ih =>
    rw [List.foldl_cons, ih, get_set]
    by_cases later : key ∈ rest
    · simp [later]
    · by_cases same : key = first <;> simp [later, same]

theorem lookup_mapValues {W : Type} (f : K → V → W) (key : K) (entries : List (K × V)) :
    (entries.map (fun entry => (entry.1, f entry.1 entry.2))).lookup key =
      (entries.lookup key).map (f key) := by
  induction entries with
  | nil => rfl
  | cons entry rest ih =>
    obtain ⟨first, held⟩ := entry
    simp only [List.map_cons, lookup_cons_if, ih]
    by_cases same : key = first
    · simp only [same, if_true, Option.map_some]
    · simp only [if_neg same]

@[simp] theorem get_mapValues (m : OrderedMap K V) (f : K → V → V) (key : K) :
    (m.mapValues f).get key = (m.get key).map (f key) :=
  lookup_mapValues f key m.entries

theorem lookup_absent (absent : key ∉ entries.map Prod.fst) :
    entries.lookup key = none := by
  rw [List.lookup_eq_none_iff]
  intro entry member
  have differ : entry.1 ≠ key := fun same => absent (same ▸ List.mem_map_of_mem member)
  simpa using Ne.symm differ

theorem lookup_filter {keep : K → V → Bool}
    (distinct : (entries.map Prod.fst).Nodup) (key : K) :
    (entries.filter (fun entry => keep entry.1 entry.2)).lookup key = (entries.lookup key).filter (keep key) := by
  induction entries with
  | nil => rfl
  | cons entry rest ih =>
    obtain ⟨first, held⟩ := entry
    simp only [List.map_cons, List.nodup_cons] at distinct
    rw [List.filter_cons, lookup_cons_if]
    by_cases same : key = first
    · subst same
      cases kept : keep key held with
      | true => simp [Option.filter, kept]
      | false =>
        rw [if_neg (by simp), ih distinct.2, lookup_absent distinct.1]
        simp [Option.filter, kept]
    · rw [if_neg same, ← ih distinct.2]
      split
      · rw [lookup_cons_if, if_neg same]
      · rfl

@[simp] theorem get_filter (m : OrderedMap K V) (keep : K → V → Bool) (key : K) :
    (m.filter keep).get key = (m.get key).filter (keep key) :=
  lookup_filter m.distinct key

theorem get_delete (m : OrderedMap K V) (key other : K) :
    (m.delete key).get other = if other = key then none else m.get other := by
  rw [delete, get_filter]
  by_cases same : other = key
  · cases m.get other <;> simp [Option.filter, same]
  · cases m.get other <;> simp [Option.filter, same]

theorem get_deleteAll (m : OrderedMap K V) (keys : List K) (other : K) :
    (m.deleteAll keys).get other = if other ∈ keys then none else m.get other := by
  rw [deleteAll, get_filter]
  by_cases member : other ∈ keys
  · cases m.get other <;> simp [Option.filter, member]
  · cases m.get other <;> simp [Option.filter, member]

omit [DecidableEq K] in
theorem length_filter_le (m : OrderedMap K V) (keep : K → V → Bool) :
    (m.filter keep).entries.length ≤ m.entries.length := List.length_filter_le _ _

omit [DecidableEq K] in
theorem countP_filter_le (m : OrderedMap K V) (keep : K → V → Bool) (p : V → Bool) :
    (m.filter keep).values.countP p ≤ m.values.countP p :=
  (List.filter_sublist.map Prod.snd).countP_le

theorem countP_set_le (m : OrderedMap K V) (key : K) (value : V) (p : V → Bool) :
    (m.set key value).values.countP p ≤ m.values.countP p + (if p value then 1 else 0) := by
  change ((put key value m.entries).map Prod.snd).countP p ≤ (m.entries.map Prod.snd).countP p + _
  induction m.entries with
  | nil => simp [put, List.countP_cons]
  | cons entry rest ih =>
    rw [put]
    split
    · simp only [List.map_cons, List.countP_cons]
      omega
    · simp only [List.map_cons, List.countP_cons]
      omega

/-- Writing over a value that counts the same leaves the count. -/
theorem countP_set_same {old : V} {p : V → Bool} (found : m.get key = some old)
    (same : p value = p old) : (m.set key value).values.countP p = m.values.countP p := by
  change ((put key value m.entries).map Prod.snd).countP p = (m.entries.map Prod.snd).countP p
  change m.entries.lookup key = _ at found
  generalize m.entries = entries at found ⊢
  induction entries with
  | nil => cases found
  | cons entry rest ih =>
    obtain ⟨first, held⟩ := entry
    rw [lookup_cons_if] at found
    rw [put]
    by_cases here : key = first
    · rw [if_pos here, Option.some.injEq] at found
      rw [if_pos here.symm, List.map_cons, List.map_cons, List.countP_cons, List.countP_cons, found, same]
    · rw [if_neg here] at found
      rw [if_neg (Ne.symm here), List.map_cons, List.map_cons, List.countP_cons, List.countP_cons, ih found]

theorem length_set_le (m : OrderedMap K V) (key : K) (value : V) :
    (m.set key value).entries.length ≤ m.entries.length + 1 := by
  have counted := countP_set_le m key value (fun _ => true)
  simpa [values] using counted

theorem length_set_of_has {old : V} (value : V) (found : m.get key = some old) :
    (m.set key value).entries.length = m.entries.length := by
  change (put key value m.entries).length = _
  change m.entries.lookup key = _ at found
  generalize m.entries = entries at found ⊢
  induction entries with
  | nil => cases found
  | cons entry rest ih =>
    rw [put]
    split
    · rfl
    · rename_i differ
      rw [lookup_cons_if, if_neg (Ne.symm differ)] at found
      rw [List.length_cons, List.length_cons, ih found]

theorem mem_of_get (found : m.get key = some value) :
    (key, value) ∈ m.entries := by
  obtain ⟨before, after, split, _⟩ := List.lookup_eq_some_iff.mp found
  rw [split]
  simp

theorem get_of_mem (member : (key, value) ∈ m.entries) :
    m.get key = some value := by
  obtain ⟨before, after, split⟩ := List.mem_iff_append.mp member
  apply List.lookup_eq_some_iff.mpr
  refine ⟨before, after, split, ?_⟩
  intro entry earlier
  have distinct := m.distinct
  rw [split, List.map_append, List.nodup_append] at distinct
  have differ := distinct.2.2 entry.1 (List.mem_map_of_mem earlier) key (by simp)
  simpa using Ne.symm differ

theorem mem_entries_iff :
    (key, value) ∈ m.entries ↔ m.get key = some value :=
  ⟨get_of_mem, mem_of_get⟩

theorem has_iff : m.has key = true ↔ ∃ value, m.get key = some value :=
  Option.isSome_iff_exists

theorem length_filter_lt {keep : K → V → Bool} (found : m.get key = some value)
    (dropped : keep key value = false) : (m.filter keep).entries.length < m.entries.length :=
  List.length_filter_lt_length_iff_exists.mpr ⟨(key, value), mem_of_get found, by simp [dropped]⟩

theorem not_has_iff : m.has key = false ↔ m.get key = none := by
  simp [has]

/-- Writing back what a key already holds changes nothing, its place included. -/
theorem set_get (found : m.get key = some value) :
    m.set key value = m := by
  apply ext_entries
  obtain ⟨entries, distinct⟩ := m
  change put key value entries = entries
  change entries.lookup key = some value at found
  clear distinct
  induction entries with
  | nil => contradiction
  | cons entry rest ih =>
    obtain ⟨first, held⟩ := entry
    rw [lookup_cons_if] at found
    by_cases same : key = first
    · rw [if_pos same, Option.some.injEq] at found
      simp only [put, same, if_true, found]
    · rw [if_neg same] at found
      simp only [put, if_neg (Ne.symm same), ih found]

end OrderedMap
end JBCenter
