import Mathlib.Algebra.GroupWithZero.Nat
import Mathlib.Algebra.Order.BigOperators.Group.List
import Mathlib.Algebra.Order.Group.Nat
import JBCenter.Base.OrderedMap

/-! Totals over the values of a map: what a write adds, and that values which do not grow make no greater total. -/
namespace JBCenter
namespace OrderedMap
variable {K V : Type}

def total (m : OrderedMap K V) (weight : V → Nat) : Nat := (m.values.map weight).sum

/-- Summing what passes a filter is summing with no weight for the rest. -/
theorem sum_filter (values : List V) (keep : V → Bool) (weight : V → Nat) :
    ((values.filter keep).map weight).sum = (values.map (fun value => if keep value then weight value else 0)).sum := by
  induction values with
  | nil => rfl
  | cons value rest ih =>
    cases kept : keep value with
    | true => simp [List.filter_cons_of_pos kept, kept, ih]
    | false => simp [List.filter_cons_of_neg (by simp [kept] : ¬ keep value = true), kept, ih]

theorem total_mapValues_le (m : OrderedMap K V) {f : K → V → V} {weight : V → Nat}
    (lighter : ∀ key value, weight (f key value) ≤ weight value) : (m.mapValues f).total weight ≤ m.total weight := by
  simp only [total, values, mapValues, List.map_map]
  exact List.sum_le_sum fun entry _ => lighter entry.1 entry.2

/-- Where the one weight vanishes the other does, so a total of the one that vanishes is one of the other. -/
theorem total_eq_zero (m : OrderedMap K V) {weight other : V → Nat} (vanishes : ∀ value, weight value = 0 → other value = 0)
    (none : m.total weight = 0) : m.total other = 0 := by
  simp only [total, List.sum_eq_zero_iff, List.mem_map, forall_exists_index, and_imp, forall_apply_eq_imp_iff₂] at none ⊢
  exact fun value member => vanishes value (none value member)

theorem total_weight_le (m : OrderedMap K V) {lighter heavier : V → Nat}
    (below : ∀ value, lighter value ≤ heavier value) : m.total lighter ≤ m.total heavier :=
  List.sum_le_sum fun value _ => below value

/-- What is dropped for its lack of weight is not missed. -/
theorem total_filter (m : OrderedMap K V) {weight : V → Nat} {keep : K → V → Bool}
    (weightless : ∀ key value, (key, value) ∈ m.entries → keep key value = false → weight value = 0) :
    (m.filter keep).total weight = m.total weight := by
  obtain ⟨entries, distinct⟩ := m
  simp only [total, values, filter] at weightless ⊢
  clear distinct
  induction entries with
  | nil => rfl
  | cons entry rest ih =>
    have rest_weightless := ih fun key value member => weightless key value (List.mem_cons_of_mem _ member)
    cases kept : keep entry.1 entry.2 with
    | true => simp only [List.filter_cons, kept, if_true, List.map_cons, List.sum_cons, rest_weightless]
    | false =>
      rw [List.filter_cons_of_neg (by simp [kept]), rest_weightless, List.map_cons, List.map_cons, List.sum_cons,
        weightless _ _ List.mem_cons_self kept, Nat.zero_add]

variable [DecidableEq K]

/-- A write adds its own weight and takes away that of the value it replaces. -/
theorem total_set (m : OrderedMap K V) (weight : V → Nat) (key : K) (value : V) :
    (m.set key value).total weight + (m.get key).elim 0 weight = m.total weight + weight value := by
  obtain ⟨entries, distinct⟩ := m
  simp only [total, values, set, get]
  clear distinct
  induction entries with
  | nil => simp [put]
  | cons entry rest ih =>
    obtain ⟨first, held⟩ := entry
    rw [lookup_cons_if]
    by_cases same : key = first
    · subst same
      simp only [put, if_true, List.map_cons, List.sum_cons, Option.elim_some]
      omega
    · simp only [put, if_neg (Ne.symm same), if_neg same, List.map_cons, List.sum_cons]
      omega

theorem total_set_le (m : OrderedMap K V) (weight : V → Nat) (key : K) (value : V) :
    (m.set key value).total weight ≤ m.total weight + weight value := by
  have exact_ := m.total_set weight key value
  omega

end OrderedMap
end JBCenter
