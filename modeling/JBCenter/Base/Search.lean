import Mathlib

/-! Binary search for the first place whose key is not below a target, and the run of equal keys that
starts there in a sorted list. -/
namespace JBCenter

/-- `fuel` bounds the halvings. The interval from `first` to `last` shrinks with each. -/
def partitionPoint (below : Nat → Bool) : Nat → Nat → Nat → Nat
  | 0, first, _ => first
  | fuel + 1, first, last =>
    if first < last then
      if below (first + (last - first) / 2) then partitionPoint below fuel (first + (last - first) / 2 + 1) last
      else partitionPoint below fuel first (first + (last - first) / 2)
    else first

theorem partitionPoint_spec {below : Nat → Bool} (fuel first last : Nat)
    (falls : ∀ i j, i ≤ j → below j = true → below i = true) (enough : last - first ≤ fuel)
    (before : ∀ i < first, below i = true) (after : ∀ i, last ≤ i → below i = false) :
    (∀ i < partitionPoint below fuel first last, below i = true) ∧
      ∀ i, partitionPoint below fuel first last ≤ i → below i = false := by
  induction fuel generalizing first last with
  | zero => exact ⟨before, fun i bound => after i (by simp only [partitionPoint] at bound; omega)⟩
  | succ fuel ih =>
    unfold partitionPoint
    split
    · rename_i shorter
      have middle : first + (last - first) / 2 < last := by omega
      split
      · rename_i low
        exact ih _ last (by omega) (fun i bound => falls i _ (Nat.lt_succ_iff.mp bound) low) after
      · rename_i high
        refine ih first _ (by omega) before fun i bound => ?_
        by_contra lower
        exact high (falls _ i bound (by simpa using lower))
    · exact ⟨before, fun i bound => after i (by omega)⟩

variable {α κ : Type} [LinearOrder κ]

/-- Where the first key that is not below `target` stands. -/
def lowerBound (key : α → κ) (items : List α) (target : κ) : Nat :=
  partitionPoint (fun i => (items[i]?).any (fun item => decide (key item < target))) items.length 0 items.length

def runAt (key : α → κ) (items : List α) (target : κ) : List α :=
  (items.drop (lowerBound key items target)).takeWhile (fun item => decide (key item = target))

theorem filter_eq_takeWhile {key : α → κ} {items : List α} {target : κ}
    (sorted : items.Pairwise (fun a b => key a ≤ key b)) (above : ∀ item ∈ items, target ≤ key item) :
    items.filter (fun item => decide (key item = target)) = items.takeWhile (fun item => decide (key item = target)) := by
  induction items with
  | nil => rfl
  | cons item rest ih =>
    obtain ⟨lowest, sorted⟩ := List.pairwise_cons.mp sorted
    by_cases same : key item = target
    · simp only [List.filter_cons, List.takeWhile_cons, same, decide_true, if_true]
      rw [ih sorted fun other member => above other (List.mem_cons_of_mem _ member)]
    · have larger : target < key item := lt_of_le_of_ne (above item List.mem_cons_self) (Ne.symm same)
      simp only [List.filter_cons, List.takeWhile_cons, same, decide_false]
      refine List.filter_eq_nil_iff.mpr fun other member => ?_
      simpa only [decide_eq_true_eq] using (larger.trans_le (lowest other member)).ne'

/-- In a sorted list the run found by the search is every item with the key. -/
theorem runAt_eq_filter {key : α → κ} {items : List α} (target : κ)
    (sorted : items.Pairwise (fun a b => key a ≤ key b)) :
    runAt key items target = items.filter (fun item => decide (key item = target)) := by
  have falls : ∀ i j : Nat, i ≤ j → (items[j]?).any (fun item => decide (key item < target)) = true →
      (items[i]?).any (fun item => decide (key item < target)) = true := by
    intro i j ordered low
    have bound : j < items.length := by
      by_contra outside
      rw [List.getElem?_eq_none (Nat.le_of_not_lt outside)] at low
      cases low
    rw [List.getElem?_eq_getElem bound, Option.any_some, decide_eq_true_eq] at low
    rw [List.getElem?_eq_getElem (Nat.lt_of_le_of_lt ordered bound), Option.any_some, decide_eq_true_eq]
    have ascends : key (items.get ⟨i, Nat.lt_of_le_of_lt ordered bound⟩) ≤ key (items.get ⟨j, bound⟩) := by
      obtain same | earlier := Nat.eq_or_lt_of_le ordered
      · subst same
        exact le_rfl
      · exact List.pairwise_iff_getElem.mp sorted i j _ bound earlier
    exact ascends.trans_lt low
  have search := partitionPoint_spec items.length 0 items.length falls (by omega)
    (fun i bound => absurd bound (Nat.not_lt_zero i))
    (fun i bound => by rw [List.getElem?_eq_none bound]; rfl)
  obtain ⟨below, above⟩ := search
  have whole := congrArg (List.filter (fun item => decide (key item = target)))
    (List.take_append_drop (lowerBound key items target) items)
  rw [List.filter_append] at whole
  have none : (items.take (lowerBound key items target)).filter (fun item => decide (key item = target)) = [] := by
    refine List.filter_eq_nil_iff.mpr fun item member => ?_
    obtain ⟨i, bound, rfl⟩ := List.mem_take_iff_getElem.mp member
    have low := below i (by unfold lowerBound at bound; omega)
    rw [List.getElem?_eq_getElem (by omega)] at low
    simpa only [Option.any_some, decide_eq_true_eq] using (of_decide_eq_true low).ne
  rw [none, List.nil_append] at whole
  rw [← whole]
  refine (filter_eq_takeWhile (sorted.sublist (List.drop_sublist _ _)) fun item member => ?_).symm
  obtain ⟨i, bound, rfl⟩ := List.mem_drop_iff_getElem.mp member
  have high := above (lowerBound key items target + i) (by unfold lowerBound; omega)
  rw [List.getElem?_eq_getElem (by omega)] at high
  simpa only [Option.any_some, decide_eq_false_iff_not, not_lt] using high

end JBCenter
