import Mathlib.Data.List.Nodup
import Mathlib.Data.List.Perm.Subperm

/-! Assignments by search. Items that are found by what they hold, one for each of as many wishes, are all used up. -/
namespace JBCenter
variable {α : Type}

/-- Distinct choices from a pool no larger than their number exhaust it. -/
theorem choices_exhaust {choices pool : List α} (distinct : choices.Nodup) (inside : choices ⊆ pool)
    (enough : pool.length ≤ choices.length) : choices.Perm pool :=
  (List.subperm_of_subset distinct inside).perm_of_length_le enough

/-- What a search leaves alone stands at one place, which the search for the first match finds. -/
theorem filter_alone {p : α → Bool} {items : List α} {item : α} (alone : items.filter p = [item]) :
    items[items.findIdx p]? = some item ∧ ∀ (k : Nat) other, items[k]? = some other → (p other = true ↔ k = items.findIdx p) := by
  induction items with
  | nil => cases alone
  | cons first rest ih =>
    rw [List.filter_cons] at alone
    split at alone
    · rename_i holds
      obtain ⟨rfl, others⟩ := List.cons.inj alone
      have place : (first :: rest).findIdx p = 0 := by simp [List.findIdx_cons, holds]
      rw [place]
      refine ⟨rfl, fun k other found => ?_⟩
      cases k with
      | zero =>
        cases found
        simp [holds]
      | succ k =>
        have fails := List.filter_eq_nil_iff.mp others other (List.mem_of_getElem? found)
        simp [fails]
    · rename_i fails
      obtain ⟨found, only⟩ := ih alone
      have place : (first :: rest).findIdx p = rest.findIdx p + 1 := by simp [List.findIdx_cons, fails]
      rw [place]
      refine ⟨found, fun k other at_k => ?_⟩
      cases k with
      | zero =>
        cases at_k
        simp [fails]
      | succ k =>
        rw [only k other at_k]
        omega

end JBCenter
