import Mathlib.Data.Finset.Max
import Mathlib.Data.List.Sort

/-! The greatest elements of a finite set, up to a number of them: what is kept when each new element
pushes out the least. -/
namespace JBCenter

variable {α : Type*} [LinearOrder α] {a b : α} {n : Nat} {s : Finset α}

def newest (n : Nat) (s : Finset α) : Finset α := s.filter fun b => (s.filter (b < ·)).card < n

theorem mem_newest : b ∈ newest n s ↔ b ∈ s ∧ (s.filter (b < ·)).card < n := Finset.mem_filter

theorem newest_eq_self (few : s.card ≤ n) : newest n s = s := by
  refine Finset.filter_true_of_mem fun b member => ?_
  have fewer : (s.filter (b < ·)).card < s.card :=
    Finset.card_lt_card (Finset.filter_ssubset.mpr ⟨b, member, lt_irrefl b⟩)
  omega

theorem newest_insert_max (above : ∀ b ∈ s, b < a) : newest (n + 1) (insert a s) = insert a (newest n s) := by
  have fresh : a ∉ s := fun member => lt_irrefl a (above a member)
  ext b
  rw [mem_newest, Finset.mem_insert, Finset.mem_insert, mem_newest]
  by_cases top : b = a
  · subst top
    have none : (insert b s).filter (b < ·) = ∅ := Finset.filter_eq_empty_iff.mpr fun c member => by
      rcases Finset.mem_insert.mp member with rfl | below
      · exact lt_irrefl c
      · exact (above c below).not_gt
    simp [none]
  · rw [or_iff_right top, or_iff_right top]
    refine and_congr_right fun member => ?_
    have first : a ∉ s.filter (b < ·) := fun member => fresh (Finset.mem_filter.mp member).1
    rw [Finset.filter_insert, if_pos (above b member), Finset.card_insert_of_notMem first]
    omega

theorem card_newest (n : Nat) (s : Finset α) : (newest n s).card = min n s.card := by
  induction s using Finset.induction_on_max generalizing n with
  | empty => simp [newest]
  | insert a s above ih =>
    have fresh : a ∉ s := fun member => lt_irrefl a (above a member)
    cases n with
    | zero => simp [newest]
    | succ n =>
      have kept : a ∉ newest n s := fun member => fresh (mem_newest.mp member).1
      rw [newest_insert_max above, Finset.card_insert_of_notMem kept, ih, Finset.card_insert_of_notMem fresh]
      omega

theorem newest_filter (b : α) : (newest n s).filter (b < ·) = newest n (s.filter (b < ·)) := by
  ext c
  simp only [Finset.mem_filter, mem_newest, Finset.filter_filter]
  constructor
  · rintro ⟨⟨member, few⟩, above⟩
    refine ⟨⟨member, above⟩, lt_of_le_of_lt (Finset.card_le_card fun d => ?_) few⟩
    simp only [Finset.mem_filter]
    exact fun ⟨listed, _, higher⟩ => ⟨listed, higher⟩
  · rintro ⟨⟨member, above⟩, few⟩
    refine ⟨⟨member, lt_of_le_of_lt (Finset.card_le_card fun d => ?_) few⟩, above⟩
    simp only [Finset.mem_filter]
    exact fun ⟨listed, higher⟩ => ⟨listed, above.trans higher, higher⟩

/-- What was pushed out before would be pushed out again. -/
theorem newest_insert_newest (a : α) : newest n (insert a (newest n s)) = newest n (insert a s) := by
  -- as many are above an element in what is kept as in the whole, up to the number kept
  have above (b : α) : ((insert a (newest n s)).filter (b < ·)).card < n ↔ ((insert a s).filter (b < ·)).card < n := by
    by_cases few : (s.filter (b < ·)).card < n
    · rw [Finset.filter_insert, Finset.filter_insert, newest_filter, newest_eq_self few.le]
    · have full : ((newest n s).filter (b < ·)).card = n := by
        rw [newest_filter, card_newest]
        omega
      have more {t : Finset α} : (t.filter (b < ·)).card ≤ ((insert a t).filter (b < ·)).card :=
        Finset.card_le_card (Finset.filter_subset_filter _ (Finset.subset_insert a t))
      have kept := more (t := newest n s)
      have whole := more (t := s)
      omega
  ext b
  rw [mem_newest, mem_newest, above, Finset.mem_insert, Finset.mem_insert]
  refine and_congr_left fun few => or_congr_right ?_
  have fewer : (s.filter (b < ·)).card < n :=
    lt_of_le_of_lt (Finset.card_le_card (Finset.filter_subset_filter _ (Finset.subset_insert a s))) few
  exact ⟨fun member => (mem_newest.mp member).1, fun member => mem_newest.mpr ⟨member, fewer⟩⟩

theorem mem_take_iff {items : List α} (sorted : items.Pairwise (· > ·)) : b ∈ items.take n ↔ b ∈ newest n items.toFinset := by
  induction items generalizing n with
  | nil => simp [newest]
  | cons a items ih =>
    obtain ⟨above, sorted⟩ := List.pairwise_cons.mp sorted
    cases n with
    | zero => simp [newest]
    | succ n =>
      rw [List.take_succ_cons, List.toFinset_cons, newest_insert_max fun c member => above c (List.mem_toFinset.mp member),
        Finset.mem_insert, List.mem_cons, ih sorted]

end JBCenter
