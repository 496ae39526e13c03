import Mathlib.Data.List.Basic

/-! One pass over a list that rewrites every item in its order, from the list as it stands: what came before is rewritten,
what comes after is not. -/
namespace JBCenter

variable {α : Type} (rewrite : List α → α → α)

/-- The list after the pass has rewritten some of its items. -/
def passed (items : List α) : Nat → List α
  | 0 => items
  | k + 1 =>
    let before := passed items k
    match before[k]? with
    | none => before
    | some item => before.set k (rewrite before item)

def pass (items : List α) : List α := passed rewrite items items.length

variable {rewrite} {items : List α} {i k : Nat} {item : α}

@[simp] theorem passed_length : (passed rewrite items k).length = items.length := by
  induction k with
  | zero => rfl
  | succ k ih =>
    unfold passed
    dsimp only
    split
    · exact ih
    · rw [List.length_set, ih]

theorem passed_other (other : i ≠ k) : (passed rewrite items (k + 1))[i]? = (passed rewrite items k)[i]? := by
  rw [passed]
  split
  · rfl
  · rw [List.getElem?_set_ne (Ne.symm other)]

/-- A place the pass has not reached is as it was. -/
theorem passed_ahead (ahead : k ≤ i) : (passed rewrite items k)[i]? = items[i]? := by
  induction k with
  | zero => rfl
  | succ k ih => rw [passed_other (by omega), ih (by omega)]

/-- A place the pass has left stays as it is. -/
theorem passed_behind (behind : i < k) : (passed rewrite items k)[i]? = (passed rewrite items (i + 1))[i]? := by
  induction k with
  | zero => omega
  | succ k ih =>
    obtain rfl | later := Nat.eq_or_lt_of_le (Nat.le_of_lt_succ behind)
    · rfl
    · rw [passed_other (by omega), ih later]

/-- Where a rewriting reads only earlier places of the lists of the pass, the result of the pass is the rewriting of every
item from that result. -/
theorem pass_settled {P : List α → Prop} (kept : ∀ k, P (passed rewrite items k)) (found : items[i]? = some item)
    (earlier : ∀ first second : List α, P first → P second → (∀ j < i, first[j]? = second[j]?) →
      rewrite first item = rewrite second item) :
    (pass rewrite items)[i]? = some (rewrite (pass rewrite items) item) := by
  have inside : i < items.length := (List.getElem?_eq_some_iff.mp found).1
  have reached : (passed rewrite items i)[i]? = some item := (passed_ahead (Nat.le_refl i)).trans found
  have same : rewrite (passed rewrite items i) item = rewrite (pass rewrite items) item := by
    refine earlier _ _ (kept i) (kept items.length) fun j below => ?_
    rw [pass, passed_behind below, passed_behind (Nat.lt_trans below inside)]
  rw [pass, passed_behind inside, passed, reached]
  dsimp only
  rw [List.getElem?_set_self (by rw [passed_length]; exact inside), same]
  rfl

/-- What every rewriting keeps of the item at its place, the pass keeps. -/
theorem passed_keeps {Q : Nat → α → Prop} (initial : ∀ (i : Nat) item, items[i]? = some item → Q i item)
    (keeps : ∀ before i item, Q i item → Q i (rewrite before item)) (k : Nat) :
    ∀ (i : Nat) item, (passed rewrite items k)[i]? = some item → Q i item := by
  induction k with
  | zero => exact initial
  | succ k ih =>
    intro i item found
    by_cases here : i = k
    · subst here
      unfold passed at found
      dsimp only at found
      split at found
      · exact ih i item found
      · rename_i old held
        rw [List.getElem?_set_self (List.getElem?_eq_some_iff.mp held).1, Option.some.injEq] at found
        rw [← found]
        exact keeps _ i old (ih i old held)
    · rw [passed_other here] at found
      exact ih i item found

end JBCenter
