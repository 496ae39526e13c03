import JBCenter.Base.OrderedMap

/-! The rank of an element among the earlier elements with its key, and the loops that count it. -/
namespace JBCenter

variable {κ α : Type} [DecidableEq κ]

/-- How many earlier elements have the key of the element at a place. -/
def rank (keys : List κ) (i : Nat) : Nat := (keys.take i).countP (fun key => keys[i]? = some key)

theorem rank_eq {keys : List κ} {i : Nat} {key : κ} (found : keys[i]? = some key) :
    rank keys i = (keys.take i).count key := by
  rw [rank, List.count_eq_countP]
  refine List.countP_congr fun other _ => ?_
  rw [found, decide_eq_true_eq, Option.some.injEq, beq_iff_eq]
  exact eq_comm

/-- A place and its rank determine the key's elements: two places of one key have different ranks. -/
theorem rank_lt {keys : List κ} {i j : Nat} {key : κ} (before : i < j) (first : keys[i]? = some key)
    (second : keys[j]? = some key) : rank keys i < rank keys j := by
  rw [rank_eq first, rank_eq second]
  obtain ⟨rest, split⟩ : ∃ rest, keys.take j = keys.take i ++ key :: rest := by
    have inside : i < (keys.take j).length := by
      have bound := (List.getElem?_eq_some_iff.mp second).1
      rw [List.length_take]
      omega
    have taken : (keys.take j)[i] = key := by
      rw [List.getElem_take]
      exact (List.getElem?_eq_some_iff.mp first).2
    refine ⟨(keys.take j).drop (i + 1), ?_⟩
    have start : (keys.take j).take i = keys.take i := by rw [List.take_take, Nat.min_eq_left (Nat.le_of_lt before)]
    rw [← taken, ← List.drop_eq_getElem_cons inside, ← start, List.take_append_drop]
  rw [split, List.count_append, List.count_cons_self]
  omega

/-- A loop that keeps a counter for each key, and hands each element the count of its key. -/
def tallied (keyOf : α → κ) (counters : OrderedMap κ Nat) : List α → List (α × Nat)
  | [] => []
  | item :: items =>
    let count := (counters.get (keyOf item)).getD 0
    (item, count) :: tallied keyOf (counters.set (keyOf item) (count + 1)) items

/-- Counters of what came before. -/
def Tallies (counters : OrderedMap κ Nat) (seen : List κ) : Prop := ∀ key, (counters.get key).getD 0 = seen.count key

theorem Tallies.empty : Tallies (.empty : OrderedMap κ Nat) [] := fun _ => rfl

theorem Tallies.next {counters : OrderedMap κ Nat} {seen : List κ} (tallies : Tallies counters seen) (key : κ) :
    Tallies (counters.set key ((counters.get key).getD 0 + 1)) (seen ++ [key]) := by
  intro other
  rw [List.count_append, List.count_singleton]
  by_cases same : key = other
  · subst same
    rw [OrderedMap.get_set_self, Option.getD_some, tallies key, beq_self_eq_true, if_pos rfl]
  · rw [OrderedMap.get_set_ne counters _ (Ne.symm same), tallies other, if_neg (by simpa using same), Nat.add_zero]

theorem tallied_after {keyOf : α → κ} {counters : OrderedMap κ Nat} {seen items : List α}
    (tallies : Tallies counters (seen.map keyOf)) : ∀ i item, items[i]? = some item →
      (tallied keyOf counters items)[i]? = some (item, ((seen ++ items.take i).map keyOf).count (keyOf item)) := by
  induction items generalizing counters seen with
  | nil =>
    intro i item found
    cases found
  | cons first rest ih =>
    intro i item found
    cases i with
    | zero =>
      cases found
      rw [List.take_zero, List.append_nil, ← tallies]
      rfl
    | succ i =>
      have next := tallies.next (keyOf first)
      rw [← List.map_singleton, ← List.map_append] at next
      have counted := ih next i item found
      rw [List.append_assoc, List.singleton_append] at counted
      exact counted

/-- What the loop hands out are the ranks. -/
theorem tallied_rank {keyOf : α → κ} {items : List α} {i : Nat} {item : α} (found : items[i]? = some item) :
    (tallied keyOf .empty items)[i]? = some (item, rank (items.map keyOf) i) := by
  have keyed : (items.map keyOf)[i]? = some (keyOf item) := by rw [List.getElem?_map, found, Option.map_some]
  have none : Tallies (.empty : OrderedMap κ Nat) (List.map keyOf []) := Tallies.empty
  rw [rank_eq keyed, ← List.map_take]
  exact tallied_after none i item found

end JBCenter
