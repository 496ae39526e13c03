import Mathlib

/-! Search of a forest with a stack. The iteration finds what the recursion over the trees finds: something exactly when
a visited item has it, for every item under the stack is visited until one has. -/
namespace JBCenter

/-- The items right under each item, in the order of their visits, and a weight that falls from an item to all of them. -/
structure Forest (σ : Type) where
  next : σ → List σ
  weight : σ → Nat
  shrinks : ∀ item, ((next item).map weight).sum < weight item

namespace Forest
variable {σ β : Type} (forest : Forest σ) (visit : σ → Option β)

/-- The first thing found, with the items still to be visited on a stack. -/
def search : List σ → Option β
  | [] => none
  | item :: rest =>
    match visit item with
    | some found => some found
    | none => search (forest.next item ++ rest)
termination_by stack => (stack.map forest.weight).sum
decreasing_by
  have smaller := forest.shrinks item
  rw [List.map_append, List.sum_append, List.map_cons, List.sum_cons]
  omega

/-- An item is right under another. -/
def Under (a b : σ) : Prop := b ∈ forest.next a

variable {forest visit}

theorem search_append (first second : List σ) :
    forest.search visit (first ++ second) = (forest.search visit first).or (forest.search visit second) := by
  fun_induction forest.search visit first with
  | case1 => rw [List.nil_append, Option.none_or]
  | case2 item rest found seen => rw [List.cons_append, search, seen, Option.some_or]
  | case3 item rest unseen ih => rw [List.cons_append, search, unseen, ← ih, List.append_assoc]

/-- The recursion over a tree: its root, then the trees under it in turn. -/
theorem search_cons (item : σ) (rest : List σ) : forest.search visit (item :: rest) =
    (visit item).or ((forest.search visit (forest.next item)).or (forest.search visit rest)) := by
  rw [search]
  cases visit item with
  | some found => rfl
  | none => exact search_append ..

/-- What is found is at an item under the stack. -/
theorem search_found {stack : List σ} {found : β} (held : forest.search visit stack = some found) :
    ∃ item ∈ stack, ∃ reached, Relation.ReflTransGen forest.Under item reached ∧ visit reached = some found := by
  fun_induction forest.search visit stack with
  | case1 => cases held
  | case2 item rest found seen =>
    cases held
    exact ⟨item, List.mem_cons_self, item, .refl, seen⟩
  | case3 item rest unseen ih =>
    obtain ⟨next, member, reached, path, seen⟩ := ih held
    obtain under | other := List.mem_append.mp member
    · exact ⟨item, List.mem_cons_self, reached, .head under path, seen⟩
    · exact ⟨next, List.mem_cons_of_mem _ other, reached, path, seen⟩

theorem search_mem {stack : List σ} {item : σ} (member : item ∈ stack) (held : (forest.search visit [item]).isSome) :
    (forest.search visit stack).isSome := by
  obtain ⟨before, after, rfl⟩ := List.append_of_mem member
  rw [search_append, Option.isSome_or, Bool.or_eq_true, ← List.singleton_append, search_append, Option.isSome_or]
  exact Or.inr (by rw [held, Bool.true_or])

/-- No item under the stack is left out. -/
theorem search_reached {item reached : σ} (path : Relation.ReflTransGen forest.Under item reached)
    (held : (visit reached).isSome) : (forest.search visit [item]).isSome := by
  induction path using Relation.ReflTransGen.head_induction_on with
  | refl => rw [search_cons, Option.isSome_or, held, Bool.true_or]
  | head under _ ih =>
    rw [search_cons, Option.isSome_or, Option.isSome_or, search_mem under ih, Bool.true_or, Bool.or_true]

theorem search_isSome {item : σ} : (forest.search visit [item]).isSome ↔
    ∃ reached, Relation.ReflTransGen forest.Under item reached ∧ (visit reached).isSome := by
  constructor
  · intro held
    obtain ⟨found, held⟩ := Option.isSome_iff_exists.mp held
    obtain ⟨root, member, reached, path, seen⟩ := search_found held
    cases List.mem_singleton.mp member
    exact ⟨reached, path, seen ▸ rfl⟩
  · rintro ⟨reached, path, held⟩
    exact search_reached path held

end Forest
end JBCenter
