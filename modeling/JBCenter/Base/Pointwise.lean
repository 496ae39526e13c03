import Mathlib.Data.List.Basic

/-! Two lists of one length, related place by place. -/
namespace JBCenter

structure Pointwise (R : Nat → α → β → Prop) (before : List α) (after : List β) : Prop where
  length : after.length = before.length
  related : ∀ i a b, before[i]? = some a → after[i]? = some b → R i a b

namespace Pointwise
variable {R : Nat → α → β → Prop}

theorem refl {R : Nat → α → α → Prop} (same : ∀ i a, R i a a) (items : List α) :
    Pointwise R items items := by
  refine ⟨rfl, ?_⟩
  intro i a b first second
  cases first.symm.trans second
  exact same i a

/-- Rewriting one place asks for the relation at that place only. -/
theorem set (rest : Pointwise R before after) (place : ∀ a b, before[i]? = some a →
    after[i]? = some b → R i a c) : Pointwise R before (after.set i c) := by
  refine ⟨by simpa only [List.length_set] using rest.length, ?_⟩
  intro j a b first second
  by_cases same : i = j
  · subst same
    have bound : i < after.length := by
      rw [rest.length]
      exact (List.getElem?_eq_some_iff.mp first).1
    rw [List.getElem?_set_self bound] at second
    cases second
    exact place a _ first (List.getElem?_eq_getElem bound)
  · rw [List.getElem?_set_ne same] at second
    exact rest.related j a b first second

theorem mono {S : Nat → α → β → Prop} (rest : Pointwise R before after)
    (weaker : ∀ i a b, R i a b → S i a b) : Pointwise S before after :=
  ⟨rest.length, fun i a b first second => weaker i a b (rest.related i a b first second)⟩

/-- Every place of the later list comes from the same place of the earlier one. -/
theorem origin (rest : Pointwise R before after) (found : after[i]? = some b) :
    ∃ a, before[i]? = some a ∧ R i a b := by
  have bound := (List.getElem?_eq_some_iff.mp found).1
  rw [rest.length] at bound
  exact ⟨before[i], List.getElem?_eq_getElem bound,
    rest.related i _ b (List.getElem?_eq_getElem bound) found⟩

end Pointwise
end JBCenter
