import Mathlib.Order.Basic
import JBCenter.Base.Runs

/-! Generations. A mark that never falls along a run separates its states: what changes only where
the mark rises is the same in all states of one mark. -/
namespace JBCenter.Run
variable {σ ε γ : Type} [PartialOrder γ] {step : σ → ε → σ → Prop} {generation : σ → γ} {P : σ → Prop}
  {start middle state : σ} {history earlier later : List ε}

/-- What holds of the start and is kept may be assumed of every step. -/
theorem assuming (run : Run step start history state) (initial : P start)
    (preserves : ∀ {s e t}, P s → step s e t → P t) : Run (fun s e t => P s ∧ step s e t) start history state := by
  induction run with
  | nil => exact .nil
  | snoc past taken ih => exact ih.snoc ⟨past.state_invariant initial preserves, taken⟩

theorem generation_le (run : Run step start history state)
    (rises : ∀ {s e t}, step s e t → generation s ≤ generation t) : generation start ≤ generation state :=
  Run.relates (R := fun s t => generation s ≤ generation t) run (fun _ => le_rfl) le_trans rises

/-- What every step of one generation keeps, a run of one generation keeps. -/
theorem steady (run : Run step start history state) (rises : ∀ {s e t}, step s e t → generation s ≤ generation t)
    (kept : ∀ {s e t}, step s e t → generation t = generation s → P s → P t) (same : generation state = generation start)
    (holds : P start) : P state := by
  induction run with
  | nil => exact holds
  | @snoc history state event next past taken ih =>
    have before := past.generation_le rises
    have after := rises taken
    have still : generation state = generation start := le_antisymm (after.trans same.le) before
    exact kept taken (same.trans still.symm) (ih still)

/-- Two states of one generation have only states of that generation between them. -/
theorem generation_between (first : Run step start earlier middle) (second : Run step middle later state)
    (rises : ∀ {s e t}, step s e t → generation s ≤ generation t) (same : generation state = generation start) :
    generation middle = generation start :=
  le_antisymm ((second.generation_le rises).trans same.le) (first.generation_le rises)

end JBCenter.Run
