import Mathlib.Data.Nat.Notation

/-! Loops that may fail at a turn, run with fuel. A loop whose turns keep an invariant and decrease a measure ends, and two
loops whose turns agree under the invariant end alike. -/
namespace JBCenter

/-- What one turn of a loop comes to. -/
inductive Turn (σ β : Type) where
  | again (state : σ)
  | finish (result : β)

variable {σ β : Type}

/-- Turn after turn, until one of them fails or finishes, or the fuel is spent. -/
def loop (turn : σ → Option (Turn σ β)) : Nat → σ → Option β
  | 0, _ => none
  | fuel + 1, state =>
    match turn state with
    | none => none
    | some (.again next) => loop turn fuel next
    | some (.finish result) => some result

/-- A turn goes on within the invariant and below the measure, or finishes with a good result. -/
def Turn.Good (I : σ → Prop) (measure : σ → Nat) (Q : β → Prop) (before : σ) : Turn σ β → Prop
  | .again state => I state ∧ measure state < measure before
  | .finish result => Q result

theorem loop_agree {turn other : σ → Option (Turn σ β)} {I : σ → Prop} {measure : σ → Nat} {Q : β → Prop}
    (agree : ∀ state, I state → ∃ next, turn state = some next ∧ other state = some next ∧ next.Good I measure Q state)
    {fuel : Nat} {start : σ} (initial : I start) (enough : measure start < fuel) :
    ∃ result, loop turn fuel start = some result ∧ loop other fuel start = some result ∧ Q result := by
  induction fuel generalizing start with
  | zero => exact absurd enough (Nat.not_lt_zero _)
  | succ fuel ih =>
    obtain ⟨next, taken, same, good⟩ := agree start initial
    unfold loop
    rw [taken, same]
    cases next with
    | again state => exact ih good.1 (Nat.lt_of_lt_of_le good.2 (Nat.le_of_lt_succ enough))
    | finish result => exact ⟨result, rfl, rfl, good⟩

end JBCenter
