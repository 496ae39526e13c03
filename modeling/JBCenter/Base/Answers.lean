import JBCenter.Base.Fallible
import JBCenter.Base.Runs

/-! A store that performs one operation at a time. A run records what each operation was
asked and what it answered, refusals included, so that a statement about every order of
operations is a statement about every run. -/
namespace JBCenter

structure Answer (ω ε α : Type) where
  op : ω
  result : Except ε α

variable {ω ε α σ : Type} {perform : ω → Fallible ε σ α} {s t : σ} {answer : Answer ω ε α}

@[irreducible] def Performs (perform : ω → Fallible ε σ α) (s : σ) (answer : Answer ω ε α) (t : σ) : Prop :=
  match (perform answer.op).run s with
  | .ok outcome next => answer.result = .ok outcome ∧ t = next
  | .error error next => answer.result = .error error ∧ t = next

theorem Performs.cases (performed : Performs perform s answer t) :
    (∃ outcome, answer.result = .ok outcome ∧ (perform answer.op).run s = .ok outcome t) ∨
    ∃ error, answer.result = .error error ∧ (perform answer.op).run s = .error error t := by
  unfold Performs at performed
  split at performed
  · rename_i outcome next ran
    obtain ⟨answered, rfl⟩ := performed
    exact Or.inl ⟨outcome, answered, ran⟩
  · rename_i error next failed
    obtain ⟨answered, rfl⟩ := performed
    exact Or.inr ⟨error, answered, failed⟩

theorem Performs.answered (performed : Performs perform s ⟨op, .ok outcome⟩ t) :
    (perform op).run s = .ok outcome t := by
  obtain ⟨outcome, same, ran⟩ | ⟨_, impossible, _⟩ := performed.cases
  · cases same
    exact ran
  · cases impossible

theorem Performs.of_ok (ran : (perform op).run s = .ok outcome t) : Performs perform s ⟨op, .ok outcome⟩ t := by
  simp only [Performs, ran, and_self]

/-- What every operation leaves true, whatever it answers, every answer leaves true. -/
theorem Performs.leaves {P : σ → Prop} (performed : Performs perform s answer t)
    (kept : Fallible.Leaves (perform answer.op) s P) : P t := by
  obtain ⟨outcome, _, ran⟩ | ⟨error, _, failed⟩ := performed.cases
  · exact kept.answered outcome t ran
  · exact kept.failed error t failed

/-- A transaction: an operation that fails leaves the state as it was. -/
def transaction (run : σ → Except ε (α × σ)) : Fallible ε σ α := fun s =>
  match run s with
  | .ok (outcome, t) => .ok outcome t
  | .error error => .error error s

theorem run_transaction_ok {run : σ → Except ε (α × σ)} {outcome : α} (ran : run s = .ok (outcome, t)) :
    (transaction run).run s = .ok outcome t := by
  change transaction run s = _
  rw [transaction, ran]

theorem run_transaction_error {run : σ → Except ε (α × σ)} {error : ε} (refused : run s = .error error) :
    (transaction run).run s = .error error s := by
  change transaction run s = _
  rw [transaction, refused]

theorem Performs.transaction_cases {run : ω → σ → Except ε (α × σ)}
    (performed : Performs (fun op => transaction (run op)) s answer t) :
    (∃ outcome, answer.result = .ok outcome ∧ run answer.op s = .ok (outcome, t)) ∨
    t = s ∧ ∃ error, answer.result = .error error ∧ run answer.op s = .error error := by
  obtain ⟨outcome, answered, ran⟩ | ⟨error, answered, failed⟩ := performed.cases
  · change transaction (run answer.op) s = _ at ran
    unfold transaction at ran
    split at ran
    · rename_i executed
      cases ran
      exact Or.inl ⟨outcome, answered, executed⟩
    · cases ran
  · change transaction (run answer.op) s = _ at failed
    unfold transaction at failed
    split at failed
    · cases failed
    · rename_i refused
      cases failed
      exact Or.inr ⟨rfl, error, answered, refused⟩

/-- The operations performed one after another, with their answers. -/
def performAll (perform : ω → Fallible ε σ α) (s : σ) : List ω → List (Answer ω ε α) × σ
  | [] => ([], s)
  | op :: rest =>
    match (perform op).run s with
    | .ok outcome t => (⟨op, .ok outcome⟩ :: (performAll perform t rest).1, (performAll perform t rest).2)
    | .error error t => (⟨op, .error error⟩ :: (performAll perform t rest).1, (performAll perform t rest).2)

theorem performAll_run (ops : List ω) (s : σ) :
    Run (Performs perform) s (performAll perform s ops).1 (performAll perform s ops).2 := by
  induction ops generalizing s with
  | nil => exact .nil
  | cons op rest ih =>
    unfold performAll
    split
    · rename_i outcome t ran
      have first : Run (Performs perform) s [⟨op, .ok outcome⟩] t :=
        Run.nil.snoc (by simp only [Performs, ran, and_self])
      exact first.append (ih t)
    · rename_i error t failed
      have first : Run (Performs perform) s [⟨op, .error error⟩] t :=
        Run.nil.snoc (by simp only [Performs, failed, and_self])
      exact first.append (ih t)

/-- Every operation of a list is allowed in the state it is performed in. -/
def allowedAll (Allowed : σ → ω → Prop) [∀ s op, Decidable (Allowed s op)] (perform : ω → Fallible ε σ α) (s : σ) :
    List ω → Bool
  | [] => true
  | op :: rest => decide (Allowed s op) &&
    match (perform op).run s with
    | .ok _ t => allowedAll Allowed perform t rest
    | .error _ t => allowedAll Allowed perform t rest

theorem performAll_allowed {Allowed : σ → ω → Prop} [∀ s op, Decidable (Allowed s op)] {ops : List ω}
    (allowed : allowedAll Allowed perform s ops = true) :
    Run (fun s answer t => Allowed s answer.op ∧ Performs perform s answer t) s (performAll perform s ops).1
      (performAll perform s ops).2 := by
  induction ops generalizing s with
  | nil => exact .nil
  | cons op rest ih =>
    unfold allowedAll at allowed
    rw [Bool.and_eq_true, decide_eq_true_eq] at allowed
    obtain ⟨now, allowed⟩ := allowed
    unfold performAll
    split at allowed
    · rename_i outcome t ran
      simp only
      exact (Run.nil.snoc ⟨now, .of_ok ran⟩).append (ih allowed)
    · rename_i error t failed
      simp only
      exact (Run.nil.snoc ⟨now, by simp only [Performs, failed, and_self]⟩).append (ih allowed)

/-- The operations performed one after another, each asked as the state before it suggests. -/
def performScript (perform : ω → Fallible ε σ α) (s : σ) : List (σ → ω) → List (Answer ω ε α) × σ
  | [] => ([], s)
  | next :: rest =>
    match (perform (next s)).run s with
    | .ok outcome t => (⟨next s, .ok outcome⟩ :: (performScript perform t rest).1, (performScript perform t rest).2)
    | .error error t => (⟨next s, .error error⟩ :: (performScript perform t rest).1, (performScript perform t rest).2)

theorem performScript_run (script : List (σ → ω)) (s : σ) :
    Run (Performs perform) s (performScript perform s script).1 (performScript perform s script).2 := by
  induction script generalizing s with
  | nil => exact .nil
  | cons next rest ih =>
    unfold performScript
    split
    · rename_i outcome t ran
      have first : Run (Performs perform) s [⟨next s, .ok outcome⟩] t := Run.nil.snoc (.of_ok ran)
      exact first.append (ih t)
    · rename_i error t failed
      have first : Run (Performs perform) s [⟨next s, .error error⟩] t :=
        Run.nil.snoc (by simp only [Performs, failed, and_self])
      exact first.append (ih t)

/-- The operation is answered, not refused. -/
def answers (perform : ω → Fallible ε σ α) (op : ω) (s : σ) : Bool :=
  match (perform op).run s with
  | .ok _ _ => true
  | .error _ _ => false

theorem answers_ok (answered : answers perform op s = true) : ∃ outcome t, (perform op).run s = .ok outcome t := by
  unfold answers at answered
  split at answered
  · exact ⟨_, _, by assumption⟩
  · cases answered

def refusal (perform : ω → Fallible ε σ α) (op : ω) (s : σ) : Option ε :=
  match (perform op).run s with
  | .ok _ _ => none
  | .error error _ => some error

theorem refusal_some {error : ε} (refused : refusal perform op s = some error) :
    ∃ t, (perform op).run s = .error error t := by
  unfold refusal at refused
  split at refused
  · cases refused
  · cases refused
    exact ⟨_, by assumption⟩

/-- The state before one answer of a run. -/
theorem Run.before {history : List (Answer ω ε α)} (run : Run (Performs perform) s history t)
    (member : answer ∈ history) : ∃ earlier later state, history = earlier ++ answer :: later ∧
      Run (Performs perform) s earlier state ∧ ∃ next, Performs perform state answer next := by
  obtain ⟨earlier, later, rfl⟩ := List.append_of_mem member
  rw [show earlier ++ answer :: later = earlier ++ [answer] ++ later by simp] at run
  obtain ⟨_, upTo, _⟩ := Run.split run
  obtain ⟨state, past, taken⟩ := Run.split upTo
  exact ⟨earlier, later, state, rfl, past, _, taken.single⟩

end JBCenter
