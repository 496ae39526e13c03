import JBCenter.Base.Programs

/-! What a program may come to. A program yields a value when some answers lead it there, each of them one that the
outside may give to the operation it stands at. -/
namespace JBCenter
variable {Op E : Type} {Result : Op → Type} {L α β : Type}

namespace Program
variable {answers : (op : Op) → Except E (Result op) → Prop}

inductive Yields (answers : (op : Op) → Except E (Result op) → Prop) : Program Op E Result α → α → Prop where
  | done (value : α) : Yields answers (.done value) value
  | call {op next answer value} (admitted : answers op answer) (rest : Yields answers (next answer) value) :
    Yields answers (.call op next) value

@[simp] theorem yields_done {value other : α} :
    Yields answers (.done other : Program Op E Result α) value ↔ value = other := by
  constructor
  · intro ended
    cases ended
    rfl
  · rintro rfl
    exact .done value

theorem yields_call {op : Op} {next : Except E (Result op) → Program Op E Result α} {value : α} :
    Yields answers (.call op next) value ↔ ∃ answer, answers op answer ∧ Yields answers (next answer) value := by
  constructor
  · intro ended
    cases ended with
    | call admitted rest => exact ⟨_, admitted, rest⟩
  · rintro ⟨answer, admitted, rest⟩
    exact .call admitted rest

theorem yields_bind {program : Program Op E Result α} {f : α → Program Op E Result β} {value : β} :
    Yields answers (program.bind f) value ↔ ∃ middle, Yields answers program middle ∧ Yields answers (f middle) value := by
  induction program with
  | done middle => simp [bind]
  | call op next ih =>
    simp only [bind, yields_call, ih]
    constructor
    · rintro ⟨answer, admitted, middle, first, rest⟩
      exact ⟨middle, ⟨answer, admitted, first⟩, rest⟩
    · rintro ⟨middle, ⟨answer, admitted, first⟩, rest⟩
      exact ⟨answer, admitted, middle, first, rest⟩

/-- The program under one way to answer every operation. -/
def under (answer : (op : Op) → Except E (Result op)) : Program Op E Result α → α
  | .done value => value
  | .call op next => (next (answer op)).under answer

theorem under_yields {answer : (op : Op) → Except E (Result op)} (admitted : ∀ op, answers op (answer op))
    (program : Program Op E Result α) : Yields answers program (program.under answer) := by
  induction program with
  | done value => exact .done value
  | call op next ih => exact .call (admitted op) (ih _)

end Program

namespace Action
variable {answers : (op : Op) → Except E (Result op) → Prop} {l l' : L}

/-- The code returns the value, and leaves its private state as given. -/
def Yields (answers : (op : Op) → Except E (Result op) → Prop) (m : Action Op E Result L α) (l : L) (value : α)
    (l' : L) : Prop := Program.Yields answers (m l) (.ok value, l')

theorem yields_pure {value other : α} :
    (pure other : Action Op E Result L α).Yields answers l value l' ↔ value = other ∧ l' = l := by
  simp [Yields, pure]

theorem yields_bind {m : Action Op E Result L α} {f : α → Action Op E Result L β} {value : β} :
    (m >>= f).Yields answers l value l' ↔ ∃ middle between, m.Yields answers l middle between ∧
      (f middle).Yields answers between value l' := by
  refine Program.yields_bind.trans ?_
  constructor
  · rintro ⟨⟨result, between⟩, first, rest⟩
    cases result with
    | ok middle => exact ⟨middle, between, first, rest⟩
    | error error =>
      cases Program.yields_done.mp rest
  · rintro ⟨middle, between, first, rest⟩
    exact ⟨_, first, rest⟩

theorem yields_raise {error : E} {value : α} : ¬ (raise error : Action Op E Result L α).Yields answers l value l' := by
  simp [Yields, raise]

theorem yields_request {op : Op} {value : Result op} :
    (request op : Action Op E Result L (Result op)).Yields answers l value l' ↔ answers op (.ok value) ∧ l' = l := by
  refine Program.yields_call.trans ?_
  constructor
  · rintro ⟨answer, admitted, rest⟩
    cases Program.yields_done.mp rest
    exact ⟨admitted, rfl⟩
  · rintro ⟨admitted, rfl⟩
    exact ⟨_, admitted, .done _⟩

end Action
end JBCenter
