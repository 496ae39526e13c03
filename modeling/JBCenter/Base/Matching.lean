import JBCenter.Base.Answers

/-! Two programs that accept the same calls. `Matches R x y` says that both answer, with answers that `R`
relates, or both refuse, whatever their errors; its rules follow two programs check by check, also where one
of them makes a check the other makes later or not at all. -/
namespace JBCenter
variable {ε ε' α β γ δ σ τ ω : Type}

def Matches (R : α → β → Prop) : Except ε α → Except ε' β → Prop
  | .ok a, .ok b => R a b
  | .error _, .error _ => True
  | _, _ => False

def Refuses (x : Except ε α) : Prop := ∀ a, x ≠ .ok a

theorem Refuses.error {error : ε} : Refuses (.error error : Except ε α) := nofun

theorem Refuses.bind {x : Except ε α} {f : α → Except ε β} (refused : Refuses x) : Refuses (x >>= f) := by
  intro b ran
  obtain ⟨a, accepted, _⟩ := ok_bind ran
  exact refused a accepted

theorem Refuses.after {x : Except ε α} {f : α → Except ε β} (rest : ∀ a, x = .ok a → Refuses (f a)) :
    Refuses (x >>= f) := by
  intro b ran
  obtain ⟨a, accepted, ran⟩ := ok_bind ran
  exact rest a accepted b ran

theorem Refuses.refuse {bad : Bool} {error : ε} {f : Unit → Except ε β} (refused : bad = true) :
    Refuses (refuse bad error >>= f) := by
  subst refused
  exact Refuses.error

theorem refuses_or (x : Except ε α) : Refuses x ∨ ∃ a, x = .ok a := by
  cases x with
  | error e => exact Or.inl Refuses.error
  | ok a => exact Or.inr ⟨a, rfl⟩

namespace Matches
variable {R : α → β → Prop} {S : γ → δ → Prop}

variable {x : Except ε γ} {y : Except ε' β} {f : γ → Except ε α}

theorem cases {x : Except ε α} (matched : Matches R x y) :
    (∃ a b, x = .ok a ∧ y = .ok b ∧ R a b) ∨ ∃ e e', x = .error e ∧ y = .error e' := by
  cases x with
  | ok a =>
    cases y with
    | ok b => exact Or.inl ⟨a, b, rfl, rfl, matched⟩
    | error e' => exact matched.elim
  | error e =>
    cases y with
    | ok b => exact matched.elim
    | error e' => exact Or.inr ⟨e, e', rfl, rfl⟩

theorem refused {x : Except ε α} (left : Refuses x) (right : Refuses y) : Matches R x y := by
  cases x with
  | ok a => exact absurd rfl (left a)
  | error e =>
    cases y with
    | ok b => exact absurd rfl (right b)
    | error e' => trivial

theorem bind {y : Except ε' δ} {g : δ → Except ε' β} (first : Matches S x y)
    (rest : ∀ a b, x = .ok a → y = .ok b → S a b → Matches R (f a) (g b)) : Matches R (x >>= f) (y >>= g) := by
  obtain ⟨a, b, rfl, rfl, related⟩ | ⟨e, e', rfl, rfl⟩ := first.cases
  · exact rest a b rfl rfl related
  · trivial

/-- Both make the same check. -/
theorem same {g : γ → Except ε β} (rest : ∀ a, x = .ok a → Matches R (f a) (g a)) :
    Matches R (x >>= f) (x >>= g) := by
  cases x with
  | ok a => exact rest a rfl
  | error e => trivial

/-- Both refuse on the same condition, each in its words. -/
theorem refuse {bad bad' : Bool} {error : ε} {error' : ε'} {f : Unit → Except ε α} {g : Unit → Except ε' β}
    (agree : bad = bad') (rest : bad = false → Matches R (f ()) (g ())) :
    Matches R (refuse bad error >>= f) (JBCenter.refuse bad' error' >>= g) := by
  subst agree
  cases bad with
  | true => trivial
  | false => exact rest rfl

/-- Only the first makes the check, and it passes. -/
theorem left {a : γ} (accepted : x = .ok a)
    (rest : Matches R (f a) y) : Matches R (x >>= f) y := by
  subst accepted
  exact rest

theorem right {x : Except ε α} {y : Except ε' δ} {g : δ → Except ε' β} {b : δ} (accepted : y = .ok b)
    (rest : Matches R x (g b)) : Matches R x (y >>= g) := by
  subst accepted
  exact rest

/-- The first makes a check the second makes later. -/
theorem first (rest : ∀ a, x = .ok a → Matches R (f a) y)
    (later : Refuses x → Refuses y) : Matches R (x >>= f) y := by
  obtain refuses | ⟨a, accepted⟩ := refuses_or x
  · exact Matches.refused refuses.bind (later refuses)
  · exact Matches.left accepted (rest a accepted)

/-- The first refuses on a condition the second refuses on later. -/
theorem refuse_first {bad : Bool} {error : ε} {f : Unit → Except ε α}
    (rest : bad = false → Matches R (f ()) y) (later : bad = true → Refuses y) :
    Matches R (JBCenter.refuse bad error >>= f) y := by
  cases bad with
  | true => exact Matches.refused Refuses.error (later rfl)
  | false => exact rest rfl

theorem map {y : Except ε' δ} {f : γ → α} {g : δ → β} (matched : Matches S x y)
    (related : ∀ a b, S a b → R (f a) (g b)) : Matches R (x.map f) (y.map g) := by
  obtain ⟨a, b, rfl, rfl, held⟩ | ⟨e, e', rfl, rfl⟩ := matched.cases
  · exact related a b held
  · trivial

end Matches

namespace Fallible

/-- What a program answers and leaves, when it answers. -/
def toExcept (x : Fallible ε σ α) (s : σ) : Except ε (α × σ) :=
  match x.run s with
  | .ok a t => .ok (a, t)
  | .error e _ => .error e

variable {x : Fallible ε σ α} {s : σ}

theorem toExcept_ok {t : σ} {a : α} : toExcept x s = .ok (a, t) ↔ x.run s = .ok a t := by
  unfold toExcept
  split
  · rename_i ran
    rw [ran]
    simp
  · rename_i failed
    rw [failed]
    simp

theorem toExcept_error {e : ε} :
    toExcept x s = .error e ↔ ∃ t, x.run s = .error e t := by
  unfold toExcept
  split
  · rename_i ran
    rw [ran]
    simp
  · rename_i failed
    rw [failed]
    simp

theorem toExcept_check {x : Except ε α} : toExcept (check x) s = x.map (fun a => (a, s)) := by
  cases x <;> rfl

theorem toExcept_check_bind {x : Except ε α} {f : α → Fallible ε σ β} :
    toExcept (check x >>= f) s = x >>= fun a => toExcept (f a) s := by
  cases x <;> rfl

theorem check_same {β : Type} {R : α × σ → β → Prop} {x : Except ε γ} {f : γ → Fallible ε σ α} {g : γ → Except ε β}
    (rest : ∀ a, x = .ok a → Matches R (toExcept (f a) s) (g a)) : Matches R (toExcept (check x >>= f) s) (x >>= g) := by
  rw [toExcept_check_bind]
  exact Matches.same rest

theorem toExcept_get_bind {f : σ → Fallible ε σ β} : toExcept (get >>= f) s = toExcept (f s) s := rfl

theorem toExcept_modify_bind {f : PUnit → Fallible ε σ β} {g : σ → σ} :
    toExcept (modify g >>= f) s = toExcept (f ⟨⟩) (g s) := rfl

theorem toExcept_bind {f : α → Fallible ε σ β} :
    toExcept (x >>= f) s = toExcept x s >>= fun done => toExcept (f done.1) done.2 := by
  cases ran : x.run s with
  | ok a t =>
    have first := toExcept_ok.mpr ran
    rw [first]
    unfold toExcept
    rw [run_bind_ok ran]
    rfl
  | error e t =>
    have failed := toExcept_error.mpr ⟨t, ran⟩
    rw [failed]
    exact toExcept_error.mpr ⟨t, run_bind_error ran⟩

theorem toExcept_map {f : α → β} :
    toExcept (f <$> x) s = (toExcept x s).map (fun done => (f done.1, done.2)) := by
  cases ran : x.run s with
  | ok a t =>
    rw [toExcept_ok.mpr ran]
    exact toExcept_ok.mpr (run_map_ok ran)
  | error e t =>
    rw [toExcept_error.mpr ⟨t, ran⟩]
    exact toExcept_error.mpr ⟨t, run_map_error ran⟩

theorem toExcept_transaction {run : σ → Except ε (α × σ)} : toExcept (transaction run) s = run s := by
  unfold toExcept
  change (match transaction run s with
    | .ok a t => Except.ok (a, t)
    | .error e _ => Except.error e) = _
  unfold transaction
  cases run s <;> rfl

theorem atomic_transaction {run : σ → Except ε (α × σ)} : Atomic (transaction run) s := by
  intro e t failed
  change transaction run s = _ at failed
  unfold transaction at failed
  split at failed
  · cases failed
  · cases failed
    rfl

end Fallible

/-- Every operation is answered somehow. -/
theorem Performs.total (perform : ω → Fallible ε σ α) (op : ω) (s : σ) : ∃ result t, Performs perform s ⟨op, result⟩ t := by
  cases ran : (perform op).run s with
  | ok outcome t => exact ⟨.ok outcome, t, .of_ok ran⟩
  | error error t => exact ⟨.error error, t, by simp [Performs, ran]⟩

/-- Two stores that match on an operation and leave nothing behind when they refuse it: they answer alike, and
what related their states relates the states they leave, refusals included. -/
theorem Matches.performs {R : σ → τ → Prop} {perform : ω → Fallible ε σ α} {perform' : ω → Fallible ε' τ α} {op : ω}
    {s s' : σ} {t t' : τ} {result : Except ε α} {result' : Except ε' α} (related : R s t)
    (matched : Matches (fun a b => a.1 = b.1 ∧ R a.2 b.2) (Fallible.toExcept (perform op) s)
      (Fallible.toExcept (perform' op) t))
    (atomic : Fallible.Atomic (perform op) s) (atomic' : Fallible.Atomic (perform' op) t)
    (performed : Performs perform s ⟨op, result⟩ s') (performed' : Performs perform' t ⟨op, result'⟩ t') :
    result.toOption = result'.toOption ∧ R s' t' := by
  obtain ⟨a, answered, ran⟩ | ⟨e, answered, ran⟩ := performed.cases
  · obtain ⟨b, answered', ran'⟩ | ⟨e', answered', ran'⟩ := performed'.cases
    · rw [Fallible.toExcept_ok.mpr ran, Fallible.toExcept_ok.mpr ran'] at matched
      cases answered
      cases answered'
      exact ⟨congrArg some matched.1, matched.2⟩
    · rw [Fallible.toExcept_ok.mpr ran, Fallible.toExcept_error.mpr ⟨_, ran'⟩] at matched
      exact matched.elim
  · obtain ⟨b, answered', ran'⟩ | ⟨e', answered', ran'⟩ := performed'.cases
    · rw [Fallible.toExcept_error.mpr ⟨_, ran⟩, Fallible.toExcept_ok.mpr ran'] at matched
      exact matched.elim
    · cases answered
      cases answered'
      rw [atomic _ _ ran, atomic' _ _ ran']
      exact ⟨rfl, related⟩

end JBCenter
