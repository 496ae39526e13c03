import Mathlib.Data.List.Nodup

/-! Labeled runs. The history of a run lists its labels in the order they happened, so
a statement about two points of a run is a statement about two places of one list. -/
namespace JBCenter

inductive Run (step : σ → ε → σ → Prop) (start : σ) : List ε → σ → Prop where
  | nil : Run step start [] start
  | snoc : Run step start history state → step state event next →
      Run step start (history ++ [event]) next

/-- What the last event of a history marks comes last. -/
theorem filterMap_snoc (mark : ε → Option κ) (history : List ε) (event : ε) :
    (history ++ [event]).filterMap mark = history.filterMap mark ++ (mark event).toList := by
  cases marked : mark event with
  | none => simp [marked]
  | some key => simp [marked]

namespace Run
variable {step : σ → ε → σ → Prop}

/-- An invariant may speak about the history as well as the state it led to. -/
theorem invariant {P : List ε → σ → Prop} (run : Run step start history state)
    (initial : P [] start)
    (preserves : ∀ {history state event next}, Run step start history state → P history state →
      step state event next → P (history ++ [event]) next) : P history state := by
  induction run with
  | nil => exact initial
  | snoc past taken ih => exact preserves past ih taken

theorem state_invariant {P : σ → Prop} (run : Run step start history state) (initial : P start)
    (preserves : ∀ {state event next}, P state → step state event next → P next) : P state := by
  induction run with
  | nil => exact initial
  | snoc past taken ih => exact preserves ih taken

/-- What every step from a good state says of its event, every event of a run says. -/
theorem events {P : σ → Prop} {Q : ε → Prop} (run : Run step start history state) (initial : P start)
    (preserves : ∀ {state event next}, P state → step state event next → P next)
    (every : ∀ {state event next}, P state → step state event next → Q event) : ∀ event ∈ history, Q event := by
  induction run with
  | nil => simp
  | snoc past taken ih =>
    intro event member
    obtain earlier | last := List.mem_append.mp member
    · exact ih event earlier
    · rw [List.mem_singleton.mp last]
      exact every (past.state_invariant initial preserves) taken

theorem append (first : Run step start earlier middle) (second : Run step middle later state) :
    Run step start (earlier ++ later) state := by
  induction second with
  | nil => simpa only [List.append_nil] using first
  | snoc past taken ih => simpa only [List.append_assoc] using Run.snoc ih taken

/-- A run can be cut at any place of its history. -/
theorem split (run : Run step start (earlier ++ later) state) :
    ∃ middle, Run step start earlier middle ∧ Run step middle later state := by
  generalize whole : earlier ++ later = history at run
  induction run generalizing later with
  | nil =>
    obtain ⟨rfl, rfl⟩ := List.append_eq_nil_iff.mp whole
    exact ⟨start, .nil, .nil⟩
  | @snoc history state event next past taken ih =>
    rcases List.eq_nil_or_concat later with rfl | ⟨front, last, rfl⟩
    · rw [List.append_nil] at whole
      subst whole
      exact ⟨next, past.snoc taken, .nil⟩
    · rw [List.concat_eq_append, ← List.append_assoc] at whole
      obtain ⟨same, final⟩ := List.append_inj' whole rfl
      cases final
      obtain ⟨middle, first, second⟩ := ih same
      exact ⟨middle, first, by simpa only [List.concat_eq_append] using second.snoc taken⟩

theorem of_nil (run : Run step start [] state) : state = start := by
  generalize whole : [] = history at run
  cases run with
  | nil => rfl
  | snoc past taken => simp at whole

theorem single (run : Run step start [event] state) : step start event state := by
  generalize whole : [event] = history at run
  cases run with
  | nil => contradiction
  | snoc past taken =>
    obtain ⟨before, same⟩ := List.append_inj' (show [] ++ [event] = _ from whole) rfl
    cases same
    subst before
    rwa [past.of_nil] at taken

/-- A run can be cut around any of its steps. -/
theorem cut (run : Run step start history state) (bound : n < history.length) :
    ∃ s t, Run step start (history.take n) s ∧ step s history[n] t ∧ Run step t (history.drop (n + 1)) state := by
  have whole : history.take n ++ ([history[n]] ++ history.drop (n + 1)) = history := by simp
  have run : Run step start (history.take n ++ ([history[n]] ++ history.drop (n + 1))) state := whole.symm ▸ run
  obtain ⟨s, before, rest⟩ := run.split
  obtain ⟨t, taken, after⟩ := rest.split
  exact ⟨s, t, before, taken.single, after⟩

/-- Steps that can be computed make a run. -/
theorem of_foldlM {next : σ → ε → Option σ} {events : List ε} (ran : events.foldlM next start = some state) :
    Run (fun s event t => next s event = some t) start events state := by
  induction events generalizing start with
  | nil =>
    cases ran
    exact .nil
  | cons event rest ih =>
    rw [List.foldlM_cons] at ran
    obtain ⟨middle, taken, ran⟩ := Option.bind_eq_some_iff.mp ran
    exact append (Run.nil.snoc taken) (ih ran)

theorem mono {step' : σ → ε → σ → Prop} (run : Run step start history state)
    (implies : ∀ {state event next}, step state event next → step' state event next) :
    Run step' start history state := by
  induction run with
  | nil => exact .nil
  | snoc past taken ih => exact ih.snoc (implies taken)

/-- The same run by other steps, where they agree on the events it has. -/
theorem mono_events {step' : σ → ε → σ → Prop} {fits : ε → Prop} (run : Run step start history state)
    (every : ∀ event ∈ history, fits event)
    (implies : ∀ {state event next}, step state event next → fits event → step' state event next) :
    Run step' start history state := by
  induction run with
  | nil => exact .nil
  | snoc past taken ih =>
    refine (ih fun event member => every event (List.mem_append_left _ member)).snoc (implies taken ?_)
    exact every _ (List.mem_append_right _ List.mem_cons_self)

/-- A transitive relation kept by every step relates the ends of every run. -/
theorem relates {R : σ → σ → Prop} (run : Run step start history state) (refl : ∀ s, R s s)
    (trans : ∀ {a b c}, R a b → R b c → R a c)
    (kept : ∀ {state event next}, step state event next → R state next) : R start state := by
  induction run with
  | nil => exact refl _
  | snoc past taken ih => exact trans ih (kept taken)

/-- At most once: what an event marks was unmarked before it, is marked after it, and stays
marked, so no two events of a run mark the same. -/
theorem marks_nodup {mark : ε → Option κ} {M : σ → κ → Prop} {P : σ → Prop} (run : Run step start history state)
    (initial : P start) (preserves : ∀ {state event next}, P state → step state event next → P next)
    (fresh : ∀ {state event next key}, P state → step state event next → mark event = some key → ¬ M state key)
    (marks : ∀ {state event next key}, P state → step state event next → mark event = some key → M next key)
    (kept : ∀ {state event next key}, P state → step state event next → M state key → M next key) :
    (history.filterMap mark).Nodup := by
  have marked : P state ∧ (history.filterMap mark).Nodup ∧ ∀ key ∈ history.filterMap mark, M state key := by
    induction run with
    | nil => exact ⟨initial, List.nodup_nil, by simp⟩
    | @snoc history state event next past taken ih =>
      obtain ⟨holds, once, every⟩ := ih
      rw [List.filterMap_append]
      cases found : mark event with
      | none =>
        simp only [List.filterMap_cons, found, List.filterMap_nil, List.append_nil]
        exact ⟨preserves holds taken, once, fun key member => kept holds taken (every key member)⟩
      | some key =>
        simp only [List.filterMap_cons, found, List.filterMap_nil]
        refine ⟨preserves holds taken, ?_, ?_⟩
        · refine List.nodup_append.mpr ⟨once, List.nodup_singleton key, ?_⟩
          intro other member last isLast same
          rw [List.mem_singleton.mp isLast] at same
          exact fresh holds taken found (same ▸ every other member)
        · intro other member
          obtain earlier | last := List.mem_append.mp member
          · exact kept holds taken (every other earlier)
          · rw [List.mem_singleton.mp last]
            exact marks holds taken found
  exact marked.2.1

end Run
end JBCenter
