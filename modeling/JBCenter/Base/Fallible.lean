import Mathlib.Data.List.Basic
import Mathlib.Data.List.Forall2

/-! Stateful code that can throw. The state written before a throw stays written, so
that an operation leaves nothing behind when it fails is a theorem about the order of its
checks and writes, not a property of the embedding. -/
namespace JBCenter

abbrev Fallible (ε σ α : Type) := EStateM ε σ α

def refuse (bad : Bool) (error : ε) : Except ε Unit := if bad then .error error else .ok ()

/-- A check of an optional property, made when it is present. -/
def optionally (f : α → Except ε Unit) : Option α → Except ε Unit
  | none => .ok ()
  | some value => f value

variable {bad : Bool} {error : ε} {x : Except ε α} {f : α → Except ε β} {result : β}
variable {items : List α} {results : List β}

theorem refuse_ok : refuse bad error = .ok () ↔ bad = false := by
  cases bad <;> simp [refuse]

theorem forM_refuse_ok {wrong : α → Bool} {error : α → ε}
    (right : ∀ item ∈ items, wrong item = false) :
    items.forM (fun item => refuse (wrong item) (error item)) = .ok () := by
  induction items with
  | nil => rfl
  | cons item rest ih =>
    have first : refuse (wrong item) (error item) = .ok () := refuse_ok.mpr (right item List.mem_cons_self)
    change (refuse (wrong item) (error item) >>= fun _ => rest.forM _) = _
    rw [first]
    exact ih (fun other member => right other (List.mem_cons_of_mem _ member))

theorem ok_bind
    (h : (x >>= f) = .ok result) : ∃ a, x = .ok a ∧ f a = .ok result := by
  cases x with
  | error e => cases h
  | ok a => exact ⟨a, rfl, h⟩

theorem bind_run {a : α} {result : Except ε β} (ran : x = .ok a)
    (rest : f a = result) : (x >>= f) = result := by
  rw [ran]
  exact rest

theorem ok_refuse {f : Unit → Except ε β}
    (h : (refuse bad error >>= f) = .ok result) : bad = false ∧ f () = .ok result := by
  obtain ⟨_, accepted, rest⟩ := ok_bind h
  exact ⟨refuse_ok.mp accepted, rest⟩

/-- A refusal comes from the first part, or from the second after the first. -/
theorem except_bind_error (failed : (x >>= f) = .error error) :
    x = .error error ∨ ∃ a, x = .ok a ∧ f a = .error error := by
  cases x with
  | error e =>
    cases failed
    exact Or.inl rfl
  | ok a => exact Or.inr ⟨a, rfl, failed⟩

theorem refuse_bind_cases {other : ε} {f : Unit → Except ε β}
    (failed : (refuse bad error >>= f) = .error other) :
    bad = true ∧ other = error ∨ bad = false ∧ f () = .error other := by
  cases bad with
  | true =>
    cases failed
    exact Or.inl ⟨rfl, rfl⟩
  | false => exact Or.inr ⟨rfl, failed⟩

theorem refuse_bind_error {other : ε} {f : Unit → Except ε β}
    (failed : (refuse bad error >>= f) = .error other) : other = error ∨ bad = false ∧ f () = .error other :=
  (refuse_bind_cases failed).imp_left And.right

theorem except_map_ok {f : α → β} (ran : x.map f = .ok result) :
    ∃ a, x = .ok a ∧ f a = result := by
  cases x with
  | error => cases ran
  | ok a => exact ⟨a, rfl, Except.ok.inj ran⟩

/-- A guarded step was taken only where its guard holds. -/
theorem guard_bind_some {p : Prop} [Decidable p] {f : Unit → Option β}
    (taken : ((guard p : Option Unit) >>= f) = some result) : p ∧ f () = some result := by
  by_cases holds : p
  · exact ⟨holds, by simpa [guard, holds] using taken⟩
  · simp [guard, holds] at taken

theorem some_bind {x : Option α} {f : α → Option β} (taken : x.bind f = some result) :
    ∃ a, x = some a ∧ f a = some result :=
  Option.bind_eq_some_iff.mp taken

theorem guard_bind_run {p : Prop} [Decidable p] {f : Unit → Option β} (holds : p) :
    ((guard p : Option Unit) >>= f) = f () := by
  rw [guard, if_pos holds]
  rfl

theorem option_bind_run {x : Option α} {f : α → Option β} {a : α} {result : Option β} (ran : x = some a)
    (rest : f a = result) : (x >>= f) = result := by
  rw [ran]
  exact rest

theorem none_some {P : α → Prop} : ∀ a, (none : Option α) = some a → P a := by
  rintro a ⟨⟩

theorem forM_ok {f : α → Except ε PUnit} :
    items.forM f = .ok ⟨⟩ ↔ ∀ item ∈ items, f item = .ok ⟨⟩ := by
  induction items with
  | nil => simp [List.forM, pure, Except.pure]
  | cons item rest ih =>
    rw [List.forall_mem_cons, ← ih]
    cases first : f item with
    | error e => simp [List.forM, first, bind, Except.bind]
    | ok value => simp [List.forM, first, bind, Except.bind]

theorem toOption_ok {answer : Except ε α} {value : α} (found : answer.toOption = some value) : answer = .ok value := by
  cases answer with
  | error error => cases found
  | ok held =>
    cases found
    rfl

theorem mapM_ok (ran : items.mapM f = .ok results) :
    List.Forall₂ (fun item result => f item = .ok result) items results := by
  induction items generalizing results with
  | nil =>
    cases ran
    exact .nil
  | cons item rest ih =>
    rw [List.mapM_cons] at ran
    obtain ⟨first, computed, ran⟩ := ok_bind ran
    obtain ⟨others, mapped, ran⟩ := ok_bind ran
    cases ran
    exact .cons computed (ih mapped)

/-- Where a function succeeded on a whole list, it did on each of its items. -/
theorem mapM_ok_mem (ran : items.mapM f = .ok results)
    {item : α} (member : item ∈ items) : ∃ result, f item = .ok result := by
  have each := mapM_ok ran
  clear ran
  induction each with
  | nil => cases member
  | @cons first result rest _ computed _ ih =>
    obtain rfl | later := List.mem_cons.mp member
    · exact ⟨result, computed⟩
    · exact ih later

/-- Each result of a function that succeeded on a list is its result on some item. -/
theorem mapM_ok_result (ran : items.mapM f = .ok results)
    (member : result ∈ results) : ∃ item, f item = .ok result := by
  have each := mapM_ok ran
  clear ran
  induction each with
  | nil => cases member
  | @cons item first _ rest computed _ ih =>
    obtain rfl | later := List.mem_cons.mp member
    · exact ⟨item, computed⟩
    · exact ih later

theorem mapM_map {g : α → β} (same : ∀ item ∈ items, f item = .ok (g item)) :
    items.mapM f = .ok (items.map g) := by
  induction items with
  | nil => rfl
  | cons item rest ih =>
    obtain ⟨first, others⟩ := List.forall_mem_cons.mp same
    rw [List.mapM_cons, List.map_cons]
    exact bind_run first (bind_run (ih others) rfl)

theorem mapM_id {f : α → Except ε α} (same : ∀ item ∈ items, f item = .ok item) :
    items.mapM f = .ok items := (mapM_map same).trans (congrArg Except.ok (List.map_id' items))

/-- Where the results of a function are read as themselves once they are written back, so are some of its results. -/
theorem mapM_again {g : β → α} {kept : List β}
    (ran : items.mapM f = .ok results) (again : ∀ item result, f item = .ok result → f (g result) = .ok result)
    (among : ∀ result ∈ kept, result ∈ results) : (kept.map g).mapM f = .ok kept := by
  rw [List.mapM_map]
  refine mapM_id (fun result member => ?_)
  obtain ⟨item, read⟩ := mapM_ok_result ran (among result member)
  exact again item result read

/-- What every step of a fallible fold keeps holds of its result. -/
theorem foldlM_ok {P : β → Prop} {f : β → α → Except ε β} {initial : β}
    (folded : items.foldlM f initial = .ok result) (start : P initial)
    (kept : ∀ acc item next, item ∈ items → P acc → f acc item = .ok next → P next) : P result := by
  induction items generalizing initial with
  | nil =>
    cases folded
    exact start
  | cons item rest ih =>
    rw [List.foldlM_cons] at folded
    obtain ⟨next, first, folded⟩ := ok_bind folded
    exact ih folded (kept _ _ _ List.mem_cons_self start first)
      (fun acc other next member => kept acc other next (List.mem_cons_of_mem _ member))

/-- A fold fails at one of its items, after steps that kept what they keep. -/
theorem foldlM_error {P : β → Prop} {f : β → α → Except ε β} {initial : β}
    (failed : items.foldlM f initial = .error error) (start : P initial)
    (kept : ∀ acc item next, item ∈ items → P acc → f acc item = .ok next → P next) :
    ∃ acc item, item ∈ items ∧ P acc ∧ f acc item = .error error := by
  induction items generalizing initial with
  | nil => cases failed
  | cons item rest ih =>
    rw [List.foldlM_cons] at failed
    obtain here | ⟨next, first, failed⟩ := except_bind_error failed
    · exact ⟨initial, item, List.mem_cons_self, start, here⟩
    · obtain ⟨acc, other, member, holds, failure⟩ := ih failed (kept _ _ _ List.mem_cons_self start first)
        (fun acc other next member => kept acc other next (List.mem_cons_of_mem _ member))
      exact ⟨acc, other, List.mem_cons_of_mem _ member, holds, failure⟩

namespace Fallible
variable {ε σ τ α β : Type}

/-- A check reads its arguments only. -/
def check (x : Except ε α) : Fallible ε σ α := fun s =>
  match x with
  | .ok a => .ok a s
  | .error e => .error e s

/-- An operation of one part of the state. -/
def zoom (part : σ → τ) (put : τ → σ → σ) (x : Fallible ε τ α) : Fallible ε σ α := fun s =>
  match x (part s) with
  | .ok a t => .ok a (put t s)
  | .error e t => .error e (put t s)

/-- A failure leaves the state as it was. -/
def Atomic (x : Fallible ε σ α) (s : σ) : Prop := ∀ e t, x.run s = .error e t → t = s

def Succeeds (x : Fallible ε σ α) (s : σ) : Prop := ∀ e t, x.run s ≠ .error e t

@[simp] theorem run_check_ok (a : α) (s : σ) : (check (.ok a) : Fallible ε σ α).run s = .ok a s := rfl

@[simp] theorem run_check_error (e : ε) (s : σ) :
    (check (.error e) : Fallible ε σ α).run s = .error e s := rfl

variable {s t : σ} {e : ε} {a : α} {b : β} {P : σ → Prop} {x : Fallible ε σ α}
variable {f : α → Fallible ε σ β}

theorem check_bind_ok {x : Except ε α}
    (h : (check x >>= f).run s = .ok b t) : ∃ a, x = .ok a ∧ (f a).run s = .ok b t := by
  cases x with
  | error e => cases h
  | ok a => exact ⟨a, rfl, h⟩

theorem check_bind_error {x : Except ε α}
    (h : (check x >>= f).run s = .error e t) : (x = .error e ∧ t = s) ∨ ∃ a, x = .ok a ∧ (f a).run s = .error e t := by
  cases x with
  | error e' =>
    cases h
    exact Or.inl ⟨rfl, rfl⟩
  | ok a => exact Or.inr ⟨a, rfl, h⟩

theorem bind_error
    (h : (x >>= f).run s = .error e t) : x.run s = .error e t ∨ ∃ a u, x.run s = .ok a u ∧ (f a).run u = .error e t := by
  change EStateM.bind x f s = .error e t at h
  unfold EStateM.bind at h
  split at h
  · rename_i a u ran
    exact Or.inr ⟨a, u, ran, h⟩
  · rename_i error u ran
    cases h
    exact Or.inl ran

theorem run_check_bind {x : Except ε α} (accepted : x = .ok a) :
    (check x >>= f).run s = (f a).run s := by
  subst accepted
  rfl

theorem run_refused_bind {x : Except ε α} (refused : x = .error e) :
    (check x >>= f).run s = .error e s := by
  subst refused
  rfl

theorem check_ok {x : Except ε α} (h : (check x).run s = .ok a t) : x = .ok a ∧ t = s := by
  cases x with
  | error e => cases h
  | ok b =>
    cases h
    exact ⟨rfl, rfl⟩

theorem atomic_check_bind {x : Except ε α}
    (rest : ∀ a, x = .ok a → Atomic (f a) s) : Atomic (check x >>= f) s := by
  intro e t failed
  cases x with
  | error e' =>
    cases failed
    rfl
  | ok a => exact rest a rfl e t failed

theorem atomic_check {x : Except ε α} : Atomic (check x : Fallible ε σ α) s := by
  intro e t failed
  cases x with
  | error e' =>
    cases failed
    rfl
  | ok a => cases failed

theorem atomic_throw : Atomic (throw e : Fallible ε σ α) s := by
  intro e' t failed
  cases failed
  rfl

theorem atomic_get_bind {f : σ → Fallible ε σ β} (rest : Atomic (f s) s) :
    Atomic (get >>= f) s := rest

/-- After the first write nothing may fail. -/
theorem atomic_of_succeeds (succeeds : Succeeds x s) : Atomic x s :=
  fun e t failed => False.elim (succeeds e t failed)

theorem succeeds_modify_bind {f : PUnit → Fallible ε σ β} {g : σ → σ}
    (rest : Succeeds (f ⟨⟩) (g s)) : Succeeds (modify g >>= f) s := rest

theorem succeeds_check {x : Except ε α} (accepted : x = .ok a) :
    Succeeds (check x : Fallible ε σ α) s := by
  subst accepted
  intro e t failed
  cases failed

theorem map_ok {f : α → β} (h : (f <$> x).run s = .ok b t) :
    ∃ a, x.run s = .ok a t ∧ f a = b := by
  change EStateM.map f x s = .ok b t at h
  unfold EStateM.map at h
  split at h
  · rename_i a u ran
    cases h
    exact ⟨a, ran, rfl⟩
  · cases h

theorem map_error {f : α → β} (h : (f <$> x).run s = .error e t) :
    x.run s = .error e t := by
  change EStateM.map f x s = .error e t at h
  unfold EStateM.map at h
  split at h
  · cases h
  · rename_i error u ran
    cases h
    exact ran

theorem run_map_ok {f : α → β} (ran : x.run s = .ok a t) :
    (f <$> x).run s = .ok (f a) t := by
  change EStateM.map f x s = _
  unfold EStateM.map
  rw [show x s = _ from ran]

theorem run_map_error {f : α → β} (ran : x.run s = .error e t) :
    (f <$> x).run s = .error e t := by
  change EStateM.map f x s = _
  unfold EStateM.map
  rw [show x s = _ from ran]

theorem run_bind_ok (ran : x.run s = .ok a t) :
    (x >>= f).run s = (f a).run t := by
  change EStateM.bind x f s = _
  unfold EStateM.bind
  rw [show x s = _ from ran]
  rfl

theorem run_bind_error
    (ran : x.run s = .error e t) : (x >>= f).run s = .error e t := by
  change EStateM.bind x f s = _
  unfold EStateM.bind
  rw [show x s = _ from ran]

theorem atomic_map {f : α → β} (atomic : Atomic x s) :
    Atomic (f <$> x) s := by
  intro e t failed
  change EStateM.map f x s = .error e t at failed
  unfold EStateM.map at failed
  split at failed
  · cases failed
  · rename_i error u ran
    cases failed
    exact atomic e t ran

theorem bind_ok
    (h : (x >>= f).run s = .ok b t) : ∃ a u, x.run s = .ok a u ∧ (f a).run u = .ok b t := by
  change EStateM.bind x f s = .ok b t at h
  unfold EStateM.bind at h
  split at h
  · rename_i a u ran
    exact ⟨a, u, ran, h⟩
  · cases h

/-- An atomic operation followed by one that cannot fail is atomic. -/
theorem atomic_bind (first : Atomic x s)
    (rest : ∀ a u, x.run s = .ok a u → Succeeds (f a) u) : Atomic (x >>= f) s := by
  intro e t failed
  change EStateM.bind x f s = .error e t at failed
  unfold EStateM.bind at failed
  split at failed
  · rename_i a u ran
    exact False.elim (rest a u ran e t failed)
  · rename_i error u ran
    cases failed
    exact first e t ran

theorem succeeds_bind (first : Succeeds x s)
    (rest : ∀ a u, x.run s = .ok a u → Succeeds (f a) u) : Succeeds (x >>= f) s := by
  intro e t failed
  change EStateM.bind x f s = .error e t at failed
  unfold EStateM.bind at failed
  split at failed
  · rename_i a u ran
    exact rest a u ran e t failed
  · rename_i error u ran
    exact first error u ran

theorem zoom_ok {part : σ → τ} {put : τ → σ → σ} {x : Fallible ε τ α}
    (h : (zoom part put x).run s = .ok a t) : ∃ u, x.run (part s) = .ok a u ∧ t = put u s := by
  change zoom part put x s = .ok a t at h
  unfold zoom at h
  split at h
  · rename_i b u ran
    cases h
    exact ⟨u, ran, rfl⟩
  · cases h

theorem run_zoom_ok {part : σ → τ} {put : τ → σ → σ} {x : Fallible ε τ α} {u : τ}
    (ran : x.run (part s) = .ok a u) : (zoom part put x).run s = .ok a (put u s) := by
  change zoom part put x s = _
  unfold zoom
  rw [show x (part s) = _ from ran]

theorem atomic_zoom {part : σ → τ} {put : τ → σ → σ} {x : Fallible ε τ α}
    (same : put (part s) s = s) (atomic : Atomic x (part s)) : Atomic (zoom part put x) s := by
  intro e t failed
  change zoom part put x s = .error e t at failed
  unfold zoom at failed
  split at failed
  · cases failed
  · rename_i error u ran
    cases failed
    rw [atomic e u ran, same]

/-- However the operation ends, it leaves a state with the property. -/
structure Leaves (x : Fallible ε σ α) (s : σ) (P : σ → Prop) : Prop where
  answered : ∀ a t, x.run s = .ok a t → P t
  failed : ∀ e t, x.run s = .error e t → P t

theorem leaves_check {x : Except ε α} (holds : P s) : Leaves (check x) s P := by
  constructor
  · intro a t ran
    rw [(check_ok ran).2]
    exact holds
  · intro e t failed
    rw [atomic_check e t failed]
    exact holds

theorem leaves_pure (holds : P s) : Leaves (pure a : Fallible ε σ α) s P := by
  constructor
  · intro b t ran
    cases ran
    exact holds
  · intro e t failed
    cases failed

theorem leaves_throw (holds : P s) : Leaves (throw e : Fallible ε σ α) s P := by
  constructor
  · intro b t ran
    cases ran
  · intro e' t failed
    cases failed
    exact holds

theorem leaves_bind (first : Leaves x s P)
    (rest : ∀ a t, x.run s = .ok a t → P t → Leaves (f a) t P) : Leaves (x >>= f) s P := by
  constructor
  · intro b u ran
    obtain ⟨a, t, ran, after⟩ := bind_ok ran
    exact (rest a t ran (first.answered a t ran)).answered b u after
  · intro e u failed
    change EStateM.bind x f s = .error e u at failed
    unfold EStateM.bind at failed
    split at failed
    · rename_i a t ran
      exact (rest a t ran (first.answered a t ran)).failed e u failed
    · rename_i error t ran
      cases failed
      exact first.failed _ _ ran

theorem leaves_check_bind {x : Except ε α} (holds : P s)
    (rest : ∀ a, x = .ok a → Leaves (f a) s P) : Leaves (check x >>= f) s P := by
  refine leaves_bind (leaves_check holds) ?_
  intro a t ran _
  obtain ⟨accepted, rfl⟩ := check_ok ran
  exact rest a accepted

theorem leaves_get_bind {f : σ → Fallible ε σ β} (rest : Leaves (f s) s P) :
    Leaves (get >>= f) s P := ⟨rest.answered, rest.failed⟩

theorem leaves_modify_bind {f : PUnit → Fallible ε σ β} {g : σ → σ}
    (rest : Leaves (f ⟨⟩) (g s) P) : Leaves (modify g >>= f) s P := ⟨rest.answered, rest.failed⟩

theorem leaves_modify {g : σ → σ} (holds : P (g s)) :
    Leaves (modify g : Fallible ε σ PUnit) s P := by
  constructor
  · intro a t ran
    cases ran
    exact holds
  · intro e t failed
    cases failed

theorem leaves_map {f : α → β} (kept : Leaves x s P) :
    Leaves (f <$> x) s P := by
  constructor
  · intro b t ran
    obtain ⟨a, ran, _⟩ := map_ok ran
    exact kept.answered a t ran
  · intro e t failed
    change EStateM.map f x s = .error e t at failed
    unfold EStateM.map at failed
    split at failed
    · cases failed
    · rename_i error u ran
      cases failed
      exact kept.failed _ _ ran

theorem leaves_discard_bind {x : Except ε α} {f : Unit → Fallible ε σ β} (holds : P s)
    (rest : Leaves (f ()) s P) : Leaves (discard (check x) >>= f) s P := by
  refine leaves_bind (leaves_map (leaves_check holds)) ?_
  intro _ t read _
  obtain ⟨_, read, _⟩ := map_ok read
  obtain ⟨_, rfl⟩ := check_ok read
  exact rest

theorem leaves_zoom {part : σ → τ} {put : τ → σ → σ} {x : Fallible ε τ α}
    (kept : ∀ t, P (put t s)) : Leaves (zoom part put x) s P := by
  constructor
  · intro a t ran
    obtain ⟨u, _, rfl⟩ := zoom_ok ran
    exact kept u
  · intro e t failed
    change zoom part put x s = .error e t at failed
    unfold zoom at failed
    split at failed
    · cases failed
    · rename_i error u ran
      cases failed
      exact kept _

end Fallible
end JBCenter
