import Mathlib.Data.List.Basic

/-! Programs that act on a shared world one operation at a time. Between two operations
others may change the world, an operation may be answered with a failure, and the program
may stop anywhere. `safe` says that whatever happens every operation is issued in a world that
meets what is due for it, and that the program ends in a world that meets its postcondition. -/
namespace JBCenter

inductive Program (Op E : Type) (Result : Op → Type) (α : Type) where
  | done (value : α)
  | call (op : Op) (next : Except E (Result op) → Program Op E Result α)

/-- The world a program runs in. `Reply` is what the outside decides about an operation and
`perform` what the operation then does; `rely` is what others may do while the program stands at an
operation, `admits` the replies that can occur, `holds` what is true of every world reached and `due`
what an operation needs. -/
structure Setting (Op E : Type) (Result : Op → Type) (W : Type) where
  Reply : Op → Type
  perform : (op : Op) → Reply op → W → Except E (Result op) × W
  rely : Op → W → W → Prop
  holds : W → Prop
  admits : (op : Op) → Reply op → W → Prop
  due : Op → W → Prop

namespace Program
variable {Op E : Type} {Result : Op → Type} {W α β : Type}

def bind : Program Op E Result α → (α → Program Op E Result β) → Program Op E Result β
  | done value, f => f value
  | call op next, f => call op (fun answer => (next answer).bind f)

def safe (S : Setting Op E Result W) : Program Op E Result α → (α → W → Prop) → W → Prop
  | done value, post, w => post value w
  | call op next, post, w => ∀ w', S.rely op w w' → S.holds w' → S.due op w' ∧
      ∀ reply, S.admits op reply w' →
        (next (S.perform op reply w').1).safe S post (S.perform op reply w').2

variable {S : Setting Op E Result W}

theorem safe_mono {program : Program Op E Result α} {post weaker : α → W → Prop} {w : W}
    (safely : program.safe S post w) (implies : ∀ value w, post value w → weaker value w) :
    program.safe S weaker w := by
  induction program generalizing w with
  | done value => exact implies value w safely
  | call op next ih =>
    intro w' step held
    obtain ⟨due, rest⟩ := safely w' step held
    exact ⟨due, fun reply admitted => ih _ (rest reply admitted)⟩

theorem safe_bind {program : Program Op E Result α} {f : α → Program Op E Result β}
    {post : β → W → Prop} {w : W} (safely : program.safe S (fun value => (f value).safe S post) w) :
    (program.bind f).safe S post w := by
  induction program generalizing w with
  | done value => exact safely
  | call op next ih =>
    intro w' step held
    obtain ⟨due, rest⟩ := safely w' step held
    exact ⟨due, fun reply admitted => ih _ (rest reply admitted)⟩

/-- A program that is safe now is safe after whatever the others do next. -/
theorem safe_rely {program : Program Op E Result α} {post : α → W → Prop} {w w' : W}
    (safely : program.safe S post w) (step : ∀ op next, program = .call op next → S.rely op w w')
    (trans : ∀ {op a b c}, S.rely op a b → S.rely op b c → S.rely op a c)
    (stable : ∀ value, post value w → post value w') : program.safe S post w' := by
  cases program with
  | done value => exact stable value safely
  | call op next => exact fun w'' later held => safely w'' (trans (step op next rfl) later) held

/-- What neither the others nor any operation that was due can end stays true to the end. -/
theorem safe_frame {program : Program Op E Result α} {post : α → W → Prop} {w : W} {frame : W → Prop}
    (safely : program.safe S post w) (now : frame w) (others : ∀ {op a b}, S.rely op a b → frame a → frame b)
    (own : ∀ {op reply w}, S.due op w → frame w → frame (S.perform op reply w).2) :
    program.safe S (fun value w => post value w ∧ frame w) w := by
  induction program generalizing w with
  | done value => exact ⟨safely, now⟩
  | call op next ih =>
    intro w' step held
    obtain ⟨due, rest⟩ := safely w' step held
    exact ⟨due, fun reply admitted => ih _ (rest reply admitted) (own due (others step now))⟩

/-- Less may be asked of every operation. -/
theorem safe_weaken {program : Program Op E Result α} {post : α → W → Prop} {w : W} {due : Op → W → Prop}
    (safely : program.safe S post w) (weaker : ∀ {op w}, S.due op w → due op w) :
    program.safe { S with due } post w := by
  induction program generalizing w with
  | done value => exact safely
  | call op next ih =>
    intro w' step held
    obtain ⟨asked, rest⟩ := safely w' step held
    exact ⟨weaker asked, fun reply admitted => ih _ (rest reply admitted)⟩

end Program

/-- Code with private state that can throw. What it wrote to the state before it threw stays. -/
def Action (Op E : Type) (Result : Op → Type) (L α : Type) := L → Program Op E Result (Except E α × L)

namespace Action
variable {Op E : Type} {Result : Op → Type} {W L α β : Type}

instance : Monad (Action Op E Result L) where
  pure value := fun l => .done (.ok value, l)
  bind m f := fun l => (m l).bind fun
    | (.ok value, l) => f value l
    | (.error error, l) => .done (.error error, l)

def raise (error : E) : Action Op E Result L α := fun l => .done (.error error, l)

def read : Action Op E Result L L := fun l => .done (.ok l, l)

def modify (f : L → L) : Action Op E Result L Unit := fun l => .done (.ok (), f l)

def request (op : Op) : Action Op E Result L (Result op) := fun l => .call op (fun answer => .done (answer, l))

def ofExcept : Except E α → Action Op E Result L α := fun result l => .done (result, l)

/-- The try block `body` with its catch block. -/
def tryCatch (body : Action Op E Result L α) (handler : E → Action Op E Result L α) : Action Op E Result L α :=
  fun l => (body l).bind fun
    | (.ok value, l) => .done (.ok value, l)
    | (.error error, l) => handler error l

def each (f : α → Action Op E Result L Unit) : List α → Action Op E Result L Unit
  | [] => pure ()
  | item :: rest => do
    f item
    each f rest

/-- `safe` with one postcondition for a return and one for a throw. -/
def safe (S : Setting Op E Result W) (m : Action Op E Result L α) (l : L) (ok : α → L → W → Prop)
    (err : E → L → W → Prop) (w : W) : Prop :=
  (m l).safe S (fun result w => match result with
    | (.ok value, l) => ok value l w
    | (.error error, l) => err error l w) w

variable {S : Setting Op E Result W} {l : L} {w : W}
variable {ok : α → L → W → Prop} {err : E → L → W → Prop}

theorem safe_pure {value : α} (done : ok value l w) : (pure value : Action Op E Result L α).safe S l ok err w := done

theorem safe_raise {error : E} (done : err error l w) :
    (raise error : Action Op E Result L α).safe S l ok err w := done

theorem safe_ofExcept {result : Except E α} (returns : ∀ value, result = .ok value → ok value l w)
    (throws : ∀ error, result = .error error → err error l w) :
    (ofExcept result : Action Op E Result L α).safe S l ok err w := by
  cases result with
  | ok value => exact returns value rfl
  | error error => exact throws error rfl

theorem safe_read {ok : L → L → W → Prop} (done : ok l l w) :
    (read : Action Op E Result L L).safe S l ok err w := done

theorem safe_modify {f : L → L} {ok : Unit → L → W → Prop} (done : ok () (f l) w) :
    (modify f : Action Op E Result L Unit).safe S l ok err w := done

theorem safe_mono {m : Action Op E Result L α} {ok' : α → L → W → Prop} {err' : E → L → W → Prop}
    (safely : m.safe S l ok err w) (returns : ∀ value l w, ok value l w → ok' value l w)
    (throws : ∀ error l w, err error l w → err' error l w) : m.safe S l ok' err' w := by
  refine Program.safe_mono safely ?_
  rintro ⟨result, l⟩ w post
  cases result with
  | ok value => exact returns value l w post
  | error error => exact throws error l w post

theorem safe_imp {m : Action Op E Result L α} {ok' : α → L → W → Prop} (safely : m.safe S l ok err w)
    (returns : ∀ value l w, ok value l w → ok' value l w) : m.safe S l ok' err w :=
  safe_mono safely returns (fun _ _ _ => id)

theorem safe_bind {m : Action Op E Result L α} {f : α → Action Op E Result L β}
    {ok : β → L → W → Prop} (safely : m.safe S l (fun value l => (f value).safe S l ok err) err w) :
    (m >>= f).safe S l ok err w := by
  refine Program.safe_bind (Program.safe_mono safely ?_)
  rintro ⟨result, l⟩ w post
  cases result with
  | ok value => exact post
  | error error => exact post

theorem safe_tryCatch {m : Action Op E Result L α} {handler : E → Action Op E Result L α}
    (safely : m.safe S l ok (fun error l => (handler error).safe S l ok err) w) :
    (tryCatch m handler).safe S l ok err w := by
  refine Program.safe_bind (Program.safe_mono safely ?_)
  rintro ⟨result, l⟩ w post
  cases result with
  | ok value => exact post
  | error error => exact post

/-- One operation: what is known beforehand survives the others, and decides both what
is due and what each answer leaves. -/
theorem safe_request {op : Op} {ok : Result op → L → W → Prop} (known : W → Prop) (before : known w)
    (stable : ∀ w w', S.rely op w w' → known w → known w')
    (issue : ∀ w, known w → S.holds w → S.due op w ∧ ∀ reply, S.admits op reply w →
      (∀ value w', S.perform op reply w = (.ok value, w') → ok value l w') ∧
      ∀ error w', S.perform op reply w = (.error error, w') → err error l w') :
    (request op : Action Op E Result L (Result op)).safe S l ok err w := by
  intro w' step held
  obtain ⟨due, replies⟩ := issue w' (stable w w' step before) held
  refine ⟨due, fun reply admitted => ?_⟩
  obtain ⟨returns, throws⟩ := replies reply admitted
  generalize performed : S.perform op reply w' = result at returns throws
  obtain ⟨answer, after⟩ := result
  cases answer with
  | ok value => exact returns value after rfl
  | error error => exact throws error after rfl

/-- A loop over a list, with an invariant that knows what is left. -/
theorem safe_each {f : α → Action Op E Result L Unit} (invariant : List α → L → W → Prop)
    {items : List α} (entry : invariant items l w)
    (body : ∀ item rest l w, invariant (item :: rest) l w →
      (f item).safe S l (fun _ => invariant rest) err w) :
    (each f items).safe S l (fun _ => invariant []) err w := by
  induction items generalizing l w with
  | nil => exact entry
  | cons item rest ih =>
    exact safe_bind (safe_imp (body item rest l w entry) (fun _ l w next => ih next))

end Action
end JBCenter
