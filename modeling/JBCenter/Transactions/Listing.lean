import Mathlib.Data.List.Lex
import Mathlib.Data.Prod.Lex
import Mathlib.Order.OrderDual
import JBCenter.Base.Pages
import JBCenter.Transactions.Cursors
import JBCenter.Transactions.Idempotency

/-! The lists of plans: those a reader may see, newest first, and those that must be looked after, oldest first. Both are read
in pages, and the store changes between the pages. -/
namespace JBCenter.Transactions
open Rest Fallible
open Utf16 (spelled)
open Pages (Reads beyond KeyLe Past)
open JsonTexts (forall_of_all)
open OrderedMap (get_of_mem get_set set_get)
variable {bytes : JsonBytes} {decoding : Decoding} {s t : Memory}

def StoredPlan.cursor (plan : StoredPlan) : ListCursor := ⟨plan.createdAt, spelled plan.id.toList⟩

/-- The bytes of a name, as `Buffer.compare` compares them. -/
def ListCursor.name (cursor : ListCursor) : List Nat := (Utf16.encode cursor.id).map UInt8.toNat

/-- By time, and by name where the times are the same. -/
def ListCursor.Before (first second : ListCursor) : Prop :=
  first.createdAt < second.createdAt ∨ first.createdAt = second.createdAt ∧ first.name < second.name

instance : DecidableRel ListCursor.Before := fun first second =>
  inferInstanceAs (Decidable (first.createdAt < second.createdAt ∨ first.createdAt = second.createdAt ∧ first.name < second.name))

/-- What the comparisons of the two lists sort by. -/
def ListCursor.Upto (first second : ListCursor) : Prop :=
  first.createdAt < second.createdAt ∨ first.createdAt = second.createdAt ∧ first.name ≤ second.name

instance : DecidableRel ListCursor.Upto := fun first second =>
  inferInstanceAs (Decidable (first.createdAt < second.createdAt ∨ first.createdAt = second.createdAt ∧ first.name ≤ second.name))

def assertLimit (value : Int) : Except RestError Unit :=
  refuse (!isSafeInteger value || value < 1 || 1000 < value) (invalid "Page limit must be between 1 and 1000.")

/-- What the reader of a list may see of it. -/
def visible (actor : RestActor) (account : Option String) (plan : StoredPlan) : Bool :=
  canRead plan actor && account.all fun account => account = "" || toLowerCase plan.draft.account = toLowerCase account

def Memory.list (decoding : Decoding) (s : Memory) (actor : RestActor) (account : Option String) (limit : Int)
    (cursor : Option CodeUnits) : Except RestError (List StoredPlan × Option CodeUnits) := do
  assertActor actor
  assertLimit limit
  let cursor ← decodeCursor decoding cursor
  let rows := (s.plans.values.filter fun plan => visible actor account plan &&
    cursor.all fun cursor => plan.cursor.Before cursor).insertionSort
    (fun a b => b.cursor.Upto a.cursor)
  let items := rows.take limit.toNat
  return (items, if limit < rows.length then items.getLast?.map fun last => encodeCursor last.cursor else none)

def recoverableStates : List StepState := [.reserved, .submitted, .unknown, .confirming, .reorged]

def isRecoverableStep (step : StoredStep) : Bool :=
  (step.attempt.isSome || step.externalExecution.isSome) &&
    (recoverableStates.contains step.state || (step.state = .confirmed &&
    step.semantic.all fun semantic => semantic.status = .unknown))

def isRecoverable (plan : StoredPlan) : Bool := plan.steps.any isRecoverableStep

/-- Whether a plan must be looked after, for what it did or for what another transport may do for it. -/
def Memory.mustRecover (s : Memory) (plan : StoredPlan) : Except RestError Bool :=
  if isRecoverable plan then .ok true
  else do
    let bindings ← s.transports.list plan.id
    return bindings.any fun binding => (binding.transport = .relayr || binding.transport = .erc4337) &&
      (at? plan.steps binding.stepIndex).all fun step => step.externalExecution.isNone

def Memory.recoverable (decoding : Decoding) (s : Memory) (limit : Int) (cursorValue : Option CodeUnits) :
    Except RestError (List StoredPlan) := do
  assertLimit limit
  let cursor ← decodeCursor decoding cursorValue
  let rows ← s.plans.values.filterM fun plan => do
    let needed ← s.mustRecover plan
    return needed && cursor.all fun cursor => cursor.Before plan.cursor
  return (rows.insertionSort fun a b => a.cursor.Upto b.cursor).take limit.toNat

def invalidRecoveryLimit : RestError :=
  { status := 400, code := "INVALID_RECOVERY_LIMIT", message := "Recover 1–100 pending plans at a time." }

/-- The plans that one call of `recoverPending` refreshes, and the cursor that the next one starts from. The refreshes that
follow are operations of the store. -/
def recoverPending (decoding : Decoding) (s : Memory) (limit : Option Int) (recoveryCursor : Option CodeUnits) :
    Except RestError (List StoredPlan × Option CodeUnits) := do
  let limit := limit.getD 20
  refuse (limit < 1 || 100 < limit) invalidRecoveryLimit
  let plans ← s.recoverable decoding limit recoveryCursor
  return (plans, if (plans.length : Int) = limit then plans.getLast?.map fun last => encodeCursor last.cursor else none)

/-- What no operation changes of a plan. -/
structure Fixed (before after : StoredPlan) : Prop where
  id : after.id = before.id
  createdAt : after.createdAt = before.createdAt
  actor : after.actor = before.actor
  draft : after.draft = before.draft

theorem Fixed.refl (plan : StoredPlan) : Fixed plan plan := ⟨rfl, rfl, rfl, rfl⟩

theorem Fixed.trans {first second third : StoredPlan} (one : Fixed first second) (two : Fixed second third) : Fixed first third :=
  ⟨two.id.trans one.id, two.createdAt.trans one.createdAt, two.actor.trans one.actor, two.draft.trans one.draft⟩

variable {after plan : StoredPlan}

theorem Fixed.cursor {before : StoredPlan} (fixed : Fixed before after) : after.cursor = before.cursor := by
  rw [StoredPlan.cursor, StoredPlan.cursor, fixed.id, fixed.createdAt]

/-- Every plan stands under its name and can have a cursor. -/
def Memory.Filed (s : Memory) : Prop :=
  ∀ id plan, s.plans.get id = some plan → plan.id = id ∧ assertText id 192 = .ok () ∧ plan.cursor.Valid

theorem length_utf8 (text : String) : (Utf16.utf8 text.toList).length = text.utf8ByteSize := by
  rw [← String.size_toByteArray, ← String.utf8Encode_toList, List.utf8Encode, List.size_toByteArray]
  rfl

theorem control_spell {c : Char} (printable : isControl c = false) :
    ∀ u ∈ Utf16.spell c, (u.toNat ≤ 0x1f || u.toNat == 0x7f) = false := by
  have valid : c.toNat < 0xd800 ∨ 0xdfff < c.toNat ∧ c.toNat < 0x110000 := c.valid
  unfold Utf16.spell
  split
  case isTrue basic =>
    rw [List.forall_mem_singleton, Utf16.unit, UInt16.toNat_ofNat', Nat.mod_eq_of_lt basic]
    exact printable
  case isFalse beyond =>
    have high : ∀ n < 0x800, ∀ u, u = UInt16.ofNat (0xd800 + n) → (u.toNat ≤ 0x1f || u.toNat == 0x7f) = false := by
      rintro n less u rfl
      rw [UInt16.toNat_ofNat', Nat.mod_eq_of_lt (by omega), Bool.or_eq_false_iff, decide_eq_false_iff_not, beq_eq_false_iff_ne]
      omega
    refine List.forall_mem_cons.mpr ⟨high ((c.toNat - 0x10000) / 0x400) (by omega) _ rfl, List.forall_mem_singleton.mpr ?_⟩
    exact high (0x400 + (c.toNat - 0x10000) % 0x400) (by omega) _ (congrArg UInt16.ofNat (by omega))

theorem control_spelled {text : List Char} (printable : text.any isControl = false) :
    (spelled text).any (fun u => u.toNat ≤ 0x1f || u.toNat == 0x7f) = false := by
  rw [List.any_eq_false] at printable ⊢
  intro u member
  obtain ⟨c, isCharacter, isUnit⟩ := List.mem_flatMap.mp member
  exact Bool.not_eq_true _ ▸ control_spell (eq_false_of_ne_true (printable c isCharacter)) u isUnit

theorem encode_spelled (text : List Char) : Utf16.encode (spelled text) = Utf16.utf8 text := by
  rw [Utf16.encode, Utf16.characters_spelled]

variable {id : String}

theorem isText_spelled (text : assertText id 192 = .ok ()) : isText (spelled id.toList) = true := by
  have checked := refuse_ok.mp text
  simp only [Bool.or_eq_false_iff, decide_eq_false_iff_not] at checked
  obtain ⟨⟨some, short⟩, printable⟩ := checked
  have units : ¬ (spelled id.toList).length < 1 := by
    intro none
    have empty : spelled id.toList = [] := List.length_eq_zero_iff.mp (Nat.lt_one_iff.mp none)
    have characters := Utf16.characters_spelled id.toList
    rw [empty, Utf16.characters] at characters
    exact some (by rw [← String.length_toList, ← characters]; exact Nat.one_pos)
  rw [isText, encode_spelled, length_utf8, control_spelled printable, decide_eq_false units, decide_eq_false short]
  rfl

theorem valid_cursor (text : assertText plan.id 192 = .ok ()) (time : assertTime plan.createdAt = .ok ()) :
    plan.cursor.Valid := by
  have checked := refuse_ok.mp time
  simp only [Bool.or_eq_false_iff, Bool.not_eq_false', decide_eq_false_iff_not, not_lt] at checked
  exact ⟨checked.1, checked.2, isText_spelled text⟩

theorem assertNewPlan_timed {now : Int} (new : assertNewPlan bytes plan now = .ok ()) :
    assertTime plan.createdAt = .ok () := by
  unfold assertNewPlan at new
  iterate 3 obtain ⟨_, _, new⟩ := ok_bind new
  obtain ⟨_, time, _⟩ := ok_bind new
  exact time

variable {outcome : Outcome} {current : StoredPlan}

theorem next_fixed (next : Next bytes s id current after) : Fixed current after := by
  obtain rfl | rewritten := next
  · exact .refl _
  · rw [rewritten.document]
    exact ⟨rfl, rfl, rfl, rfl⟩

theorem claimed_fixed {claim : SubmissionClaim} {result : PreparedClaim}
    (found : s.plans.get id = some current) (prepared : prepareClaim bytes current claim = .ok result) :
    ∃ after, result.stored s.plans id = s.plans.set id after ∧ Fixed current after := by
  obtain ⟨step, _, rfl | ⟨new, _, _, _, same⟩⟩ := prepareClaim_ok prepared
  · exact ⟨current, (set_get found).symm, .refl _⟩
  · rw [same]
    exact ⟨withStep current claim.stepIndex new, rfl, rfl, rfl, rfl, rfl⟩

theorem effect_writes {op : Op} (effect : Effect bytes s op outcome t) : t.plans = s.plans ∨
    (∃ id current after, s.plans.get id = some current ∧ Fixed current after ∧ t.plans = s.plans.set id after) ∨
    ∃ plan claim now authority, op = .create plan claim now authority ∧ s.plans.get plan.id = none ∧
    t.plans = s.plans.set plan.id plan := by
  cases effect with
  | created plan new absent => exact .inr (.inr ⟨plan, _, _, _, rfl, absent, rfl⟩)
  | rewritten id other found next saved => exact .inr (.inl ⟨id, _, _, found, next_fixed next, rfl⟩)
  | claimed claim found prepared free reserved =>
    obtain ⟨after, written, fixed⟩ := claimed_fixed found prepared
    exact .inr (.inl ⟨claim.planId, _, after, found, fixed, written⟩)
  | reserved => exact .inl rfl

theorem effect_fixed {before : StoredPlan} {op : Op} (effect : Effect bytes s op outcome t)
    (found : s.plans.get id = some before) : ∃ after, t.plans.get id = some after ∧ Fixed before after := by
  obtain same | ⟨key, current, after, stored, fixed, written⟩ | ⟨plan, _, _, _, _, absent, written⟩ := effect_writes effect
  · exact ⟨before, same ▸ found, .refl _⟩
  · rw [written, get_set]
    split
    case isTrue same =>
      subst same
      cases found.symm.trans stored
      exact ⟨after, rfl, fixed⟩
    case isFalse => exact ⟨before, found, .refl _⟩
  · rw [written, get_set]
    split
    case isTrue same =>
      rw [same, absent] at found
      cases found
    case isFalse => exact ⟨before, found, .refl _⟩

theorem created_plan {claim : IdempotencyClaim} {now : Int} {authority : Except RestError Unit}
    (ran : (perform bytes (.create plan claim now authority)).run s = .ok outcome t) : assertNewPlan bytes plan now = .ok () := by
  obtain ⟨_, created, _⟩ := map_ok ran
  obtain ⟨_, checked, _⟩ := check_bind_ok created
  exact checked

theorem Memory.Filed.fixed (filed : s.Filed) (found : s.plans.get id = some current)
    (fixed : Fixed current after) : after.id = id ∧ assertText id 192 = .ok () ∧ after.cursor.Valid := by
  obtain ⟨named, text, valid⟩ := filed id current found
  exact ⟨fixed.id.trans named, text, fixed.cursor ▸ valid⟩

theorem step_filed {event : Event} (bounded : s.Bounded bytes) (filed : s.Filed) (stepped : Step bytes s event t) : t.Filed := by
  unfold Step at stepped
  split at stepped
  · rename_i outcome next ran
    obtain ⟨_, rfl⟩ := stepped
    obtain same | ⟨key, current, after, stored, fixed, written⟩ | ⟨plan, _, _, _, isCreate, absent, written⟩ :=
      effect_writes (perform_ok ran)
    · intro id plan found
      exact filed id plan (same ▸ found)
    · intro id plan found
      rw [written, get_set] at found
      split at found
      case isTrue same =>
        cases found
        subst same
        exact filed.fixed stored fixed
      case isFalse => exact filed id plan found
    · intro id other found
      rw [written, get_set] at found
      split at found
      case isTrue same =>
        cases found
        subst same
        rw [isCreate] at ran
        have checked := created_plan ran
        exact ⟨rfl, (assertNewPlan_named checked).2, valid_cursor (assertNewPlan_named checked).2 (assertNewPlan_timed checked)⟩
      case isFalse => exact filed id other found
  · rename_i error next failed
    obtain ⟨_, rfl⟩ := stepped
    rw [perform_atomic bounded _ error _ failed]
    exact filed

theorem run_filed {history : List Event} (run : Runs bytes history s) : s.Filed := by
  refine (run.state_invariant (P := fun s => s.Bounded bytes ∧ s.Filed) ⟨nofun, nofun⟩ ?_).2
  exact fun kept stepped => ⟨step_bounded kept.1 stepped, step_filed kept.1 kept.2 stepped⟩

/-- Pages of a list read one after another, under limits of their own. The store is in the given states when they are read, and
operations of it come between them. -/
inductive Followed {L : Type} (bytes : JsonBytes)
    (read : L → Memory → Option CodeUnits → Except RestError (List StoredPlan × Option CodeUnits)) :
    Option CodeUnits → List Memory → List (List StoredPlan) → Prop where
  | last {limit : L} {s : Memory} {cursor : Option CodeUnits} {items : List StoredPlan} :
      read limit s cursor = .ok (items, none) → Followed bytes read cursor [s] [items]
  | next {limit : L} {s t : Memory} {cursor : Option CodeUnits} {following : CodeUnits}
      {items : List StoredPlan} {later : List Event}
      {states : List Memory} {pages : List (List StoredPlan)} : read limit s cursor = .ok (items, some following) →
      Run (Step bytes) s later t → Followed bytes read (some following) (t :: states) pages →
      Followed bytes read cursor (s :: t :: states) (items :: pages)

/-- Each page is of the rows past its cursor, in their order; it has them all where there is no next page, and the next page
starts at its last row. -/
structure Keyset {L κ : Type*} [LinearOrder κ] (decoding : Decoding)
    (read : L → Memory → Option CodeUnits → Except RestError (List StoredPlan × Option CodeUnits))
    (rows : Memory → List StoredPlan)
    (place : ListCursor → κ) : Prop where
  page : ∀ {limit s cursor items following}, s.Filed → read limit s cursor = .ok (items, following) → ∃ after size,
    decodeCursor decoding cursor = .ok after ∧
    items = (beyond (fun plan => place plan.cursor) (after.map place) (rows s)).take size ∧
    (following = none → (beyond (fun plan => place plan.cursor) (after.map place) (rows s)).length ≤ size) ∧
    ∀ text, following = some text → ∃ last, items.getLast? = some last ∧ text = encodeCursor last.cursor
  stored : ∀ {s plan}, plan ∈ rows s → plan ∈ s.plans.values

section Followed

variable {L κ : Type} [LinearOrder κ] {read : L → Memory → Option CodeUnits →
  Except RestError (List StoredPlan × Option CodeUnits)}
  {rows : Memory → List StoredPlan} {place : ListCursor → κ} {cursor : Option CodeUnits} {states : List Memory}
  {pages : List (List StoredPlan)}

theorem mem_values : plan ∈ s.plans.values ↔ ∃ id, s.plans.get id = some plan := by
  rw [OrderedMap.values, List.mem_map]
  constructor
  · rintro ⟨⟨id, plan⟩, member, rfl⟩
    exact ⟨id, get_of_mem member⟩
  · rintro ⟨id, found⟩
    exact ⟨(id, plan), OrderedMap.mem_of_get found, rfl⟩

/-- What the operations between the pages leave as it is. -/
structure Carried (bytes : JsonBytes) (s t : Memory) : Prop where
  bounded : t.Bounded bytes
  filed : t.Filed
  plans : ∀ id before, s.plans.get id = some before → ∃ after, t.plans.get id = some after ∧ Fixed before after

theorem Carried.refl (bounded : s.Bounded bytes) (filed : s.Filed) : Carried bytes s s :=
  ⟨bounded, filed, fun _ before found => ⟨before, found, .refl _⟩⟩

theorem Carried.trans {u : Memory} (one : Carried bytes s t) (two : Carried bytes t u) : Carried bytes s u := by
  refine ⟨two.bounded, two.filed, fun id before found => ?_⟩
  obtain ⟨middle, stored, fixed⟩ := one.plans id before found
  obtain ⟨after, final, fixed'⟩ := two.plans id middle stored
  exact ⟨after, final, fixed.trans fixed'⟩

theorem run_carried {later : List Event} (bounded : s.Bounded bytes) (filed : s.Filed) (run : Run (Step bytes) s later t) :
    Carried bytes s t := by
  refine run.state_invariant (P := fun t => Carried bytes s t) (.refl bounded filed) ?_
  intro t event next carried stepped
  refine carried.trans ⟨step_bounded carried.bounded stepped,
    step_filed carried.bounded carried.filed stepped, fun id before found => ?_⟩
  obtain ⟨_, _, rfl⟩ | ⟨_, _, effect⟩ := step_cases carried.bounded stepped
  · exact ⟨before, found, .refl _⟩
  · exact effect_fixed effect found

theorem Followed.carried (followed : Followed bytes read cursor (s :: states) pages)
    (bounded : s.Bounded bytes) (filed : s.Filed) :
    ∀ t ∈ s :: states, Carried bytes s t := by
  generalize whole : s :: states = all at followed
  induction followed generalizing s states with
  | last =>
    cases whole
    exact List.forall_mem_singleton.mpr (.refl bounded filed)
  | next _ run _ ih =>
    cases whole
    have carried := run_carried bounded filed run
    refine List.forall_mem_cons.mpr ⟨.refl bounded filed, fun t member => ?_⟩
    exact carried.trans (ih carried.bounded carried.filed rfl t member)

theorem Followed.reads (documented : decoding.Documented) (keyset : Keyset decoding read rows place)
    (followed : Followed bytes read cursor states pages) (filed : ∀ t ∈ states, t.Filed) :
    ∃ after, decodeCursor decoding cursor = .ok after ∧
      Reads (fun plan : StoredPlan => place plan.cursor) (after.map place) (states.map rows) pages := by
  induction followed with
  | last found =>
    obtain ⟨after, size, decoded, rfl, last, _⟩ := keyset.page (filed _ List.mem_cons_self) found
    exact ⟨after, decoded, .last (last rfl)⟩
  | @next limit s t cursor following items later states pages found _ _ ih =>
    obtain ⟨here, others⟩ := List.forall_mem_cons.mp filed
    obtain ⟨after, size, decoded, rfl, _, next⟩ := keyset.page here found
    obtain ⟨last, isLast, rfl⟩ := next _ rfl
    obtain ⟨again, decoded', reads⟩ := ih others
    -- The cursor is that of a stored plan, so what it was written of is what is read.
    have listed := (Pages.page_past (List.mem_of_getLast? isLast)).1
    obtain ⟨id, stored⟩ := mem_values.mp (keyset.stored listed)
    rw [decodeCursor_encodeCursor documented (here id last stored).2.2] at decoded'
    split at decoded'
    · cases decoded'
      exact ⟨after, decoded, .next isLast reads⟩
    · cases decoded'

end Followed

def ListCursor.key (cursor : ListCursor) : Int ×ₗ List Nat := toLex (cursor.createdAt, cursor.name)

theorem key_lt {first second : ListCursor} : first.key < second.key ↔ first.Before second := Prod.Lex.lt_iff

theorem key_le {first second : ListCursor} : first.key ≤ second.key ↔ first.Upto second := Prod.Lex.le_iff

theorem name_injective {first second : String}
    (same : (Utf16.encode (spelled first.toList)).map UInt8.toNat = (Utf16.encode (spelled second.toList)).map UInt8.toNat) :
    first = second := by
  have bytes := List.map_injective_iff.mpr (fun _ _ => UInt8.toNat_inj.mp) same
  rw [encode_spelled, encode_spelled] at bytes
  have decoded := Utf16.decodeUtf8_utf8 first.toList
  rw [bytes, Utf16.decodeUtf8_utf8] at decoded
  exact String.toList_injective (Option.some.inj decoded).symm

theorem Memory.Filed.distinct (filed : s.Filed) {κ : Type*} {f : Int ×ₗ List Nat → κ} (injective : Function.Injective f)
    (keep : StoredPlan → Bool) : ((s.plans.values.filter keep).map fun plan => f plan.cursor.key).Nodup := by
  refine List.Nodup.sublist (List.filter_sublist.map _) ?_
  rw [OrderedMap.values, List.map_map, List.Nodup, List.pairwise_map]
  refine (List.pairwise_map.mp s.plans.distinct).imp_of_mem ?_
  rintro ⟨id, plan⟩ ⟨id', plan'⟩ member member' differ same
  obtain ⟨rfl, _⟩ := filed id plan (get_of_mem member)
  obtain ⟨rfl, _⟩ := filed id' plan' (get_of_mem member')
  exact differ (name_injective (congrArg (fun key => (ofLex key).2) (injective same)))

theorem insertionSort_congr {α : Type*} {r r' : α → α → Prop} [DecidableRel r] [DecidableRel r'] (same : ∀ a b, r a b ↔ r' a b)
    (items : List α) : items.insertionSort r = items.insertionSort r' := by
  obtain rfl : r = r' := funext fun a => funext fun b => propext (same a b)
  congr

def newest (cursor : ListCursor) : (Int ×ₗ List Nat)ᵒᵈ := OrderDual.toDual cursor.key

/-- The plans that a reader may see. -/
def Memory.shown (actor : RestActor) (account : Option String) (s : Memory) : List StoredPlan :=
  s.plans.values.filter (visible actor account)

theorem list_rows (actor : RestActor) (account : Option String) (cursor : Option ListCursor) (s : Memory) :
    (s.plans.values.filter fun plan =>
      visible actor account plan && cursor.all fun cursor => plan.cursor.Before cursor).insertionSort
      (fun a b => b.cursor.Upto a.cursor) =
    beyond (fun plan : StoredPlan => newest plan.cursor) (cursor.map newest) (s.shown actor account) := by
  rw [beyond, Memory.shown, List.filter_filter]
  refine (insertionSort_congr (fun a b => key_le.symm) _).trans (congrArg _ (List.filter_congr fun plan _ => ?_))
  rw [Bool.and_comm]
  refine congrArg (· && _) ?_
  cases cursor with
  | none =>
    refine (decide_eq_true ?_).symm
    rintro _ ⟨⟩
  | some cursor =>
    refine decide_eq_decide.mpr (key_lt.symm.trans ⟨fun before k same => ?_, fun past => past _ rfl⟩)
    cases same
    exact before

theorem limit_bounds {limit : Int} (checked : assertLimit limit = .ok ()) : 1 ≤ limit ∧ limit ≤ 1000 := by
  have bounds := refuse_ok.mp checked
  simp only [Bool.or_eq_false_iff, decide_eq_false_iff_not, not_lt] at bounds
  exact ⟨bounds.1.2, bounds.2⟩

theorem following_last {items : List StoredPlan} {following : Option CodeUnits} {full : Prop} [Decidable full]
    (enough : full → items ≠ [])
    (named : following = if full then items.getLast?.map fun last => encodeCursor last.cursor else none) :
    (following = none → ¬full) ∧ ∀ text, following = some text → ∃ last, items.getLast? = some last ∧
    text = encodeCursor last.cursor := by
  by_cases isFull : full
  · rw [if_pos isFull, List.getLast?_eq_some_getLast (enough isFull), Option.map_some] at named
    subst named
    exact ⟨nofun, fun text same => ⟨_, List.getLast?_eq_some_getLast (enough isFull), (Option.some.inj same).symm⟩⟩
  · rw [if_neg isFull] at named
    subst named
    exact ⟨fun _ => isFull, nofun⟩

theorem list_keyset (decoding : Decoding) (actor : RestActor) (account : Option String) :
    Keyset decoding (fun limit s cursor => s.list decoding actor account limit cursor) (Memory.shown actor account) newest where
  page := by
    intro limit s cursor items following filed listed
    obtain ⟨_, _, listed⟩ := ok_bind listed
    obtain ⟨_, bounds, listed⟩ := ok_bind listed
    obtain ⟨after, decoded, listed⟩ := ok_bind listed
    obtain ⟨positive, _⟩ := limit_bounds bounds
    rw [list_rows] at listed
    generalize isPage : beyond (fun plan : StoredPlan => newest plan.cursor) (after.map newest)
      (s.shown actor account) = rows at listed ⊢
    obtain ⟨rfl, named⟩ := Prod.mk.inj (Except.ok.inj listed)
    have enough : limit < rows.length → rows.take limit.toNat ≠ [] := by
      intro more none
      obtain none | empty := List.take_eq_nil_iff.mp none
      · omega
      · rw [empty, List.length_nil] at more
        omega
    obtain ⟨last, next⟩ := following_last enough named.symm
    exact ⟨after, limit.toNat, decoded, isPage ▸ rfl, fun none => by have := last none; rw [isPage]; omega, next⟩
  stored listed := List.mem_of_mem_filter listed

theorem filterM_ok {ε α : Type} {test : α → Except ε Bool} {keep : α → Bool} {items : List α}
    (each : ∀ item ∈ items, test item = .ok (keep item)) : items.filterM test = .ok (items.filter keep) := by
  have aux : ∀ kept, items.filterAuxM test kept = .ok ((items.filter keep).reverse ++ kept) := by
    induction items with
    | nil => exact fun _ => rfl
    | cons item items ih =>
      obtain ⟨first, others⟩ := List.forall_mem_cons.mp each
      intro kept
      rw [List.filterAuxM, first]
      change List.filterAuxM test items (cond (keep item) (item :: kept) kept) = _
      rw [ih others, List.filter_cons]
      cases keep item with
      | false => rfl
      | true => rw [if_pos rfl, List.reverse_cons, List.append_assoc]; rfl
  rw [List.filterM, aux]
  change Except.ok ((items.filter keep).reverse ++ []).reverse = _
  rw [List.append_nil, List.reverse_reverse]

def Memory.pending (s : Memory) : List StoredPlan := s.plans.values.filter fun plan => (s.mustRecover plan).toOption.getD false

theorem mustRecover_ok (filed : s.Filed) (stored : plan ∈ s.plans.values) :
    s.mustRecover plan = .ok ((s.mustRecover plan).toOption.getD false) := by
  obtain ⟨id, found⟩ := mem_values.mp stored
  obtain ⟨rfl, text, _⟩ := filed id plan found
  rw [Memory.mustRecover]
  split
  · rfl
  · rw [Transports.list, text]
    rfl

theorem recoverable_rows (filed : s.Filed) (cursor : Option ListCursor) :
    (s.plans.values.filterM fun plan : StoredPlan => (do
      let needed ← s.mustRecover plan
      return needed && cursor.all fun cursor : ListCursor => decide (cursor.Before plan.cursor) : Except RestError Bool)) =
      .ok (s.pending.filter fun plan => Past (fun plan : StoredPlan => plan.cursor.key) (cursor.map ListCursor.key) plan) := by
  rw [Memory.pending, List.filter_filter]
  refine filterM_ok fun plan stored => ?_
  rw [mustRecover_ok filed stored]
  change Except.ok (_ && _) = _
  rw [Bool.and_comm]
  refine congrArg (fun past => Except.ok (past && _)) ?_
  cases cursor with
  | none =>
    refine (decide_eq_true ?_).symm
    rintro _ ⟨⟩
  | some cursor =>
    refine decide_eq_decide.mpr (key_lt.symm.trans ⟨fun before k same => ?_, fun past => past _ rfl⟩)
    cases same
    exact before

theorem recoverable_ok (filed : s.Filed) {limit : Int} {cursor : Option CodeUnits} {items : List StoredPlan}
    (found : s.recoverable decoding limit cursor = .ok items) : ∃ after, decodeCursor decoding cursor = .ok after ∧
      items = (beyond (fun plan : StoredPlan => plan.cursor.key) (after.map ListCursor.key) s.pending).take limit.toNat := by
  obtain ⟨_, _, found⟩ := ok_bind found
  obtain ⟨after, decoded, found⟩ := ok_bind found
  rw [recoverable_rows filed] at found
  cases found
  exact ⟨after, decoded, congrArg (List.take _) (insertionSort_congr (fun a b => key_le.symm) _)⟩

theorem recovery_keyset (decoding : Decoding) :
    Keyset decoding (fun limit s cursor => recoverPending decoding s limit cursor) Memory.pending ListCursor.key where
  page := by
    intro limit s cursor items following filed found
    obtain ⟨bounds, found⟩ := ok_refuse found
    obtain ⟨plans, recovered, found⟩ := ok_bind found
    obtain ⟨after, decoded, rfl⟩ := recoverable_ok filed recovered
    obtain ⟨rfl, named⟩ := Prod.mk.inj (Except.ok.inj found)
    simp only [Bool.or_eq_false_iff, decide_eq_false_iff_not, not_lt] at bounds
    generalize isPage : beyond (fun plan : StoredPlan => plan.cursor.key) (after.map ListCursor.key) s.pending = rows at named ⊢
    have enough : ((rows.take (limit.getD 20).toNat).length : Int) = limit.getD 20 → rows.take (limit.getD 20).toNat ≠ [] := by
      intro full none
      rw [none, List.length_nil] at full
      omega
    obtain ⟨last, next⟩ := following_last enough named.symm
    refine ⟨after, (limit.getD 20).toNat, decoded, isPage ▸ rfl, fun none => ?_, next⟩
    have short := last none
    rw [List.length_take] at short
    rw [isPage]
    omega
  stored listed := List.mem_of_mem_filter listed

section Whole

variable {L κ : Type} [LinearOrder κ] {read : L → Memory → Option CodeUnits →
  Except RestError (List StoredPlan × Option CodeUnits)}
  {rows : Memory → List StoredPlan} {f : Int ×ₗ List Nat →
    κ} {states : List Memory} {pages : List (List StoredPlan)} {history : List Event}

theorem Followed.whole (documented : decoding.Documented) (injective : Function.Injective f)
    (keyset : Keyset decoding read rows fun cursor => f cursor.key) (keep : Memory → StoredPlan → Bool)
    (kept : ∀ s, rows s = s.plans.values.filter (keep s)) (run : Runs bytes history s)
    (followed : Followed bytes read none (s :: states) pages) :
    pages.flatten.Pairwise (fun first second => f first.cursor.key < f second.cursor.key) ∧
    List.Forall₂ (fun t page => ∀ item ∈ page, item ∈ rows t) (s :: states) pages ∧
    ∀ plan ∈ s.plans.values, (∀ t ∈ s :: states, ∃ later ∈ rows t, later.id = plan.id) →
      (pages.flatten.map StoredPlan.id).count plan.id = 1 := by
  have carried := followed.carried (run_bounded run) (run_filed run)
  obtain ⟨after, decoded, reads⟩ := followed.reads documented keyset fun t member => (carried t member).filed
  cases decoded
  have distinct : ∀ store ∈ (s :: states).map rows, (store.map fun plan => f plan.cursor.key).Nodup := by
    refine List.forall_mem_map.mpr fun t member => ?_
    rw [kept]
    exact (carried t member).filed.distinct injective (keep t)
  have stored := List.forall₂_map_left_iff.mp reads.stored
  obtain ⟨increasing, _⟩ := reads.increases distinct
  refine ⟨List.pairwise_map.mp increasing, stored, fun plan isStored everywhere => ?_⟩
  obtain ⟨id, found⟩ := mem_values.mp isStored
  obtain ⟨rfl, _, _⟩ := run_filed run id plan found
  -- Whatever state it is read from, the plan of a name has one place.
  have placed : ∀ t ∈ s :: states, ∀ item ∈ rows t, item.id = plan.id → item.cursor = plan.cursor := by
    intro t member item within named
    obtain ⟨key, held⟩ := mem_values.mp (keyset.stored within)
    obtain ⟨rfl, _, _⟩ := (carried t member).filed key item held
    obtain ⟨later, final, fixed⟩ := (carried t member).plans _ plan found
    rw [named, final] at held
    cases held
    exact fixed.cursor
  have visited : f plan.cursor.key ∈ pages.flatten.map fun plan => f plan.cursor.key := by
    refine reads.visits nofun (List.forall_mem_map.mpr fun t member => ?_)
    obtain ⟨later, within, named⟩ := everywhere t member
    exact ⟨later, within, congrArg (fun cursor => f cursor.key) (placed t member later within named)⟩
  have nodup : (pages.flatten.map fun plan => f plan.cursor.key).Nodup := increasing.imp fun less => ne_of_lt less
  have counted := List.count_eq_one_of_mem nodup visited
  rw [List.count, List.countP_map] at counted ⊢
  refine (List.countP_congr fun item listed => ?_).trans counted
  obtain ⟨t, member, within⟩ := Pages.mem_store _ stored listed
  rw [Function.comp_apply, Function.comp_apply, beq_iff_eq, beq_iff_eq]
  exact ⟨fun named => congrArg (fun cursor => f cursor.key) (placed t member item within named),
    fun same => name_injective (congrArg (fun key => (ofLex key).2) (injective same))⟩

end Whole

theorem Fixed.visible {before : StoredPlan} (fixed : Fixed before after) (actor : RestActor) (account : Option String) :
    visible actor account after = visible actor account before := by
  rw [Transactions.visible, Transactions.visible, canRead, canRead, owns, owns, fixed.actor, fixed.draft]

theorem list_eq {actor : RestActor} {account : Option String} {limit : Int}
    {cursor : Option CodeUnits} {after : Option ListCursor}
    (known : assertActor actor = .ok ()) (bounds : assertLimit limit = .ok ())
    (decoded : decodeCursor decoding cursor = .ok after) :
    s.list decoding actor account limit cursor =
      .ok ((beyond (fun plan : StoredPlan => newest plan.cursor) (after.map newest) (s.shown actor account)).take limit.toNat,
        if limit < (beyond (fun plan : StoredPlan => newest plan.cursor) (after.map newest) (s.shown actor account)).length then
          ((beyond (fun plan : StoredPlan => newest plan.cursor) (after.map newest)
            (s.shown actor account)).take limit.toNat).getLast?.map
            fun last => encodeCursor last.cursor
        else none) := by
  rw [← list_rows, Memory.list, known, bounds, decoded]
  rfl

theorem list_ends (documented : decoding.Documented) (filed : s.Filed) {actor : RestActor} {account : Option String} {limit : Int}
    (known : assertActor actor = .ok ()) (bounds : assertLimit limit = .ok ())
    (short : ∀ plan ∈ s.plans.values, (encodeCursor plan.cursor).length ≤ 512)
    {cursor : Option CodeUnits} {after : Option ListCursor}
    (decoded : decodeCursor decoding cursor = .ok after) :
    ∃ states pages,
      Followed bytes (fun (_ : Unit) s cursor => s.list decoding actor account limit cursor) cursor (s :: states) pages ∧
      ∀ t ∈ states, t = s := by
  induction left : (beyond (fun plan : StoredPlan => newest plan.cursor) (after.map newest) (s.shown actor account)).length
    using Nat.strongRecOn generalizing cursor after with
  | ind left' ih =>
    have page := @list_eq decoding s actor account limit cursor after known bounds decoded
    obtain ⟨positive, _⟩ := limit_bounds bounds
    generalize isRows : beyond (fun plan : StoredPlan => newest plan.cursor) (after.map newest)
      (s.shown actor account) = rows at page left
    by_cases more : limit < rows.length
    · have some : rows.take limit.toNat ≠ [] := by
        intro none
        obtain none | empty := List.take_eq_nil_iff.mp none
        · omega
        · rw [empty, List.length_nil] at more
          omega
      rw [if_pos more, List.getLast?_eq_some_getLast some, Option.map_some] at page
      have listed : (rows.take limit.toNat).getLast some ∈ rows := List.mem_of_mem_take (List.getLast_mem some)
      generalize (rows.take limit.toNat).getLast some = last at page listed
      have shown := (Pages.mem_beyond.mp (isRows ▸ listed)).1
      obtain ⟨id, stored⟩ := mem_values.mp (List.mem_of_mem_filter shown)
      have next := decodeCursor_encodeCursor documented (filed id last stored).2.2
      rw [if_pos (short last (List.mem_of_mem_filter shown))] at next
      have fewer := Pages.beyond_decreases (isRows ▸ listed)
      rw [isRows, left] at fewer
      obtain ⟨states, pages, followed, same⟩ := ih _ fewer next rfl
      exact ⟨s :: states, _ :: pages, @Followed.next Unit bytes _ () s s cursor _ _ [] states pages page .nil followed,
        List.forall_mem_cons.mpr ⟨rfl, same⟩⟩
    · rw [if_neg more] at page
      exact ⟨[], _, @Followed.last Unit bytes _ () s cursor _ page, nofun⟩

/-- A reader who follows the cursors of the list, whatever the store does between the pages, gets the plans that could be seen at
the start once each, with nothing else than plans that may be seen, newest first; and while nothing changes the list comes to
an end with exactly these plans, where the cursor of every stored plan is short enough to be read. -/
theorem list_pages (documented : decoding.Documented) {history : List Event} (run : Runs bytes history s) (actor : RestActor)
    (account : Option String) :
    (∀ states pages, Followed bytes (fun limit s cursor => s.list decoding actor account limit cursor) none (s :: states) pages →
      pages.flatten.Pairwise (fun newer older => older.cursor.Before newer.cursor) ∧
      (∀ item ∈ pages.flatten, visible actor account item = true) ∧
      ∀ plan ∈ s.plans.values, visible actor account plan = true → (pages.flatten.map StoredPlan.id).count plan.id = 1) ∧
    ∀ limit, assertActor actor = .ok () → assertLimit limit = .ok () →
      (∀ plan ∈ s.plans.values, (encodeCursor plan.cursor).length ≤ 512) →
      ∃ states pages,
        Followed bytes (fun (_ : Unit) s cursor => s.list decoding actor account limit cursor) none (s :: states) pages ∧
        (∀ t ∈ states, t = s) ∧ pages.flatten.Perm (s.plans.values.filter (visible actor account)) := by
  refine ⟨fun states pages followed => ?_, fun limit known bounds short => ?_⟩
  · obtain ⟨increasing, listed, counted⟩ := followed.whole (f := OrderDual.toDual) documented OrderDual.toDual.injective
      (list_keyset decoding actor account) (fun _ => visible actor account) (fun _ => rfl) run
    refine ⟨increasing.imp key_lt.mp, fun item member => ?_, fun plan stored seen => counted plan stored fun t member => ?_⟩
    · obtain ⟨t, _, within⟩ := Pages.mem_store _ listed member
      exact List.of_mem_filter within
    · have carried := followed.carried (run_bounded run) (run_filed run) t member
      obtain ⟨id, found⟩ := mem_values.mp stored
      obtain ⟨later, final, fixed⟩ := carried.plans id plan found
      exact ⟨later, List.mem_filter.mpr ⟨mem_values.mpr ⟨id, final⟩, (fixed.visible actor account).trans seen⟩, fixed.id⟩
  · obtain ⟨states, pages, followed, same⟩ := @list_ends bytes decoding s documented (run_filed run) actor account
      limit known bounds short none none rfl
    have keyset : Keyset decoding (fun (_ : Unit) s cursor => s.list decoding actor account limit cursor)
        (Memory.shown actor account) newest :=
      ⟨fun filed found => (list_keyset decoding actor account).page filed found, (list_keyset decoding actor account).stored⟩
    obtain ⟨after, decoded, reads⟩ := followed.reads documented keyset (List.forall_mem_cons.mpr ⟨run_filed run,
      fun t member => (same t member).symm ▸ run_filed run⟩)
    cases decoded
    refine ⟨states, pages, followed, same, ?_⟩
    have whole := @Pages.Reads.whole _ _ _ _ _ (s.shown actor account) _ _ reads
      ((run_filed run).distinct OrderDual.toDual.injective _)
      (List.forall_mem_map.mpr (List.forall_mem_cons.mpr ⟨rfl, fun t member => congrArg _ (same t member)⟩))
    rw [whole]
    refine Pages.beyond_perm.trans (List.Perm.of_eq (List.filter_eq_self.mpr fun plan _ => decide_eq_true nofun))

/-- A plan that was dispatched, and another of a later time. -/
def pairRun : List Event × Memory :=
  performAll sampleBytes .empty [sampleCreate, .claimSubmission (sampleClaim 0 "first" 0) 0 (.ok ()),
    .create { samplePlan with id := "later", createdAt := 5 } ⟨"later", "draft", "create"⟩ 5 (.ok ())]

def laterClaim : SubmissionClaim := { sampleClaim 5 "second" 0 with
  planId := "later"
  idempotency := ⟨"again", "request", "submit"⟩
  attempt := { (sampleClaim 5 "second" 0).attempt with
    nonce := "8", hash := "0xEeeeeeeeeeeeeeeeeeeeeeeeeeeeeeeeeeeeeeeeeeeeeeeeeeeeeeeeeeeeeeee" } }

/-- The later plan is dispatched as well. -/
def pairNext : List Event × Memory :=
  performAll sampleBytes pairRun.2 [.claimSubmission laterClaim 5 (.ok ())]

theorem pairNext_run : Run (Step sampleBytes) pairRun.2 pairNext.1 pairNext.2 := performAll_run _ _

section Sample

variable {L : Type} {r : L → Memory → Option CodeUnits → Except RestError (List StoredPlan × Option CodeUnits)}

/-- The names on a page, and where the next one starts. -/
def named (page : Except RestError (List StoredPlan × Option CodeUnits)) : Option (List String × Option CodeUnits) :=
  page.toOption.map fun page => (page.1.map StoredPlan.id, page.2)

theorem named_ok {page : Except RestError (List StoredPlan × Option CodeUnits)} {names : List String}
    {following : Option CodeUnits} (told : named page = some (names, following)) :
    ∃ items, page = .ok (items, following) ∧ items.map StoredPlan.id = names := by
  cases page with
  | error error => cases told
  | ok page =>
    obtain ⟨names, next⟩ := Prod.mk.inj (Option.some.inj told)
    exact ⟨page.1, congrArg Except.ok (Prod.ext rfl next), names⟩

theorem two_pages {later : List Event} {limit limit' : L} {following : CodeUnits} {names names' : List String}
    (first : named (r limit s none) = some (names, some following)) (run : Run (Step bytes) s later t)
    (second : named (r limit' t (some following)) = some (names', none)) :
    ∃ pages, Followed bytes r none [s, t] pages ∧ pages.map (List.map StoredPlan.id) = [names, names'] := by
  obtain ⟨items, found, rfl⟩ := named_ok first
  obtain ⟨items', found', rfl⟩ := named_ok second
  exact ⟨[items, items'], .next found run (.last found'), rfl⟩

theorem pair_reads : pairRun.2.plans.values.map StoredPlan.id = ["plan", "later"] ∧
    named (pairRun.2.list sampleDecoding samplePlan.actor none 1 none) =
      some (["later"], some (encodeCursor ⟨5, spelled "later".toList⟩)) ∧
    named (pairNext.2.list sampleDecoding samplePlan.actor none 1 (some (encodeCursor ⟨5, spelled "later".toList⟩))) =
      some (["plan"], none) ∧
    named (recoverPending sampleDecoding pairRun.2 (some 1) none) =
      some (["plan"], some (encodeCursor ⟨0, spelled "plan".toList⟩)) ∧
    named (recoverPending sampleDecoding pairNext.2 none (some (encodeCursor ⟨0, spelled "plan".toList⟩))) =
      some (["later"], none) := by decide +kernel

theorem pairRun_short : ∀ plan ∈ pairRun.2.plans.values, (encodeCursor plan.cursor).length ≤ 512 := by
  have plain : ∀ name ∈ ["plan", "later"], Plain (spelled name.toList) := by
    refine List.forall_mem_cons.mpr ⟨?_, List.forall_mem_cons.mpr ⟨?_, List.forall_mem_nil _⟩⟩
    · exact ⟨.of_forall (forall_of_all (by decide +kernel)), forall_of_all (by decide +kernel)⟩
    · exact ⟨.of_forall (forall_of_all (by decide +kernel)), forall_of_all (by decide +kernel)⟩
  intro plan stored
  obtain ⟨id, found⟩ := mem_values.mp stored
  exact short_cursor (run_filed (performAll_run _ _) id plan found).2.2
    (plain plan.id (pair_reads.1 ▸ List.mem_map_of_mem stored))

/-- Two pages of one plan each, the newer first; the older one is dispatched in between. -/
theorem list_pages_sample :
    (∃ pages, Followed sampleBytes (fun limit s cursor => s.list sampleDecoding samplePlan.actor none limit cursor) none
        [pairRun.2, pairNext.2] pages ∧ pages.map (List.map StoredPlan.id) = [["later"], ["plan"]] ∧
      pages.flatten.Pairwise fun newer older => older.cursor.Before newer.cursor) ∧
    ∃ states pages, Followed sampleBytes
        (fun (_ : Unit) s cursor => s.list sampleDecoding samplePlan.actor none 1 cursor) none (pairRun.2 :: states) pages ∧
      (∀ t ∈ states, t = pairRun.2) ∧
      pages.flatten.Perm (pairRun.2.plans.values.filter (visible samplePlan.actor none)) := by
  have run : Runs sampleBytes pairRun.1 pairRun.2 := performAll_run _ _
  refine ⟨?_, (list_pages sampleDecoding_documented run samplePlan.actor none).2 1 (by decide +kernel) (by decide +kernel)
    pairRun_short⟩
  obtain ⟨_, first, second, _⟩ := pair_reads
  obtain ⟨pages, followed, names⟩ := two_pages
    (r := fun limit s cursor => s.list sampleDecoding samplePlan.actor none limit cursor) first pairNext_run second
  exact ⟨pages, followed, names, ((list_pages sampleDecoding_documented run samplePlan.actor none).1 _ _ followed).1⟩

end Sample

/-- A whole cycle of recovery, whatever the store does between its pages, visits every plan of its start that must be
looked after whenever a page is read, once, and its plans come oldest first. Whatever is on a page had to be looked after
when that page was read. -/
theorem recovery_cycle (documented : decoding.Documented) {history : List Event} (run : Runs bytes history s)
    {states : List Memory} {pages : List (List StoredPlan)}
    (cycle : Followed bytes (fun limit s cursor => recoverPending decoding s limit cursor) none (s :: states) pages) :
    pages.flatten.Pairwise (fun older newer => older.cursor.Before newer.cursor) ∧
    List.Forall₂ (fun t page => ∀ item ∈ page, item ∈ t.plans.values ∧ t.mustRecover item = .ok true)
      (s :: states) pages ∧
    ∀ plan ∈ s.plans.values,
      (∀ t ∈ s :: states, ∃ later ∈ t.plans.values, later.id = plan.id ∧ t.mustRecover later = .ok true) →
      (pages.flatten.map StoredPlan.id).count plan.id = 1 := by
  obtain ⟨increasing, listed, counted⟩ := cycle.whole (f := id) documented Function.injective_id (recovery_keyset decoding)
    (fun s plan => (s.mustRecover plan).toOption.getD false) (fun _ => rfl) run
  refine ⟨increasing.imp key_lt.mp, ?_, fun plan stored everywhere => counted plan stored fun t member => ?_⟩
  · refine List.forall₂_iff_get.mpr ⟨listed.length_eq, fun i isState isPage item member => ?_⟩
    obtain ⟨isStored, needed⟩ := List.mem_filter.mp (listed.get isState isPage item member)
    have filed := (cycle.carried (run_bounded run) (run_filed run) _ (List.get_mem _ ⟨i, isState⟩)).filed
    exact ⟨isStored, (mustRecover_ok filed isStored).trans (congrArg _ needed)⟩
  · obtain ⟨later, isStored, named, needed⟩ := everywhere t member
    exact ⟨later, List.mem_filter.mpr ⟨isStored, by rw [needed]; rfl⟩, named⟩

/-- The first page has room for one plan; the second one is dispatched before the next page is read. -/
theorem recovery_cycle_sample : ∃ pages,
    Followed sampleBytes (fun limit s cursor => recoverPending sampleDecoding s limit cursor) none
      [pairRun.2, pairNext.2] pages ∧
    pages.map (List.map StoredPlan.id) = [["plan"], ["later"]] ∧
    List.Forall₂ (fun t page => ∀ item ∈ page, item ∈ t.plans.values ∧ t.mustRecover item = .ok true)
      [pairRun.2, pairNext.2] pages := by
  obtain ⟨_, _, _, first, second⟩ := pair_reads
  obtain ⟨pages, cycle, names⟩ := two_pages
    (r := fun limit s cursor => recoverPending sampleDecoding s limit cursor) first pairNext_run second
  exact ⟨pages, cycle, names, (recovery_cycle sampleDecoding_documented (performAll_run _ _) cycle).2.1⟩

end JBCenter.Transactions
