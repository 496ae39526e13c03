import JBCenter.Base.IndexedHeap
import Mathlib.Data.List.Perm.Basic

/-! The entries of a heap that knows their places: each one is where it was told, no parent is due after its children, and the
first one is due no later than any other. -/
namespace JBCenter.IndexedHeap

section Order

variable {p : Nat → Int} {n index : Nat}

/-- No place comes before its parent, among the first `n`. -/
def Ordered (p : Nat → Int) (n : Nat) : Prop := ∀ i, 0 < i → i < n → p ((i - 1) / 2) ≤ p i

/-- Only `index` may come before its parent. -/
structure Rising (p : Nat → Int) (n index : Nat) : Prop where
  except : ∀ i, 0 < i → i < n → i ≠ index → p ((i - 1) / 2) ≤ p i
  across : 0 < index → ∀ i, 0 < i → i < n → (i - 1) / 2 = index → p ((index - 1) / 2) ≤ p i

/-- Only children of `index` may come before it. -/
structure Sinking (p : Nat → Int) (n index : Nat) : Prop where
  except : ∀ i, 0 < i → i < n → (i - 1) / 2 ≠ index → p ((i - 1) / 2) ≤ p i
  across : 0 < index → ∀ i, 0 < i → i < n → (i - 1) / 2 = index → p ((index - 1) / 2) ≤ p i

/-- Two places exchanged. -/
def exchanged (p : Nat → Int) (a b : Nat) (i : Nat) : Int := if i = a then p b else if i = b then p a else p i

theorem exchanged_left (p : Nat → Int) (a b : Nat) : exchanged p a b a = p b := if_pos rfl

theorem exchanged_right (p : Nat → Int) {a b : Nat} (differ : a ≠ b) : exchanged p a b b = p a := by
  rw [exchanged, if_neg differ.symm, if_pos rfl]

theorem exchanged_other (p : Nat → Int) {a b i : Nat} (notFirst : i ≠ a) (notSecond : i ≠ b) : exchanged p a b i = p i := by
  rw [exchanged, if_neg notFirst, if_neg notSecond]

theorem Rising.done (rising : Rising p n index) (stop : index = 0 ∨ p ((index - 1) / 2) ≤ p index) : Ordered p n := by
  intro i positive bound
  by_cases same : i = index
  · obtain zero | le := stop
    · omega
    · exact same ▸ le
  · exact rising.except i positive bound same

theorem Rising.move (rising : Rising p n index) (positive : 0 < index) (bound : index < n)
    (late : p index < p ((index - 1) / 2)) :
    Rising (exchanged p ((index - 1) / 2) index) n ((index - 1) / 2) := by
  have above : (index - 1) / 2 < index := by omega
  constructor
  · intro i positive' bound' other
    by_cases here : i = index
    · rw [here, exchanged_right p (by omega), exchanged_left]
      exact Int.le_of_lt late
    · have le := rising.except i positive' bound' here
      rw [exchanged_other p other here]
      by_cases child : (i - 1) / 2 = index
      · rw [child, exchanged_right p (by omega)]
        exact rising.across positive i positive' bound' child
      · by_cases sibling : (i - 1) / 2 = (index - 1) / 2
        · rw [sibling, exchanged_left]
          rw [sibling] at le
          omega
        · rwa [exchanged_other p sibling child]
  · intro positiveParent i positive' bound' child
    have grand := rising.except ((index - 1) / 2) positiveParent (by omega) (by omega)
    rw [exchanged_other p (by omega) (by omega)]
    by_cases here : i = index
    · rwa [here, exchanged_right p (by omega)]
    · have le := rising.except i positive' bound' here
      rw [child] at le
      rw [exchanged_other p (by omega) here]
      exact Int.le_trans grand le

theorem Sinking.done (sinking : Sinking p n index) (stop : ∀ i, 0 < i → i < n → (i - 1) / 2 = index → p index ≤ p i) :
    Ordered p n := by
  intro i positive bound
  by_cases child : (i - 1) / 2 = index
  · exact child ▸ stop i positive bound child
  · exact sinking.except i positive bound child

theorem Sinking.move {child : Nat} (sinking : Sinking p n index) (positive : 0 < child) (bound : child < n)
    (parent : (child - 1) / 2 = index) (early : p child < p index)
    (smallest : ∀ i, 0 < i → i < n → (i - 1) / 2 = index → p child ≤ p i) : Sinking (exchanged p index child) n child := by
  constructor
  · intro i positive' bound' other
    by_cases here : i = child
    · rw [here, parent, exchanged_left, exchanged_right p (by omega)]
      exact Int.le_of_lt early
    · by_cases sibling : (i - 1) / 2 = index
      · rw [sibling, exchanged_left, exchanged_other p (by omega) here]
        exact smallest i positive' bound' sibling
      · by_cases self : i = index
        · rw [self, exchanged_left, exchanged_other p (by omega) (by omega)]
          exact sinking.across (by omega) child positive bound parent
        · rw [exchanged_other p sibling other, exchanged_other p self here]
          exact sinking.except i positive' bound' sibling
  · intro _ i positive' bound' below
    rw [parent, exchanged_left, exchanged_other p (by omega) (by omega)]
    exact below ▸ sinking.except i positive' bound' (by omega)

/-- The place at the root comes before no other. -/
theorem Ordered.root (ordered : Ordered p n) : ∀ i < n, p 0 ≤ p i := by
  intro i
  induction i using Nat.strongRecOn with
  | ind i ih =>
    intro bound
    obtain rfl | positive := Nat.eq_zero_or_pos i
    · exact Int.le_refl _
    · exact Int.le_trans (ih ((i - 1) / 2) (by omega) (by omega)) (ordered i positive bound)

end Order

section Places

variable {K : Type} [DecidableEq K] {h : IndexedHeap K} {key : K} {a b index : Nat}

/-- When the entry at a place is due. -/
def dueAt (h : IndexedHeap K) (i : Nat) : Int := (h.priorityAt i).getD 0

/-- Every entry knows the place it stands at. -/
def Linked (h : IndexedHeap K) : Prop :=
  ∀ i key, h.slots[i]? = some key → ∃ entry, h.placed.get key = some entry ∧ entry.index = i

theorem get_told (placed : OrderedMap K Placed) (key other : K) (index : Nat) : (told placed key index).get other =
    if other = key then (placed.get key).map (fun entry => { entry with index }) else placed.get other := by
  unfold told
  split
  case h_1 entry found => rw [OrderedMap.get_set, found, Option.map_some]
  case h_2 absent =>
    split
    case isTrue same => rw [same, absent, Option.map_none]
    case isFalse => rfl

/-- Telling an entry its place leaves the times at which entries are due. -/
theorem priority_told (placed : OrderedMap K Placed) (key other : K) (index : Nat) :
    ((told placed key index).get other).map Placed.priority = (placed.get other).map Placed.priority := by
  rw [get_told]
  split
  case isTrue same => rw [same, Option.map_map]; rfl
  case isFalse => rfl

theorem Linked.place (linked : Linked h) (first : h.slots[a]? = some key) (second : h.slots[b]? = some key) : a = b := by
  obtain ⟨entry, found, rfl⟩ := linked a key first
  obtain ⟨entry', found', rfl⟩ := linked b key second
  cases found.symm.trans found'
  rfl

theorem Linked.dueAt_eq (linked : Linked h) (bound : a < h.slots.length) : h.priorityAt a = some (h.dueAt a) := by
  obtain ⟨entry, found, _⟩ := linked a h.slots[a] (List.getElem?_eq_getElem bound)
  rw [dueAt, priorityAt, List.getElem?_eq_getElem bound, Option.bind_some, found]
  rfl

theorem Linked.ordered_iff (linked : Linked h) (bound : a < h.slots.length) (bound' : b < h.slots.length) :
    h.ordered a b = true ↔ h.dueAt a ≤ h.dueAt b := by
  rw [ordered, linked.dueAt_eq bound, linked.dueAt_eq bound']
  exact decide_eq_true_iff

section Swaps

variable (bound : a < h.slots.length) (bound' : b < h.slots.length)
include bound bound'

theorem swap_eq : h.swap a b =
    ⟨(h.slots.set a h.slots[b]).set b h.slots[a], told (told h.placed h.slots[b] a) h.slots[a] b⟩ := by
  rw [swap, List.getElem?_eq_getElem bound, List.getElem?_eq_getElem bound']

theorem length_swap : (h.swap a b).slots.length = h.slots.length := by
  rw [swap_eq bound bound', List.length_set, List.length_set]

theorem getElem?_swap (i : Nat) : (h.swap a b).slots[i]? =
    if i = b then some h.slots[a] else if i = a then some h.slots[b] else h.slots[i]? := by
  rw [swap_eq bound bound']
  simp only [List.getElem?_set, List.length_set]
  grind

theorem priority_swap (key : K) :
    ((h.swap a b).placed.get key).map Placed.priority = (h.placed.get key).map Placed.priority := by
  rw [swap_eq bound bound', priority_told, priority_told]

theorem dueAt_swap : (h.swap a b).dueAt = exchanged h.dueAt a b := by
  funext i
  have place : (h.swap a b).priorityAt i =
      (if i = a then h.priorityAt b else if i = b then h.priorityAt a else h.priorityAt i) := by
    simp only [priorityAt, getElem?_swap bound bound', priority_swap bound bound']
    rw [List.getElem?_eq_getElem bound, List.getElem?_eq_getElem bound']
    grind
  rw [dueAt, place, exchanged]
  split
  · rfl
  · split <;> rfl

theorem Linked.swap (linked : Linked h) (differ : a ≠ b) : Linked (h.swap a b) := by
  have apart : h.slots[a] ≠ h.slots[b] := fun same =>
    differ (linked.place (List.getElem?_eq_getElem bound) (same ▸ List.getElem?_eq_getElem bound'))
  intro i key found
  rw [getElem?_swap bound bound'] at found
  rw [swap_eq bound bound']
  simp only [get_told]
  split at found
  case isTrue here =>
    cases found
    obtain ⟨entry, placed, _⟩ := linked a h.slots[a] (List.getElem?_eq_getElem bound)
    rw [if_pos rfl, if_neg apart, placed]
    exact ⟨_, rfl, here.symm⟩
  case isFalse notSecond =>
    split at found
    case isTrue here =>
      cases found
      obtain ⟨entry, placed, _⟩ := linked b h.slots[b] (List.getElem?_eq_getElem bound')
      rw [if_neg apart.symm, if_pos rfl, placed]
      exact ⟨_, rfl, here.symm⟩
    case isFalse notFirst =>
      have other : key ≠ h.slots[a] ∧ key ≠ h.slots[b] := by
        constructor <;> rintro rfl
        · exact notFirst (linked.place found (List.getElem?_eq_getElem bound))
        · exact notSecond (linked.place found (List.getElem?_eq_getElem bound'))
      rw [if_neg other.1, if_neg other.2]
      exact linked i key found

theorem perm_swap : (h.swap a b).slots.Perm h.slots := by
  rw [swap_eq bound bound']
  exact List.set_set_perm bound bound'

end Swaps

/-- A heap in order, of the entries that another one held. -/
structure Settled (before after : IndexedHeap K) : Prop where
  linked : Linked after
  ordered : Ordered after.dueAt after.slots.length
  perm : after.slots.Perm before.slots

theorem Settled.swapped {after : IndexedHeap K} (bound : a < h.slots.length) (bound' : b < h.slots.length)
    (settled : Settled (h.swap a b) after) : Settled h after :=
  ⟨settled.linked, settled.ordered, settled.perm.trans (perm_swap bound bound')⟩

theorem settled_up {fuel : Nat} (linked : Linked h) (rising : Rising h.dueAt h.slots.length index)
    (bound : index < h.slots.length)
    (enough : index ≤ fuel) : Settled h (up fuel h index) := by
  induction fuel generalizing h index with
  | zero => exact ⟨linked, rising.done (.inl (Nat.le_zero.mp enough)), .refl _⟩
  | succ fuel ih =>
    unfold up
    dsimp only
    split
    case isTrue zero => exact ⟨linked, rising.done (.inl zero), .refl _⟩
    case isFalse nonzero =>
      have above : (index - 1) / 2 < h.slots.length := by omega
      split
      case isTrue before => exact ⟨linked, rising.done (.inr ((linked.ordered_iff above bound).mp before)), .refl _⟩
      case isFalse late =>
        have late := Int.not_le.mp (fun le => late ((linked.ordered_iff above bound).mpr le))
        have moved := rising.move (Nat.pos_of_ne_zero nonzero) bound late
        rw [← dueAt_swap above bound, ← length_swap above bound] at moved
        refine (ih (linked.swap above bound (by omega)) moved ?_ (by omega)).swapped above bound
        rw [length_swap above bound]
        exact above

/-- The child that a sift compares with comes before the other one. -/
theorem smallest_child (linked : Linked h) (some : index * 2 + 1 < h.slots.length) {child : Nat}
    (chosen : child = if index * 2 + 1 + 1 < h.slots.length &&
    !h.ordered (index * 2 + 1) (index * 2 + 1 + 1) then index * 2 + 1 + 1
      else index * 2 + 1) :
    child < h.slots.length ∧ (child - 1) / 2 = index ∧ 0 < child ∧
      ∀ i, 0 < i → i < h.slots.length → (i - 1) / 2 = index → h.dueAt child ≤ h.dueAt i := by
  split at chosen
  case isTrue right =>
    rw [Bool.and_eq_true, decide_eq_true_eq, Bool.not_eq_true'] at right
    have less := Int.not_le.mp (fun le => absurd ((linked.ordered_iff some right.1).mpr le) (ne_true_of_eq_false right.2))
    refine ⟨by omega, by omega, by omega, fun i positive bound parent => ?_⟩
    obtain left | right : i = index * 2 + 1 ∨ i = index * 2 + 1 + 1 := by omega
    · rw [chosen, left]
      exact Int.le_of_lt less
    · exact Int.le_of_eq (congrArg h.dueAt (chosen.trans right.symm))
  case isFalse left =>
    refine ⟨by omega, by omega, by omega, fun i positive bound parent => ?_⟩
    obtain here | other : i = index * 2 + 1 ∨ i = index * 2 + 1 + 1 := by omega
    · exact Int.le_of_eq (congrArg h.dueAt (chosen.trans here.symm))
    · rw [Bool.and_eq_true, decide_eq_true_eq, Bool.not_eq_true', not_and, Bool.not_eq_false] at left
      rw [chosen, other]
      exact (linked.ordered_iff some (other ▸ bound)).mp (left (other ▸ bound))

theorem settled_down {fuel : Nat} (linked : Linked h) (sinking : Sinking h.dueAt h.slots.length index)
    (enough : h.slots.length ≤ fuel + index) : Settled h (down fuel h index) := by
  induction fuel generalizing h index with
  | zero => exact ⟨linked, sinking.done (fun i _ bound parent => absurd parent (by omega)), .refl _⟩
  | succ fuel ih =>
    unfold down
    dsimp only
    split
    case isTrue none => exact ⟨linked, sinking.done (fun i _ bound parent => absurd parent (by omega)), .refl _⟩
    case isFalse some =>
      generalize chosen : (if index * 2 + 1 + 1 < h.slots.length &&
        !h.ordered (index * 2 + 1) (index * 2 + 1 + 1) then index * 2 + 1 + 1
        else index * 2 + 1) = child
      obtain ⟨bound, parent, positive, smallest⟩ := smallest_child linked (Nat.not_le.mp some) chosen.symm
      have here : index < h.slots.length := by omega
      split
      case isTrue before =>
        have le := (linked.ordered_iff here bound).mp before
        exact ⟨linked, sinking.done (fun i positive bound parent => Int.le_trans le (smallest i positive bound parent)), .refl _⟩
      case isFalse early =>
        have early := Int.not_le.mp (fun le => early ((linked.ordered_iff here bound).mpr le))
        have moved := sinking.move positive bound parent early smallest
        rw [← dueAt_swap here bound, ← length_swap here bound] at moved
        refine (ih (linked.swap here bound (by omega)) moved ?_).swapped here bound
        rw [length_swap here bound]
        omega

/-- The heap holds exactly the entries of its table, each at the place it knows, and no entry is due before its parent. -/
structure Sound (h : IndexedHeap K) : Prop where
  linked : Linked h
  ordered : Ordered h.dueAt h.slots.length
  whole : h.slots.Perm (h.due.map Prod.fst)

theorem Sound.empty : Sound (IndexedHeap.empty : IndexedHeap K) := ⟨nofun, nofun, .refl _⟩

omit [DecidableEq K] in
theorem keys_due (h : IndexedHeap K) : h.due.map Prod.fst = h.placed.entries.map Prod.fst := by
  rw [due, dueOf, List.map_map]
  rfl

theorem Sound.nodup (sound : Sound h) : h.slots.Nodup := by
  rw [sound.whole.nodup_iff, keys_due]
  exact h.placed.distinct

theorem Sound.mem_iff (sound : Sound h) : key ∈ h.slots ↔ ∃ entry, h.placed.get key = some entry := by
  rw [sound.whole.mem_iff, keys_due, List.mem_map]
  constructor
  · rintro ⟨⟨other, entry⟩, listed, rfl⟩
    exact ⟨entry, OrderedMap.get_of_mem listed⟩
  · rintro ⟨entry, found⟩
    exact ⟨(key, entry), OrderedMap.mem_of_get found, rfl⟩

theorem dueAt_of_get {entry : Placed} (found : h.slots[a]? = some key) (placed : h.placed.get key = some entry) :
    h.dueAt a = entry.priority := by
  rw [dueAt, priorityAt, found, Option.bind_some, placed]
  rfl

theorem Sound.add (sound : Sound h) (absent : h.placed.has key = false) (priority : Int) : Sound (h.add key priority) := by
  have unlisted : key ∉ h.slots := by
    rw [sound.mem_iff, OrderedMap.not_has_iff.mp absent]
    exact nofun
  have other : ∀ {i k}, h.slots[i]? = some k → k ≠ key := fun found same => unlisted (same ▸ List.mem_of_getElem? found)
  let appended : IndexedHeap K := ⟨h.slots ++ [key], h.placed.set key ⟨priority, h.slots.length⟩⟩
  have size : appended.slots.length = h.slots.length + 1 := List.length_append
  have linked : Linked appended := by
    intro i k found
    change (h.slots ++ [key])[i]? = some k at found
    change ∃ entry, (h.placed.set key ⟨priority, h.slots.length⟩).get k = some entry ∧ entry.index = i
    by_cases bound : i < h.slots.length
    · rw [List.getElem?_append_left bound] at found
      rw [OrderedMap.get_set_ne _ _ (other found)]
      exact sound.linked i k found
    · rw [List.getElem?_append_right (Nat.not_lt.mp bound), List.getElem?_singleton] at found
      split at found
      case isTrue last =>
        cases found
        rw [OrderedMap.get_set_self]
        exact ⟨_, rfl, by dsimp only; omega⟩
      case isFalse => cases found
  have before : ∀ i < h.slots.length, appended.dueAt i = h.dueAt i := by
    intro i bound
    have found := List.getElem?_eq_getElem bound
    obtain ⟨entry, placed, _⟩ := sound.linked i _ found
    have found' : appended.slots[i]? = some h.slots[i] := (List.getElem?_append_left bound).trans found
    have placed' : appended.placed.get h.slots[i] = some entry := (OrderedMap.get_set_ne _ _ (other found)).trans placed
    rw [dueAt_of_get found placed, dueAt_of_get found' placed']
  have rising : Rising appended.dueAt appended.slots.length h.slots.length := by
    rw [size]
    constructor
    · intro i positive bound differ
      rw [before i (by omega), before ((i - 1) / 2) (by omega)]
      exact sound.ordered i positive (by omega)
    · intro _ i _ bound child
      omega
  have settled := settled_up linked rising (by omega) (Nat.le_refl _)
  refine ⟨settled.linked, settled.ordered, ?_⟩
  rw [due_add absent, List.map_append]
  exact settled.perm.trans (sound.whole.append_right [key])

/-- A heap in order, of the other entries than one. -/
structure Detached (key : K) (before after : IndexedHeap K) : Prop where
  linked : Linked after
  ordered : Ordered after.dueAt after.slots.length
  perm : before.slots.Perm (key :: after.slots)

/-- The last entry stands where another one stood, and the place at the end is gone. -/
theorem detached_replace (sound : Sound h) {last : K} {slots : List K}
    (whole : h.slots = slots ++ [last]) (here : h.slots[index]? = some key)
    (other : last ≠ key) {moved : IndexedHeap K} (isMoved : moved = ⟨slots.set index last, told h.placed last index⟩) :
    index < slots.length ∧ Linked moved ∧ h.slots.Perm (key :: moved.slots) ∧ moved.dueAt index = h.dueAt slots.length ∧
      ∀ i < slots.length, i ≠ index → moved.dueAt i = h.dueAt i := by
  have end' : h.slots[slots.length]? = some last := by
    rw [whole, List.getElem?_append_right (Nat.le_refl _), Nat.sub_self]
    rfl
  have differ : index ≠ slots.length := by
    rintro rfl
    exact other (Option.some.inj (end'.symm.trans here))
  have bound : index < slots.length := by
    have inside := (List.getElem?_eq_some_iff.mp here).1
    rw [whole, List.length_append, List.length_singleton] at inside
    omega
  have inner : ∀ {i}, i < slots.length → slots[i]? = h.slots[i]? := fun inside => by rw [whole, List.getElem?_append_left inside]
  have place : ∀ i, moved.slots[i]? = if i = index then some last else slots[i]? := by
    intro i
    rw [isMoved, List.getElem?_set]
    by_cases same : index = i
    · rw [if_pos same, if_pos same.symm, if_pos (same ▸ bound)]
    · rw [if_neg same, if_neg (Ne.symm same)]
  have lastly : ∀ {i k}, i < slots.length → h.slots[i]? = some k → k ≠ last := by
    rintro i k inside found rfl
    exact absurd (sound.linked.place found end') (Nat.ne_of_lt inside)
  have knows : ∀ k, moved.placed.get k = if k = last then
    (h.placed.get last).map (fun entry => { entry with index }) else h.placed.get k := by
    rw [isMoved]
    exact fun k => get_told _ _ _ _
  obtain ⟨lastEntry, lastPlaced, _⟩ := sound.linked _ _ end'
  refine ⟨bound, ?_, ?_, ?_, ?_⟩
  · intro i k found
    rw [place] at found
    rw [knows]
    split at found
    case isTrue same =>
      cases found
      rw [if_pos rfl, lastPlaced]
      exact ⟨_, rfl, same.symm⟩
    case isFalse =>
      have inside := (List.getElem?_eq_some_iff.mp found).1
      rw [inner inside] at found
      rw [if_neg (lastly inside found)]
      exact sound.linked i k found
  · have taken : slots[index] = key := by
      have same := here
      rw [← inner bound, List.getElem?_eq_getElem bound] at same
      exact Option.some.inj same
    rw [whole, isMoved]
    calc List.Perm (slots ++ [last]) (last :: slots) := List.perm_append_singleton _ _
      List.Perm _ (last :: key :: slots.eraseIdx index) := .cons _ (taken ▸ (List.getElem_cons_eraseIdx_perm bound).symm)
      List.Perm _ (key :: last :: slots.eraseIdx index) := .swap _ _ _
      List.Perm _ (key :: slots.set index last) := .cons _ (List.set_perm_cons_eraseIdx bound last).symm
  · have found := place index
    rw [if_pos rfl] at found
    have placed := knows last
    rw [if_pos rfl, lastPlaced] at placed
    rw [dueAt_of_get found placed, dueAt_of_get end' lastPlaced]
  · intro i inside notHere
    have found : h.slots[i]? = some slots[i] := (inner inside).symm.trans (List.getElem?_eq_getElem inside)
    have found' := place i
    rw [if_neg notHere, inner inside, found] at found'
    obtain ⟨entry, placed, _⟩ := sound.linked i _ found
    have placed' := knows slots[i]
    rw [if_neg (lastly inside found), placed] at placed'
    rw [dueAt_of_get found placed, dueAt_of_get found' placed']

theorem Sound.detach (sound : Sound h) (here : h.slots[index]? = some key) : Detached key h (h.detach key index) := by
  unfold IndexedHeap.detach
  split
  case h_1 none =>
    rw [List.getLast?_eq_none_iff.mp none] at here
    cases here
  case h_2 last found =>
    have whole : h.slots = h.slots.dropLast ++ [last] := (List.dropLast_append_getLast? last found).symm
    dsimp only
    split
    case isTrue same =>
      have size : h.slots.length = h.slots.dropLast.length + 1 := by
        rw [List.length_dropLast]
        have some := (List.getElem?_eq_some_iff.mp here).1
        omega
      have inner : ∀ {i}, i < h.slots.dropLast.length → h.slots.dropLast[i]? = h.slots[i]? := fun {i} inside => by
        rw [List.getElem?_dropLast, if_pos (by rwa [List.length_dropLast] at inside)]
      have before : ∀ i < h.slots.dropLast.length, dueAt ⟨h.slots.dropLast, h.placed⟩ i = h.dueAt i := by
        intro i inside
        change (((h.slots.dropLast[i]?).bind _).getD 0 : Int) = ((h.slots[i]?).bind _).getD 0
        rw [inner inside]
      refine ⟨?_, ?_, ?_⟩
      · intro i k found
        have inside := (List.getElem?_eq_some_iff.mp found).1
        exact sound.linked i k ((inner inside).symm.trans found)
      · intro i positive inside
        rw [before i inside, before _ (by dsimp only at inside; omega)]
        exact sound.ordered i positive (by dsimp only at inside; omega)
      · have perm := List.perm_append_singleton key h.slots.dropLast
        rw [same] at whole
        rwa [← whole] at perm
    case isFalse other =>
      generalize isMoved : (⟨h.slots.dropLast.set index last, told h.placed last index⟩ : IndexedHeap K) = moved
      generalize h.slots.dropLast = slots at whole isMoved
      obtain ⟨bound, linked, perm, atPlace, elsewhere⟩ := detached_replace sound whole here other isMoved.symm
      have size : moved.slots.length = slots.length := by rw [← isMoved, List.length_set]
      have total : h.slots.length = slots.length + 1 := by rw [whole, List.length_append, List.length_singleton]
      have upwards := sound.ordered
      rw [total] at upwards
      have across : 0 < index → ∀ i, 0 < i → i < moved.slots.length → (i - 1) / 2 = index →
        moved.dueAt ((index - 1) / 2) ≤ moved.dueAt i := by
        intro positive i positive' inside child
        rw [elsewhere i (by omega) (by omega), elsewhere _ (by omega) (by omega)]
        have first := upwards i positive' (by omega)
        rw [child] at first
        exact Int.le_trans (upwards index positive (by omega)) first
      split
      case isTrue rises =>
        rw [Bool.and_eq_true, decide_eq_true_eq, Bool.not_eq_true'] at rises
        have late := Int.not_le.mp (fun le => absurd ((linked.ordered_iff (by omega) (by omega)).mpr le)
          (ne_true_of_eq_false rises.2))
        have rising : Rising moved.dueAt moved.slots.length index := by
          refine ⟨fun i positive inside differ => ?_, across⟩
          rw [elsewhere i (by omega) differ]
          by_cases child : (i - 1) / 2 = index
          · have le := across rises.1 i positive inside child
            rw [elsewhere i (by omega) differ] at le
            exact child ▸ Int.le_trans (Int.le_of_lt late) le
          · rw [elsewhere _ (by omega) child]
            exact upwards i positive (by omega)
        have settled := settled_up linked rising (by omega) (Nat.le_refl _)
        exact ⟨settled.linked, settled.ordered, perm.trans (.cons _ settled.perm.symm)⟩
      case isFalse sinks =>
        have sinking : Sinking moved.dueAt moved.slots.length index := by
          refine ⟨fun i positive inside differ => ?_, across⟩
          by_cases self : i = index
          · have ordered : moved.ordered ((index - 1) / 2) index = true := by
              rw [Bool.and_eq_true, decide_eq_true_eq, Bool.not_eq_true', not_and, Bool.not_eq_false] at sinks
              exact sinks (self ▸ positive)
            exact self ▸ (linked.ordered_iff (by omega) (by omega)).mp ordered
          · rw [elsewhere i (by omega) self, elsewhere _ (by omega) differ]
            exact upwards i positive (by omega)
        have room : moved.slots.length ≤ slots.length + index := by omega
        have settled := settled_down linked sinking room
        exact ⟨settled.linked, settled.ordered, perm.trans (.cons _ settled.perm.symm)⟩

theorem Sound.remove (sound : Sound h) (key : K) : Sound (h.remove key) := by
  have after := due_remove h key
  unfold IndexedHeap.remove at after ⊢
  split
  case h_1 => exact sound
  case h_2 entry found =>
    rw [found] at after
    have listed : key ∈ h.slots := sound.mem_iff.mpr ⟨entry, found⟩
    obtain ⟨i, here⟩ := List.getElem?_of_mem listed
    obtain ⟨entry', found', place⟩ := sound.linked i key here
    cases found.symm.trans found'
    rw [← place] at here
    have detached := sound.detach here
    have nodup := List.nodup_cons.mp (detached.perm.nodup_iff.mp sound.nodup)
    have same : ∀ k ∈ (h.detach key entry.index).slots,
        ((h.detach key entry.index).placed.delete key).get k = (h.detach key entry.index).placed.get k := by
      intro k member
      rw [OrderedMap.get_delete, if_neg]
      rintro rfl
      exact nodup.1 member
    have due : ∀ i, dueAt ⟨(h.detach key entry.index).slots, (h.detach key entry.index).placed.delete key⟩ i =
        (h.detach key entry.index).dueAt i := by
      intro i
      change ((((h.detach key entry.index).slots[i]?).bind _).getD 0 : Int) =
        (((h.detach key entry.index).slots[i]?).bind _).getD 0
      cases found : (h.detach key entry.index).slots[i]? with
      | none => rfl
      | some k => rw [Option.bind_some, Option.bind_some, same k (List.mem_of_getElem? found)]
    refine ⟨fun i k place => ?_, fun i positive bound => ?_, ?_⟩
    · change ∃ entry', ((h.detach key entry.index).placed.delete key).get k = some entry' ∧ entry'.index = i
      rw [same k (List.mem_of_getElem? place)]
      exact detached.linked i k place
    · rw [due, due]
      exact detached.ordered i positive bound
    · rw [after]
      have others := (detached.perm.symm.trans sound.whole).filter (fun k => k ≠ key)
      have kept : (h.detach key entry.index).slots.filter (fun k => k ≠ key) = (h.detach key entry.index).slots := by
        refine List.filter_eq_self.mpr fun k member => decide_eq_true ?_
        rintro rfl
        exact nodup.1 member
      rw [List.filter_cons_of_neg (by simp), List.filter_map, kept] at others
      exact others

/-- The entry at the root is due no later than any other. -/
theorem Sound.first_le (sound : Sound h) {first : K} {entry other : Placed} (root : h.first = some first)
    (found : h.placed.get first = some entry) (listed : h.placed.get key = some other) : entry.priority ≤ other.priority := by
  have head : h.slots[0]? = some first := List.head?_eq_getElem?.symm.trans root
  obtain ⟨i, place⟩ := List.getElem?_of_mem (sound.mem_iff.mpr ⟨other, listed⟩)
  have le := sound.ordered.root i (List.getElem?_eq_some_iff.mp place).1
  rwa [dueAt_of_get head found, dueAt_of_get place listed] at le

theorem Sound.first_none (sound : Sound h) (empty : h.first = none) : h.placed.entries = [] := by
  have whole := sound.whole
  rw [List.head?_eq_none_iff.mp empty, List.nil_perm, keys_due, List.map_eq_nil_iff] at whole
  exact whole

theorem mem_due {priority : Int} :
    (key, priority) ∈ h.due ↔ ∃ entry, h.placed.get key = some entry ∧ entry.priority = priority := by
  rw [due, dueOf, List.mem_map]
  constructor
  · rintro ⟨⟨other, entry⟩, listed, same⟩
    cases same
    exact ⟨entry, OrderedMap.get_of_mem listed, rfl⟩
  · rintro ⟨entry, found, rfl⟩
    exact ⟨(key, entry), OrderedMap.mem_of_get found, rfl⟩

/-- An entry stands beside the ones that stay when it is removed. -/
theorem perm_due_remove {priority : Int} (listed : (key, priority) ∈ h.due) :
    h.due.Perm ((key, priority) :: (h.remove key).due) := by
  have distinct : (h.due.map Prod.fst).Nodup := keys_due h ▸ h.placed.distinct
  have others : h.due.erase (key, priority) = h.due.filter (fun entry => entry.1 ≠ key) := by
    rw [(List.Nodup.of_map _ distinct).erase_eq_filter]
    refine List.filter_congr fun entry member => ?_
    rw [Bool.eq_iff_iff, bne_iff_ne, decide_eq_true_eq]
    refine not_congr ⟨fun same => same ▸ rfl, fun same => ?_⟩
    exact List.inj_on_of_nodup_map distinct member listed same
  rw [due_remove, ← others]
  exact List.perm_cons_erase listed

end Places

end JBCenter.IndexedHeap
