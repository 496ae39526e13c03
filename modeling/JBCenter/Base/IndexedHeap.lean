import JBCenter.Base.OrderedMap

/-! A binary heap of keys whose entries know their place in it, so that any entry can be
removed. The loops of a sift run at most once per level, which their fuel always covers. -/
namespace JBCenter

/-- What an entry knows: how early it is due, and its place in the heap. -/
structure Placed where
  priority : Int
  index : Nat

structure IndexedHeap (K : Type) where
  slots : List K
  placed : OrderedMap K Placed

namespace IndexedHeap
variable {K : Type} [DecidableEq K]

def empty : IndexedHeap K := ⟨[], .empty⟩

def first (h : IndexedHeap K) : Option K := h.slots.head?

def priorityAt (h : IndexedHeap K) (index : Nat) : Option Int :=
  (h.slots[index]?).bind (fun key => (h.placed.get key).map Placed.priority)

/-- An entry is told its place. -/
def told (placed : OrderedMap K Placed) (key : K) (index : Nat) : OrderedMap K Placed :=
  match placed.get key with
  | some entry => placed.set key { entry with index }
  | none => placed

def swap (h : IndexedHeap K) (a b : Nat) : IndexedHeap K :=
  match h.slots[a]?, h.slots[b]? with
  | some first, some second =>
    ⟨(h.slots.set a second).set b first, told (told h.placed second a) first b⟩
  | _, _ => h

/-- The first is due no later than the second. -/
def ordered (h : IndexedHeap K) (a b : Nat) : Bool :=
  match h.priorityAt a, h.priorityAt b with
  | some first, some second => first ≤ second
  | _, _ => true

def up : Nat → IndexedHeap K → Nat → IndexedHeap K
  | 0, h, _ => h
  | fuel + 1, h, index =>
    if index = 0 then h
    else
      let parent := (index - 1) / 2
      if h.ordered parent index then h else up fuel (h.swap parent index) parent

def down : Nat → IndexedHeap K → Nat → IndexedHeap K
  | 0, h, _ => h
  | fuel + 1, h, index =>
    let left := index * 2 + 1
    let right := left + 1
    if h.slots.length ≤ left then h
    else
      let smallest := if right < h.slots.length && !h.ordered left right then right else left
      if h.ordered index smallest then h else down fuel (h.swap index smallest) smallest

def add (h : IndexedHeap K) (key : K) (priority : Int) : IndexedHeap K :=
  let index := h.slots.length
  up index ⟨h.slots ++ [key], h.placed.set key ⟨priority, index⟩⟩ index

/-- The entry at `index` gives its place to the last one, which then finds its own. -/
def detach (h : IndexedHeap K) (key : K) (index : Nat) : IndexedHeap K :=
  match h.slots.getLast? with
  | none => h
  | some last =>
    let slots := h.slots.dropLast
    if last = key then ⟨slots, h.placed⟩
    else
      let moved : IndexedHeap K := ⟨slots.set index last, told h.placed last index⟩
      if 0 < index && !moved.ordered ((index - 1) / 2) index then up index moved index
      else down slots.length moved index

def remove (h : IndexedHeap K) (key : K) : IndexedHeap K :=
  match h.placed.get key with
  | none => h
  | some entry =>
    let rest := h.detach key entry.index
    ⟨rest.slots, rest.placed.delete key⟩

variable {h : IndexedHeap K} {key : K}

/-- The keys of a table in the order they were added, each with the time it is due. -/
def dueOf (placed : OrderedMap K Placed) : List (K × Int) :=
  placed.entries.map (fun entry => (entry.1, entry.2.priority))

def due (h : IndexedHeap K) : List (K × Int) := dueOf h.placed

theorem map_put_same {entries : List (K × Placed)} {entry : Placed} {index : Nat}
    (found : entries.lookup key = some entry) :
    (OrderedMap.put key { entry with index } entries).map (fun entry => (entry.1, entry.2.priority)) =
      entries.map (fun entry => (entry.1, entry.2.priority)) := by
  induction entries with
  | nil => cases found
  | cons first rest ih =>
    obtain ⟨other, held⟩ := first
    rw [OrderedMap.lookup_cons_if] at found
    by_cases same : other = key
    · subst same
      rw [if_pos rfl] at found
      cases found
      simp [OrderedMap.put]
    · rw [if_neg (Ne.symm same)] at found
      simp [OrderedMap.put, same, ih found]

theorem map_put_new {entries : List (K × Placed)} {entry : Placed} (absent : entries.lookup key = none) :
    (OrderedMap.put key entry entries).map (fun entry => (entry.1, entry.2.priority)) =
      entries.map (fun entry => (entry.1, entry.2.priority)) ++ [(key, entry.priority)] := by
  induction entries with
  | nil => rfl
  | cons first rest ih =>
    obtain ⟨other, held⟩ := first
    rw [OrderedMap.lookup_cons_if] at absent
    by_cases same : other = key
    · rw [if_pos same.symm] at absent
      cases absent
    · rw [if_neg (Ne.symm same)] at absent
      simp [OrderedMap.put, same, ih absent]

theorem dueOf_told (placed : OrderedMap K Placed) (key : K) (index : Nat) :
    dueOf (told placed key index) = dueOf placed := by
  unfold told
  split
  · rename_i entry found
    exact map_put_same found
  · rfl

theorem due_swap (h : IndexedHeap K) (a b : Nat) : (h.swap a b).due = h.due := by
  unfold swap
  split
  · exact (dueOf_told _ _ _).trans (dueOf_told _ _ _)
  · rfl

theorem due_up (fuel : Nat) (h : IndexedHeap K) (index : Nat) : (up fuel h index).due = h.due := by
  induction fuel generalizing h index with
  | zero => rfl
  | succ fuel ih =>
    unfold up
    split
    · rfl
    · dsimp only
      split
      · rfl
      · rw [ih, due_swap]

theorem due_down (fuel : Nat) (h : IndexedHeap K) (index : Nat) : (down fuel h index).due = h.due := by
  induction fuel generalizing h index with
  | zero => rfl
  | succ fuel ih =>
    unfold down
    dsimp only
    split
    · rfl
    · split
      · split
        · rfl
        · rw [ih, due_swap]
      · split
        · rfl
        · rw [ih, due_swap]

theorem due_add {priority : Int} (absent : h.placed.has key = false) :
    (h.add key priority).due = h.due ++ [(key, priority)] := by
  unfold add
  rw [due_up]
  exact map_put_new (OrderedMap.not_has_iff.mp absent)

theorem due_detach (h : IndexedHeap K) (key : K) (index : Nat) : (h.detach key index).due = h.due := by
  unfold detach
  split
  · rfl
  · dsimp only
    split
    · rfl
    · split
      · rw [due_up]
        exact dueOf_told _ _ _
      · rw [due_down]
        exact dueOf_told _ _ _

theorem due_remove (h : IndexedHeap K) (key : K) : (h.remove key).due = h.due.filter (fun entry => entry.1 ≠ key) := by
  unfold remove
  split
  · rename_i absent
    refine (List.filter_eq_self.mpr ?_).symm
    intro entry member
    obtain ⟨held, stored, rfl⟩ := List.mem_map.mp member
    have differ : held.1 ≠ key := by
      rintro rfl
      rw [OrderedMap.get_of_mem stored] at absent
      cases absent
    simpa using differ
  · rename_i entry found
    have same : dueOf (h.detach key entry.index).placed = h.due := due_detach h key entry.index
    rw [← same]
    simp only [due, dueOf, OrderedMap.delete, OrderedMap.filter, List.filter_map, Function.comp_def]

theorem due_removeAll (keys : List K) (h : IndexedHeap K) :
    (keys.foldl remove h).due = h.due.filter (fun entry => !keys.any (fun key => entry.1 = key)) := by
  induction keys generalizing h with
  | nil => simp
  | cons first rest ih =>
    rw [List.foldl_cons, ih, due_remove, List.filter_filter]
    congr 1
    funext entry
    by_cases same : entry.1 = first <;> simp [same]

end IndexedHeap
end JBCenter
