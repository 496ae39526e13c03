import Mathlib.Data.List.FinRange
import Mathlib.Data.List.Perm.Subperm
import Mathlib.Order.Bounds.Basic
import Mathlib.Data.Fintype.EquivFin

/-! Pairing items with offers, each at most once. Where the items that share an offer come in the order of their needs,
taking the first suitable offer for each of them pairs as many as can be paired. -/
namespace JBCenter.Pairings
variable {α β : Type}

/-- Some number of items at different places, each with a suitable offer at a place of its own. -/
def Paired (suits : α → β → Prop) (items : List α) (offers : List β) (size : Nat) : Prop :=
  ∃ (item : Fin size → Fin items.length) (offer : Fin size → Fin offers.length),
    Function.Injective item ∧ Function.Injective offer ∧ ∀ k, suits (items.get (item k)) (offers.get (offer k))

/-- Each item takes the first suitable offer that is left; the items without one remain. -/
def unpaired (suits : α → β → Bool) : List α → List β → List α
  | [], _ => []
  | item :: items, offers =>
    match offers.findIdx? (suits item) with
    | none => item :: unpaired suits items offers
    | some index => unpaired suits items (offers.eraseIdx index)

/-- Every offer that suits the first item suits the second as well, once one suits both. -/
def Nested (suits : α → β → Bool) (first second : α) : Prop :=
  ∀ shared offer, suits first shared = true → suits second shared = true → suits first offer = true → suits second offer = true

variable {suits : α → β → Bool} {item : α} {offer : β} {items : List α} {offers : List β} {size : Nat}

/-- Pairs of suitable values, drawn from the items and the offers. -/
structure Drawn (suits : α → β → Bool) (items : List α) (offers : List β) (pairs : List (α × β)) : Prop where
  items : (pairs.map Prod.fst).Subperm items
  offers : (pairs.map Prod.snd).Subperm offers
  suited : ∀ pair ∈ pairs, suits pair.1 pair.2 = true

theorem subperm_map {γ δ : Type} {f : γ → δ} {some all : List γ} (among : some.Subperm all) :
    (some.map f).Subperm (all.map f) := by
  obtain ⟨others, same, inside⟩ := among
  exact ⟨others.map f, same.map f, inside.map f⟩

/-- What is drawn from a list without its first value was drawn from the others. -/
theorem subperm_of_not_mem {γ : Type} {first : γ} {some others : List γ} (among : some.Subperm (first :: others))
    (absent : first ∉ some) : some.Subperm others := by
  obtain ⟨drawn, same, inside⟩ := among
  cases inside with
  | cons _ inside => exact ⟨drawn, same, inside⟩
  | cons_cons _ inside => exact absurd (same.subset List.mem_cons_self) absent

theorem Drawn.perm {pairs others : List (α × β)} (drawn : Drawn suits items offers pairs) (same : pairs.Perm others) :
    Drawn suits items offers others where
  items := (same.map Prod.fst).symm.subperm.trans drawn.items
  offers := (same.map Prod.snd).symm.subperm.trans drawn.offers
  suited := fun pair member => drawn.suited pair (same.mem_iff.mpr member)

theorem Drawn.tail {first : α × β} {pairs : List (α × β)} (drawn : Drawn suits items offers (first :: pairs)) :
    Drawn suits items offers pairs where
  items := (List.sublist_cons_self _ _).subperm.trans drawn.items
  offers := (List.sublist_cons_self _ _).subperm.trans drawn.offers
  suited := fun pair member => drawn.suited pair (List.mem_cons_of_mem _ member)

theorem exists_cons_perm {γ : Type} {value : γ} {values : List γ} (member : value ∈ values) :
    ∃ others, values.Perm (value :: others) := by
  obtain ⟨before, after, rfl⟩ := List.append_of_mem member
  exact ⟨before ++ after, List.perm_middle⟩

theorem mem_fst {pairs : List (α × β)} (member : item ∈ pairs.map Prod.fst) : ∃ offer, (item, offer) ∈ pairs := by
  obtain ⟨⟨_, offer⟩, among, rfl⟩ := List.mem_map.mp member
  exact ⟨offer, among⟩

theorem mem_snd {pairs : List (α × β)} (member : offer ∈ pairs.map Prod.snd) : ∃ item, (item, offer) ∈ pairs := by
  obtain ⟨⟨item, _⟩, among, rfl⟩ := List.mem_map.mp member
  exact ⟨item, among⟩

theorem paired_iff [DecidableEq α] [DecidableEq β] :
    Paired (fun item offer => suits item offer = true) items offers size ↔
      ∃ pairs, Drawn suits items offers pairs ∧ pairs.length = size := by
  constructor
  · rintro ⟨item, offer, itemInjective, offerInjective, suited⟩
    have drawn : ∀ {γ : Type} (values : List γ) (place : Fin size → Fin values.length), Function.Injective place →
        (List.ofFn (fun k => values.get (place k))).Subperm values := by
      intro γ values place injective
      have places : (List.ofFn place).Subperm (List.finRange values.length) :=
        List.subperm_of_subset (List.nodup_ofFn.mpr injective) (fun index _ => List.mem_finRange index)
      have written := subperm_map (f := values.get) places
      rwa [List.map_ofFn, List.map_get_finRange] at written
    refine ⟨List.ofFn (fun k => (items.get (item k), offers.get (offer k))), ⟨?_, ?_, ?_⟩, List.length_ofFn⟩
    · rw [List.map_ofFn]
      exact drawn items item itemInjective
    · rw [List.map_ofFn]
      exact drawn offers offer offerInjective
    · intro pair member
      obtain ⟨k, rfl⟩ := List.mem_ofFn.mp member
      exact suited k
  · rintro ⟨pairs, ⟨drawnItems, drawnOffers, suited⟩, rfl⟩
    have firsts : pairs.length = (pairs.map Prod.fst).length := (List.length_map _).symm
    have seconds : pairs.length = (pairs.map Prod.snd).length := (List.length_map _).symm
    refine ⟨fun k => drawnItems.idxInj (k.cast firsts), fun k => drawnOffers.idxInj (k.cast seconds),
      fun first second same => Fin.cast_injective _ (drawnItems.idxInj_injective same),
      fun first second same => Fin.cast_injective _ (drawnOffers.idxInj_injective same), fun k => ?_⟩
    have item := drawnItems.getElem_idxInj_eq_getElem (i := k.cast firsts)
    have offer := drawnOffers.getElem_idxInj_eq_getElem (i := k.cast seconds)
    simp only [List.get_eq_getElem, item, offer, Fin.val_cast, List.getElem_map]
    exact suited _ (List.getElem_mem _)

theorem eraseIdx_perm {γ : Type} {values : List γ} {index : Nat} (inside : index < values.length) :
    values.Perm (values[index] :: values.eraseIdx index) := by
  rw [List.eraseIdx_eq_take_drop_succ]
  have whole : values = values.take index ++ values[index] :: values.drop (index + 1) := by
    rw [List.cons_getElem_drop_succ, List.take_append_drop]
  exact (List.Perm.of_eq whole).trans List.perm_middle

/-- One pair fewer can be drawn once the first item and an offer that suits it are gone. -/
theorem Drawn.exchange {pair : α × β} {pairs : List (α × β)}
    (drawn : Drawn suits (item :: items) (offer :: offers) (pair :: pairs))
    (suited : suits item offer = true) (nested : ∀ other ∈ items, Nested suits item other) :
    ∃ others, Drawn suits items offers others ∧ others.length = pairs.length := by
  by_cases taken : offer ∈ (pair :: pairs).map Prod.snd
  · obtain ⟨holder, among⟩ := mem_snd taken
    obtain ⟨rest, same⟩ := exists_cons_perm among
    have size : rest.length = pairs.length := Nat.succ.inj (same.length_eq).symm
    have left := drawn.perm same
    have offersLeft : (rest.map Prod.snd).Subperm offers := (List.subperm_cons offer).mp left.offers
    by_cases own : holder = item
    · subst own
      exact ⟨rest, ⟨(List.subperm_cons holder).mp left.items, offersLeft, left.tail.suited⟩, size⟩
    · by_cases paired : item ∈ rest.map Prod.fst
      · -- the item's offer goes to the holder of the offer that the item takes
        obtain ⟨second, among'⟩ := mem_fst paired
        obtain ⟨others, same'⟩ := exists_cons_perm among'
        have swapped := left.perm (same'.cons _)
        have itemsLeft : (holder :: others.map Prod.fst).Subperm items :=
          (List.subperm_cons item).mp ((List.Perm.swap _ _ _).subperm.trans swapped.items)
        have held : holder ∈ items := itemsLeft.subset List.mem_cons_self
        refine ⟨(holder, second) :: others, ⟨itemsLeft, (same'.map Prod.snd).symm.subperm.trans offersLeft, ?_⟩, ?_⟩
        · refine List.forall_mem_cons.mpr ⟨?_, swapped.tail.tail.suited⟩
          exact nested holder held offer second suited (left.suited _ List.mem_cons_self)
            (left.suited _ (List.mem_cons_of_mem _ among'))
        · rw [← size, same'.length_eq]
          rfl
      · have itemsLeft : (rest.map Prod.fst).Subperm items := subperm_of_not_mem left.tail.items paired
        exact ⟨rest, ⟨itemsLeft, offersLeft, left.tail.suited⟩, size⟩
  · have offersLeft := subperm_of_not_mem drawn.offers taken
    by_cases paired : item ∈ (pair :: pairs).map Prod.fst
    · obtain ⟨second, among⟩ := mem_fst paired
      obtain ⟨rest, same⟩ := exists_cons_perm among
      have left := drawn.perm same
      exact ⟨rest, ⟨(List.subperm_cons item).mp left.items,
        (List.sublist_cons_self _ _).subperm.trans ((same.map Prod.snd).symm.subperm.trans offersLeft), left.tail.suited⟩,
        Nat.succ.inj (same.length_eq).symm⟩
    · have itemsLeft := subperm_of_not_mem drawn.items paired
      exact ⟨pairs, Drawn.tail ⟨itemsLeft, offersLeft, drawn.suited⟩, rfl⟩

/-- As many items find an offer as can be paired at all. -/
theorem unpaired_drawn (nested : items.Pairwise (Nested suits)) :
    (unpaired suits items offers).length ≤ items.length ∧
      IsGreatest {size | ∃ pairs, Drawn suits items offers pairs ∧ pairs.length = size}
        (items.length - (unpaired suits items offers).length) := by
  induction items generalizing offers with
  | nil =>
    refine ⟨Nat.le_refl 0, ⟨[], ⟨List.Subperm.refl _, List.nil_subperm, nofun⟩, rfl⟩, ?_⟩
    rintro size ⟨pairs, drawn, rfl⟩
    simpa using drawn.items.length_le
  | cons item items ih =>
    obtain ⟨first, others⟩ := List.pairwise_cons.mp nested
    rw [unpaired]
    split
    case h_1 none =>
      obtain ⟨few, ⟨pairs, drawn, size⟩, greatest⟩ := @ih offers others
      refine ⟨Nat.succ_le_succ few, ⟨pairs, ⟨List.Subperm.cons_right item drawn.items, drawn.offers, drawn.suited⟩, ?_⟩, ?_⟩
      · rw [size, List.length_cons, List.length_cons, Nat.add_sub_add_right]
      · rintro _ ⟨pairs, drawn, rfl⟩
        rw [List.length_cons, List.length_cons, Nat.add_sub_add_right]
        refine greatest ⟨pairs, ⟨subperm_of_not_mem drawn.items (fun member => ?_), drawn.offers, drawn.suited⟩, rfl⟩
        obtain ⟨offer, among⟩ := mem_fst member
        have offered := drawn.offers.subset (List.mem_map.mpr ⟨_, among, rfl⟩)
        have suited := drawn.suited _ among
        rw [List.findIdx?_eq_none_iff.mp none offer offered] at suited
        cases suited
    case h_2 index found =>
      obtain ⟨inside, suited, _⟩ := List.findIdx?_eq_some_iff_getElem.mp found
      have same := eraseIdx_perm inside
      obtain ⟨few, ⟨pairs, drawn, size⟩, greatest⟩ := @ih (offers.eraseIdx index) others
      refine ⟨Nat.le_succ_of_le few, ⟨(item, offers[index]) :: pairs, ⟨?_, ?_, ?_⟩, ?_⟩, ?_⟩
      · exact (List.subperm_cons item).mpr drawn.items
      · exact ((List.subperm_cons offers[index]).mpr drawn.offers).trans same.symm.subperm
      · exact List.forall_mem_cons.mpr ⟨suited, drawn.suited⟩
      · rw [List.length_cons, List.length_cons, size]
        omega
      · rintro _ ⟨pairs, drawn, rfl⟩
        cases pairs with
        | nil => exact Nat.zero_le _
        | cons pair pairs =>
          obtain ⟨rest, left, size⟩ :=
            Drawn.exchange ⟨drawn.items, drawn.offers.trans same.subperm, drawn.suited⟩ suited first
          have bound := greatest ⟨rest, left, rfl⟩
          rw [List.length_cons, List.length_cons, ← size]
          omega

/-- The number of items without an offer is what a largest pairing leaves. -/
theorem unpaired_greatest [DecidableEq α] [DecidableEq β] (nested : items.Pairwise (Nested suits)) :
    (unpaired suits items offers).length ≤ items.length ∧
      IsGreatest {size | Paired (fun item offer => suits item offer = true) items offers size}
        (items.length - (unpaired suits items offers).length) := by
  simpa only [paired_iff] using unpaired_drawn nested

/-- The order of the items and of the offers does not matter. -/
theorem Paired.perm [DecidableEq α] [DecidableEq β] {items' : List α} {offers' : List β} (sameItems : items.Perm items')
    (sameOffers : offers.Perm offers') (paired : Paired (fun item offer => suits item offer = true) items offers size) :
    Paired (fun item offer => suits item offer = true) items' offers' size := by
  obtain ⟨pairs, drawn, length⟩ := paired_iff.mp paired
  exact paired_iff.mpr ⟨pairs, ⟨drawn.items.trans sameItems.subperm, drawn.offers.trans sameOffers.subperm, drawn.suited⟩, length⟩

/-- All the items are paired by an injection into the offers. -/
theorem paired_all {suits : α → β → Prop} : Paired suits items offers items.length ↔
    ∃ offer : Fin items.length → Fin offers.length, Function.Injective offer ∧
    ∀ k, suits (items.get k) (offers.get (offer k)) := by
  constructor
  · rintro ⟨item, offer, itemInjective, offerInjective, suited⟩
    -- the items are all reached
    obtain ⟨place, left⟩ := (Finite.injective_iff_surjective.mp itemInjective).hasRightInverse
    refine ⟨fun k => offer (place k), offerInjective.comp left.injective, fun k => ?_⟩
    have reached := suited (place k)
    rwa [left k] at reached
  · rintro ⟨offer, injective, suited⟩
    exact ⟨id, offer, Function.injective_id, injective, suited⟩

end JBCenter.Pairings
