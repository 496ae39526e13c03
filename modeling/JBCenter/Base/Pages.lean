import Mathlib.Data.List.Forall2
import Mathlib.Data.List.Sort
import Mathlib.Order.Lattice

/-! Reading a collection in pages, each of the rows past the last key of the page before it, while the collection changes
between the pages. -/
namespace JBCenter.Pages

variable {α κ : Type*} [LinearOrder κ] (key : α → κ)

/-- Whether a row comes after the one a cursor stands at. -/
def Past (after : Option κ) (row : α) : Prop := ∀ k, after = some k → k < key row

instance (after : Option κ) (row : α) : Decidable (Past key after row) :=
  match after with
  | none => isTrue nofun
  | some k => decidable_of_iff (k < key row) ⟨fun less _ same => Option.some.inj same ▸ less, fun past => past k rfl⟩

def KeyLe (first second : α) : Prop := key first ≤ key second

instance : DecidableRel (KeyLe key) := fun first second => inferInstanceAs (Decidable (key first ≤ key second))

instance : Std.Total (KeyLe key) := ⟨fun first second => le_total (key first) (key second)⟩

instance : IsTrans α (KeyLe key) := ⟨fun _ _ _ => le_trans⟩

/-- The rows past a cursor, in the order of their keys. -/
def beyond (after : Option κ) (rows : List α) : List α := (rows.filter fun row => Past key after row).insertionSort (KeyLe key)

/-- Pages read one after another, each from what is stored when it is read and under a limit of its own. A page that has all
the rows past its cursor may be the last. -/
inductive Reads : Option κ → List (List α) → List (List α) → Prop where
  | last {after : Option κ} {rows : List α} {limit : Nat} : (beyond key after rows).length ≤ limit →
      Reads after [rows] [(beyond key after rows).take limit]
  | next {after : Option κ} {rows : List α} {limit : Nat} {row : α} {stores pages : List (List α)} :
      ((beyond key after rows).take limit).getLast? = some row → Reads (some (key row)) stores pages →
      Reads after (rows :: stores) ((beyond key after rows).take limit :: pages)

variable {key} {after : Option κ} {rows : List α} {limit : Nat} {stores pages : List (List α)}

theorem mem_beyond {row : α} : row ∈ beyond key after rows ↔ row ∈ rows ∧ Past key after row := by
  rw [beyond, List.mem_insertionSort, List.mem_filter, decide_eq_true_eq]

theorem beyond_sorted : (beyond key after rows).Pairwise (KeyLe key) := List.pairwise_insertionSort _ _

theorem beyond_perm : (beyond key after rows).Perm (rows.filter fun row => Past key after row) := List.perm_insertionSort _ _

/-- Where no two rows have one key the order is strict. -/
theorem beyond_strict (distinct : (rows.map key).Nodup) :
    (beyond key after rows).Pairwise fun first second => key first < key second := by
  have apart : ((beyond key after rows).map key).Nodup :=
    ((beyond_perm.map key).nodup_iff).mpr (distinct.sublist (List.filter_sublist.map _))
  refine (beyond_sorted.and (List.pairwise_map.mp apart)).imp ?_
  rintro first second ⟨le, ne⟩
  exact lt_of_le_of_ne le ne

/-- A row past the cursor is on the page, or comes after every row of the page. -/
theorem page_reaches {row : α} (listed : row ∈ beyond key after rows) :
    row ∈ (beyond key after rows).take limit ∨ ∀ other ∈ (beyond key after rows).take limit, key other ≤ key row := by
  rw [← List.take_append_drop limit (beyond key after rows)] at listed
  refine (List.mem_append.mp listed).imp_right fun later other earlier => ?_
  have sorted : (beyond key after rows).Pairwise (KeyLe key) := beyond_sorted
  rw [← List.take_append_drop limit (beyond key after rows), List.pairwise_append] at sorted
  exact sorted.2.2 other earlier row later

theorem page_past {row : α} (listed : row ∈ (beyond key after rows).take limit) : row ∈ rows ∧ Past key after row :=
  mem_beyond.mp (List.mem_of_mem_take listed)

/-- Whoever has a key past the cursor in every store that was read is on a page. -/
theorem Reads.visits (reads : Reads key after stores pages) {k : κ} (past : ∀ k', after = some k' → k' < k)
    (stays : ∀ rows ∈ stores, ∃ row ∈ rows, key row = k) : k ∈ pages.flatten.map key := by
  induction reads with
  | @last after rows limit small =>
    obtain ⟨row, stored, rfl⟩ := stays rows List.mem_cons_self
    rw [List.take_of_length_le small, List.flatten_cons, List.flatten_nil, List.append_nil]
    exact List.mem_map_of_mem (mem_beyond.mpr ⟨stored, past⟩)
  | @next after rows limit last stores pages isLast _ ih =>
    obtain ⟨⟨row, stored, rfl⟩, others⟩ := List.forall_mem_cons.mp stays
    rw [List.flatten_cons, List.map_append, List.mem_append]
    have reached : row ∈ (beyond key after rows).take limit ∨ ∀ other ∈ (beyond key after rows).take limit, key other ≤ key row :=
      page_reaches (mem_beyond.mpr ⟨stored, past⟩)
    obtain here | later := reached
    · exact .inl (List.mem_map_of_mem here)
    · have listed := List.mem_of_getLast? isLast
      obtain less | same := lt_or_eq_of_le (later last listed)
      · exact .inr (ih (fun _ found => Option.some.inj found ▸ less) others)
      · exact .inl (List.mem_map.mpr ⟨last, listed, same⟩)

/-- The keys on the pages, read one after another, increase: no row is seen twice. -/
theorem Reads.increases (reads : Reads key after stores pages) (distinct : ∀ rows ∈ stores, (rows.map key).Nodup) :
    (pages.flatten.map key).Pairwise (· < ·) ∧ ∀ row ∈ pages.flatten, Past key after row := by
  induction reads with
  | @last after rows limit small =>
    rw [List.flatten_cons, List.flatten_nil, List.append_nil]
    exact ⟨List.pairwise_map.mpr ((beyond_strict (distinct rows List.mem_cons_self)).sublist (List.take_sublist _ _)),
      fun row listed => (page_past listed).2⟩
  | @next after rows limit last stores pages isLast _ ih =>
    obtain ⟨here, others⟩ := List.forall_mem_cons.mp distinct
    obtain ⟨increasing, beyondLast⟩ := ih others
    have strict : ((beyond key after rows).take limit).Pairwise fun first second => key first < key second :=
      (beyond_strict here).sublist (List.take_sublist limit _)
    have listed := List.mem_of_getLast? isLast
    have greatest : ∀ row ∈ (beyond key after rows).take limit, key row ≤ key last := by
      obtain ⟨front, whole⟩ := List.getLast?_eq_some_iff.mp isLast
      rw [whole, List.pairwise_append] at strict
      rw [whole]
      intro row member
      obtain earlier | final := List.mem_append.mp member
      · exact (strict.2.2 row earlier last (List.mem_singleton_self last)).le
      · rw [List.mem_singleton.mp final]
    rw [List.flatten_cons, List.map_append]
    refine ⟨List.pairwise_append.mpr ⟨List.pairwise_map.mpr strict, increasing, ?_⟩, ?_⟩
    · intro first isFirst second isSecond
      obtain ⟨row, onPage, rfl⟩ := List.mem_map.mp isFirst
      obtain ⟨row', later, rfl⟩ := List.mem_map.mp isSecond
      exact lt_of_le_of_lt (greatest row onPage) (beyondLast row' later _ rfl)
    · intro row member
      obtain onPage | later := List.mem_append.mp member
      · exact (page_past onPage).2
      · intro k found
        exact lt_trans ((page_past listed).2 k found) (beyondLast row later _ rfl)

/-- Every row on a page was stored when that page was read. -/
theorem Reads.stored (reads : Reads key after stores pages) :
    List.Forall₂ (fun rows page => ∀ row ∈ page, row ∈ rows) stores pages := by
  induction reads with
  | last => exact .cons (fun _ listed => (page_past listed).1) .nil
  | next _ _ ih => exact .cons (fun _ listed => (page_past listed).1) ih

theorem mem_store {σ : Type*} (held : σ → List α) {states : List σ} {row : α}
    (stored : List.Forall₂ (fun state page => ∀ row ∈ page, row ∈ held state) states pages)
    (listed : row ∈ pages.flatten) : ∃ state ∈ states, row ∈ held state := by
  induction stored with
  | nil => cases listed
  | cons here _ ih =>
    rw [List.flatten_cons, List.mem_append] at listed
    obtain first | later := listed
    · exact ⟨_, List.mem_cons_self, here row first⟩
    · obtain ⟨state, member, within⟩ := ih later
      exact ⟨state, List.mem_cons_of_mem _ member, within⟩

/-- Lists with strictly increasing keys are determined by their members. -/
theorem increasing_ext {first second : List α} (increasing : first.Pairwise fun a b => key a < key b)
    (increasing' : second.Pairwise fun a b => key a < key b) (same : ∀ row, row ∈ first ↔ row ∈ second) : first = second := by
  have apart : ∀ {a b : α}, key a < key b → a ≠ b := fun less equal => lt_irrefl _ (equal ▸ less)
  have nodup : first.Nodup := increasing.imp apart
  have nodup' : second.Nodup := increasing'.imp apart
  refine ((List.perm_ext_iff_of_nodup nodup nodup').mpr same).eq_of_pairwise ?_ increasing increasing'
  intro a b _ _ less less'
  exact absurd less' (lt_asymm less)

/-- While nothing changes, the pages together are the rows past the first cursor, in order. -/
theorem Reads.whole (reads : Reads key after stores pages) (distinct : (rows.map key).Nodup)
    (same : ∀ store ∈ stores, store = rows) :
    pages.flatten = beyond key after rows := by
  obtain ⟨increasing, past⟩ := reads.increases fun store member => (same store member).symm ▸ distinct
  have within : ∀ row ∈ pages.flatten, row ∈ rows := by
    intro row listed
    obtain ⟨store, member, stored⟩ := mem_store id reads.stored listed
    exact same store member ▸ stored
  refine increasing_ext (List.pairwise_map.mp increasing) (beyond_strict distinct) fun row => ?_
  rw [mem_beyond]
  constructor
  · exact fun listed => ⟨within row listed, past row listed⟩
  · rintro ⟨stored, isPast⟩
    have visited := reads.visits isPast fun store member => ⟨row, (same store member).symm ▸ stored, rfl⟩
    obtain ⟨other, listed, equal⟩ := List.mem_map.mp visited
    rwa [← List.inj_on_of_nodup_map distinct (within other listed) stored equal]

/-- A page that ends at a row leaves fewer rows to read. -/
theorem beyond_decreases {row : α} (listed : row ∈ beyond key after rows) :
    (beyond key (some (key row)) rows).length < (beyond key after rows).length := by
  obtain ⟨stored, past⟩ := mem_beyond.mp listed
  have later : ∀ other, Past key (some (key row)) other → Past key after other := fun other less k found =>
    lt_trans (past k found) (less _ rfl)
  have filtered : (rows.filter fun other => Past key (some (key row)) other) =
      (rows.filter fun other => Past key after other).filter fun other => Past key (some (key row)) other := by
    rw [List.filter_filter]
    refine List.filter_congr fun other _ => ?_
    rw [Bool.eq_iff_iff, Bool.and_eq_true, decide_eq_true_eq, decide_eq_true_eq]
    exact ⟨fun isPast => ⟨isPast, later other isPast⟩, And.left⟩
  rw [beyond_perm.length_eq, beyond_perm.length_eq, filtered]
  refine List.length_filter_lt_length_iff_exists.mpr ⟨row, List.mem_filter.mpr ⟨stored, decide_eq_true past⟩, ?_⟩
  rw [decide_eq_true_eq]
  exact fun less => lt_irrefl _ (less _ rfl)

end JBCenter.Pages
