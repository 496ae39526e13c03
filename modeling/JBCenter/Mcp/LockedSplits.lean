import JBCenter.Base.Pairings
import JBCenter.Mcp.Rulesets
import Mathlib.Data.List.Sort

/-! The locked splits that a change of rulesets does not carry over. -/
namespace JBCenter.Mcp
open UserOperations.Semantics (Text lower)

def isAddressEqual (a b : Text) : Bool := lower a == lower b

def carries (locked split : Split Nat) : Bool :=
  split.percent == locked.percent && split.projectId == locked.projectId &&
    isAddressEqual split.beneficiary locked.beneficiary && split.preferAddToBalance == locked.preferAddToBalance &&
    isAddressEqual split.hook locked.hook && locked.lockedUntil ≤ split.lockedUntil

/-- The order of `(a, b) => b.lockedUntil - a.lockedUntil`. -/
def laterLocked (a b : Split Nat) : Prop := b.lockedUntil ≤ a.lockedUntil

instance : DecidableRel laterLocked := fun a b => inferInstanceAs (Decidable (b.lockedUntil ≤ a.lockedUntil))

def lockedSplits (current : List (Split Nat)) (timestamp : Int) : List (Split Nat) :=
  current.filter (fun split => timestamp < split.lockedUntil)

def matchLocked (state : List (Split Nat) × List (Split Nat)) (locked : Split Nat) : List (Split Nat) × List (Split Nat) :=
  match state.1.findIdx? (carries locked) with
  | none => (state.1, state.2 ++ [locked])
  | some index => (state.1.eraseIdx index, state.2)

def changedLockedSplits (current proposed : List (Split Nat)) (timestamp : Int) : List (Split Nat) :=
  (((lockedSplits current timestamp).insertionSort laterLocked).foldl matchLocked (proposed, [])).2

section Optimality
open Pairings

variable {current proposed current' proposed' : List (Split Nat)} {timestamp : Int}

/-- A split carries a locked one over: they agree but for their locks, and its lock is at least as late. -/
structure Carries (locked split : Split Nat) : Prop where
  percent : split.percent = locked.percent
  projectId : split.projectId = locked.projectId
  beneficiary : lower split.beneficiary = lower locked.beneficiary
  preferAddToBalance : split.preferAddToBalance = locked.preferAddToBalance
  hook : lower split.hook = lower locked.hook
  lockedUntil : locked.lockedUntil ≤ split.lockedUntil

theorem carries_iff {locked split : Split Nat} : carries locked split = true ↔ Carries locked split := by
  simp only [carries, isAddressEqual, Bool.and_eq_true, beq_iff_eq, decide_eq_true_eq]
  constructor
  · rintro ⟨⟨⟨⟨⟨percent, projectId⟩, beneficiary⟩, prefer⟩, hook⟩, locked⟩
    exact ⟨percent, projectId, beneficiary, prefer, hook, locked⟩
  · rintro ⟨percent, projectId, beneficiary, prefer, hook, locked⟩
    exact ⟨⟨⟨⟨⟨percent, projectId⟩, beneficiary⟩, prefer⟩, hook⟩, locked⟩

theorem carries_eq : (fun locked split => carries locked split = true) = Carries :=
  funext fun _ => funext fun _ => propext carries_iff

theorem nested_of_laterLocked {first second : Split Nat} (later : laterLocked first second) : Nested carries first second := by
  intro shared offer firstShared secondShared firstOffer
  rw [carries_iff] at *
  have earlier : second.lockedUntil ≤ first.lockedUntil := later
  exact ⟨firstOffer.percent.trans (firstShared.percent.symm.trans secondShared.percent),
    firstOffer.projectId.trans (firstShared.projectId.symm.trans secondShared.projectId),
    firstOffer.beneficiary.trans (firstShared.beneficiary.symm.trans secondShared.beneficiary),
    firstOffer.preferAddToBalance.trans (firstShared.preferAddToBalance.symm.trans secondShared.preferAddToBalance),
    firstOffer.hook.trans (firstShared.hook.symm.trans secondShared.hook), earlier.trans firstOffer.lockedUntil⟩

instance : Std.Total laterLocked := ⟨fun a b => Nat.le_total b.lockedUntil a.lockedUntil⟩

instance : IsTrans (Split Nat) laterLocked := ⟨fun _ _ _ first second => Nat.le_trans second first⟩

theorem foldl_matchLocked (locked available changed : List (Split Nat)) :
    (locked.foldl matchLocked (available, changed)).2 = changed ++ unpaired carries locked available := by
  induction locked generalizing available changed with
  | nil => exact (List.append_nil changed).symm
  | cons first rest ih =>
    rw [List.foldl_cons, unpaired]
    cases found : available.findIdx? (carries first) with
    | none =>
      have stepped : matchLocked (available, changed) first = (available, changed ++ [first]) := by simp only [matchLocked, found]
      rw [stepped, ih, List.append_assoc, List.singleton_append]
    | some index =>
      have stepped : matchLocked (available, changed) first = (available.eraseIdx index, changed) := by
        simp only [matchLocked, found]
      rw [stepped, ih]

theorem sorted_perm : ((lockedSplits current timestamp).insertionSort laterLocked).Perm (lockedSplits current timestamp) :=
  List.perm_insertionSort _ _

theorem changedLockedSplits_greatest :
    (changedLockedSplits current proposed timestamp).length ≤ (lockedSplits current timestamp).length ∧
      IsGreatest {size | Paired Carries (lockedSplits current timestamp) proposed size}
        ((lockedSplits current timestamp).length - (changedLockedSplits current proposed timestamp).length) := by
  have sorted : ((lockedSplits current timestamp).insertionSort laterLocked).Pairwise (Nested carries) :=
    (List.pairwise_insertionSort laterLocked _).imp nested_of_laterLocked
  have optimal := @unpaired_greatest _ _ _ _ proposed _ _ sorted
  rw [changedLockedSplits, foldl_matchLocked, List.nil_append, ← sorted_perm.length_eq]
  have same : ∀ size, Paired Carries (lockedSplits current timestamp) proposed size ↔
      Paired (fun locked split => carries locked split = true)
        ((lockedSplits current timestamp).insertionSort laterLocked) proposed
        size := by
    rw [← carries_eq]
    exact fun size => ⟨.perm sorted_perm.symm (List.Perm.refl _), .perm sorted_perm (List.Perm.refl _)⟩
  simpa only [same] using optimal

/-- The report is empty exactly where every locked split is carried over by a proposed split of its own; it has as many
splits as a largest such matching leaves, whatever the order of the lists. -/
theorem changedLockedSplits_optimal (current proposed : List (Split Nat)) (timestamp : Int) :
    (changedLockedSplits current proposed timestamp = [] ↔
      ∃ split : Fin (lockedSplits current timestamp).length → Fin proposed.length, Function.Injective split ∧
        ∀ k, Carries ((lockedSplits current timestamp).get k) (proposed.get (split k))) ∧
    (∃ largest, IsGreatest {size | Paired Carries (lockedSplits current timestamp) proposed size} largest ∧
      (changedLockedSplits current proposed timestamp).length = (lockedSplits current timestamp).length - largest) ∧
    ∀ current' proposed', current.Perm current' → proposed.Perm proposed' →
      (changedLockedSplits current' proposed' timestamp).length = (changedLockedSplits current proposed timestamp).length := by
  obtain ⟨few, greatest⟩ := @changedLockedSplits_greatest current proposed timestamp
  refine ⟨?_, ⟨_, greatest, (Nat.sub_sub_self few).symm⟩, fun current' proposed' sameCurrent sameProposed => ?_⟩
  · rw [← paired_all, ← List.length_eq_zero_iff]
    constructor
    · intro none
      have paired := greatest.1
      rwa [none, Nat.sub_zero] at paired
    · intro all
      have bound := greatest.2 all
      omega
  · obtain ⟨few', greatest'⟩ := @changedLockedSplits_greatest current' proposed' timestamp
    have locked : (lockedSplits current timestamp).Perm (lockedSplits current' timestamp) := sameCurrent.filter _
    have same : {size | Paired Carries (lockedSplits current' timestamp) proposed' size} =
        {size | Paired Carries (lockedSplits current timestamp) proposed size} := by
      rw [← carries_eq]
      exact Set.ext fun size => ⟨.perm locked.symm sameProposed.symm, .perm locked sameProposed⟩
    rw [same] at greatest'
    have equal := greatest'.unique greatest
    have length := locked.length_eq
    omega

/-- The split with the later lock is matched first, so that neither of two alike is reported. -/
example :
    let split : Nat → Split Nat := fun lockedUntil => ⟨1000, 5, ['0'], true, lockedUntil, ['0']⟩
    changedLockedSplits [split 20, split 90] [split 95, split 30] 10 = [] ∧
      changedLockedSplits [split 20, split 90] [split 85, split 30] 10 = [split 90] := by decide

end Optimality

end JBCenter.Mcp
