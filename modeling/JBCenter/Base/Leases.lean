import Mathlib.Data.List.Basic
import Mathlib.Order.Basic
import Mathlib.Algebra.Order.Ring.Int

/-! Leases of one thing, taken one after another: each when the one before it has run out. -/
namespace JBCenter

structure Lease where
  start : Int
  expires : Int

/-- No lease is empty, and none starts before an earlier one has run out. -/
structure Exclusive (leases : List Lease) : Prop where
  lasts : ∀ lease ∈ leases, lease.start < lease.expires
  disjoint : leases.Pairwise (fun earlier later => earlier.expires ≤ later.start)

namespace Exclusive
variable {leases : List Lease} {last next : Lease}

theorem nil : Exclusive [] := ⟨by simp, List.Pairwise.nil⟩

/-- The last lease runs longest. -/
theorem expires_le (exclusive : Exclusive leases) (isLast : leases.getLast? = some last) :
    ∀ lease ∈ leases, lease.expires ≤ last.expires := by
  obtain ⟨front, rfl⟩ := List.getLast?_eq_some_iff.mp isLast
  intro lease member
  obtain earlier | same := List.mem_append.mp member
  · have before := (List.pairwise_append.mp exclusive.disjoint).2.2 lease earlier last List.mem_cons_self
    exact before.trans (exclusive.lasts last (List.mem_append_right _ List.mem_cons_self)).le
  · rw [List.mem_singleton.mp same]

/-- A lease that is taken when the last has run out is disjoint from all. -/
theorem snoc (exclusive : Exclusive leases) (free : ∀ last, leases.getLast? = some last → last.expires ≤ next.start)
    (lasts : next.start < next.expires) : Exclusive (leases ++ [next]) := by
  constructor
  · intro lease member
    obtain earlier | same := List.mem_append.mp member
    · exact exclusive.lasts lease earlier
    · rwa [List.mem_singleton.mp same]
  · refine List.pairwise_append.mpr ⟨exclusive.disjoint, List.pairwise_singleton _ _, ?_⟩
    intro lease earlier other same
    rw [List.mem_singleton.mp same]
    cases isLast : leases.getLast? with
    | none =>
      rw [List.getLast?_eq_none_iff.mp isLast] at earlier
      cases earlier
    | some last => exact (exclusive.expires_le isLast lease earlier).trans (free last isLast)

end Exclusive
end JBCenter
