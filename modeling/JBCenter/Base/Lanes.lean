import Mathlib.Data.List.Nodup
import Mathlib.Data.List.Basic
import Mathlib.Order.Basic
import Mathlib.Algebra.Order.Group.Nat

/-! A lane with room for one. Keys are claimed one after another, each leaves the lane before the
next is claimed, and those that left settle in the order of their claims. -/
namespace JBCenter

structure Lane (κ : Type) where
  claimed : List κ
  released : Nat
  settled : Nat
  distinct : claimed.Nodup
  ordered : settled ≤ released
  behind : released ≤ claimed.length
  single : claimed.length ≤ released + 1

namespace Lane
variable {κ : Type} {lane : Lane κ} {key other : κ} {i j : Nat}

def empty : Lane κ := ⟨[], 0, 0, List.nodup_nil, le_rfl, le_rfl, Nat.zero_le _⟩

/-- The key that was claimed and did not leave yet. -/
def active (lane : Lane κ) : Option κ := lane.claimed[lane.released]?

def settlements (lane : Lane κ) : List κ := lane.claimed.take lane.settled

theorem length_of_free (free : lane.active = none) : lane.claimed.length = lane.released :=
  le_antisymm (List.getElem?_eq_none_iff.mp free) lane.behind

theorem length_of_active (held : lane.active = some key) : lane.claimed.length = lane.released + 1 := by
  obtain ⟨within, _⟩ := List.getElem?_eq_some_iff.mp held
  have single := lane.single
  omega

theorem place_unique (first : lane.claimed[i]? = some key) (second : lane.claimed[j]? = some key) : i = j := by
  obtain ⟨within, _⟩ := List.getElem?_eq_some_iff.mp first
  exact (List.getElem?_inj within lane.distinct).mp (first.trans second.symm)

def claim (lane : Lane κ) (key : κ) (fresh : key ∉ lane.claimed) (free : lane.active = none) : Lane κ where
  claimed := lane.claimed ++ [key]
  released := lane.released
  settled := lane.settled
  distinct := by
    rw [← List.concat_eq_append]
    exact lane.distinct.concat fresh
  ordered := lane.ordered
  behind := by
    rw [List.length_append]
    exact Nat.le_add_right_of_le lane.behind
  single := by
    exact (by rw [List.length_append, length_of_free free, List.length_singleton] : _ = _).le

def release (lane : Lane κ) (held : lane.active = some key) : Lane κ where
  claimed := lane.claimed
  released := lane.released + 1
  settled := lane.settled
  distinct := lane.distinct
  ordered := Nat.le_succ_of_le lane.ordered
  behind := (length_of_active held).ge
  single := by
    rw [length_of_active held]
    exact Nat.le_succ _

def settle (lane : Lane κ) (waiting : lane.settled < lane.released) : Lane κ where
  claimed := lane.claimed
  released := lane.released
  settled := lane.settled + 1
  distinct := lane.distinct
  ordered := waiting
  behind := lane.behind
  single := lane.single

theorem claim_active (fresh : key ∉ lane.claimed) (free : lane.active = none) :
    (lane.claim key fresh free).active = some key := by
  simp only [active, claim, ← length_of_free free]
  simp

theorem release_active (held : lane.active = some key) : (lane.release held).active = none := by
  simp only [active, release, List.getElem?_eq_none_iff]
  exact (length_of_active held).le

theorem settle_settlements (waiting : lane.settled < lane.released) (place : lane.claimed[lane.settled]? = some key) :
    (lane.settle waiting).settlements = lane.settlements ++ [key] := by
  simp only [settlements, settle, List.take_add_one, place, Option.toList_some]

theorem claim_settlements (fresh : key ∉ lane.claimed) (free : lane.active = none) :
    (lane.claim key fresh free).settlements = lane.settlements := by
  have within := lane.ordered.trans lane.behind
  simp only [settlements, claim, List.take_append_of_le_length within]

theorem claim_place (fresh : key ∉ lane.claimed) (free : lane.active = none)
    (place : (lane.claim key fresh free).claimed[i]? = some other) :
    lane.claimed[i]? = some other ∨ i = lane.released ∧ other = key := by
  simp only [claim, List.getElem?_append] at place
  split at place
  · exact Or.inl place
  · rename_i past
    obtain ⟨last, same⟩ := List.getElem?_eq_some_iff.mp place
    rw [List.length_singleton] at last
    rw [← length_of_free free]
    refine Or.inr ⟨by omega, ?_⟩
    simpa using same.symm

end Lane
end JBCenter
