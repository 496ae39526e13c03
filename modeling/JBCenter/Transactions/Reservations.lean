import JBCenter.Base.OrderedMap
import JBCenter.Transactions.Store
import Mathlib.Data.List.Sort

/-! The permanent transport of each plan step, shared by the direct, sponsorship and
userOperation stores. A claim checks every index before it writes one. -/
namespace JBCenter.Transactions
open Rest

structure Reservation where
  transport : ReservedTransport
  bindingId : String
  deriving DecidableEq

abbrev Transports := OrderedMap String (OrderedMap Int Reservation)

namespace Transports

/-- The reservation of one plan step. -/
def reservation (table : Transports) (planId : String) (index : Int) : Option Reservation :=
  (table.get planId).bind (fun reserved => reserved.get index)

def parameters (planId : String) (stepIndexes : List Int) (transport : ReservedTransport)
    (bindingId : String) : Except RestError (List Int) := do
  assertText planId 192
  assertText bindingId 192
  refuse (transport = .direct && !isLowerHex 64 bindingId)
    (invalid "Direct transaction transport requires the normalized transaction hash.")
  refuse (stepIndexes.length < 1 || maximumSteps < stepIndexes.length || !stepIndexes.Nodup ||
      stepIndexes.any (fun index => !isSafeInteger index || index < 0 || (maximumSteps : Int) ≤ index))
    (invalid "Invalid transaction transport step indexes.")
  return stepIndexes.insertionSort (· ≤ ·)

def transportConflict (stepIndex : Int) : RestError :=
  ⟨409, "TRANSPORT_CONFLICT",
    "A transaction step is permanently bound to a different transport or submission.",
    some (.stepIndex stepIndex)⟩

/-- No index may be bound to anything else; `absent` says whether an unbound one may pass. -/
def checkIndexes (table : Transports) (planId : String) (indexes : List Int) (binding : Reservation)
    (absent : Bool) : Except RestError Unit :=
  indexes.forM fun index =>
    refuse (match table.reservation planId index with
      | some existing => existing ≠ binding
      | none => !absent) (transportConflict index)

def claim (planId : String) (stepIndexes : List Int) (transport : ReservedTransport)
    (bindingId : String) : Fallible RestError Transports Unit := do
  let indexes ← Fallible.check (parameters planId stepIndexes transport bindingId)
  let table ← get
  Fallible.check (checkIndexes table planId indexes ⟨transport, bindingId⟩ true)
  let reserved := (table.get planId).getD .empty
  set (table.set planId (indexes.foldl (fun reserved index =>
    reserved.set index ⟨transport, bindingId⟩) reserved))

def assertClaimed (table : Transports) (planId : String) (stepIndexes : List Int)
    (transport : ReservedTransport) (bindingId : String) : Except RestError Unit := do
  let indexes ← parameters planId stepIndexes transport bindingId
  checkIndexes table planId indexes ⟨transport, bindingId⟩ false

def list (table : Transports) (planId : String) : Except RestError (List TransportReservation) := do
  assertText planId 192
  return (((table.get planId).elim [] OrderedMap.entries).map (fun (stepIndex, reservation) =>
    (⟨stepIndex, reservation.transport, reservation.bindingId⟩ : TransportReservation))).insertionSort
      (fun a b => a.stepIndex ≤ b.stepIndex)

theorem parameters_ok (accepted : parameters planId stepIndexes transport bindingId = .ok indexes) :
    ∀ index, index ∈ indexes ↔ index ∈ stepIndexes := by
  unfold parameters at accepted
  iterate 4 obtain ⟨_, _, accepted⟩ := ok_bind accepted
  cases accepted
  intro index
  exact List.mem_insertionSort _

theorem checkIndexes_claimed (accepted : checkIndexes table planId indexes binding false = .ok ()) :
    ∀ index ∈ indexes, table.reservation planId index = some binding := by
  intro index member
  have checked := refuse_ok.mp (forM_ok.mp accepted index member)
  split at checked
  · rename_i existing found
    simp only [ne_eq, decide_not, Bool.not_eq_false', decide_eq_true_eq] at checked
    rw [found, checked]
  · contradiction

theorem checkIndexes_free (accepted : checkIndexes table planId indexes binding true = .ok ()) :
    ∀ index ∈ indexes, ∀ existing, table.reservation planId index = some existing → existing = binding := by
  intro index member existing found
  have checked := refuse_ok.mp (forM_ok.mp accepted index member)
  simpa [found] using checked

theorem assertClaimed_ok
    (accepted : assertClaimed table planId stepIndexes transport bindingId = .ok ()) :
    ∀ index ∈ stepIndexes, table.reservation planId index = some ⟨transport, bindingId⟩ := by
  unfold assertClaimed at accepted
  obtain ⟨indexes, sorted, accepted⟩ := ok_bind accepted
  intro index member
  exact checkIndexes_claimed accepted index ((parameters_ok sorted index).mpr member)

theorem list_ok (listed : list table planId = .ok bindings) :
    ∀ binding ∈ bindings,
      table.reservation planId binding.stepIndex = some ⟨binding.transport, binding.bindingId⟩ := by
  unfold list at listed
  obtain ⟨_, _, listed⟩ := ok_bind listed
  cases listed
  intro binding member
  rw [List.mem_insertionSort, List.mem_map] at member
  obtain ⟨⟨stepIndex, reservation⟩, member, rfl⟩ := member
  cases held : table.get planId with
  | none => simp [held] at member
  | some reserved =>
    simp only [held, Option.elim_some] at member
    simpa only [Transports.reservation, held, Option.bind_some] using OrderedMap.get_of_mem member

/-- A successful claim binds exactly its indexes, each unbound or bound the same before. -/
theorem claim_ok
    (claimed : (claim planId stepIndexes transport bindingId).run table = .ok result next) :
    (∀ index ∈ stepIndexes, ∀ existing, table.reservation planId index = some existing →
      existing = ⟨transport, bindingId⟩) ∧
    ∀ id index, next.reservation id index =
      if id = planId ∧ index ∈ stepIndexes then some ⟨transport, bindingId⟩
      else table.reservation id index := by
  unfold claim at claimed
  obtain ⟨indexes, sorted, claimed⟩ := Fallible.check_bind_ok claimed
  obtain ⟨_, free, claimed⟩ := Fallible.check_bind_ok (s := table) claimed
  have members := parameters_ok sorted
  cases claimed
  refine ⟨fun index member => checkIndexes_free free index ((members index).mpr member), ?_⟩
  intro id index
  by_cases same : id = planId
  · subst same
    simp only [reservation, OrderedMap.get_set_self, Option.bind_some, OrderedMap.get_foldl_set, members,
      true_and]
    split
    · rfl
    · cases table.get id <;> rfl
  · simp only [reservation, OrderedMap.get_set_ne _ _ same, same, false_and, if_false]

/-- A reservation, once made, stays. -/
def Extends (before after : Transports) : Prop :=
  ∀ id index binding, before.reservation id index = some binding → after.reservation id index = some binding

theorem claim_extends
    (claimed : (claim planId stepIndexes transport bindingId).run table = .ok result next) :
    table.Extends next := by
  obtain ⟨free, after⟩ := claim_ok claimed
  intro id index binding found
  rw [after]
  split
  · rename_i inside
    rw [inside.1] at found
    exact congrArg some (free index inside.2 binding found).symm
  · exact found

theorem claim_atomic : Fallible.Atomic (claim planId stepIndexes transport bindingId) table := by
  apply Fallible.atomic_check_bind
  intro indexes _
  apply Fallible.atomic_get_bind
  apply Fallible.atomic_check_bind
  intro _ _
  apply Fallible.atomic_of_succeeds
  intro e t failed
  cases failed

end Transports
end JBCenter.Transactions
