import JBCenter.Transactions.Exclusivity
import JBCenter.Transactions.Leases

/-! Idempotency keys. A key is bound once, to the request that first succeeded under it, and
every plan it names stays readable to its actor: a replayed create answers with that plan
and a replayed claim is decided by the step it was first made for. -/
namespace JBCenter.Transactions
open Rest Fallible
open OrderedMap (get_set get_set_ne get_set_self set_get)
variable {bytes : JsonBytes} {id : String} {s t : Memory}

theorem assertNewPlan_named (new : assertNewPlan bytes plan now = .ok ()) :
    assertActor plan.actor = .ok () ∧ assertText plan.id 192 = .ok () := by
  unfold assertNewPlan at new
  obtain ⟨_, known, new⟩ := ok_bind new
  obtain ⟨_, text, _⟩ := ok_bind new
  exact ⟨known, text⟩

/-- The actor, the request and the plan step of an operation made under an idempotency key. -/
def Op.request : Op → Option (RestActor × IdempotencyClaim × Option (String × Int))
  | .create input claim _ _ => some (input.actor, claim, none)
  | .claimSubmission claim _ _ => some (claim.actor, claim.idempotency, some (claim.planId, claim.stepIndex))
  | _ => none

/-- The checks a submission passes before its idempotency key is read. -/
structure Admitted (bytes : JsonBytes) (claim : SubmissionClaim) : Prop where
  known : assertActor claim.actor = .ok ()
  valid : assertIdempotency claim.idempotency = .ok ()
  small : bytes.claim claim ≤ maximumPlanBytes

/-- The claim carries the signed transaction its step holds, and the step is to be left alone. -/
structure Repeats (claim : SubmissionClaim) (step : StoredStep) (held : SignedAttempt) : Prop where
  revision : assertRevision claim.expectedRevision = .ok ()
  time : assertTime claim.now = .ok ()
  attempt : assertAttempt claim.attempt = .ok ()
  same : attemptIdentity held = attemptIdentity claim.attempt
  idle : claim.dispatch = false ∨ step.state = .confirmed ∨ step.state = .reverted ∨
    claim.now < held.leaseUntil

/-- The error an operation is refused with. -/
def refusal (bytes : JsonBytes) (op : Op) (s : Memory) : Option RestError :=
  match (perform bytes op).run s with
  | .ok _ _ => none
  | .error error _ => some error

end JBCenter.Transactions
