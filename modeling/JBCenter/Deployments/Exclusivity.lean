import JBCenter.Base.Leases
import JBCenter.Deployments.Solvency

/-! Any number of workers on one deployment: its signing leases and its dispatch leases never overlap,
and it is signed once. -/
namespace JBCenter.Deployments
open Rest

variable {rules : Rules} {config : WalletDeploymentPoolConfiguration} {configuredAt : Int} {s t : Store} {op : Op}
  {outcome : Outcome} {history : History} {id : String}

def newSigning (id : String) (answer : Answer Op RestError Outcome) : Option Lease :=
  match answer.op, answer.result with
  | .leaseSigning request, .ok (.signing _ (some lease)) =>
    if request.operationId = id then some ⟨request.now, lease.expires⟩ else none
  | _, _ => none

def newDispatch (id : String) (answer : Answer Op RestError Outcome) : Option Lease :=
  match answer.op, answer.result with
  | .leaseDispatch request, .ok (.dispatch journal false) =>
    if request.operationId = id then some ⟨request.now, journal.leaseUntil⟩ else none
  | _, _ => none

def History.signings (history : History) (id : String) : List Lease := history.filterMap (newSigning id)

def History.dispatches (history : History) (id : String) : List Lease := history.filterMap (newDispatch id)

/-- While the operation is unsigned it holds the last signing lease that was given. -/
structure LeasedSigning (leases : List Lease) (s : Store) (id : String) : Prop where
  exclusive : Exclusive leases
  last : ∀ lease, leases.getLast? = some lease → ∃ operation, s.operations.get id = some operation ∧
    operation.state ≠ .prepared ∧ (operation.state = .claimed → ∃ held, operation.signingLease = some held ∧
      held.expires = lease.expires)

/-- The journal counts the dispatch leases, and its next attempt is after the last of them. -/
structure LeasedDispatch (leases : List Lease) (s : Store) (id : String) : Prop where
  exclusive : Exclusive leases
  counted : leases.length = (s.dispatches.get id).elim 0 (·.attempts)
  bounded : leases.length ≤ maximumAttempts
  last : ∀ lease, leases.getLast? = some lease → ∃ journal, s.dispatches.get id = some journal ∧
    lease.expires ≤ journal.nextAttemptAt

variable {leases : List Lease}

theorem LeasedSigning.kept (leased : LeasedSigning leases s id) (effect : Effect s op outcome t)
    (other : ∀ request, op ≠ .leaseSigning request) : LeasedSigning leases t id := by
  refine ⟨leased.exclusive, ?_⟩
  intro lease isLast
  obtain ⟨prior, stored, claimed, holds⟩ := leased.last lease isLast
  obtain ⟨next, held, rewrite⟩ := effect.rewrites stored claimed
  refine ⟨next, held, ?_⟩
  cases rewrite with
  | same => exact ⟨claimed, holds⟩
  | signing asked => exact absurd asked (other _)
  | signed => exact ⟨by simp [signedAs], by simp [signedAs]⟩
  | observed => exact ⟨claimed, holds⟩
  | released => exact ⟨claimed, holds⟩
  | settled => exact ⟨claimed, holds⟩

theorem LeasedSigning.step (leased : LeasedSigning leases s id) (effect : Effect s op outcome t) :
    LeasedSigning (leases ++ (newSigning id ⟨op, .ok outcome⟩).toList) t id := by
  cases op with
  | leaseSigning request =>
    cases effect with
    | replayed again =>
      have none_given : newSigning id ⟨.leaseSigning request, .ok outcome⟩ = none := by
        unfold newSigning
        split
        · rename_i same
          cases same
          cases again
        · rfl
      rw [none_given, Option.toList_none, List.append_nil]
      exact leased
    | fenced _ _ fences => cases fences
    | @signing _ operation leases =>
      by_cases named : request.operationId = id
      · rw [← named, ← leases.named] at leased ⊢
        simp only [newSigning, leases.named, if_true, Option.toList_some]
        constructor
        · refine leased.exclusive.snoc ?_ ?_
          · intro last isLast
            obtain ⟨prior, stored, _, holds⟩ := leased.last last isLast
            cases Option.some.inj (leases.stored.symm.trans stored)
            obtain ⟨held, isHeld, same⟩ := holds leases.claimed
            rw [← same]
            exact leases.free held isHeld
          · have lasts := leases.lasts
            simp only [LeaseSigningRequest.lease]
            omega
        · intro lease isLast
          rw [List.getLast?_concat, Option.some.injEq] at isLast
          subst isLast
          refine ⟨signingAs request operation, (Store.get_putOperation ..).trans (if_pos leases.named.symm),
            ?_, fun _ => ⟨request.lease, rfl, rfl⟩⟩
          simp [signingAs, leases.claimed]
      · simp only [newSigning, if_neg named, Option.toList_none, List.append_nil]
        refine ⟨leased.exclusive, ?_⟩
        intro lease isLast
        obtain ⟨prior, stored, rest⟩ := leased.last lease isLast
        have differ : id ≠ (signingAs request operation).id := fun same => named (leases.named.symm.trans same.symm)
        exact ⟨prior, (Store.get_putOperation ..).trans ((if_neg differ).trans stored), rest⟩
  | _ => simpa [newSigning] using leased.kept effect (by simp)

theorem Effect.journal_kept (effect : Effect s op outcome t) (keyed : Keyed s) (other : ∀ request, op ≠ .leaseDispatch request) :
    (t.dispatches.get id).map (fun journal => (journal.attempts, journal.nextAttemptAt)) =
      (s.dispatches.get id).map (fun journal => (journal.attempts, journal.nextAttemptAt)) := by
  cases effect with
  | dispatched => exact absurd rfl (other _)
  | @dispatchSettled request prior settles =>
    rw [Store.get_putDispatch]
    split
    · rename_i this
      have stored := settles.stored
      rw [← keyed.dispatches _ _ stored] at stored
      rw [this, show s.dispatches.get (settledJournal request prior).operationId = _ from stored]
      rfl
    · rfl
  | replayed => rfl
  | initialized => rfl
  | fenced => rfl
  | settled => rfl
  | released => rfl
  | prepared => rfl
  | cleaned => rfl
  | claimed => rfl
  | signing => rfl
  | signed => rfl
  | observed => rfl

theorem LeasedDispatch.kept (leased : LeasedDispatch leases s id)
    (same : (t.dispatches.get id).map (fun journal => (journal.attempts, journal.nextAttemptAt)) =
      (s.dispatches.get id).map (fun journal => (journal.attempts, journal.nextAttemptAt))) : LeasedDispatch leases t id := by
  have attempts (s : Store) : (s.dispatches.get id).elim 0 (·.attempts) =
      ((s.dispatches.get id).map (fun journal => (journal.attempts, journal.nextAttemptAt))).elim 0 (·.1) := by
    cases s.dispatches.get id <;> rfl
  refine ⟨leased.exclusive, ?_, leased.bounded, ?_⟩
  · rw [attempts, same, ← attempts]
    exact leased.counted
  · intro lease isLast
    obtain ⟨journal, stored, before⟩ := leased.last lease isLast
    rw [stored, Option.map_some] at same
    obtain ⟨next, held, equal⟩ := Option.map_eq_some_iff.mp same
    exact ⟨next, held, before.trans (congrArg Prod.snd equal).ge⟩

theorem LeasedDispatch.step (leased : LeasedDispatch leases s id) (keyed : Keyed s)
    (effect : Effect s op outcome t) : LeasedDispatch (leases ++ (newDispatch id ⟨op, .ok outcome⟩).toList) t id := by
  cases op with
  | leaseDispatch request =>
    cases effect with
    | replayed again =>
      have none_given : newDispatch id ⟨.leaseDispatch request, .ok outcome⟩ = none := by
        unfold newDispatch
        split
        · rename_i same
          cases same
          cases again
        · rfl
      rw [none_given, Option.toList_none, List.append_nil]
      exact leased
    | fenced _ _ fences => cases fences
    | @dispatched _ operation template leaseUntil given =>
      by_cases named : request.operationId = id
      · subst named
        have due := given.due
        have journaled := (Store.get_putDispatch (s := s)
          (leasedJournal (s.dispatches.get operation.id) operation template request
          leaseUntil) request.operationId).trans (if_pos given.named.symm)
        rw [given.named] at due journaled ⊢
        simp only [newDispatch, if_true, Option.toList_some]
        have counted := leased.counted
        refine ⟨leased.exclusive.snoc ?_ given.lasts, ?_, ?_, ?_⟩
        · intro last isLast
          obtain ⟨prior, stored, before⟩ := leased.last last isLast
          exact before.trans (due prior stored).1
        · rw [journaled, List.length_append, counted, Option.elim_some, leasedJournal]
          cases s.dispatches.get request.operationId <;> simp
        · rw [List.length_append, List.length_singleton, counted]
          cases held : s.dispatches.get request.operationId with
          | none => decide
          | some prior => exact (due prior held).2
        · intro lease isLast
          rw [List.getLast?_concat, Option.some.injEq] at isLast
          subst isLast
          refine ⟨_, journaled, ?_⟩
          simp [leasedJournal, cooldownMs]
      · simp only [newDispatch, if_neg named, Option.toList_none, List.append_nil]
        refine leased.kept ?_
        have differ : id ≠ operation.id := fun same => named (given.named.symm.trans same.symm)
        rw [Store.get_putDispatch,
          if_neg (show id ≠
          (leasedJournal _ operation template request leaseUntil).operationId from differ)]
  | _ => simpa [newDispatch] using leased.kept (effect.journal_kept keyed (by simp))

theorem run_leased (run : StoreRuns rules config configuredAt history s) (id : String) :
    LeasedSigning (history.signings id) s id ∧ LeasedDispatch (history.dispatches id) s id := by
  refine run.invariant (P := fun history s => LeasedSigning (History.signings history id) s id ∧
    LeasedDispatch (History.dispatches history id) s id) ?_ ?_
  · refine ⟨⟨.nil, ?_⟩, ⟨.nil, rfl, Nat.zero_le _, ?_⟩⟩
    · intro lease isLast
      cases isLast
    · intro lease isLast
      cases isLast
  · intro history s answer t past ⟨signing, dispatch⟩ performed
    obtain ⟨op, result⟩ := answer
    rw [History.signings, History.dispatches, filterMap_snoc, filterMap_snoc]
    obtain ⟨outcome, rfl, effect⟩ | ⟨rfl, error, rfl⟩ := performs_effect (keyed_run past) performed
    · exact ⟨signing.step effect, dispatch.step (keyed_run past) effect⟩
    · have quiet : newSigning id ⟨op, .error error⟩ = none ∧ newDispatch id ⟨op, .error error⟩ = none := by
        cases op <;> exact ⟨rfl, rfl⟩
      rw [quiet.1, quiet.2, Option.toList_none, List.append_nil, List.append_nil]
      exact ⟨signing, dispatch⟩

theorem Rewrite.signed_kept {prior next : WalletDeploymentOperation} {signed : SignedDeployment}
    (rewrites : Rewrite s op prior next)
    (held : prior.signed = some signed) : next.signed = some signed := by
  cases rewrites with
  | signed _ signs => exact nomatch signs.unsigned.symm.trans held
  | same => exact held
  | signing => exact held
  | observed => exact held
  | released => exact held
  | settled => exact held

theorem signed_run {operation : WalletDeploymentOperation} {signed : SignedDeployment} {later : History} (keyed : Keyed s)
    (priced : Priced s) (stored : s.operations.get id = some operation) (held : operation.signed = some signed)
    (after : Run (Performs (perform rules)) s later t) :
    ∃ next, t.operations.get id = some next ∧ next.signed = some signed := by
  suffices Keyed t ∧ Priced t ∧ ∃ next, t.operations.get id = some next ∧ next.signed = some signed from this.2.2
  refine after.state_invariant (P := fun t => Keyed t ∧ Priced t ∧ ∃ next, t.operations.get id = some next ∧
    next.signed = some signed) ⟨keyed, priced, operation, stored, held⟩ ?_
  intro s answer t ⟨keyed, priced, prior, stored, held⟩ performed
  obtain ⟨outcome, _, effect⟩ | ⟨rfl, _⟩ := performs_effect keyed performed
  · have claimed : prior.state ≠ .prepared := by
      rw [(priced.signed id prior signed stored held).1]
      decide
    obtain ⟨next, row, rewrite⟩ := effect.rewrites stored claimed
    exact ⟨keyed.kept effect, priced.kept keyed effect, next, row, rewrite.signed_kept held⟩
  · exact ⟨keyed, priced, prior, stored, held⟩

/-- Nothing of the operation's transaction was seen on chain: no inclusion and no wallet, and the nonce
is the next of the sender in both views. -/
def Undispatched (id : String) (s : Store) : Prop :=
  ∃ operation observation template, s.operations.get id = some operation ∧ operation.observation = some observation ∧
    operation.template = some template ∧ observation.transaction.state = .notObserved ∧ observation.wallet.state = .undeployed ∧
    observation.transaction.nonce = some ⟨template.nonce, template.nonce⟩

theorem Effect.dispatch_undispatched {lease : Lease} (effect : Effect s op outcome t)
    (given : newDispatch id ⟨op, .ok outcome⟩ = some lease) : Undispatched id s := by
  unfold newDispatch at given
  split at given
  · rename_i request journal isOp isOutcome
    cases isOp
    cases isOutcome
    split at given
    · rename_i named
      cases effect with
      | replayed again => cases again
      | fenced _ _ fences => cases fences
      | @dispatched _ operation template leaseUntil leases =>
        obtain ⟨observation, own, observed, templated, unobserved⟩ := admissible_undispatched leases.admitted
        simp only [undispatched, Bool.and_eq_true, decide_eq_true_eq] at unobserved
        obtain ⟨⟨⟨state, wallet⟩, nonces⟩, _⟩ := unobserved
        exact ⟨operation, observation, own, named ▸ leases.named ▸ leases.stored, observed, templated, state, wallet, nonces⟩
    · cases given
  · cases given

/-- One signed transaction and exclusive leases of every deployment, over every order of any number of
workers' calls, whatever the clock reads. -/
theorem deployment_exclusive (run : StoreRuns rules config configuredAt history s) (id : String) :
    (∀ operation signed, s.operations.get id = some operation → operation.signed = some signed →
      ∀ later t, Run (Performs (perform rules)) s later t →
        ∃ next, t.operations.get id = some next ∧ next.signed = some signed) ∧
    Exclusive (history.signings id) ∧ Exclusive (history.dispatches id) ∧ (history.dispatches id).length ≤ 8 ∧
    ∀ earlier answer later, history = earlier ++ answer :: later → newDispatch id answer ≠ none →
      ∃ before, StoreRuns rules config configuredAt earlier before ∧ Undispatched id before := by
  obtain ⟨signing, dispatch⟩ := run_leased run id
  refine ⟨?_, signing.exclusive, dispatch.exclusive, dispatch.bounded, ?_⟩
  · intro operation signed stored held later t after
    exact signed_run (keyed_run run) (priced_run run) stored held after
  · rintro earlier ⟨op, result⟩ later rfl given
    rw [show earlier ++ ⟨op, result⟩ :: later = earlier ++ [⟨op, result⟩] ++ later by simp] at run
    obtain ⟨_, upTo, _⟩ := run.split
    obtain ⟨before, past, taken⟩ := upTo.split
    refine ⟨before, past, ?_⟩
    obtain ⟨lease, given⟩ := Option.ne_none_iff_exists'.mp given
    obtain ⟨outcome, rfl, effect⟩ | ⟨_, error, rfl⟩ := performs_effect (keyed_run past) taken.single
    · exact effect.dispatch_undispatched given
    · cases op <;> cases given

theorem deployment_exclusive_sample : (∃ operation signed, sampleRun.2.operations.get "first" = some operation ∧
      operation.signed = some signed ∧ ∀ later t, Run (Performs (perform sampleRules)) sampleRun.2 later t →
        ∃ next, t.operations.get "first" = some next ∧ next.signed = some signed) ∧
    (Exclusive (History.signings sampleRun.1 "first") ∧ (History.signings sampleRun.1 "first").length = 1) ∧
    Exclusive (History.dispatches sampleRun.1 "first") ∧ (History.dispatches sampleRun.1 "first").length = 1 := by
  obtain ⟨kept, signings, dispatches, _⟩ := deployment_exclusive sampleRun_runs "first"
  have present : ((sampleRun.2.operations.get "first").bind (·.signed)).isSome = true := by decide +kernel
  obtain ⟨signed, held⟩ := Option.isSome_iff_exists.mp present
  obtain ⟨operation, stored, held⟩ := some_bind held
  exact ⟨⟨operation, signed, stored, held, kept operation signed stored held⟩, ⟨signings, by decide +kernel⟩,
    dispatches, by decide +kernel⟩

end JBCenter.Deployments
