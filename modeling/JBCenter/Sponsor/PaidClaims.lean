import JBCenter.Sponsor.Verdicts

/-! One claim and its paid rows. While a claim runs, a paid row of it fails only on a verdict, and when
the claim is over every paid row of it has its outcome or can be claimed again. -/
namespace JBCenter.Sponsor
open JBCenter.Action (safe_bind safe_imp safe_modify safe_mono safe_request)

/-- A claim under way: the claims after it, the chains of it that were over from the start, and the
chains that the lane is called for. -/
structure ClaimRun where
  intent : Intent
  claimed : List Nat
  rest : List (String × List Nat)
  closed : List Nat
  chainIds : List Nat
  inside : ∀ chainId ∈ chainIds, chainId ∈ claimed
  apart : ∀ chainId ∈ chainIds, chainId ∉ closed
  covers : ∀ chainId ∈ claimed, chainId ∈ closed ∨ chainId ∈ chainIds
  nonempty : chainIds ≠ []

namespace ClaimRun
variable (run : ClaimRun)

/-- Nothing is paid for as long as the claim has no bundle. -/
def unpaidOf (l : Locals) : List Nat := if l.bundleUuid.isSome then [] else run.chainIds

/-- What is known of the paid rows while the lane call runs. -/
def Keeps (unpaid : List Nat) (offered : List Bundle) (l : Locals) (w : World) : Prop :=
  Tidy run.intent.id ((run.intent.id, run.claimed) :: run.rest) (run.closed ++ l.done) unpaid offered w

/-- What a throw leaves. -/
def Held (offered : List Bundle) (l : Locals) (w : World) : Prop := run.Keeps (run.unpaidOf l) offered l w

def bundle (bundleUuid : String) : Bundle := ⟨bundleUuid, run.intent.id, run.chainIds⟩

def phase : Phase → Locals → World → Prop
  | .building, l, w => l.handling = none ∧ run.Held [] l w ∧ l.done = [] ∧ l.bundleUuid = none
  | .quoted bundleUuid, l, w => l.handling = none ∧ run.Held [run.bundle bundleUuid] l w ∧ l.done = [] ∧
    l.bundleUuid = none
  | .recorded bundleUuid, l, w => l.handling = none ∧ run.Held [run.bundle bundleUuid] l w ∧ l.done = [] ∧
    l.bundleUuid.isSome
  | .polling _, l, w => l.handling = none ∧ run.Held [] l w ∧ l.done = [] ∧ l.bundleUuid.isSome
  | .settling _, l, w => l.handling = none ∧ run.Held [] l w ∧ l.bundleUuid.isSome
  | .closing message, l, w => l.handling = none ∧
    ((message ∈ settledMessages ∧ run.Held [] l w) ∨ run.Keeps run.chainIds [] l w)

variable {run} {l : Locals} {w : World} {unpaid : List Nat} {offered : List Bundle}

theorem Held.weaken (held : run.Held offered l w) : run.Held [] l w := { held with offered := by simp }

theorem Keeps.stable {w' : World} (kept : RowsKept w w') (held : run.Keeps unpaid offered l w) :
    run.Keeps unpaid offered l w' := Tidy.stable kept held

theorem Held.stable {w' : World} (kept : RowsKept w w') (held : run.Held offered l w) : run.Held offered l w' :=
  Tidy.stable kept held

theorem Held.keeps (held : run.Held offered l w) (unsubmitted : l.bundleUuid = none) :
    run.Keeps run.chainIds offered l w := by
  simpa only [Held, unpaidOf, unsubmitted, Option.isSome_none, Bool.false_eq_true, if_false] using held

theorem Keeps.held (keeps : run.Keeps run.chainIds offered l w) : run.Held offered l w := by
  refine { keeps with unpaid := fun chainId member => keeps.unpaid chainId ?_ }
  unfold unpaidOf at member
  split at member
  · cases member
  · exact member

theorem phase_stable {p : Phase} {a b : World} (kept : RowsKept a b) (now : run.phase p l a) : run.phase p l b := by
  cases p with
  | building => exact ⟨now.1, now.2.1.stable kept, now.2.2⟩
  | quoted bundleUuid => exact ⟨now.1, now.2.1.stable kept, now.2.2⟩
  | recorded bundleUuid => exact ⟨now.1, now.2.1.stable kept, now.2.2⟩
  | polling bundleUuid => exact ⟨now.1, now.2.1.stable kept, now.2.2⟩
  | settling bundleUuid => exact ⟨now.1, now.2.1.stable kept, now.2.2⟩
  | closing message =>
    exact ⟨now.1, now.2.imp (fun known => ⟨known.1, known.2.stable kept⟩) (Keeps.stable kept)⟩

theorem phase_held {p : Phase} (now : run.phase p l w) : run.Held [] l w := by
  cases p with
  | quoted bundleUuid => exact now.2.1.weaken
  | recorded bundleUuid => exact now.2.1.weaken
  | closing message => exact now.2.elim And.right Keeps.held
  | _ => exact now.2.1

theorem phase_settled {p : Phase} {chains : List Nat} (now : run.phase p l w) :
    run.phase p { l with settled := chains } w := by
  cases p <;> exact now

variable {chainId : Nat} {bundleUuid : String}

theorem keeps_done (held : run.Keeps unpaid offered l w) (settled : Settled w run.intent.id chainId) :
    run.Keeps unpaid offered { l with done := l.done ++ [chainId] } w where
  offered := held.offered
  known := held.known
  waiting := held.waiting
  settled := by
    intro other member
    rw [← List.append_assoc] at member
    rcases List.mem_append.mp member with before | last
    · exact held.settled other before
    · cases List.mem_singleton.mp last
      exact settled
  unpaid := held.unpaid

theorem safe_fail {message : String} (member : chainId ∈ run.chainIds)
    (held : run.Keeps unpaid offered l w)
    (verdict : Unpaid w run.intent.id chainId ∨ Verdict { status := some .failed, error := some message } l.handling) :
    (fail run.intent.id chainId message).safe paidSetting l (fun _ l' w' => l' = { l with done := l.done ++ [chainId] } ∧
      run.Keeps unpaid offered l' w') (fun _ l' w' => l' = l ∧ run.Keeps unpaid offered l w') w := by
  refine safe_bind (safe_imp (safe_claimed (run.inside chainId member) (.inl rfl) (.inl rfl) held
    (fun _ => verdict)) ?_)
  rintro _ l' w ⟨rfl, held, settled⟩
  exact safe_modify ⟨rfl, keeps_done held (settled (.inl rfl))⟩

theorem verdict_message {message : String} {patch : DeployPatch} (listed : message ∈ settledMessages)
    (named : patch.error = some message) (free : l.handling = none) : Verdict patch l.handling := by
  rw [free]
  exact ⟨message, List.mem_cons_of_mem _ listed, named⟩

theorem safe_record {hash projectId : String} (member : chainId ∈ run.chainIds)
    (held : run.Held offered l w) : (Report.record run.intent chainId hash projectId).safe paidSetting l
      (fun _ l' w' => l' = { l with done := l.done ++ [chainId] } ∧ run.Held offered l' w')
      (fun _ l' w' => l' = l ∧ run.Held offered l w') w := by
  iterate 2
    refine safe_bind (safe_imp (safe_calm rfl Held.stable held) ?_)
    rintro _ l' w ⟨rfl, held⟩
  refine safe_bind (safe_imp (safe_claimed (run.inside chainId member) (.inr (.inl rfl)) (.inl rfl) held
    (fun failed => by cases failed)) ?_)
  rintro _ l' w ⟨rfl, held, settled⟩
  exact safe_modify ⟨rfl, keeps_done held (settled (.inr rfl))⟩

/-- While a launch is confirmed only a definitive error is raised, so the row fails on a verdict. -/
theorem safe_confirmed {hash projectId : String} (member : chainId ∈ run.chainIds)
    (now : run.phase (.settling bundleUuid) l w) :
    (Report.confirmed run.intent chainId hash projectId).safe paidSetting l (fun _ l' w' =>
      l'.done = l.done ++ [chainId] ∧ run.phase (.settling bundleUuid) l' w') (fun _ => run.Held []) w := by
  obtain ⟨free, held, bundled⟩ := now
  refine safe_catching (safe_imp (safe_record member held) ?_) ?_
  · rintro _ l' w ⟨rfl, held⟩
    exact ⟨rfl, free, held, bundled⟩
  · rintro error l' w ⟨rfl, held⟩
    refine safe_request (run.Held [] l') held (fun _ _ kept => Held.stable kept)
      fun w held _ => ⟨trivial, fun reply orderly => ⟨?_, fun _ _ performed => by cases performed⟩⟩
    rintro _ w' performed
    cases performed
    refine safe_bind (safe_mono (safe_claimed (run.inside chainId member) (.inl rfl) (.inl rfl) held
      (fun _ => .inr orderly)) ?_ ?_)
    · rintro _ l₁ w ⟨rfl, held, settled⟩
      exact safe_modify ⟨rfl, rfl, keeps_done held (settled (.inl rfl)), bundled⟩
    · rintro _ l₁ w ⟨rfl, held⟩
      exact held

theorem safe_bundle (now : run.phase (.quoted bundleUuid) l w) :
    (Report.bundle run.intent run.chainIds bundleUuid).safe paidSetting l (fun _ l' w' => l'.done = l.done ∧
      l'.settled = l.settled ∧ run.phase (.recorded bundleUuid) l' w') (fun _ => run.Held []) w := by
  obtain ⟨free, held, empty, -⟩ := now
  refine safe_bind (safe_modify ?_)
  generalize started : { l with bundleUuid := some bundleUuid } = l₁
  have bundled : run.Held [run.bundle bundleUuid] l₁ w := by
    subst started
    exact { held with unpaid := fun _ member => absurd member List.not_mem_nil }
  refine safe_imp (Action.safe_each (fun chains l' w => l' = l₁ ∧ (∀ chainId ∈ chains, chainId ∈ run.chainIds) ∧
    run.Held [run.bundle bundleUuid] l₁ w) ⟨rfl, fun _ => id, bundled⟩ ?_) ?_
  · rintro chainId chains l' w ⟨rfl, within, held⟩
    have member := within chainId List.mem_cons_self
    refine safe_mono (safe_claimed (run.inside chainId member) (.inr (.inr ?_)) (.inr ?_) held
      (fun failed => by cases failed)) ?_ ?_
    · subst started
      simpa [empty] using run.apart chainId member
    · subst started
      exact List.not_mem_nil
    · rintro _ l₂ w ⟨rfl, held, -⟩
      exact ⟨rfl, fun other inside => within other (List.mem_cons_of_mem _ inside), held⟩
    · rintro _ l₂ w ⟨rfl, held⟩
      exact Held.weaken held
  · rintro _ l' w ⟨rfl, -, held⟩
    subst started
    exact ⟨rfl, rfl, free, held, empty, rfl⟩

/-- A prepayment makes paid rows of the chains of the claim, and of no others. -/
theorem safe_pay {raw : String} {payment : RelayrPayment} (now : run.phase (.recorded bundleUuid) l w) :
    (ask (.sendPayment (run.bundle bundleUuid) payment raw)).safe paidSetting l (fun _ l' w' => l' = l ∧
      run.phase (.recorded bundleUuid) l w') (fun _ => run.Held []) w := by
  have paid_cases : ∀ {w : World}, PaidHolds w → run.phase (.recorded bundleUuid) l w →
      run.phase (.recorded bundleUuid) l { w with paid := w.paid ++ [run.bundle bundleUuid] } := by
    rintro w holds ⟨free, held, empty, bundled⟩
    have split : ∀ key row, PaidRow { w with paid := w.paid ++ [run.bundle bundleUuid] } key row → PaidRow w key row ∨
        (key.1 = run.intent.id ∧ key.2 ∈ run.chainIds) := by
      rintro key row ⟨found, bundle, prepaid, carries⟩
      rcases List.mem_append.mp prepaid with before | now
      · exact .inl ⟨found, bundle, before, carries⟩
      · cases List.mem_singleton.mp now
        have carried : w.db.bundleOf key.1 key.2 = some bundleUuid := by
          rw [Database.bundleOf, found, Option.bind_some, carries]
          rfl
        obtain ⟨other, quoted, named, owner, holdsChain⟩ := holds.consistent.known carried
        cases holds.consistent.distinct other quoted _ (held.offered _ List.mem_cons_self) named
        exact .inr ⟨owner.symm, holdsChain⟩
    refine ⟨free, ⟨held.offered, held.known, fun key row paid open_ => ?_, fun chainId member row paid => ?_, ?_⟩, empty, bundled⟩
    · rcases split key row paid with before | ⟨owner, member⟩
      · exact held.waiting key row before open_
      · exact .inr ⟨_, List.mem_cons_self, owner.symm, run.inside key.2 member⟩
    · rcases split _ row paid with before | ⟨_, inside⟩
      · exact held.settled chainId member row before
      · rw [empty, List.append_nil] at member
        exact absurd member (run.apart chainId inside)
    · intro chainId member
      simp [unpaidOf, bundled] at member
  refine safe_request (run.phase (.recorded bundleUuid) l) now (fun _ _ => phase_stable)
    fun w now holds => ⟨trivial, fun reply _ => ⟨?_, ?_⟩⟩
  · rintro hash w' performed
    cases performed
    exact ⟨rfl, paid_cases holds now⟩
  · rintro error w' performed
    cases performed
    exact phase_held (paid_cases holds now)

theorem reportRules : ReportRules paidSetting (report run.intent run.chainIds) run.chainIds run.phase
    (fun _ => run.Held []) where
  throws := phase_held
  settled _ := phase_settled
  ask reads now := safe_calm (by rename_i request; cases request <;> first | rfl | cases reads) phase_stable now
  stall now := by
    refine safe_mono (safe_calm rfl phase_stable now) (fun _ _ _ => id) ?_
    rintro _ l' w ⟨rfl, now⟩
    exact phase_held now
  close := by
    intro p l w message allowed now
    cases p with
    | building => exact ⟨now.1, .inr (now.2.1.keeps now.2.2.2)⟩
    | quoted bundleUuid => exact ⟨now.1, .inr (now.2.1.weaken.keeps now.2.2.2)⟩
    | recorded bundleUuid => exact ⟨now.1, .inl ⟨allowed, now.2.1.weaken⟩⟩
    | _ => exact allowed.elim
  closed := by
    rintro l w chainId message member ⟨free, ⟨listed, held⟩ | keeps⟩
    · refine safe_mono (safe_fail member held (.inr (verdict_message listed rfl free))) ?_ ?_
      · rintro _ l' w ⟨rfl, held⟩
        exact ⟨rfl, rfl, free, .inl ⟨listed, held⟩⟩
      · rintro _ l' w ⟨rfl, held⟩
        exact held
    · refine safe_mono (safe_fail member keeps (.inl (keeps.unpaid chainId member))) ?_ ?_
      · rintro _ l' w ⟨rfl, keeps⟩
        exact ⟨rfl, rfl, free, .inr keeps⟩
      · rintro _ l' w ⟨rfl, keeps⟩
        exact keeps.held
  reverted := by
    rintro bundleUuid l w chainId message member listed ⟨free, held, bundled⟩
    refine safe_mono (safe_fail member held (.inr (verdict_message listed rfl free))) ?_ ?_
    · rintro _ l' w ⟨rfl, held⟩
      exact ⟨rfl, rfl, free, held, bundled⟩
    · rintro _ l' w ⟨rfl, held⟩
      exact held
  confirmed member now := safe_confirmed member now

theorem safe_open {patch : DeployPatch} (member : chainId ∈ run.chainIds) (empty : l.done = [])
    (unbundled : patch.bundleUuid = none ∨ l.bundleUuid.isSome) (open_ : patch.status ≠ some .failed)
    (held : run.Held offered l w) : (updateDeploy run.intent.id chainId patch).safe paidSetting l
      (fun _ l' w' => l' = l ∧ run.Held offered l w') (fun _ => run.Held []) w := by
  refine safe_mono (safe_claimed (run.inside chainId member) (.inr (.inr ?_)) ?_ held
    (fun failed => absurd failed open_)) ?_ ?_
  · simpa [empty] using run.apart chainId member
  · refine unbundled.imp_right fun bundled inside => ?_
    simp [unpaidOf, bundled] at inside
  · rintro _ l' w ⟨rfl, held, -⟩
    exact ⟨rfl, held⟩
  · rintro _ l' w ⟨rfl, held⟩
    exact Held.weaken held

theorem safe_sent {hash : String} (member : chainId ∈ run.chainIds)
    (now : run.phase (.polling bundleUuid) l w) : ((report run.intent run.chainIds).sent chainId hash bundleUuid).safe
      paidSetting l (fun _ l' w' => l' = l ∧ run.phase (.polling bundleUuid) l w') (fun _ => run.Held []) w := by
  obtain ⟨free, held, empty, bundled⟩ := now
  refine safe_imp (safe_open member empty (.inr bundled) (by simp) held) ?_
  rintro _ l' w ⟨rfl, held⟩
  exact ⟨rfl, free, held, empty, bundled⟩

theorem safe_create {entries : List RelayrEntry} (now : run.phase .building l w) :
    (ask (.create run.intent.id run.chainIds entries)).safe paidSetting l (fun document l' w' => l' = l ∧
      run.phase .building l w' ∧ run.phase (.quoted document.bundleUuid) l w') (fun _ => run.Held []) w := by
  refine safe_request (run.phase .building l) now (fun _ _ => phase_stable)
    fun w now _ => ⟨trivial, fun reply _ => ⟨?_, ?_⟩⟩
  · rintro document w' performed
    have kept := calm_kept (.external (.create run.intent.id run.chainIds entries)) rfl reply w
    cases performed
    obtain ⟨free, held, rest⟩ := phase_stable kept now
    refine ⟨rfl, ⟨free, held, rest⟩, free, { held with offered := fun bundle member => ?_ }, rest⟩
    cases List.mem_singleton.mp member
    exact List.mem_append_right _ List.mem_cons_self
  · rintro error w' performed
    cases performed
    exact phase_held now

theorem deployRules : DeployRules paidSetting (report run.intent run.chainIds) run.chainIds run.intent.id run.phase
    (fun _ => run.Held []) where
  toReportRules := reportRules
  create := safe_create
  bundle _ := safe_bundle
  pay := safe_pay
  paid := by
    rintro l w bundleUuid wei ⟨free, held, empty, bundled⟩
    have first : run.chainIds.headD 0 ∈ run.chainIds := by
      cases listed : run.chainIds with
      | nil => exact absurd listed run.nonempty
      | cons chainId rest => exact List.mem_cons_self
    refine safe_imp (safe_open first empty (.inl rfl) (by simp) held) ?_
    rintro _ l' w ⟨rfl, held⟩
    exact ⟨rfl, free, held.weaken, empty, bundled⟩
  sent := safe_sent
  polled now := ⟨now.1, now.2.1, now.2.2.2⟩

end ClaimRun
end JBCenter.Sponsor
