import JBCenter.Base.Outcomes
import JBCenter.Sponsor.Deploy

/-! The entries `deploy` builds. Whatever the nodes answer, a chain gets one entry for each of its setup calls whose
Safe is not there yet, and its launch after them; each entry carries the call its role names. -/
namespace JBCenter.Sponsor

/-- What the nodes of the chains hold while the entries are built, the chain a prepared request is for, and the
forwarder that request is signed for. -/
structure Outlook where
  code : Nat → String → Option String
  creationCode : Nat → String
  chainOf : Prepared → Nat
  forwarder : Nat → String

/-- The answers of nodes that hold this, and of a signer that signs what was prepared. -/
def Outlook.answers (outlook : Outlook) : (op : Op) → Except Failure op.Result → Prop
  | .external (.getCode chainId address), .ok code => code = outlook.code chainId address
  | .external (.proxyCreationCode chainId), .ok code => code = outlook.creationCode chainId
  | .external (.prepare chainId _ _ _ _), .ok prepared => outlook.chainOf prepared = chainId
  | .external (.signed prepared _), .ok entry =>
    RelayrEntry.chain entry = outlook.chainOf prepared ∧
      same (RelayrEntry.target entry) (outlook.forwarder (outlook.chainOf prepared)) = true
  | _, _ => True

section
variable (outlook : Outlook) (options : LaneOptions) (calls : List DeploymentCall)

/-- The Safe of a setup call is not there yet. -/
def missing (chainId : Nat) (call : DeploymentCall) : Bool :=
  match options.decodeSafeSetupCall call with
  | none => true
  | some plan => !(outlook.code chainId (options.predictSafeAddress plan (outlook.creationCode chainId))).any
      (fun code => code ≠ "" && code ≠ "0x")

/-- How many entries a chain gets: the setup calls whose Safe is missing, and the launch. -/
def entryCount (chainId : Nat) : Nat :=
  ((callsForChain calls chainId).1.filter (missing outlook options chainId)).length + 1

inductive Carries : RelayrEntry → EntryRole → Prop where
  | setup {entry : RelayrEntry} {index : Nat} {call : DeploymentCall}
      (committed : (callsForChain calls entry.chain).1[index]? = some call)
      (target : entry.target = options.safeFactory) (data : entry.data = call.data) :
      Carries entry ⟨entry.chain, .setup, index⟩
  | launch {entry : RelayrEntry} (target : same entry.target (outlook.forwarder entry.chain) = true) :
      Carries entry ⟨entry.chain, .launch, (callsForChain calls entry.chain).1.length⟩

end

def launched (roles : List EntryRole) : List Nat := (roles.filter (fun role => role.role = .launch)).map EntryRole.chainId

theorem launched_append (first second : List EntryRole) : launched (first ++ second) = launched first ++ launched second := by
  simp [launched]

theorem launched_setup {roles : List EntryRole} (setup : ∀ role ∈ roles, role.role = .setup) : launched roles = [] := by
  have none : roles.filter (fun role => role.role = .launch) = [] := by
    refine List.filter_eq_nil_iff.mpr fun role member => ?_
    simp [setup role member]
  simp [launched, none]

variable {outlook : Outlook} {options : LaneOptions} {calls : List DeploymentCall}
variable {report : LaneReport} {chainIds chains : List Nat} {chainId nonce : Nat} {l l' : Locals} {draft after : Draft}

/-- Creation codes that were read once are still those of the chain. -/
def Draft.Read (outlook : Outlook) (draft : Draft) : Prop :=
  ∀ chainId code, draft.codes.lookup chainId = some code → code = outlook.creationCode chainId

structure Adds (outlook : Outlook) (options : LaneOptions) (calls : List DeploymentCall) (before after : Draft)
    (added : List RelayrEntry) (named : List EntryRole) : Prop where
  entries : after.entries = before.entries ++ added
  roles : after.roles = before.roles ++ named
  carried : List.Forall₂ (Carries outlook options calls) added named
  read : after.Read outlook

theorem Adds.nil (read : draft.Read outlook) : Adds outlook options calls draft draft [] [] :=
  ⟨by simp, by simp, .nil, read⟩

theorem Adds.append {middle : Draft} {first second : List RelayrEntry} {roles others : List EntryRole}
    (one : Adds outlook options calls draft middle first roles)
    (two : Adds outlook options calls middle after second others) :
    Adds outlook options calls draft after (first ++ second) (roles ++ others) where
  entries := by rw [two.entries, one.entries, List.append_assoc]
  roles := by rw [two.roles, one.roles, List.append_assoc]
  carried := List.rel_append one.carried two.carried
  read := two.read

theorem Adds.push {between : Draft} {entry : RelayrEntry} {role : EntryRole} (entries : between.entries = draft.entries)
    (roles : between.roles = draft.roles) (read : between.Read outlook) (carries : Carries outlook options calls entry role) :
    Adds outlook options calls draft (between.push entry role) [entry] [role] where
  entries := by rw [← entries]; rfl
  roles := by rw [← roles]; rfl
  carried := .cons carries .nil
  read := read

theorem ask_yields {request : External} {value : request.Result}
    (asked : (ask request).Yields outlook.answers l value l') : outlook.answers (.external request) (.ok value) :=
  (Action.yields_request.mp asked).1

theorem giveUp_yields {message : String} {value : Option α}
    (gave : (giveUp report chainIds message : Act (Option α)).Yields outlook.answers l value l') : value = none := by
  obtain ⟨_, _, _, ended⟩ := Action.yields_bind.mp gave
  exact (Action.yields_pure.mp ended).1

theorem proxyCreationCode_yields {code : String} (read : draft.Read outlook)
    (ran : (proxyCreationCode options draft chainId).Yields outlook.answers l (code, after) l') :
    code = outlook.creationCode chainId ∧ after.entries = draft.entries ∧ after.roles = draft.roles ∧
      after.Read outlook := by
  unfold proxyCreationCode at ran
  split at ran
  · rename_i cached found
    cases (Action.yields_pure.mp ran).1
    exact ⟨read _ _ found, rfl, rfl, read⟩
  · rename_i fresh
    obtain ⟨runtime, _, _, ran⟩ := Action.yields_bind.mp ran
    split at ran
    · exact absurd ran Action.yields_raise
    · obtain ⟨answer, _, asked, ran⟩ := Action.yields_bind.mp ran
      have known : answer = outlook.creationCode chainId := ask_yields asked
      cases (Action.yields_pure.mp ran).1
      refine ⟨known, rfl, rfl, ?_⟩
      intro other code found
      rw [List.lookup_append] at found
      cases held : draft.codes.lookup other with
      | some cached =>
        simp only [held, Option.some_or, Option.some.injEq] at found
        subst found
        exact read _ _ held
      | none =>
        simp only [held, Option.none_or, List.lookup_cons, List.lookup_nil] at found
        split at found
        · rename_i here
          cases found
          rw [known, eq_of_beq here]
        · cases found

theorem setupEntries_yields {setup : List (DeploymentCall × Nat)} {nonce' : Nat}
    (committed : ∀ call position, (call, position) ∈ setup → (callsForChain calls chainId).1[position]? = some call)
    (read : draft.Read outlook)
    (ran : (setupEntries options report chainIds chainId setup nonce draft).Yields outlook.answers l
      (some (nonce', after)) l') :
    ∃ entries roles, Adds outlook options calls draft after entries roles ∧ (∀ role ∈ roles, role.role = .setup) ∧
      entries.length = ((setup.map Prod.fst).filter (missing outlook options chainId)).length := by
  induction setup generalizing nonce draft l with
  | nil =>
    cases (Action.yields_pure.mp ran).1
    exact ⟨[], [], .nil read, by simp, rfl⟩
  | cons head rest ih =>
    obtain ⟨call, position⟩ := head
    unfold setupEntries at ran
    have others : ∀ call position, (call, position) ∈ rest → (callsForChain calls chainId).1[position]? = some call :=
      fun call position member => committed call position (List.mem_cons_of_mem _ member)
    split at ran
    · cases giveUp_yields ran
    · rename_i plan decoded
      obtain ⟨⟨code, coded⟩, _, cached, ran⟩ := Action.yields_bind.mp ran
      obtain ⟨rfl, entries, roles, read⟩ := proxyCreationCode_yields read cached
      obtain ⟨existing, _, asked, ran⟩ := Action.yields_bind.mp ran
      have existing : existing = outlook.code chainId (options.predictSafeAddress plan (outlook.creationCode chainId)) :=
        ask_yields asked
      subst existing
      split at ran
      · rename_i present
        have there : missing outlook options chainId call = false := by
          simp only [missing, decoded, present, Bool.not_true]
        obtain ⟨added, named, adds, kind, count⟩ := ih others read ran
        refine ⟨added, named, ⟨by rw [adds.entries, entries], by rw [adds.roles, roles], adds.carried, adds.read⟩, kind, ?_⟩
        rw [count, List.map_cons, List.filter_cons, if_neg (by simp [there])]
      · rename_i absent
        have gone : missing outlook options chainId call = true := by
          simp only [missing, decoded, Bool.eq_false_iff.mpr absent, Bool.not_false]
        obtain ⟨_, _, _, ran⟩ := Action.yields_bind.mp ran
        obtain ⟨gas, _, _, ran⟩ := Action.yields_bind.mp ran
        split at ran
        · cases giveUp_yields ran
        · have here := committed call position List.mem_cons_self
          have carries : Carries outlook options calls ⟨chainId, options.safeFactory, call.data, 0, nonce⟩ _ :=
            .setup here rfl rfl
          have push := Adds.push entries roles read carries
          obtain ⟨added, named, adds, kind, count⟩ := ih others push.read ran
          refine ⟨_, _, push.append adds, ?_, ?_⟩
          · rw [List.singleton_append, List.forall_mem_cons]
            exact ⟨rfl, kind⟩
          · rw [List.singleton_append, List.length_cons, count, List.map_cons, List.filter_cons, if_pos gone, List.length_cons]

theorem launchEntry_yields {deadline : Nat} {launch : DeploymentCall} (read : draft.Read outlook)
    (ran : (launchEntry options report chainIds deadline chainId launch (callsForChain calls chainId).1.length nonce
      draft).Yields outlook.answers l (some after) l') :
    ∃ entry, Adds outlook options calls draft after [entry]
      [⟨chainId, .launch, (callsForChain calls chainId).1.length⟩] := by
  unfold launchEntry at ran
  obtain ⟨fee, _, _, ran⟩ := Action.yields_bind.mp ran
  split at ran
  · cases giveUp_yields ran
  · obtain ⟨balance, _, _, ran⟩ := Action.yields_bind.mp ran
    split at ran
    · exact absurd ran Action.yields_raise
    · obtain ⟨prepared, _, asked, ran⟩ := Action.yields_bind.mp ran
      have owner : outlook.chainOf prepared = chainId := ask_yields asked
      split at ran
      · cases giveUp_yields ran
      · obtain ⟨signature, _, _, ran⟩ := Action.yields_bind.mp ran
        obtain ⟨entry, _, asked, ran⟩ := Action.yields_bind.mp ran
        obtain ⟨chain, target⟩ : RelayrEntry.chain entry = outlook.chainOf prepared ∧ _ := ask_yields asked
        cases (Action.yields_pure.mp ran).1
        rw [← chain] at target
        rw [owner] at chain
        subst chain
        have carries : Carries outlook options calls { entry with virtualNonce := nonce } _ := .launch target
        exact ⟨_, Adds.push rfl rfl read carries⟩

theorem chainEntries_yields {deadline : Nat} (read : draft.Read outlook)
    (ran : (chainEntries options report chainIds calls deadline chainId draft).Yields outlook.answers l (some after) l') :
    ∃ entries roles, Adds outlook options calls draft after entries roles ∧ launched roles = [chainId] ∧
      entries.length = entryCount outlook options calls chainId := by
  unfold chainEntries at ran
  dsimp only at ran
  split at ran
  · cases giveUp_yields ran
  · rename_i launch configured
    obtain ⟨result, _, built, ran⟩ := Action.yields_bind.mp ran
    split at ran
    · cases (Action.yields_pure.mp ran).1
    · have committed : ∀ call position, (call, position) ∈ (callsForChain calls chainId).1.zipIdx →
          (callsForChain calls chainId).1[position]? = some call :=
        fun call position member => List.mk_mem_zipIdx_iff_getElem?.mp member
      obtain ⟨entries, roles, adds, kind, count⟩ := setupEntries_yields committed read built
      obtain ⟨entry, last⟩ := launchEntry_yields adds.read ran
      refine ⟨_, _, adds.append last, ?_, ?_⟩
      · rw [launched_append, launched_setup kind]
        rfl
      · rw [List.length_append, count, List.zipIdx_map_fst]
        rfl

/-- What `deploy` builds for a list of chains: their launches in order, the entries of each chain before its launch. -/
theorem buildEntries_yields {deadline : Nat} (read : draft.Read outlook)
    (ran : (buildEntries options report chainIds calls deadline chains draft).Yields outlook.answers l (some after) l') :
    ∃ entries roles, Adds outlook options calls draft after entries roles ∧ launched roles = chains ∧
      entries.length = (chains.map (entryCount outlook options calls)).sum := by
  induction chains generalizing draft l with
  | nil =>
    cases (Action.yields_pure.mp ran).1
    exact ⟨[], [], .nil read, rfl, rfl⟩
  | cons chainId rest ih =>
    obtain ⟨result, _, built, ran⟩ := Action.yields_bind.mp ran
    split at ran
    · cases (Action.yields_pure.mp ran).1
    · obtain ⟨entries, roles, adds, first, count⟩ := chainEntries_yields read built
      obtain ⟨others, named, more, launches, total⟩ := ih adds.read ran
      refine ⟨_, _, adds.append more, ?_, ?_⟩
      · rw [launched_append, first, launches]
        rfl
      · rw [List.length_append, count, total]
        rfl

end JBCenter.Sponsor
