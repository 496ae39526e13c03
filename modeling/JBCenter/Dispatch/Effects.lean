import JBCenter.Dispatch.Authority

/-! What an authorization of a dispatch binds: the principal, the exact effect, and the window of the signature
that was accepted. -/
namespace JBCenter.Dispatch
open Rest Auth
variable {δ : Type} {crypto : Crypto δ} {audience : String} {readings : Readings} {authority : Authority}

/-- The owner's signature of a digest, from its key or by its contract. -/
def OwnerSigned (crypto : Crypto δ) (owner : AccountOwner) (digest : δ) (signature : String) : Prop :=
  recovers crypto digest signature owner.ownerAddress = true ∨ acceptedByContract crypto owner digest signature = true

/-- What the owner's request carries for a step of a plan. -/
def CarriesTransaction (claims : RequestClaims) (body : JsonFields) (planId : String) (stepIndex : Int)
    (raw : String) : Prop :=
  (claims.requestTarget = stepTarget planId stepIndex ∧ body.field "rawSignedTransaction" = some (.text raw)) ∨
    (claims.requestTarget = batchTarget planId ∧ ∃ before after, ∃ item : JsonFields,
      body.field "submissions" = some (.array (before ++ .object item :: after)) ∧
      entryStep (.object item) = .ok (stepIndex, item) ∧ item.field "rawSignedTransaction" = some (.text raw) ∧
      ∀ other ∈ before ++ after, ∀ entry, entryStep other ≠ .ok (stepIndex, entry))

/-- The owner's own signed request: its document, its signature and the body it commits to. -/
structure OwnerRequest (crypto : Crypto δ) (audience : String) (actor : RestActor) (authority : Authority)
    (window : DispatchApprovalWindow) : Prop where
  owner : authority.principal.isOwner = true
  principal : actor.principalId = "owner:" ++ actor.accountId
  read : readRequestClaims crypto authority.input = .ok (authority.claims, authority.signature)
  account : authority.claims.accountId = actor.accountId
  body : authority.claims.bodyHash = crypto.keccakBody authority.input.body
  signed : ∃ typedData accountOwner, buildRequestTypedData crypto audience authority.claims = .ok typedData ∧
    parseAccountId crypto actor.accountId = .ok accountOwner ∧
    OwnerSigned crypto accountOwner (crypto.hashTypedData typedData) authority.signature
  window : window = ⟨authority.claims.issuedAt, authority.claims.expiresAt⟩

/-- The authenticated principal is the actor, may relay, and is no wallet application. -/
structure Authenticated (context : Option RestRequestContext) (actor : RestActor) (present : RestRequestContext)
    (authority : Authority) : Prop where
  current : context = some present
  held : present.authority = some (authority.principal, authority.input)
  account : authority.principal.accountId = actor.accountId
  principal : authority.principal.principalId = actor.principalId
  relay : BotScope.relay ∈ authority.principal.scopes
  kind : authority.principal.kind ≠ some .walletApp

/-- The window that is returned, at the last reading of the clock. -/
structure Timely (window : DispatchApprovalWindow) (now : Int) : Prop where
  short : window.expiresAt - window.issuedAt ≤ 300
  unexpired : now < window.expiresAt
  started : window.issuedAt ≤ now + 30

variable {owner : AccountOwner} {window : DispatchApprovalWindow} {accountId : Option String}

theorem freshWindow_ok {now : Int} (fresh : freshWindow window now = .ok ()) :
    Timely window now := by
  unfold freshWindow at fresh
  obtain ⟨_, fresh⟩ := ok_refuse fresh
  have bounds := refuse_ok.mp fresh
  simp only [Bool.or_eq_false_iff, decide_eq_false_iff_not, Int.not_le, Int.not_lt] at bounds
  exact ⟨bounds.1.1.2, bounds.1.2, bounds.2⟩

theorem completedWindow_ok {completed : DispatchApprovalWindow}
    (done : completedWindow window readings = .ok completed) : completed = window ∧ Timely completed (readings.now 3) := by
  unfold completedWindow at done
  obtain ⟨_, done⟩ := ok_refuse done
  obtain ⟨_, fresh, done⟩ := ok_bind done
  cases done
  exact ⟨rfl, freshWindow_ok fresh⟩

variable {principalId : Option String} {signature : String}

variable {input : Option Json} {claims : RequestClaims}

theorem readRequestClaims_ok {input : SignedRequestInput}
    (read : readRequestClaims crypto input = .ok (claims, signature)) :
    claims.bodyHash = crypto.keccakBody input.body ∧ claims.requestTarget = input.requestTarget := by
  unfold readRequestClaims at read
  iterate 15 obtain ⟨_, _, read⟩ := ok_bind read
  cases read
  exact ⟨rfl, rfl⟩

theorem verifyRequestSignature_ok {aborted : Bool}
    (verified : verifyRequestSignature crypto audience claims signature aborted = .ok ()) :
    ∃ typedData owner, buildRequestTypedData crypto audience claims = .ok typedData ∧
      parseAccountId crypto claims.accountId = .ok owner ∧
      (recovers crypto (crypto.hashTypedData typedData) signature claims.signer = true ∨
        acceptedByContract crypto owner (crypto.hashTypedData typedData) signature = true) := by
  unfold verifyRequestSignature at verified
  obtain ⟨_, verified⟩ := ok_refuse verified
  obtain ⟨typedData, built, verified⟩ := ok_bind verified
  obtain ⟨owner, parsed, verified⟩ := ok_bind verified
  refine ⟨typedData, owner, built, parsed, ?_⟩
  have accepted := refuse_ok.mp verified
  simp only [Bool.not_eq_false', Bool.or_eq_true, Bool.and_eq_true] at accepted
  exact accepted.imp_right fun contract => contract.2

theorem currentAuthority_ok {context : Option RestRequestContext} {actor : RestActor} {present : RestRequestContext}
    (current : currentAuthority crypto context actor audience readings = .ok (present, authority)) :
    context = some present ∧ present.authority = some (authority.principal, authority.input) ∧
      authority.principal.accountId = actor.accountId ∧ authority.principal.principalId = actor.principalId ∧
      BotScope.relay ∈ authority.principal.scopes ∧
      readRequestClaims crypto authority.input = .ok (authority.claims, authority.signature) ∧
      authority.claims.accountId = actor.accountId ∧ ∃ owner, parseAccountId crypto actor.accountId = .ok owner ∧
        kindAgrees audience actor owner authority.claims authority.principal authority.input = true := by
  unfold currentAuthority at current
  split at current
  · rename_i context' principal input held
    obtain ⟨_, current⟩ := ok_refuse current
    obtain ⟨owner, parsed, current⟩ := ok_bind current
    obtain ⟨same, current⟩ := ok_refuse current
    obtain ⟨⟨claims, signature⟩, read, current⟩ := ok_bind current
    obtain ⟨bound, current⟩ := ok_refuse current
    obtain ⟨agrees, current⟩ := ok_refuse current
    cases current
    simp only [Bool.or_eq_false_iff, decide_eq_false_iff_not, not_not] at same bound
    exact ⟨rfl, by simpa using held, same.1.1.1.1, same.1.1.1.2, same.2, read, bound.1.1.1, owner, parsed,
      by simpa using agrees⟩
  · cases current

/-- An owner that is no wallet application is the account's own principal, and signs with the account's key. -/
theorem kindAgrees_owner {actor : RestActor} {principal : RestPrincipal}
    {input : SignedRequestInput} (agrees : kindAgrees audience actor owner claims principal input = true)
    (kind : principal.kind ≠ some .walletApp) (isOwner : principal.isOwner = true) :
    actor.principalId = "owner:" ++ actor.accountId ∧ toLowerCase claims.signer = toLowerCase owner.ownerAddress := by
  unfold kindAgrees at agrees
  rw [if_neg kind] at agrees
  split at agrees
  · cases agrees
  · simp only [Bool.and_eq_true, decide_eq_true_eq] at agrees
    exact ⟨agrees.1.2, agrees.2⟩

theorem recovers_congr {digest : δ} {a b : String} (same : toLowerCase a = toLowerCase b) :
    recovers crypto digest signature a = recovers crypto digest signature b := by
  unfold recovers
  rw [same]

/-- What an owner's authorization verified. -/
theorem ownerWindow_ok {context : Option RestRequestContext} {actor : RestActor} {present : RestRequestContext}

    (current : currentAuthority crypto context actor audience readings = .ok (present, authority))
    (kind : authority.principal.kind ≠ some .walletApp)
    (owned : ownerWindow crypto authority audience readings = .ok (some window)) :
    OwnerRequest crypto audience actor authority window := by
  obtain ⟨_, _, _, _, _, read, account, owner, parsed, agrees⟩ := currentAuthority_ok current
  unfold ownerWindow at owned
  split at owned
  · cases owned
  · rename_i isOwner
    simp only [Bool.not_eq_true', Bool.not_eq_false] at isOwner
    obtain ⟨_, _, owned⟩ := ok_bind owned
    obtain ⟨_, verified, owned⟩ := ok_bind owned
    iterate 2 obtain ⟨_, _, owned⟩ := ok_bind owned
    cases owned
    obtain ⟨principal, signer⟩ := kindAgrees_owner agrees kind isOwner
    obtain ⟨typedData, signing, built, parsed', accepted⟩ := verifyRequestSignature_ok verified
    rw [account, parsed] at parsed'
    cases parsed'
    rw [recovers_congr signer] at accepted
    exact ⟨isOwner, principal, read, account, (readRequestClaims_ok read).1, ⟨typedData, owner, built, parsed, accepted⟩, rfl⟩

theorem ownerWindow_none (unowned : ownerWindow crypto authority audience readings = .ok none) :
    authority.principal.isOwner = false := by
  unfold ownerWindow at unowned
  split at unowned
  · rename_i isOwner
    simpa using isOwner
  · iterate 4 obtain ⟨_, _, unowned⟩ := ok_bind unowned
    cases unowned

theorem requestBody_ok {body : JsonFields} (read : requestBody crypto authority = .ok body) :
    crypto.parseBody authority.input.body = some (.object body) := by
  unfold requestBody at read
  obtain ⟨_, read⟩ := ok_refuse read
  split at read
  · rename_i fields parsed
    cases read
    exact parsed
  · cases read

theorem entryStep_object {entry : Json} {index : Int} {item : JsonFields} (named : entryStep entry = .ok (index, item)) :
    entry = .object item := by
  unfold entryStep at named
  split at named
  · split at named
    · split at named
      · cases named
      · cases named
        rfl
    · cases named
  · cases named

/-- The loop over a batch carries the entry of the wanted step, and no other entry is of that step: an index that
was seen is refused, so the entries before it and after it name other steps. -/
theorem batchRaw_ok {stepIndex : Int} {entries : List Json} {seen : List Int} {raw : Option Json} {result : Json}
    (carried : batchRaw stepIndex entries seen raw = .ok (some result)) :
    ((stepIndex ∈ seen ∨ ∀ entry ∈ entries, ∀ item, entryStep entry ≠ .ok (stepIndex, item)) → raw = some result ∧
      ∀ entry ∈ entries, ∀ item, entryStep entry ≠ .ok (stepIndex, item)) ∧
    (stepIndex ∉ seen → (∀ entry ∈ entries, ∀ item, entryStep entry ≠ .ok (stepIndex, item)) ∨
      ∃ before after, ∃ item : JsonFields, entries = before ++ .object item :: after ∧
      entryStep (.object item) = .ok (stepIndex, item) ∧
        item.field "rawSignedTransaction" = some result ∧
        ∀ other ∈ before ++ after, ∀ entry, entryStep other ≠ .ok (stepIndex, entry)) := by
  induction entries generalizing seen raw with
  | nil =>
    cases carried
    exact ⟨fun _ => ⟨rfl, nofun⟩, fun _ => Or.inl nofun⟩
  | cons entry rest ih =>
    obtain ⟨⟨index, item⟩, named, carried⟩ := ok_bind carried
    obtain ⟨unseen, carried⟩ := ok_refuse carried
    have fresh : index ∉ seen := by simpa using unseen
    obtain ⟨passed, wanted⟩ := ih carried
    by_cases same : index = stepIndex
    · subst same
      rw [if_pos rfl] at passed
      obtain ⟨kept, others⟩ := passed (Or.inl List.mem_cons_self)
      refine ⟨?_, fun _ => Or.inr ⟨[], rest, item, ?_, ?_, kept, ?_⟩⟩
      · rintro (before | none)
        · exact absurd before fresh
        · exact absurd named (none entry List.mem_cons_self item)
      · rw [entryStep_object named]
        rfl
      · rw [← entryStep_object named]
        exact named
      · exact others
    · rw [if_neg same] at passed
      have apart : ∀ other, entryStep entry ≠ .ok (stepIndex, other) := by
        intro other impossible
        rw [named] at impossible
        cases impossible
        exact same rfl
      refine ⟨?_, ?_⟩
      · intro cause
        have later : stepIndex ∈ index :: seen ∨ ∀ entry ∈ rest, ∀ item, entryStep entry ≠ .ok (stepIndex, item) :=
          cause.imp (fun before => List.mem_cons_of_mem _ before)
            fun none other member => none other (List.mem_cons_of_mem _ member)
        obtain ⟨kept, others⟩ := passed later
        exact ⟨kept, List.forall_mem_cons.mpr ⟨apart, others⟩⟩
      · intro unseen
        have later : stepIndex ∉ index :: seen := by
          rw [List.mem_cons, not_or]
          exact ⟨fun equal => same equal.symm, unseen⟩
        obtain none | ⟨before, after, found, rfl, step, raw, others⟩ := wanted later
        · exact Or.inl (List.forall_mem_cons.mpr ⟨apart, none⟩)
        · exact Or.inr ⟨entry :: before, after, found, rfl, step, raw, List.forall_mem_cons.mpr ⟨apart, others⟩⟩

theorem transactionIntent_ok {planId transactionHash : String} {stepIndex : Int}
    (intended : transactionIntent crypto authority planId stepIndex transactionHash = .ok ()) :
    ∃ body raw, crypto.parseBody authority.input.body = some (.object body) ∧
      CarriesTransaction authority.claims body planId stepIndex raw ∧
      toLowerCase (crypto.keccak256 raw) = toLowerCase transactionHash := by
  unfold transactionIntent at intended
  obtain ⟨body, read, intended⟩ := ok_bind intended
  obtain ⟨carried, found, intended⟩ := ok_bind intended
  split at intended
  · rename_i raw
    have hashed := refuse_ok.mp intended
    simp only [Bool.or_eq_false_iff, decide_eq_false_iff_not, not_not] at hashed
    refine ⟨body, raw, requestBody_ok read, ?_, hashed.2⟩
    unfold carriedRaw at found
    split at found
    · rename_i target
      obtain ⟨_, found⟩ := ok_refuse found
      exact Or.inl ⟨target, Except.ok.inj found⟩
    · split at found
      · rename_i target
        split at found
        · rename_i submissions listed
          obtain ⟨_, found⟩ := ok_refuse found
          obtain ⟨passed, wanted⟩ := batchRaw_ok found
          obtain none | ⟨before, after, item, rfl, step, raw, others⟩ := wanted (by simp)
          · cases (passed (Or.inr none)).1
          · exact Or.inr ⟨target, before, after, item, listed, step, raw, others⟩
        · cases found
      · cases found
  · cases intended

theorem sponsorshipIntent_ok {record : SponsorshipRecord} {submissionHash : String}
    (intended : sponsorshipIntent crypto authority record submissionHash = .ok ()) :
    authority.claims.requestTarget = sponsorshipTarget record.id ∧ ∃ body : JsonFields, ∃ signatures actual,
      crypto.parseBody authority.input.body = some (.object body) ∧ body.field "signatures" = some (.array signatures) ∧
      sponsorshipSubmissionHash crypto record.commitment signatures = .ok actual ∧
      toLowerCase actual = toLowerCase submissionHash := by
  unfold sponsorshipIntent at intended
  obtain ⟨body, read, intended⟩ := ok_bind intended
  split at intended
  · rename_i signatures listed
    obtain ⟨target, intended⟩ := ok_refuse intended
    simp only [Bool.or_eq_false_iff, decide_eq_false_iff_not, not_not] at target
    split at intended
    · rename_i actual hashed
      refine ⟨target.1, body, signatures, actual, requestBody_ok read, listed, hashed, ?_⟩
      simpa using refuse_ok.mp intended
    · cases intended
  · cases intended

theorem identity_ok {identified : String × String}
    (accepted : identity crypto accountId principalId = .ok identified) :
    accountId = some identified.1 ∧ principalId = some identified.2 := by
  unfold identity at accepted
  split at accepted
  · cases accepted
  · split at accepted
    · cases accepted
    · split at accepted
      · cases accepted
      · rename_i principal found
        cases accepted
        exact ⟨rfl, (Option.filter_eq_some_iff.mp found).1⟩

theorem step_ok {number : Number} {index : Int} (accepted : step number = some index) : number = .integer index := by
  unfold step at accepted
  split at accepted
  · split at accepted
    · cases accepted
      rfl
    · cases accepted
  · cases accepted

theorem transactionBinding_ok {planId commitment transactionHash : Option String}
    {stepIndex : Option Number} {bound : TransactionApprovalBinding}
    (accepted : transactionBinding crypto accountId principalId planId commitment transactionHash stepIndex = .ok bound) :
    accountId = some bound.accountId ∧ principalId = some bound.principalId ∧ planId = some bound.planId ∧
      commitment = some bound.commitment ∧ transactionHash = some bound.transactionHash ∧
      stepIndex = some (.integer bound.stepIndex) := by
  unfold transactionBinding at accepted
  obtain ⟨identified, named, accepted⟩ := ok_bind accepted
  split at accepted
  · rename_i plan committed hash index
    cases accepted
    obtain ⟨account, principal⟩ := identity_ok named
    obtain ⟨number, held, stepped⟩ := some_bind index
    rw [step_ok stepped] at held
    exact ⟨account, principal, (Option.filter_eq_some_iff.mp plan).1, (Option.filter_eq_some_iff.mp committed).1,
      (Option.filter_eq_some_iff.mp hash).1, held⟩
  · cases accepted

theorem sponsorshipBinding_ok {sponsorshipId commitment submissionHash : Option String}
    {bound : SponsorshipApprovalBinding}
    (accepted : sponsorshipBinding crypto accountId principalId sponsorshipId commitment submissionHash = .ok bound) :
    accountId = some bound.accountId ∧ principalId = some bound.principalId ∧ sponsorshipId = some bound.sponsorshipId ∧
      commitment = some bound.commitment ∧ submissionHash = some bound.submissionHash := by
  unfold sponsorshipBinding at accepted
  obtain ⟨identified, named, accepted⟩ := ok_bind accepted
  split at accepted
  · rename_i sponsored committed hash
    cases accepted
    obtain ⟨account, principal⟩ := identity_ok named
    exact ⟨account, principal, (Option.filter_eq_some_iff.mp sponsored).1, (Option.filter_eq_some_iff.mp committed).1,
      (Option.filter_eq_some_iff.mp hash).1⟩
  · cases accepted

/-- A binding that is checked is returned as it is. -/
theorem TransactionApprovalBinding.binding_ok {input bound : TransactionApprovalBinding}
    (accepted : input.binding crypto = .ok bound) : bound = input := by
  obtain ⟨account, principal, plan, commitment, hash, index⟩ := transactionBinding_ok accepted
  cases bound
  cases input
  cases account
  cases principal
  cases plan
  cases commitment
  cases hash
  cases index
  rfl

theorem SponsorshipApprovalBinding.binding_ok {input bound : SponsorshipApprovalBinding}
    (accepted : input.binding crypto = .ok bound) : bound = input := by
  obtain ⟨account, principal, sponsorship, commitment, hash⟩ := sponsorshipBinding_ok accepted
  cases bound
  cases input
  cases account
  cases principal
  cases sponsorship
  cases commitment
  cases hash
  rfl

theorem ownerSignature_ok {digest : δ} {value : ApprovalWindow}
    (accepted : ownerSignature crypto owner digest signature value readings = .ok true) :
    OwnerSigned crypto owner digest signature := by
  unfold ownerSignature at accepted
  split at accepted
  · exact Or.inl ‹_›
  · split at accepted
    · cases accepted
    · iterate 3 obtain ⟨_, _, accepted⟩ := ok_bind accepted
      exact Or.inr (Except.ok.inj accepted)

theorem verifyOwnerSignature_ok {typedData : TypedData} {accountId : String} {value : ApprovalWindow}

    (verified : verifyOwnerSignature crypto typedData signature accountId value readings = .ok owner) :
    parseAccountId crypto accountId = .ok owner ∧ OwnerSigned crypto owner (crypto.hashTypedData typedData) signature := by
  unfold verifyOwnerSignature at verified
  iterate 2 obtain ⟨_, _, verified⟩ := ok_bind verified
  obtain ⟨_, parsed, verified⟩ := ok_bind verified
  iterate 2 obtain ⟨_, _, verified⟩ := ok_bind verified
  obtain ⟨accepted, signed, verified⟩ := ok_bind verified
  obtain ⟨kept, verified⟩ := ok_refuse verified
  cases verified
  simp only [Bool.not_eq_false'] at kept
  rw [kept] at signed
  exact ⟨parsed, ownerSignature_ok signed⟩

theorem documentSignature_ok {allowedFields : List String} {document : JsonFields}
    (read : documentSignature input allowedFields = .ok (document, signature)) :
    input = some (.object document) ∧ document.text "signature" = some signature := by
  unfold documentSignature at read
  split at read
  · cases read
  · cases read
  · split at read
    · cases read
    · split at read
      · cases read
      · rename_i found
        cases read
        exact ⟨rfl, (Option.filter_eq_some_iff.mp found).1⟩
  · cases read

/-- A presented approval of a transaction, signed by the account's owner for the audience. -/
structure TransactionApproved (crypto : Crypto δ) (audience : String) (input : Option Json)
    (value : TransactionApprovalClaims) (typedData : TypedData) : Prop where
  presented : ∃ document : JsonFields, ∃ signature owner, input = some (.object document) ∧
    transactionClaims crypto document = .ok value ∧ document.text "signature" = some signature ∧
    parseAccountId crypto value.accountId = .ok owner ∧
    OwnerSigned crypto owner (crypto.hashTypedData typedData) signature
  document : buildTransactionApprovalTypedData crypto audience value = .ok typedData

structure SponsorshipApproved (crypto : Crypto δ) (audience : String) (input : Option Json)
    (value : SponsorshipApprovalClaims) (typedData : TypedData) : Prop where
  presented : ∃ document : JsonFields, ∃ signature owner, input = some (.object document) ∧
    sponsorshipClaims crypto document = .ok value ∧ document.text "signature" = some signature ∧
    parseAccountId crypto value.accountId = .ok owner ∧
    OwnerSigned crypto owner (crypto.hashTypedData typedData) signature
  document : buildSponsorshipApprovalTypedData crypto audience value = .ok typedData

/-- The same effect, up to the case of hexadecimal letters. -/
structure SameTransaction (a b : TransactionApprovalBinding) : Prop where
  accountId : a.accountId = b.accountId
  principalId : a.principalId = b.principalId
  planId : a.planId = b.planId
  commitment : toLowerCase a.commitment = toLowerCase b.commitment
  stepIndex : a.stepIndex = b.stepIndex
  transactionHash : toLowerCase a.transactionHash = toLowerCase b.transactionHash

structure SameSponsorship (a b : SponsorshipApprovalBinding) : Prop where
  accountId : a.accountId = b.accountId
  principalId : a.principalId = b.principalId
  sponsorshipId : a.sponsorshipId = b.sponsorshipId
  commitment : toLowerCase a.commitment = toLowerCase b.commitment
  submissionHash : toLowerCase a.submissionHash = toLowerCase b.submissionHash

theorem verifyTransactionApproval_ok {expected : TransactionApprovalBinding}
    {value : TransactionApprovalClaims}
    (verified : verifyTransactionApproval crypto audience input expected readings = .ok value) :
    SameTransaction value.toTransactionApprovalBinding expected ∧
      ∃ typedData, TransactionApproved crypto audience input value typedData := by
  unfold verifyTransactionApproval at verified
  obtain ⟨⟨document, signature⟩, read, verified⟩ := ok_bind verified
  obtain ⟨_, claimed, verified⟩ := ok_bind verified
  obtain ⟨_, bound, verified⟩ := ok_bind verified
  obtain ⟨same, verified⟩ := ok_refuse verified
  obtain ⟨typedData, built, verified⟩ := ok_bind verified
  obtain ⟨_, signed, verified⟩ := ok_bind verified
  cases verified
  obtain ⟨owner, signed, _⟩ := except_map_ok signed
  obtain ⟨parsed, signed⟩ := verifyOwnerSignature_ok signed
  obtain ⟨presented, given⟩ := documentSignature_ok read
  cases TransactionApprovalBinding.binding_ok bound
  simp only [Bool.or_eq_false_iff, decide_eq_false_iff_not, not_not] at same
  obtain ⟨⟨⟨⟨⟨account, principal⟩, plan⟩, index⟩, commitment⟩, hash⟩ := same
  exact ⟨⟨account, principal, plan, commitment, index, hash⟩, typedData,
    ⟨document, signature, owner, presented, claimed, given, parsed, signed⟩, built⟩

theorem verifySponsorshipApproval_ok {expected : SponsorshipApprovalBinding}
    {value : SponsorshipApprovalClaims}
    (verified : verifySponsorshipApproval crypto audience input expected readings = .ok value) :
    SameSponsorship value.toSponsorshipApprovalBinding expected ∧
      ∃ typedData, SponsorshipApproved crypto audience input value typedData := by
  unfold verifySponsorshipApproval at verified
  obtain ⟨⟨document, signature⟩, read, verified⟩ := ok_bind verified
  obtain ⟨_, claimed, verified⟩ := ok_bind verified
  obtain ⟨_, bound, verified⟩ := ok_bind verified
  obtain ⟨same, verified⟩ := ok_refuse verified
  obtain ⟨typedData, built, verified⟩ := ok_bind verified
  obtain ⟨_, signed, verified⟩ := ok_bind verified
  cases verified
  obtain ⟨owner, signed, _⟩ := except_map_ok signed
  obtain ⟨parsed, signed⟩ := verifyOwnerSignature_ok signed
  obtain ⟨presented, given⟩ := documentSignature_ok read
  cases SponsorshipApprovalBinding.binding_ok bound
  simp only [Bool.or_eq_false_iff, decide_eq_false_iff_not, not_not] at same
  obtain ⟨⟨⟨⟨account, principal⟩, sponsorship⟩, commitment⟩, hash⟩ := same
  exact ⟨⟨account, principal, sponsorship, commitment, hash⟩, typedData,
    ⟨document, signature, owner, presented, claimed, given, parsed, signed⟩, built⟩

end JBCenter.Dispatch
