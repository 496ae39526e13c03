import JBCenter.Auth.Memory

/-! A revoked grant stays revoked. Its identifier is taken for good, so neither a
registration nor an onboarding stores it again, and a revocation is never undone; every
later request under the identifier meets the revoked grant. -/
namespace JBCenter.Auth
open Rest Fallible
variable {settings : Settings} {s t : Memory} {id : String}

def Revoked (id : String) (s : Memory) : Prop :=
  ∃ grant, s.bots.get id = some grant ∧ grant.revokedAt.isSome = true

theorem Revoked.of_bots (revoked : Revoked id s) (same : t.bots = s.bots) : Revoked id t := by
  obtain ⟨grant, found, ended⟩ := revoked
  exact ⟨grant, same ▸ found, ended⟩

theorem revoked_saveEnrollment (revoked : Revoked id s) (account : Account) : Revoked id (s.saveEnrollment account) := by
  unfold Memory.saveEnrollment
  split
  · exact revoked
  · exact revoked.of_bots rfl

theorem revoked_set (grant : BotGrant) (revoked : Revoked id s) (free : s.bots.get grant.id = none) :
    ∃ held, (s.bots.set grant.id grant).get id = some held ∧ held.revokedAt.isSome = true := by
  obtain ⟨held, found, ended⟩ := revoked
  have other : id ≠ grant.id := by
    rintro rfl
    rw [free] at found
    cases found
  exact ⟨held, by rwa [OrderedMap.get_set_ne _ _ other], ended⟩

theorem removeNonces_bots (s : Memory) (keys : List ((String × String) × Placed)) :
    (keys.foldl (fun s entry => s.removeNonce entry.1) s).bots = s.bots := by
  induction keys generalizing s with
  | nil => rfl
  | cons key rest ih =>
    rw [List.foldl_cons, ih]
    rfl

theorem removeExpired_bots (now : Int) (maximum : Nat) (s : Memory) : (removeExpired now maximum s).1.bots = s.bots := by
  induction maximum generalizing s with
  | zero => rfl
  | succ maximum ih =>
    unfold removeExpired
    split
    · rfl
    · split
      · exact ih (s.removeNonce _)
      · rfl

theorem consumeNonce_revoked (revoked : Revoked id s) :
    Leaves (consumeNonce limits request) s (Revoked id) := by
  unfold consumeNonce
  have swept := revoked.of_bots (removeNonces_bots s
    ((s.accountNonces request.accountId).filter (fun entry => entry.2.priority ≤ request.now)))
  apply leaves_modify_bind
  apply leaves_get_bind
  iterate 2
    apply leaves_check_bind swept
    intro _ _
  exact leaves_modify (swept.of_bots rfl)

theorem bindInRegistry_revoked (revoked : Revoked id s) :
    Leaves (bindInRegistry settings binding) s (Revoked id) := by
  apply leaves_map
  apply leaves_zoom
  intro registry
  exact revoked.of_bots rfl

theorem bindInRegistry_bots (ran : (bindInRegistry settings binding).run s = .ok a t) : t.bots = s.bots := by
  obtain ⟨_, ran, _⟩ := map_ok ran
  obtain ⟨registry, _, rfl⟩ := zoom_ok ran
  rfl

theorem enroll_revoked (revoked : Revoked id s) :
    Leaves (enroll settings account request waited) s (Revoked id) := by
  iterate 2
    apply leaves_check_bind revoked
    intro _ _
  apply leaves_check_bind revoked
  intro current _
  apply leaves_check_bind revoked
  intro _ _
  apply leaves_get_bind
  apply leaves_check_bind revoked
  intro value _
  apply leaves_check_bind revoked
  intro principal _
  apply leaves_bind (consumeNonce_revoked revoked)
  intro _ t _ kept
  apply leaves_modify_bind
  exact leaves_pure (revoked_saveEnrollment kept value)

theorem finalizeConsent_revoked (revoked : Revoked id s) :
    Leaves (finalizeConsent settings record account binding) s (Revoked id) := by
  apply leaves_get_bind
  cases binding with
  | some binding =>
    apply leaves_check_bind revoked
    intro _ _
    exact leaves_pure revoked
  | none =>
    apply leaves_bind (bindInRegistry_revoked revoked)
    intro _ t _ kept
    apply leaves_modify_bind
    exact leaves_pure (revoked_saveEnrollment kept account)

theorem finalizeGrant_revoked (revoked : Revoked id s) :
    Leaves (finalizeGrant settings record requested account binding now) s (Revoked id) := by
  apply leaves_get_bind
  cases binding with
  | some binding =>
    apply leaves_check_bind revoked
    intro _ _
    exact leaves_pure revoked
  | none =>
    apply leaves_check_bind revoked
    intro _ fresh
    apply leaves_check_bind revoked
    intro _ _
    apply leaves_bind (bindInRegistry_revoked revoked)
    intro _ t ran kept
    have bots := bindInRegistry_bots ran
    have free : s.bots.get requested.id = none := by simpa using refuse_ok.mp fresh
    have saved : (t.saveEnrollment account).bots = s.bots := by
      rw [← bots]
      unfold Memory.saveEnrollment
      split <;> rfl
    apply leaves_modify_bind
    apply leaves_modify_bind
    apply leaves_pure
    exact revoked_set { requested with botAddress := toLowerCase requested.botAddress, createdAt := now }
      (revoked_saveEnrollment kept account) (by rw [saved]; exact free)

theorem finalizeOnboarding_revoked (revoked : Revoked id s) :
    Leaves (finalizeOnboarding settings record now) s (Revoked id) := by
  iterate 2
    apply leaves_check_bind revoked
    intro _ _
  apply leaves_get_bind
  apply leaves_check_bind revoked
  intro account _
  apply leaves_check_bind revoked
  intro binding _
  cases record.grant with
  | none => exact finalizeConsent_revoked revoked
  | some grant => exact finalizeGrant_revoked revoked

theorem authorizeAndConsume_revoked (revoked : Revoked id s) :
    Leaves (authorizeAndConsume settings request waited) s (Revoked id) := by
  apply leaves_check_bind revoked
  intro _ _
  apply leaves_check_bind revoked
  intro current _
  apply leaves_get_bind
  apply leaves_check_bind revoked
  intro account _
  apply leaves_check_bind revoked
  intro principal _
  apply leaves_bind (consumeNonce_revoked revoked)
  intro _ t _ kept
  exact leaves_pure kept

theorem assertActive_revoked (revoked : Revoked id s) : Leaves (assertActive authority waited) s (Revoked id) := by
  apply leaves_check_bind revoked
  intro request _
  apply leaves_get_bind
  apply leaves_check_bind revoked
  intro account _
  exact leaves_map (leaves_check revoked)

theorem withActiveActor_revoked (revoked : Revoked id s) :
    Leaves (withActiveActor actor scopes now waited) s (Revoked id) := by
  apply leaves_check_bind revoked
  intro grantId _
  apply leaves_get_bind
  apply leaves_check_bind revoked
  intro account _
  exact leaves_check revoked

theorem updateProfile_revoked (revoked : Revoked id s) :
    Leaves (updateProfile accountId profile now) s (Revoked id) := by
  iterate 3
    apply leaves_check_bind revoked
    intro _ _
  apply leaves_get_bind
  apply leaves_check_bind revoked
  intro account _
  apply leaves_modify_bind
  exact leaves_pure (revoked.of_bots rfl)

theorem registerBot_revoked (revoked : Revoked id s) : Leaves (registerBot settings grant) s (Revoked id) := by
  apply leaves_check_bind revoked
  intro _ _
  apply leaves_get_bind
  apply leaves_discard_bind revoked
  apply leaves_check_bind revoked
  intro _ fresh
  apply leaves_check_bind revoked
  intro _ _
  have free : s.bots.get grant.id = none := OrderedMap.not_has_iff.mp (refuse_ok.mp fresh)
  apply leaves_modify_bind
  exact leaves_pure (revoked_set { grant with botAddress := toLowerCase grant.botAddress } revoked free)

/-- A revocation leaves every revoked grant revoked, the one it names included. -/
theorem revokeBot_revoked (revoked : Revoked id s) : Leaves (revokeBot accountId grantId now) s (Revoked id) := by
  iterate 3
    apply leaves_check_bind revoked
    intro _ _
  apply leaves_get_bind
  apply leaves_discard_bind revoked
  cases held : s.bots.get grantId with
  | none => exact leaves_throw revoked
  | some grant =>
    apply leaves_check_bind revoked
    intro _ _
    apply leaves_modify_bind
    apply leaves_pure
    obtain ⟨other, found, ended⟩ := revoked
    by_cases same : id = grantId
    · exact ⟨_, by rw [same]; exact OrderedMap.get_set_self _ _ _, rfl⟩
    · exact ⟨other, by rwa [OrderedMap.get_set_ne _ _ same], ended⟩

theorem revokeBot_revokes (ran : (revokeBot accountId id now).run s = .ok grant t) : Revoked id t := by
  unfold revokeBot at ran
  iterate 3 obtain ⟨_, _, ran⟩ := check_bind_ok ran
  obtain ⟨_, _, read, ran⟩ := bind_ok ran
  cases read
  obtain ⟨_, _, read, ran⟩ := bind_ok ran
  obtain ⟨_, read, _⟩ := map_ok read
  obtain ⟨_, rfl⟩ := check_ok read
  split at ran
  · cases ran
  · obtain ⟨_, _, ran⟩ := check_bind_ok ran
    obtain ⟨_, _, written, ran⟩ := bind_ok ran
    cases written
    cases ran
    exact ⟨_, OrderedMap.get_set_self _ _ _, rfl⟩

theorem perform_revoked (revoked : Revoked id s) (op : Op) : Leaves (perform settings op) s (Revoked id) := by
  cases op with
  | enroll => exact leaves_map (enroll_revoked revoked)
  | finalizeOnboarding => exact leaves_map (finalizeOnboarding_revoked revoked)
  | authorizeAndConsume => exact leaves_map (authorizeAndConsume_revoked revoked)
  | assertActive => exact leaves_map (assertActive_revoked revoked)
  | withActiveActor => exact leaves_map (withActiveActor_revoked revoked)
  | updateProfile => exact leaves_map (updateProfile_revoked revoked)
  | registerBot => exact leaves_map (registerBot_revoked revoked)
  | revokeBot => exact leaves_map (revokeBot_revoked revoked)
  | cleanupExpiredNonces now limit =>
    apply leaves_map
    iterate 2
      apply leaves_check_bind revoked
      intro _ _
    apply leaves_get_bind
    apply leaves_modify_bind (g := fun _ => (removeExpired now (limit.getD 1000).toNat s).1)
    exact leaves_pure (revoked.of_bots (removeExpired_bots _ _ _))
  | bindAccount => exact leaves_map (bindInRegistry_revoked revoked)
  | unbindAccount =>
    apply leaves_modify_bind
    exact leaves_pure (revoked.of_bots rfl)

/-- The operation asks to act under a grant. -/
def Op.actsUnder (id : String) : Op → Prop
  | .enroll _ request _ => request.grantId = some id
  | .authorizeAndConsume request _ => request.grantId = some id
  | .assertActive authority _ => authority.grantId = some id
  | .withActiveActor actor _ _ _ => actorGrantId actor = .ok (some id)
  | _ => False

/-- The operation stores a grant, or answers with one that a setup approval stored. -/
def Op.grants (id : String) : Op → Prop
  | .registerBot grant => grant.id = id
  | .finalizeOnboarding record _ => ∃ grant, record.grant = some grant ∧ grant.id = id
  | _ => False

theorem principalFor_revoked (named : request.grantId = some id) (ended : grant.revokedAt.isSome = true) :
    ∀ principal, principalFor account (some grant) request ≠ .ok principal := by
  intro principal accepted
  have unsigned : isOwner account request = false := by simp [isOwner, named]
  have gone : grantInForce account (some grant) request = false := by
    obtain ⟨at', revokedAt⟩ := Option.isSome_iff_exists.mp ended
    simp [grantInForce, revokedAt]
  unfold principalFor at accepted
  obtain ⟨bad, _⟩ := ok_refuse accepted
  simp [unsigned, gone] at bad

theorem authorityRequest_grantId (built : authorityRequest authority = .ok request) :
    request.grantId = authority.grantId := by
  unfold authorityRequest at built
  iterate 6 obtain ⟨_, _, built⟩ := ok_bind built
  cases built
  rfl

theorem grant_of_revoked (revoked : Revoked id s) :
    ∃ grant, s.grant (some id) = some grant ∧ grant.revokedAt.isSome = true := by
  obtain ⟨grant, found, ended⟩ := revoked
  exact ⟨grant, found, ended⟩

theorem afterWait_grantId (waited : afterWait request seconds = .ok current) : current.grantId = request.grantId := by
  unfold afterWait at waited
  obtain ⟨_, _, waited⟩ := ok_bind waited
  cases waited
  rfl

theorem authorizeAndConsume_refuses (revoked : Revoked id s) (named : request.grantId = some id) :
    (authorizeAndConsume settings request waited).run s ≠ .ok principal t := by
  intro ran
  obtain ⟨grant, found, ended⟩ := grant_of_revoked revoked
  unfold authorizeAndConsume at ran
  obtain ⟨_, _, ran⟩ := check_bind_ok ran
  obtain ⟨current, later, ran⟩ := check_bind_ok ran
  obtain ⟨_, _, read, ran⟩ := bind_ok ran
  cases read
  obtain ⟨account, _, ran⟩ := check_bind_ok ran
  obtain ⟨_, authorized, _⟩ := check_bind_ok ran
  rw [named, found] at authorized
  exact principalFor_revoked ((afterWait_grantId later).trans named) ended _ authorized

theorem assertActive_refuses (revoked : Revoked id s) (named : authority.grantId = some id) :
    (assertActive authority waited).run s ≠ .ok a t := by
  intro ran
  obtain ⟨grant, found, ended⟩ := grant_of_revoked revoked
  unfold assertActive at ran
  obtain ⟨request, built, ran⟩ := check_bind_ok ran
  obtain ⟨_, _, read, ran⟩ := bind_ok ran
  cases read
  obtain ⟨account, _, ran⟩ := check_bind_ok ran
  obtain ⟨_, authorized, _⟩ := map_ok ran
  have accepted := (check_ok authorized).1
  rw [named, found] at accepted
  have later : { request with now := authority.now + waited }.grantId = some id :=
    (authorityRequest_grantId built).trans named
  exact principalFor_revoked later ended _ accepted

theorem withActiveActor_refuses (revoked : Revoked id s) (named : actorGrantId actor = .ok (some id)) :
    (withActiveActor actor scopes now waited).run s ≠ .ok a t := by
  intro ran
  obtain ⟨grant, found, ended⟩ := grant_of_revoked revoked
  unfold withActiveActor at ran
  obtain ⟨grantId, parsed, ran⟩ := check_bind_ok ran
  cases named.symm.trans parsed
  obtain ⟨_, _, read, ran⟩ := bind_ok ran
  cases read
  obtain ⟨account, _, ran⟩ := check_bind_ok ran
  have accepted := (check_ok ran).1
  unfold assertActorAuthority at accepted
  obtain ⟨_, parsed, accepted⟩ := ok_bind accepted
  cases named.symm.trans parsed
  obtain ⟨request, built, accepted⟩ := ok_bind accepted
  obtain ⟨_, authorized, _⟩ := ok_bind accepted
  rw [found] at authorized
  exact principalFor_revoked (authorityRequest_grantId built) ended _ authorized

theorem enroll_refuses (named : request.grantId = some id) :
    (enroll settings account request waited).run s ≠ .ok principal t := by
  intro ran
  unfold enroll at ran
  iterate 3 obtain ⟨_, _, ran⟩ := check_bind_ok ran
  obtain ⟨_, owner, _⟩ := check_bind_ok ran
  have bad := refuse_ok.mp owner
  simp [named] at bad

theorem registerBot_refuses (revoked : Revoked id s) (named : grant.id = id) :
    (registerBot settings grant).run s ≠ .ok value t := by
  intro ran
  obtain ⟨held, found, _⟩ := revoked
  unfold registerBot at ran
  obtain ⟨_, _, ran⟩ := check_bind_ok ran
  obtain ⟨_, _, read, ran⟩ := bind_ok ran
  cases read
  obtain ⟨_, _, read, ran⟩ := bind_ok ran
  obtain ⟨_, read, _⟩ := map_ok read
  obtain ⟨_, rfl⟩ := check_ok read
  obtain ⟨_, fresh, _⟩ := check_bind_ok ran
  have free := OrderedMap.not_has_iff.mp (refuse_ok.mp fresh)
  rw [named, found] at free
  cases free

theorem finalizeGrant_refuses (revoked : Revoked id s) (named : requested.id = id) :
    (finalizeGrant settings record requested account binding now).run s ≠ .ok value t := by
  intro ran
  obtain ⟨held, found, ended⟩ := revoked
  unfold finalizeGrant at ran
  obtain ⟨_, _, read, ran⟩ := bind_ok ran
  cases read
  rw [named, found] at ran
  cases binding with
  | some binding =>
    obtain ⟨_, same, _⟩ := check_bind_ok ran
    obtain ⟨at', revokedAt⟩ := Option.isSome_iff_exists.mp ended
    have bad := refuse_ok.mp same
    simp [sameOnboardingGrant, revokedAt] at bad
  | none =>
    obtain ⟨_, fresh, _⟩ := check_bind_ok ran
    have bad := refuse_ok.mp fresh
    simp at bad

theorem finalizeOnboarding_refuses (revoked : Revoked id s) (asked : record.grant = some grant)
    (named : grant.id = id) : (finalizeOnboarding settings record now).run s ≠ .ok value t := by
  intro ran
  unfold finalizeOnboarding at ran
  iterate 2 obtain ⟨_, _, ran⟩ := check_bind_ok ran
  obtain ⟨_, _, read, ran⟩ := bind_ok ran
  cases read
  obtain ⟨account, _, ran⟩ := check_bind_ok ran
  obtain ⟨binding, _, ran⟩ := check_bind_ok ran
  rw [asked] at ran
  exact finalizeGrant_refuses revoked named ran

theorem perform_refuses (revoked : Revoked id s) (op : Op) (under : op.actsUnder id ∨ op.grants id) :
    (perform settings op).run s ≠ .ok outcome t := by
  intro ran
  cases op with
  | enroll =>
    obtain ⟨_, ran, _⟩ := map_ok ran
    exact enroll_refuses (under.resolve_right (fun impossible => impossible)) ran
  | authorizeAndConsume =>
    obtain ⟨_, ran, _⟩ := map_ok ran
    exact authorizeAndConsume_refuses revoked (under.resolve_right (fun impossible => impossible)) ran
  | assertActive =>
    obtain ⟨_, ran, _⟩ := map_ok ran
    exact assertActive_refuses revoked (under.resolve_right (fun impossible => impossible)) ran
  | withActiveActor =>
    obtain ⟨_, ran, _⟩ := map_ok ran
    exact withActiveActor_refuses revoked (under.resolve_right (fun impossible => impossible)) ran
  | registerBot =>
    obtain ⟨_, ran, _⟩ := map_ok ran
    exact registerBot_refuses revoked (under.resolve_left (fun impossible => impossible)) ran
  | finalizeOnboarding =>
    obtain ⟨_, ran, _⟩ := map_ok ran
    obtain ⟨grant, asked, named⟩ := under.resolve_left (fun impossible => impossible)
    exact finalizeOnboarding_refuses revoked asked named ran
  | _ => exact under.elim (fun impossible => impossible) (fun impossible => impossible)

theorem run_revoked (revoked : Revoked id s) (run : Run (Performs (perform settings)) s history t) : Revoked id t :=
  run.state_invariant revoked (fun kept performed => performed.leaves (perform_revoked kept _))

/-- After a revocation that succeeded, in every order of operations: the grant is stored as
revoked, and whatever acts under it or would store or restore it is refused. -/
theorem revocation_permanent
    (run : MemoryRuns settings (earlier ++ [⟨.revokeBot accountId id now, .ok outcome⟩] ++ later) s) :
    Revoked id s ∧ ∀ answer ∈ later, answer.op.actsUnder id ∨ answer.op.grants id →
      ∃ error, answer.result = .error error := by
  obtain ⟨middle, run, after⟩ := Run.split run
  obtain ⟨_, _, revoking⟩ := Run.split run
  obtain ⟨_, ran, _⟩ := map_ok revoking.single.answered
  have revoked : Revoked id middle := revokeBot_revokes ran
  refine ⟨run_revoked revoked after, ?_⟩
  intro answer member under
  obtain ⟨_, _, state, _, past, _, performed⟩ := after.before member
  obtain ⟨outcome, _, ran⟩ | ⟨error, refused, _⟩ := performed.cases
  · exact False.elim (perform_refuses (run_revoked revoked past) answer.op under ran)
  · exact ⟨error, refused⟩

def sampleAccount : Account :=
  ⟨"account", "0xaaaaaaaaaaaaaaaaaaaaaaaaaaaaaaaaaaaaaaaa", 1, ⟨"", "", none⟩, 0, 0⟩

def sampleGrant : BotGrant :=
  ⟨"grant", sampleAccount.id, "0xbbbbbbbbbbbbbbbbbbbbbbbbbbbbbbbbbbbbbbbb", [.read], "", 0, 1000, none⟩

def sampleSigned (signer : String) (grantId : Option String) (nonce : Char) : VerifiedRequest where
  accountId := sampleAccount.id
  signer
  grantId
  nonce := "0x" ++ String.ofList (List.replicate 64 nonce)
  issuedAt := 0
  expiresAt := 60
  idempotencyKey := none
  requiredScopes := [.read]
  ownerOnly := false
  now := 1

def sampleSettings : Settings where
  limits := ⟨100000, 1000, 100⟩
  rules := ⟨fun _ _ _ => "", fun _ => 0, fun _ => .ok "", fun _ => .ok ()⟩
  maximumBindings := 1000
  maximumNonces := 10000

/-- An owner enrolls and registers a bot. -/
def sampleUse : List Op :=
  [.enroll sampleAccount (sampleSigned sampleAccount.ownerAddress none '1') 0, .registerBot sampleGrant]

def sampleUsed : Memory := (performAll (perform sampleSettings) Memory.empty sampleUse).2

/-- Once it is revoked, the bot's next request is refused. -/
theorem revocation_permanent_sample : ∃ outcome later s, MemoryRuns sampleSettings
    ((performAll (perform sampleSettings) Memory.empty sampleUse).1 ++
      [⟨.revokeBot sampleAccount.id "grant" 2, .ok outcome⟩] ++ [later]) s ∧
    later.op = .authorizeAndConsume (sampleSigned sampleGrant.botAddress (some "grant") '3') 0 ∧
    ∃ error, later.result = .error error := by
  have revoking : answers (perform sampleSettings) (.revokeBot sampleAccount.id "grant" 2) sampleUsed = true := by
    decide +kernel
  obtain ⟨outcome, t, ran⟩ := answers_ok revoking
  have used : MemoryRuns sampleSettings _ sampleUsed := performAll_run sampleUse Memory.empty
  have revoked : Performs (perform sampleSettings) sampleUsed ⟨.revokeBot sampleAccount.id "grant" 2, .ok outcome⟩ t :=
    .of_ok ran
  have next : Run (Performs (perform sampleSettings)) t _ _ := performAll_run
    [.authorizeAndConsume (sampleSigned sampleGrant.botAddress (some "grant") '3') 0] t
  generalize later : performAll (perform sampleSettings) t
    [.authorizeAndConsume (sampleSigned sampleGrant.botAddress (some "grant") '3') 0] = answered at next
  obtain ⟨answer, only, op⟩ : ∃ answer, answered.1 = [answer] ∧
      answer.op = .authorizeAndConsume (sampleSigned sampleGrant.botAddress (some "grant") '3') 0 := by
    rw [← later]
    unfold performAll
    split
    · exact ⟨_, rfl, rfl⟩
    · exact ⟨_, rfl, rfl⟩
  rw [only] at next
  have whole := (used.snoc revoked).append next
  exact ⟨outcome, answer, answered.2, whole, op, (revocation_permanent whole).2 answer (by simp)
    (Or.inl (by rw [op]; rfl))⟩

end JBCenter.Auth
