import JBCenter.Auth.Revocation

/-! The owner's share of an account's nonces. Whatever the owner and its bots send, in whatever
order nonces expire and are cleaned up, the bots leave the reserved slots to the owner. -/
namespace JBCenter.Auth
open Rest Fallible
variable {settings : Settings} {s t : Memory}

/-- The nonces a state holds, oldest first, each with the time it expires. -/
def Memory.due (s : Memory) : List ((String × String) × Int) := s.nonces.due

def Memory.dueOf (s : Memory) (accountId : String) : List ((String × String) × Int) :=
  s.due.filter (fun entry => entry.1.1 = accountId)

theorem accountNonces_length (s : Memory) (accountId : String) :
    (s.accountNonces accountId).length = (s.dueOf accountId).length := by
  simp only [Memory.accountNonces, Memory.dueOf, Memory.due, IndexedHeap.due, IndexedHeap.dueOf, List.filter_map,
    Function.comp_def, List.length_map]

/-- The slots of an account that are kept for its owner. -/
def reservedShare (maximum : Int) : Int := min ownerNonceReserve (max 1 (maximum / 2))

theorem reservedShare_pos (maximum : Int) : 1 ≤ reservedShare maximum := by
  unfold reservedShare ownerNonceReserve
  omega

variable {account : Account} {answer : Answer Op RestError Outcome} {maximum now : Int}
variable {history : List (Answer Op RestError Outcome)} {waited : Nat}

theorem reservedShare_le (configured : 1 ≤ maximum) : reservedShare maximum ≤ maximum := by
  unfold reservedShare
  omega

theorem nonceCapacity_owner (maximum : Int) : nonceCapacity maximum none = maximum := rfl

theorem nonceCapacity_bot (maximum : Int) (grantId : String) :
    nonceCapacity maximum (some grantId) = maximum - reservedShare maximum := rfl

theorem nonceCapacity_le (maximum : Int) (grantId : Option String) : nonceCapacity maximum grantId ≤ maximum := by
  have positive := reservedShare_pos maximum
  cases grantId with
  | none => exact Int.le_refl _
  | some grantId =>
    rw [nonceCapacity_bot]
    omega

/-- What a request leaves of the nonces before it takes its own: none of its account is expired. -/
def Memory.swept (s : Memory) (accountId : String) (now : Int) : Memory :=
  ((s.accountNonces accountId).filter (fun entry => entry.2.priority ≤ now)).foldl
    (fun s entry => s.removeNonce entry.1) s

theorem due_swept (s : Memory) (accountId : String) (now : Int) : (s.swept accountId now).due =
    s.due.filter (fun entry => !(((s.accountNonces accountId).filter
      (fun entry => entry.2.priority ≤ now)).map Prod.fst).any (fun key => entry.1 = key)) := by
  unfold Memory.swept
  generalize (s.accountNonces accountId).filter (fun entry => entry.2.priority ≤ now) = entries
  have nonces : (entries.foldl (fun s entry => s.removeNonce entry.1) s).nonces =
      (entries.map Prod.fst).foldl IndexedHeap.remove s.nonces := by
    induction entries generalizing s with
    | nil => rfl
    | cons first rest ih => exact ih (s.removeNonce first.1)
  rw [Memory.due, nonces, IndexedHeap.due_removeAll]
  rfl

theorem swept_sublist (s : Memory) (accountId : String) (now : Int) :
    (s.swept accountId now).due.Sublist s.due := by
  rw [due_swept]
  exact List.filter_sublist

theorem swept_live {entry : (String × String) × Int} {accountId : String}
    (member : entry ∈ (s.swept accountId now).dueOf accountId) : now < entry.2 := by
  obtain ⟨kept, own⟩ := List.mem_filter.mp member
  rw [due_swept, List.mem_filter] at kept
  obtain ⟨stored, unexpired⟩ := kept
  obtain ⟨held, found, rfl⟩ := List.mem_map.mp stored
  by_contra late
  rw [Bool.not_eq_true', List.any_eq_false] at unexpired
  refine unexpired held.1 (List.mem_map.mpr ⟨held, ?_, rfl⟩) (decide_eq_true rfl)
  simp only [Memory.accountNonces, List.mem_filter, decide_eq_true_eq]
  exact ⟨⟨found, of_decide_eq_true own⟩, Int.not_lt.mp late⟩

/-- A request for a nonce of its account. -/
def Op.asks : Op → Option (VerifiedRequest × Nat)
  | .enroll _ request waited => some (request, waited)
  | .authorizeAndConsume request waited => some (request, waited)
  | _ => none

/-- The nonce an answered request used, and the grant it was sent under. -/
def consumed (answer : Answer Op RestError Outcome) : Option ((String × String) × Option String) :=
  match answer.op.asks, answer.result with
  | some (request, _), .ok _ => some ((request.accountId, toLowerCase request.nonce), request.grantId)
  | _, _ => none

def nonceLimit : RestError := authError "STORAGE_LIMIT" 429 "Account request nonce storage limit exceeded"

/-- What an operation can make of the nonces. -/
inductive NonceEffect (maximum : Int) (s t : Memory) : Option ((String × String) × Option String) → Prop where
  | kept (fewer : t.due.Sublist s.due) : NonceEffect maximum s t none
  | used {key : String × String} {grantId : Option String} (expiresAt : Int)
      (rest : List ((String × String) × Int)) (fewer : rest.Sublist s.due) (added : t.due = rest ++ [(key, expiresAt)])
      (absent : ∀ entry ∈ rest, entry.1 ≠ key)
      (room : ((rest.filter (fun entry => entry.1.1 = key.1)).length : Int) < nonceCapacity maximum grantId) :
      NonceEffect maximum s t (some (key, grantId))

def takeNonce (limits : AccountStoreLimits) (request : VerifiedRequest) (s : Memory) : StoreM Unit := do
  check (refuse (s.nonces.placed.has (request.accountId, toLowerCase request.nonce))
    (authError "REPLAY" 409 "Authenticated request nonce was already used"))
  check (refuse (nonceCapacity limits.maxNoncesPerAccount request.grantId ≤
      ((s.accountNonces request.accountId).length : Int)) nonceLimit)
  modify fun s => { s with nonces := s.nonces.add (request.accountId, toLowerCase request.nonce) request.expiresAt }

variable {limits : AccountStoreLimits} {request : VerifiedRequest} {error : RestError}

theorem consumeNonce_run : (consumeNonce limits request).run s =
    (takeNonce limits request (s.swept request.accountId request.now)).run (s.swept request.accountId request.now) :=
  rfl

theorem takeNonce_ok (ran : (takeNonce limits request s).run s = .ok ⟨⟩ t) :
    s.nonces.placed.has (request.accountId, toLowerCase request.nonce) = false ∧
    ((s.dueOf request.accountId).length : Int) < nonceCapacity limits.maxNoncesPerAccount request.grantId ∧
    t.nonces = s.nonces.add (request.accountId, toLowerCase request.nonce) request.expiresAt := by
  unfold takeNonce at ran
  obtain ⟨_, fresh, ran⟩ := check_bind_ok ran
  obtain ⟨_, room, ran⟩ := check_bind_ok ran
  cases ran
  have below := of_decide_eq_false (refuse_ok.mp room)
  rw [accountNonces_length] at below
  exact ⟨refuse_ok.mp fresh, Int.not_le.mp below, rfl⟩

theorem takeNonce_failed (failed : (takeNonce limits request s).run s = .error error t) :
    t = s ∧ (error = nonceLimit →
      nonceCapacity limits.maxNoncesPerAccount request.grantId ≤ ((s.dueOf request.accountId).length : Int)) := by
  unfold takeNonce at failed
  cases fresh : s.nonces.placed.has (request.accountId, toLowerCase request.nonce) with
  | true =>
    rw [fresh] at failed
    cases failed
    exact ⟨rfl, fun limit => by simp [nonceLimit, authError] at limit⟩
  | false =>
    rw [fresh] at failed
    by_cases full : nonceCapacity limits.maxNoncesPerAccount request.grantId ≤
        ((s.accountNonces request.accountId).length : Int)
    · rw [decide_eq_true full] at failed
      cases failed
      rw [accountNonces_length] at full
      exact ⟨rfl, fun _ => full⟩
    · rw [decide_eq_false full] at failed
      cases failed

theorem consumeNonce_ok (ran : (consumeNonce limits request).run s = .ok ⟨⟩ t) : NonceEffect
    limits.maxNoncesPerAccount s t (some ((request.accountId, toLowerCase request.nonce), request.grantId)) := by
  rw [consumeNonce_run] at ran
  obtain ⟨absent, room, added⟩ := takeNonce_ok ran
  refine .used request.expiresAt (s.swept request.accountId request.now).due (swept_sublist _ _ _) ?_ ?_ room
  · rw [Memory.due, added]
    exact IndexedHeap.due_add absent
  · intro entry member same
    obtain ⟨held, stored, rfl⟩ := List.mem_map.mp member
    rw [← same, OrderedMap.not_has_iff] at absent
    cases absent.symm.trans (OrderedMap.get_of_mem stored)

theorem consumeNonce_failed (failed : (consumeNonce limits request).run s = .error error t) :
    t = s.swept request.accountId request.now ∧ (error = nonceLimit → nonceCapacity limits.maxNoncesPerAccount
      request.grantId ≤ ((t.dueOf request.accountId).length : Int)) := by
  rw [consumeNonce_run] at failed
  obtain ⟨rfl, full⟩ := takeNonce_failed failed
  exact ⟨rfl, full⟩

def Idle (n : IndexedHeap (String × String)) (s : Memory) : Prop := s.nonces = n

section Idle
variable {n : IndexedHeap (String × String)}

theorem saveEnrollment_idle (idle : Idle n s) (account : Account) : Idle n (s.saveEnrollment account) := by
  unfold Memory.saveEnrollment
  split <;> exact idle

theorem bindInRegistry_idle {binding : SmartAccountBinding} (idle : Idle n s) :
    Leaves (bindInRegistry settings binding) s (Idle n) :=
  leaves_map (leaves_zoom fun _ => idle)

variable {record : OnboardingRecord}

theorem finalizeConsent_idle {binding : Option SmartAccountBinding}
    (idle : Idle n s) : Leaves (finalizeConsent settings record account binding) s (Idle n) := by
  apply leaves_get_bind
  cases binding with
  | some binding => exact leaves_check_bind idle fun _ _ => leaves_pure idle
  | none =>
    apply leaves_bind (bindInRegistry_idle idle)
    intro _ t _ idle
    apply leaves_modify_bind
    exact leaves_pure (saveEnrollment_idle idle account)

theorem finalizeGrant_idle {requested : BotGrant}
    {binding : Option SmartAccountBinding} (idle : Idle n s) :
    Leaves (finalizeGrant settings record requested account binding now) s (Idle n) := by
  apply leaves_get_bind
  cases binding with
  | some binding => exact leaves_check_bind idle fun _ _ => leaves_pure idle
  | none =>
    iterate 2
      apply leaves_check_bind idle
      intro _ _
    apply leaves_bind (bindInRegistry_idle idle)
    intro _ t _ idle
    apply leaves_modify_bind
    apply leaves_modify_bind
    exact leaves_pure (saveEnrollment_idle idle account)

theorem finalizeOnboarding_idle (idle : Idle n s) :
    Leaves (finalizeOnboarding settings record now) s (Idle n) := by
  iterate 2
    apply leaves_check_bind idle
    intro _ _
  apply leaves_get_bind
  apply leaves_check_bind idle
  intro account _
  apply leaves_check_bind idle
  intro binding _
  cases record.grant with
  | none => exact finalizeConsent_idle idle
  | some grant => exact finalizeGrant_idle idle

theorem assertActive_idle {authority : ActiveAuthority} (idle : Idle n s) :
    Leaves (assertActive authority waited) s (Idle n) := by
  apply leaves_check_bind idle
  intro request _
  apply leaves_get_bind
  apply leaves_check_bind idle
  intro account _
  exact leaves_map (leaves_check idle)

theorem withActiveActor_idle {actor : RestActor} {scopes : List BotScope}
    (idle : Idle n s) : Leaves (withActiveActor actor scopes now waited) s (Idle n) := by
  apply leaves_check_bind idle
  intro grantId _
  apply leaves_get_bind
  apply leaves_check_bind idle
  intro account _
  exact leaves_check idle

theorem updateProfile_idle {accountId : String} {profile : Profile} (idle : Idle n s) :
    Leaves (updateProfile accountId profile now) s (Idle n) := by
  iterate 3
    apply leaves_check_bind idle
    intro _ _
  apply leaves_get_bind
  apply leaves_check_bind idle
  intro account _
  apply leaves_modify_bind
  exact leaves_pure idle

theorem registerBot_idle {grant : BotGrant} (idle : Idle n s) :
    Leaves (registerBot settings grant) s (Idle n) := by
  apply leaves_check_bind idle
  intro _ _
  apply leaves_get_bind
  apply leaves_discard_bind idle
  iterate 2
    apply leaves_check_bind idle
    intro _ _
  apply leaves_modify_bind
  exact leaves_pure idle

theorem revokeBot_idle {accountId grantId : String} (idle : Idle n s) :
    Leaves (revokeBot accountId grantId now) s (Idle n) := by
  iterate 3
    apply leaves_check_bind idle
    intro _ _
  apply leaves_get_bind
  apply leaves_discard_bind idle
  cases s.bots.get grantId with
  | none => exact leaves_throw idle
  | some grant =>
    apply leaves_check_bind idle
    intro _ _
    apply leaves_modify_bind
    exact leaves_pure idle

end Idle

/-- Nonces are only gone. -/
def Fewer (s t : Memory) : Prop := t.due.Sublist s.due

theorem Fewer.refl (s : Memory) : Fewer s s := List.Sublist.refl _

theorem removeExpired_fewer (now : Int) (maximum : Nat) (s : Memory) : Fewer s (removeExpired now maximum s).1 := by
  induction maximum generalizing s with
  | zero => exact .refl s
  | succ maximum ih =>
    unfold removeExpired
    split
    · exact .refl s
    · rename_i key _
      split
      · refine (ih (s.removeNonce key)).trans ?_
        unfold Memory.due Memory.removeNonce
        rw [IndexedHeap.due_remove]
        exact List.filter_sublist
      · exact .refl s

theorem cleanupExpiredNonces_fewer {limit : Option Int} :
    Leaves (cleanupExpiredNonces now limit) s (Fewer s) := by
  iterate 2
    apply leaves_check_bind (Fewer.refl s)
    intro _ _
  apply leaves_get_bind
  constructor
  · intro a t ran
    cases ran
    exact removeExpired_fewer _ _ _
  · intro e t failed
    cases failed

/-- A check that fails never says that the account is out of nonces. -/
def Spares (x : Except RestError α) : Prop := x ≠ .error nonceLimit

theorem spares_refuse {bad : Bool} (differs : error ≠ nonceLimit) : Spares (refuse bad error) := by
  cases bad with
  | false => exact nofun
  | true => exact fun limit => differs (by injection limit)

theorem spares_bind {x : Except RestError α} {f : α → Except RestError β} (first : Spares x)
    (rest : ∀ a, Spares (f a)) : Spares (x >>= f) := by
  cases x with
  | error e => exact fun limit => first (congrArg Except.error (by injection limit))
  | ok a => exact rest a

theorem spares_ok (a : α) : Spares (.ok a) := nofun

theorem assertIdentifier_spares (value : String) : Spares (assertIdentifier value) :=
  spares_refuse (by simp [nonceLimit, authError])

theorem assertAddress_spares (value : String) : Spares (assertAddress value) :=
  spares_refuse (by simp [nonceLimit, authError])

theorem assertTime_spares (value : Int) : Spares (assertTime value) :=
  spares_refuse (by simp [nonceLimit, authError])

theorem assertRequest_spares (request : VerifiedRequest) : Spares (assertRequest request) := by
  apply spares_bind (assertIdentifier_spares _)
  intro _
  apply spares_bind (assertAddress_spares _)
  intro _
  refine spares_bind ?_ fun _ => ?_
  · cases request.grantId with
    | none => exact spares_ok _
    | some grantId => exact assertIdentifier_spares grantId
  iterate 3
    apply spares_bind (assertTime_spares _)
    intro _
  exact spares_refuse (by simp [nonceLimit, authError])

theorem assertAccount_spares (account : Account) : Spares (assertAccount account) := by
  apply spares_bind (assertIdentifier_spares _)
  intro _
  apply spares_bind (assertAddress_spares _)
  intro _
  apply spares_bind (spares_refuse (by simp [nonceLimit, authError]))
  intro _
  iterate 2
    apply spares_bind (assertTime_spares _)
    intro _
  exact spares_refuse (by simp [nonceLimit, authError])

theorem afterWait_spares (request : VerifiedRequest) (waited : Nat) : Spares (afterWait request waited) :=
  spares_bind (assertRequest_spares _) fun _ => spares_ok _

theorem principalFor_spares (account : Account) (grant : Option BotGrant) (request : VerifiedRequest) :
    Spares (principalFor account grant request) := by
  iterate 3
    apply spares_bind (spares_refuse (by simp [nonceLimit, authError]))
    intro _
  exact spares_ok _

theorem account_spares (s : Memory) (id : String) : Spares (s.account id) := by
  unfold Memory.account
  split
  · simp [Spares, nonceLimit, authError]
  · exact spares_ok _

theorem enrollmentAccount_spares (limits : AccountStoreLimits) (s : Memory) (account : Account) :
    Spares (s.enrollmentAccount limits account) := by
  iterate 2
    apply spares_bind (spares_refuse (by simp [nonceLimit, authError]))
    intro _
  exact spares_ok _

theorem afterWait_ok {current : VerifiedRequest} (accepted : afterWait request waited = .ok current) :
    current = { request with now := request.now + waited } := by
  obtain ⟨_, _, accepted⟩ := ok_bind accepted
  cases accepted
  rfl

/-- A refused request: it left fewer nonces at most, and if it was for want of room, its account
was full of nonces that are still live. -/
def Refused (maximum : Int) (s t : Memory) (error : RestError) (request : VerifiedRequest) (now : Int) : Prop :=
  Fewer s t ∧ (error = nonceLimit →
    nonceCapacity maximum request.grantId ≤ (((s.swept request.accountId now).dueOf request.accountId).length : Int))

theorem refused_check {x : Except RestError α} (spares : Spares x) (refused : x = .error error) :
    Refused maximum s s error request now :=
  ⟨.refl s, fun limit => absurd (limit ▸ refused) spares⟩

theorem refused_consume (failed :
      (consumeNonce limits { request with now := request.now + waited }).run s = .error error t) :
    Refused limits.maxNoncesPerAccount s t error request (request.now + waited) := by
  obtain ⟨rfl, full⟩ := consumeNonce_failed failed
  exact ⟨swept_sublist _ _ _, full⟩

theorem authorizeAndConsume_ok {principal : RestPrincipal}
    (ran : (authorizeAndConsume settings request waited).run s = .ok principal t) : NonceEffect
      settings.limits.maxNoncesPerAccount s t (some ((request.accountId, toLowerCase request.nonce), request.grantId)) := by
  unfold authorizeAndConsume at ran
  obtain ⟨_, _, ran⟩ := check_bind_ok ran
  obtain ⟨current, waits, ran⟩ := check_bind_ok ran
  obtain ⟨_, _, ran⟩ := check_bind_ok (s := s) ran
  obtain ⟨_, _, ran⟩ := check_bind_ok ran
  rw [afterWait_ok waits] at ran
  obtain ⟨_, u, consumes, ran⟩ := bind_ok ran
  cases ran
  have used := consumeNonce_ok consumes
  exact used

theorem authorizeAndConsume_failed
    (failed : (authorizeAndConsume settings request waited).run s = .error error t) :
    Refused settings.limits.maxNoncesPerAccount s t error request (request.now + waited) := by
  unfold authorizeAndConsume at failed
  obtain ⟨refused, rfl⟩ | ⟨_, _, failed⟩ := check_bind_error failed
  · exact refused_check (assertRequest_spares _) refused
  obtain ⟨refused, rfl⟩ | ⟨current, waits, failed⟩ := check_bind_error failed
  · exact refused_check (afterWait_spares _ _) refused
  obtain ⟨refused, rfl⟩ | ⟨_, _, failed⟩ := check_bind_error (s := s) failed
  · exact refused_check (account_spares _ _) refused
  obtain ⟨refused, rfl⟩ | ⟨_, _, failed⟩ := check_bind_error failed
  · exact refused_check (principalFor_spares _ _ _) refused
  rw [afterWait_ok waits] at failed
  obtain failed | ⟨_, u, _, failed⟩ := bind_error failed
  · exact refused_consume failed
  · cases failed

theorem enroll_ok {principal : RestPrincipal}
    (ran : (enroll settings account request waited).run s = .ok principal t) : NonceEffect
      settings.limits.maxNoncesPerAccount s t (some ((request.accountId, toLowerCase request.nonce), request.grantId)) := by
  unfold enroll at ran
  iterate 2 obtain ⟨_, _, ran⟩ := check_bind_ok ran
  obtain ⟨current, waits, ran⟩ := check_bind_ok ran
  obtain ⟨_, _, ran⟩ := check_bind_ok ran
  obtain ⟨value, _, ran⟩ := check_bind_ok (s := s) ran
  obtain ⟨_, _, ran⟩ := check_bind_ok ran
  rw [afterWait_ok waits] at ran
  obtain ⟨_, u, consumes, ran⟩ := bind_ok ran
  cases ran
  have saved : (u.saveEnrollment value).due = u.due := congrArg IndexedHeap.due (saveEnrollment_idle rfl value)
  cases consumeNonce_ok consumes with
  | used expiresAt rest fewer added absent room => exact .used expiresAt rest fewer (saved.trans added) absent room

theorem enroll_failed
    (failed : (enroll settings account request waited).run s = .error error t) :
    Refused settings.limits.maxNoncesPerAccount s t error request (request.now + waited) := by
  unfold enroll at failed
  obtain ⟨refused, rfl⟩ | ⟨_, _, failed⟩ := check_bind_error failed
  · exact refused_check (assertAccount_spares _) refused
  obtain ⟨refused, rfl⟩ | ⟨_, _, failed⟩ := check_bind_error failed
  · exact refused_check (assertRequest_spares _) refused
  obtain ⟨refused, rfl⟩ | ⟨current, waits, failed⟩ := check_bind_error failed
  · exact refused_check (afterWait_spares _ _) refused
  obtain ⟨refused, rfl⟩ | ⟨_, _, failed⟩ := check_bind_error failed
  · exact refused_check (spares_refuse (by simp [nonceLimit, authError])) refused
  obtain ⟨refused, rfl⟩ | ⟨_, _, failed⟩ := check_bind_error (s := s) failed
  · exact refused_check (enrollmentAccount_spares _ _ _) refused
  obtain ⟨refused, rfl⟩ | ⟨_, _, failed⟩ := check_bind_error failed
  · exact refused_check (principalFor_spares _ _ _) refused
  rw [afterWait_ok waits] at failed
  obtain failed | ⟨_, u, _, failed⟩ := bind_error failed
  · exact refused_consume failed
  · cases failed

theorem NonceEffect.idle (idle : Idle s.nonces t) : NonceEffect maximum s t none :=
  .kept (by rw [Memory.due, idle]; exact List.Sublist.refl _)

theorem performs_nonces (performed : Performs (perform settings) s answer t) :
    NonceEffect settings.limits.maxNoncesPerAccount s t (consumed answer) := by
  have idle : ∀ {op : Op} {result : Except RestError Outcome}, Performs (perform settings) s ⟨op, result⟩ t →
      op.asks = none → Leaves (perform settings op) s (Idle s.nonces) →
      NonceEffect settings.limits.maxNoncesPerAccount s t (consumed ⟨op, result⟩) := by
    intro op result performed unasked leaves
    have nothing : consumed ⟨op, result⟩ = none := by simp [consumed, unasked]
    rw [nothing]
    exact .idle (performed.leaves leaves)
  obtain ⟨op, result⟩ := answer
  cases op with
  | enroll account request waited =>
    obtain ⟨outcome, answered, ran⟩ | ⟨error, answered, failed⟩ := performed.cases
    · cases answered
      obtain ⟨principal, ran, _⟩ := map_ok ran
      exact enroll_ok ran
    · cases answered
      exact .kept (enroll_failed (map_error failed)).1
  | authorizeAndConsume request waited =>
    obtain ⟨outcome, answered, ran⟩ | ⟨error, answered, failed⟩ := performed.cases
    · cases answered
      obtain ⟨principal, ran, _⟩ := map_ok ran
      exact authorizeAndConsume_ok ran
    · cases answered
      exact .kept (authorizeAndConsume_failed (map_error failed)).1
  | cleanupExpiredNonces now limit =>
    exact .kept (performed.leaves (leaves_map cleanupExpiredNonces_fewer))
  | finalizeOnboarding record now => exact idle performed rfl (leaves_map (finalizeOnboarding_idle rfl))
  | assertActive authority waited => exact idle performed rfl (leaves_map (assertActive_idle rfl))
  | withActiveActor actor scopes now waited => exact idle performed rfl (leaves_map (withActiveActor_idle rfl))
  | updateProfile accountId profile now => exact idle performed rfl (leaves_map (updateProfile_idle rfl))
  | registerBot grant => exact idle performed rfl (leaves_map (registerBot_idle rfl))
  | revokeBot accountId grantId now => exact idle performed rfl (leaves_map (revokeBot_idle rfl))
  | bindAccount binding => exact idle performed rfl (leaves_map (bindInRegistry_idle rfl))
  | unbindAccount ownerAccountId id => exact idle performed rfl (leaves_modify_bind (leaves_pure rfl))

def ownerUsed (history : List (Answer Op RestError Outcome)) (key : String × String) : Bool :=
  match (history.filterMap consumed).reverse.find? (fun used => used.1 = key) with
  | some (_, grantId) => grantId.isNone
  | none => false

def ownerNonces (history : List (Answer Op RestError Outcome)) (entries : List ((String × String) × Int)) :
    List ((String × String) × Int) := entries.filter (fun entry => ownerUsed history entry.1)

def botNonces (history : List (Answer Op RestError Outcome)) (entries : List ((String × String) × Int)) :
    List ((String × String) × Int) := entries.filter (fun entry => !ownerUsed history entry.1)

theorem owner_and_bots (history : List (Answer Op RestError Outcome)) (entries : List ((String × String) × Int)) :
    (ownerNonces history entries).length + (botNonces history entries).length = entries.length := by
  induction entries with
  | nil => rfl
  | cons entry rest ih =>
    unfold ownerNonces botNonces at ih ⊢
    cases used : ownerUsed history entry.1 <;> simp [used] <;> omega

variable {key : String × String}

theorem ownerUsed_other
    (other : ∀ grantId, consumed answer ≠ some (key, grantId)) :
    ownerUsed (history ++ [answer]) key = ownerUsed history key := by
  unfold ownerUsed
  rw [List.filterMap_append, List.reverse_append]
  cases used : consumed answer with
  | none => simp [used]
  | some pair =>
    obtain ⟨taken, grantId⟩ := pair
    have differ : taken ≠ key := by
      rintro rfl
      exact other grantId used
    simp [used, differ]

theorem ownerUsed_now
    {grantId : Option String} (used : consumed answer = some (key, grantId)) :
    ownerUsed (history ++ [answer]) key = grantId.isNone := by
  unfold ownerUsed
  rw [List.filterMap_append, List.reverse_append]
  simp [used]

/-- The bots of an account leave its owner the reserved slots, and no account is over its maximum. -/
structure Within (maximum : Int) (history : List (Answer Op RestError Outcome)) (s : Memory) : Prop where
  total : ∀ accountId, ((s.dueOf accountId).length : Int) ≤ maximum
  bots : ∀ accountId, ((botNonces history (s.dueOf accountId)).length : Int) ≤ maximum - reservedShare maximum

theorem Within.empty (configured : 1 ≤ maximum) : Within maximum [] Memory.empty := by
  have share := reservedShare_le configured
  constructor
  · intro accountId
    change (0 : Int) ≤ maximum
    omega
  · intro accountId
    change (0 : Int) ≤ maximum - reservedShare maximum
    omega

theorem Fewer.dueOf (fewer : Fewer s t) (accountId : String) : (t.dueOf accountId).Sublist (s.dueOf accountId) :=
  fewer.filter _

theorem botNonces_mono {fewer entries : List ((String × String) × Int)}
    (sublist : fewer.Sublist entries) : (botNonces history fewer).length ≤ (botNonces history entries).length :=
  (sublist.filter _).length_le

theorem botNonces_length_le (history : List (Answer Op RestError Outcome)) (entries : List ((String × String) × Int)) :
    (botNonces history entries).length ≤ entries.length := List.length_filter_le _ _

theorem botNonces_congr {later : List (Answer Op RestError Outcome)} {entries : List ((String × String) × Int)}
    (same : ∀ entry ∈ entries, ownerUsed later entry.1 = ownerUsed history entry.1) :
    botNonces later entries = botNonces history entries := by
  refine List.filter_congr fun entry member => ?_
  rw [same entry member]

theorem within_step
    (within : Within maximum history s)
    (effect : NonceEffect maximum s t (consumed answer)) : Within maximum (history ++ [answer]) t := by
  generalize used : consumed answer = what at effect
  cases effect with
  | kept fewer =>
    have same : ∀ accountId, botNonces (history ++ [answer]) (t.dueOf accountId) = botNonces history (t.dueOf accountId) :=
      fun accountId => botNonces_congr fun entry _ => ownerUsed_other (by simp [used])
    constructor
    · intro accountId
      have below := (Fewer.dueOf fewer accountId).length_le
      have total := within.total accountId
      omega
    · intro accountId
      rw [same]
      have below : (botNonces history (t.dueOf accountId)).length ≤ (botNonces history (s.dueOf accountId)).length :=
        botNonces_mono (Fewer.dueOf fewer accountId)
      have bots := within.bots accountId
      omega
  | @used key grantId expiresAt rest fewer added absent room =>
    have capacity := nonceCapacity_le maximum grantId
    have restWithin : ∀ accountId, (rest.filter (fun entry => entry.1.1 = accountId)).Sublist (s.dueOf accountId) :=
      fun accountId => fewer.filter _
    have parts : ∀ accountId, t.dueOf accountId = rest.filter (fun entry => entry.1.1 = accountId) ++
        (if key.1 = accountId then [(key, expiresAt)] else []) := by
      intro accountId
      unfold Memory.dueOf
      rw [added, List.filter_append]
      congr 1
      by_cases own : key.1 = accountId <;> simp [own]
    have bots : ∀ accountId, botNonces (history ++ [answer]) (rest.filter (fun entry => entry.1.1 = accountId)) =
        botNonces history (rest.filter (fun entry => entry.1.1 = accountId)) := by
      refine fun accountId => botNonces_congr fun entry member => ownerUsed_other ?_
      intro grantId same
      rw [used] at same
      cases same
      exact absent entry (List.mem_filter.mp member).1 rfl
    constructor
    · intro accountId
      rw [parts]
      split
      · rename_i own
        subst own
        simp only [List.length_append, List.length_singleton]
        omega
      · have below := (restWithin accountId).length_le
        have total := within.total accountId
        simp only [List.append_nil]
        omega
    · intro accountId
      rw [parts]
      have below : (botNonces history (rest.filter (fun entry => entry.1.1 = accountId))).length ≤
          (botNonces history (s.dueOf accountId)).length := botNonces_mono (restWithin accountId)
      have before := within.bots accountId
      split
      · rename_i own
        subst own
        cases grantId with
        | none =>
          -- The owner's own nonce is none of the bots'.
          have owned : ownerUsed (history ++ [answer]) key = true := ownerUsed_now used
          have none : botNonces (history ++ [answer]) [(key, expiresAt)] = [] := by simp [botNonces, owned]
          unfold botNonces at none bots below before ⊢
          rw [List.filter_append, none, List.append_nil, bots]
          omega
        | some grantId =>
          rw [nonceCapacity_bot] at room
          have few := botNonces_length_le (history ++ [answer])
            (rest.filter (fun entry => entry.1.1 = key.1) ++ [(key, expiresAt)])
          simp only [List.length_append, List.length_singleton] at few
          omega
      · rw [List.append_nil, bots]
        omega

theorem run_within (configured : 1 ≤ settings.limits.maxNoncesPerAccount)
    (run : MemoryRuns settings history s) : Within settings.limits.maxNoncesPerAccount history s :=
  run.invariant (P := Within settings.limits.maxNoncesPerAccount) (.empty configured)
    fun _ within performed => within_step within (performs_nonces performed)

/-- The nonces of an account that have not expired. -/
def Memory.liveOf (s : Memory) (accountId : String) (now : Int) : List ((String × String) × Int) :=
  (s.dueOf accountId).filter (fun entry => now < entry.2)

theorem swept_liveOf (s : Memory) (accountId : String) (now : Int) :
    ((s.swept accountId now).dueOf accountId).Sublist (s.liveOf accountId now) := by
  have live : ((s.swept accountId now).dueOf accountId).filter (fun entry => now < entry.2) =
      (s.swept accountId now).dueOf accountId :=
    List.filter_eq_self.mpr fun entry member => decide_eq_true (swept_live member)
  rw [← live]
  exact (Fewer.dueOf (swept_sublist s accountId now) accountId).filter _

theorem ownerUsed_answer
    (used : ownerUsed history key = true) : ∃ answer ∈ history, consumed answer = some (key, none) := by
  unfold ownerUsed at used
  split at used
  · rename_i taken grantId found
    cases grantId with
    | none =>
      have member := List.mem_reverse.mp (List.mem_of_find?_eq_some found)
      obtain ⟨answer, answered, same⟩ := List.mem_filterMap.mp member
      have named : taken = key := by simpa using List.find?_some found
      exact ⟨answer, answered, named ▸ same⟩
    | some grantId => cases used
  · cases used

theorem perform_limit {op : Op} (asks : op.asks = some (request, waited))
    (failed : (perform settings op).run s = .error nonceLimit t) :
    nonceCapacity settings.limits.maxNoncesPerAccount request.grantId ≤
      (((s.swept request.accountId (request.now + waited)).dueOf request.accountId).length : Int) := by
  cases op with
  | enroll account asked waits =>
    cases asks
    exact (enroll_failed (map_error failed)).2 rfl
  | authorizeAndConsume asked waits =>
    cases asks
    exact (authorizeAndConsume_failed (map_error failed)).2 rfl
  | _ => cases asks

/-- After any answers no account holds more nonces than its maximum, and an owner's request that is
refused for want of room finds the reserved share taken by live nonces the owner itself used. -/
theorem owner_nonce_reserve {history : List (Answer Op RestError Outcome)}
    (configured : 1 ≤ settings.limits.maxNoncesPerAccount) (run : MemoryRuns settings history s) :
    (∀ accountId, ((s.accountNonces accountId).length : Int) ≤ settings.limits.maxNoncesPerAccount) ∧
    ∀ (op : Op) (request : VerifiedRequest) (waited : Nat) (t : Memory),
    op.asks = some (request, waited) → request.grantId = none →
      (perform settings op).run s = .error nonceLimit t →
      reservedShare settings.limits.maxNoncesPerAccount ≤
        ((ownerNonces history (s.liveOf request.accountId (request.now + waited))).length : Int) ∧
      ∃ answer ∈ history, ∃ nonce, consumed answer = some ((request.accountId, nonce), none) := by
  have within := run_within configured run
  constructor
  · intro accountId
    rw [accountNonces_length]
    exact within.total accountId
  intro op request waited t asks owner failed
  have full := perform_limit asks failed
  rw [owner, nonceCapacity_owner] at full
  have live := (swept_liveOf s request.accountId (request.now + waited)).length_le
  have parts := owner_and_bots history (s.liveOf request.accountId (request.now + waited))
  have fewer : (botNonces history (s.liveOf request.accountId (request.now + waited))).length ≤
      (botNonces history (s.dueOf request.accountId)).length := botNonces_mono List.filter_sublist
  have bots := within.bots request.accountId
  have share : reservedShare settings.limits.maxNoncesPerAccount ≤
      ((ownerNonces history (s.liveOf request.accountId (request.now + waited))).length : Int) := by omega
  refine ⟨share, ?_⟩
  have positive := reservedShare_pos settings.limits.maxNoncesPerAccount
  obtain ⟨entry, member⟩ := List.length_pos_iff_exists_mem.mp
    (show 0 < (ownerNonces history (s.liveOf request.accountId (request.now + waited))).length by omega)
  obtain ⟨held, used⟩ := List.mem_filter.mp member
  obtain ⟨answer, answered, same⟩ := ownerUsed_answer used
  have own := of_decide_eq_true (List.mem_filter.mp (List.mem_filter.mp held).1).2
  refine ⟨answer, answered, entry.1.2, ?_⟩
  rw [same, ← own]

def reserveSettings : Settings := { sampleSettings with limits := ⟨100000, 3, 100⟩ }

/-- The bot takes a place, and the owner the one that is kept for it. -/
def reserveUse : List Op :=
  sampleUse ++ [.authorizeAndConsume (sampleSigned sampleGrant.botAddress (some sampleGrant.id) '3') 0,
    .authorizeAndConsume (sampleSigned sampleAccount.ownerAddress none '4') 0]

/-- With room for three nonces, two the owner's and one the bot's, the owner's next request is refused while all are live. -/
theorem owner_nonce_reserve_sample : ∃ s t, MemoryRuns reserveSettings
    (performAll (perform reserveSettings) Memory.empty reserveUse).1 s ∧
    (s.accountNonces sampleAccount.id).length = 3 ∧
    (perform reserveSettings (.authorizeAndConsume (sampleSigned sampleAccount.ownerAddress none '2') 0)).run s =
      .error nonceLimit t ∧
    reservedShare 3 ≤ ((ownerNonces (performAll (perform reserveSettings) Memory.empty reserveUse).1
      (s.liveOf sampleAccount.id 1)).length : Int) := by
  have used : MemoryRuns reserveSettings _ _ := performAll_run reserveUse Memory.empty
  have full : ((performAll (perform reserveSettings) Memory.empty reserveUse).2.accountNonces sampleAccount.id).length = 3 ∧
      refusal (perform reserveSettings) (.authorizeAndConsume (sampleSigned sampleAccount.ownerAddress none '2') 0)
        (performAll (perform reserveSettings) Memory.empty reserveUse).2 = some nonceLimit := by decide +kernel
  obtain ⟨t, failed⟩ := refusal_some full.2
  have reserved := (owner_nonce_reserve (by decide) used).2 _
    (sampleSigned sampleAccount.ownerAddress none '2') 0 t rfl rfl failed
  exact ⟨_, t, used, full.1, failed, reserved.1⟩

end JBCenter.Auth
