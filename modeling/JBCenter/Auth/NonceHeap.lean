import JBCenter.Auth.Reserve
import JBCenter.Base.HeapOrder

/-! The heap of nonces. Whatever is added and removed, from whatever place, the heap holds the live nonces at
the places they know, the first of them expires no later than any other, and a cleanup removes as many expired
ones as there are, up to its limit. -/
namespace JBCenter.Auth
open Rest Fallible IndexedHeap

section Heap

variable {K : Type} [DecidableEq K]

/-- What is asked of a heap: a new entry in, or an entry out. -/
inductive HeapOp (K : Type) where
  | add (key : K) (expiresAt : Int)
  | remove (key : K)

/-- Entries are added once while they are in the heap, and removed while they are. -/
inductive HeapStep : IndexedHeap K → HeapOp K → IndexedHeap K → Prop where
  | add {h : IndexedHeap K} {key : K} (expiresAt : Int) : h.placed.has key = false →
      HeapStep h (.add key expiresAt) (h.add key expiresAt)
  | remove {h : IndexedHeap K} {key : K} : h.placed.has key = true → HeapStep h (.remove key) (h.remove key)

/-- The entries that are in after some operations, each with the time it expires. -/
def live (ops : List (HeapOp K)) : List (K × Int) :=
  ops.foldl (fun entries op =>
    match op with
    | .add key expiresAt => entries ++ [(key, expiresAt)]
    | .remove key => entries.filter (fun entry => entry.1 ≠ key)) []

theorem live_snoc (ops : List (HeapOp K)) (op : HeapOp K) : live (ops ++ [op]) =
    match op with
    | .add key expiresAt => live ops ++ [(key, expiresAt)]
    | .remove key => (live ops).filter (fun entry => entry.1 ≠ key) := by
  rw [live, List.foldl_append]
  cases op <;> rfl

theorem heap_runs {ops : List (HeapOp K)} {h : IndexedHeap K} (run : Run HeapStep IndexedHeap.empty ops h) :
    Sound h ∧ h.due = live ops := by
  refine run.invariant (P := fun ops h => Sound h ∧ h.due = live ops) ⟨Sound.empty, rfl⟩ ?_
  intro ops h op next _ holds step
  obtain ⟨sound, entries⟩ := holds
  rw [live_snoc]
  cases step with
  | add expiresAt absent => exact ⟨sound.add absent expiresAt, (due_add absent).trans (entries ▸ rfl)⟩
  | remove => exact ⟨sound.remove _, (due_remove _ _).trans (entries ▸ rfl)⟩

end Heap

variable {settings : Settings} {s t : Memory} {limits : AccountStoreLimits} {request : VerifiedRequest}

/-- The nonces of a state are a heap in order. -/
def Memory.NoncesSound (s : Memory) : Prop := Sound s.nonces

theorem Memory.NoncesSound.swept (sound : s.NoncesSound) (accountId : String) (now : Int) :
    (s.swept accountId now).NoncesSound := by
  unfold Memory.swept
  generalize (s.accountNonces accountId).filter (fun entry => entry.2.priority ≤ now) = entries
  induction entries generalizing s with
  | nil => exact sound
  | cons first rest ih => exact ih (s := s.removeNonce first.1) (Sound.remove sound first.1)

theorem consumeNonce_sound (sound : s.NoncesSound) : Leaves (consumeNonce limits request) s Memory.NoncesSound := by
  apply leaves_modify_bind
  apply leaves_get_bind
  have swept := sound.swept request.accountId request.now
  apply leaves_check_bind swept
  intro _ fresh
  apply leaves_check_bind swept
  intro _ _
  exact leaves_modify (Sound.add swept (refuse_ok.mp fresh) request.expiresAt)

theorem authorizeAndConsume_sound {waited : Nat} (sound : s.NoncesSound) :
    Leaves (authorizeAndConsume settings request waited) s Memory.NoncesSound := by
  apply leaves_check_bind sound
  intro _ _
  apply leaves_check_bind sound
  intro current _
  apply leaves_get_bind
  apply leaves_check_bind sound
  intro account _
  apply leaves_check_bind sound
  intro principal _
  exact leaves_bind (consumeNonce_sound sound) fun _ t _ sound => leaves_pure sound

theorem enroll_sound {account : Account} {waited : Nat} (sound : s.NoncesSound) :
    Leaves (enroll settings account request waited) s Memory.NoncesSound := by
  iterate 2
    apply leaves_check_bind sound
    intro _ _
  apply leaves_check_bind sound
  intro current _
  apply leaves_check_bind sound
  intro _ _
  apply leaves_get_bind
  apply leaves_check_bind sound
  intro value _
  apply leaves_check_bind sound
  intro principal _
  apply leaves_bind (consumeNonce_sound sound)
  intro _ t _ sound
  apply leaves_modify_bind
  have same : (t.saveEnrollment value).nonces = t.nonces := saveEnrollment_idle rfl value
  exact leaves_pure (same ▸ sound : Sound (t.saveEnrollment value).nonces)

theorem removeExpired_sound (now : Int) (maximum : Nat) (sound : s.NoncesSound) :
    (removeExpired now maximum s).1.NoncesSound := by
  induction maximum generalizing s with
  | zero => exact sound
  | succ maximum ih =>
    unfold removeExpired
    split
    case h_1 => exact sound
    case h_2 key _ =>
      split
      case isTrue => exact ih (s := s.removeNonce key) (Sound.remove sound key)
      case isFalse => exact sound

theorem cleanupExpiredNonces_sound {now : Int} {limit : Option Int} (sound : s.NoncesSound) :
    Leaves (cleanupExpiredNonces now limit) s Memory.NoncesSound := by
  iterate 2
    apply leaves_check_bind sound
    intro _ _
  apply leaves_get_bind
  constructor
  · intro a t ran
    cases ran
    exact removeExpired_sound _ _ sound
  · intro e t failed
    cases failed

theorem performs_sound {answer : Answer Op RestError Outcome} (sound : s.NoncesSound)
    (performed : Performs (perform settings) s answer t) :
    t.NoncesSound := by
  have idle : ∀ {x : StoreM Outcome}, Leaves x s (Idle s.nonces) → Leaves x s Memory.NoncesSound := by
    intro x leaves
    have still : ∀ t, Idle s.nonces t → t.NoncesSound := fun t same => (same.symm ▸ sound : Sound t.nonces)
    exact ⟨fun a t ran => still t (leaves.answered a t ran), fun e t failed => still t (leaves.failed e t failed)⟩
  refine performed.leaves ?_
  cases answer.op with
  | enroll account request waited => exact leaves_map (enroll_sound sound)
  | authorizeAndConsume request waited => exact leaves_map (authorizeAndConsume_sound sound)
  | cleanupExpiredNonces now limit => exact leaves_map (cleanupExpiredNonces_sound sound)
  | finalizeOnboarding record now => exact idle (leaves_map (finalizeOnboarding_idle rfl))
  | assertActive authority waited => exact idle (leaves_map (assertActive_idle rfl))
  | withActiveActor actor scopes now waited => exact idle (leaves_map (withActiveActor_idle rfl))
  | updateProfile accountId profile now => exact idle (leaves_map (updateProfile_idle rfl))
  | registerBot grant => exact idle (leaves_map (registerBot_idle rfl))
  | revokeBot accountId grantId now => exact idle (leaves_map (revokeBot_idle rfl))
  | bindAccount binding => exact idle (leaves_map (bindInRegistry_idle rfl))
  | unbindAccount ownerAccountId id => exact idle (leaves_modify_bind (leaves_pure rfl))

/-- The nonces of a state that are expired at a time. -/
def Memory.expired (s : Memory) (now : Int) : List ((String × String) × Int) := s.due.filter (fun entry => entry.2 ≤ now)

/-- What a cleanup removes: expired nonces, as many as there are and it may remove. -/
structure Cleaned (now : Int) (maximum : Nat) (s t : Memory) (gone : List ((String × String) × Int)) : Prop where
  removed : s.due.Perm (gone ++ t.due)
  expired : ∀ entry ∈ gone, entry.2 ≤ now
  count : gone.length = min maximum (s.expired now).length

theorem removeExpired_cleaned (now : Int) (maximum : Nat) (sound : s.NoncesSound) :
    ∃ gone, gone.length = (removeExpired now maximum s).2 ∧ Cleaned now maximum s (removeExpired now maximum s).1 gone := by
  induction maximum generalizing s with
  | zero => exact ⟨[], rfl, .refl _, nofun, (Nat.zero_min _).symm⟩
  | succ maximum ih =>
    unfold removeExpired
    split
    case h_1 none =>
      have empty : s.due = [] := List.map_eq_nil_iff.mpr (Sound.first_none sound none)
      exact ⟨[], rfl, .refl _, nofun, by rw [Memory.expired, empty]; rfl⟩
    case h_2 key first =>
      obtain ⟨entry, found⟩ := (Sound.mem_iff sound).mp (List.mem_of_head? first)
      rw [found, Option.any_some]
      split
      case isTrue late =>
        have late := of_decide_eq_true late
        obtain ⟨gone, size, cleaned⟩ := ih (s := s.removeNonce key) (Sound.remove sound key)
        have perm : s.due.Perm ((key, entry.priority) :: (s.removeNonce key).due) :=
          perm_due_remove (mem_due.mpr ⟨entry, found, rfl⟩)
        refine ⟨(key, entry.priority) :: gone, congrArg (· + 1) size, perm.trans (cleaned.removed.cons _), ?_, ?_⟩
        · exact List.forall_mem_cons.mpr ⟨late, cleaned.expired⟩
        · have counted := (perm.filter fun entry => decide (entry.2 ≤ now)).length_eq
          rw [List.filter_cons, if_pos (decide_eq_true late), List.length_cons] at counted
          have rest := cleaned.count
          unfold Memory.expired at rest ⊢
          rw [List.length_cons, counted, rest]
          omega
      case isFalse early =>
        have early := fun le => early (decide_eq_true le)
        have none : s.expired now = [] := by
          refine List.filter_eq_nil_iff.mpr ?_
          rintro ⟨other, priority⟩ listed le
          obtain ⟨placed, found', rfl⟩ := mem_due.mp listed
          exact early (Int.le_trans (Sound.first_le sound first found found') (of_decide_eq_true le))
        exact ⟨[], rfl, .refl _, nofun, by rw [none]; rfl⟩

theorem cleanupExpiredNonces_run {now : Int} {limit : Option Int} (sound : s.NoncesSound) (isTime : assertTime now = .ok ())
    (positive : 1 ≤ limit.getD 1000) (bounded : limit.getD 1000 ≤ 10000) :
    ∃ gone t, (cleanupExpiredNonces now limit).run s = .ok gone.length t ∧ Cleaned now (limit.getD 1000).toNat s t gone := by
  obtain ⟨gone, size, cleaned⟩ := removeExpired_cleaned now (limit.getD 1000).toNat sound
  refine ⟨gone, (removeExpired now (limit.getD 1000).toNat s).1, ?_, cleaned⟩
  have inRange : refuse (!isSafeInteger (limit.getD 1000) || limit.getD 1000 < 1 || 10000 < limit.getD 1000)
      (authError "TypeError" 500 "Nonce cleanup limit must be between 1 and 10000") = .ok () := by
    have safe : isSafeInteger (limit.getD 1000) = true := by
      rw [isSafeInteger, maxSafeInteger, Bool.and_eq_true, decide_eq_true_eq, decide_eq_true_eq]
      omega
    rw [refuse_ok, safe]
    simp only [Bool.not_true, Bool.false_or, Bool.or_eq_false_iff, decide_eq_false_iff_not]
    omega
  unfold cleanupExpiredNonces
  rw [run_check_bind isTime]
  refine (run_check_bind inRange).trans ?_
  rw [size]
  rfl

/-- After any additions and removals the heap holds exactly the live entries, each at the place it knows, none before its
parent and the first no later than any; so does the store's, whatever operations it performed, and a cleanup removes
as many expired nonces as there are and its limit allows. -/
theorem nonceExpiryHeap_sound :
    (∀ (K : Type) [DecidableEq K] (ops : List (HeapOp K)) (h : IndexedHeap K), Run HeapStep IndexedHeap.empty ops h →
      Sound h ∧ h.due = live ops ∧ ∀ first entry, h.first = some first → h.placed.get first = some entry →
        ∀ key other, h.placed.get key = some other → entry.priority ≤ other.priority) ∧
    ∀ (settings : Settings) (history : List (Answer Op RestError Outcome)) (s : Memory), MemoryRuns settings history s →
      Sound s.nonces ∧ ∀ (now : Int) (limit : Option Int), assertTime now = .ok () →
      1 ≤ limit.getD 1000 → limit.getD 1000 ≤ 10000 →
        ∃ gone t, (cleanupExpiredNonces now limit).run s = .ok gone.length t ∧ Cleaned now (limit.getD 1000).toNat s t gone := by
  constructor
  · intro K _ ops h run
    obtain ⟨sound, entries⟩ := heap_runs run
    exact ⟨sound, entries, fun first entry root found key other listed => sound.first_le root found listed⟩
  · intro settings history s run
    have sound : s.NoncesSound := run.state_invariant Sound.empty performs_sound
    exact ⟨sound, fun now limit isTime positive bounded => cleanupExpiredNonces_run sound isTime positive bounded⟩

def sampleHeap : IndexedHeap Nat := (((IndexedHeap.empty.add 1 9).add 2 7).add 3 5).remove 2

theorem sampleHeap_run : Run HeapStep IndexedHeap.empty [.add 1 9, .add 2 7, .add 3 5, .remove 2] sampleHeap :=
  (((Run.nil.snoc (.add 9 (by decide))).snoc (.add 7 (by decide))).snoc (.add 5 (by decide))).snoc (.remove (by decide))

theorem nonceExpiryHeap_sound_sample : sampleHeap.slots = [3, 1] ∧ Sound sampleHeap ∧ Sound sampleUsed.nonces ∧
    ∃ gone t, (cleanupExpiredNonces 7 (some 2)).run sampleUsed = .ok gone.length t ∧ Cleaned 7 2 sampleUsed t gone :=
  have store := nonceExpiryHeap_sound.2 sampleSettings _ sampleUsed (performAll_run sampleUse Memory.empty)
  ⟨by decide, (nonceExpiryHeap_sound.1 Nat _ _ sampleHeap_run).1, store.1, store.2 7 (some 2) rfl (by decide) (by decide)⟩

end JBCenter.Auth
