import JBCenter.Dispatch.Effects
import JBCenter.Rest.Hex

/-! A dispatch is authorized for one effect: by the owner's own request that carries it, or by an approval that
names it, and one signed approval names one effect. -/
namespace JBCenter.Dispatch
open Rest Auth
variable {δ : Type} {crypto : Crypto δ} {audience : String} {readings : Readings}

def TransactionConsent (crypto : Crypto δ) (audience : String) (present : RestRequestContext) (authority : Authority)
    (plan : StoredPlan) (stepIndex : Int) (transactionHash : String) (window : DispatchApprovalWindow) : Prop :=
  (OwnerRequest crypto audience plan.actor authority window ∧
    ∃ body raw, crypto.parseBody authority.input.body = some (.object body) ∧
      CarriesTransaction authority.claims body plan.id stepIndex raw ∧
      toLowerCase (crypto.keccak256 raw) = toLowerCase transactionHash) ∨
  (authority.principal.isOwner = false ∧
    ∃ value typedData, TransactionApproved crypto audience (present.ownerApprovals stepIndex) value typedData ∧
      SameTransaction value.toTransactionApprovalBinding
        ⟨plan.actor.accountId, plan.actor.principalId, plan.id, plan.commitment, stepIndex, transactionHash⟩ ∧
      window = ⟨value.issuedAt, value.expiresAt⟩)

/-- The ordered signatures in the owner's own request, or an approval of exactly this publication. -/
def SponsorshipConsent (crypto : Crypto δ) (audience : String) (present : RestRequestContext) (authority : Authority)
    (record : SponsorshipRecord) (submissionHash : String) (window : DispatchApprovalWindow) : Prop :=
  (OwnerRequest crypto audience record.actor authority window ∧
    authority.claims.requestTarget = sponsorshipTarget record.id ∧ ∃ body : JsonFields, ∃ signatures actual,
      crypto.parseBody authority.input.body = some (.object body) ∧ body.field "signatures" = some (.array signatures) ∧
      sponsorshipSubmissionHash crypto record.commitment signatures = .ok actual ∧
      toLowerCase actual = toLowerCase submissionHash) ∨
  (authority.principal.isOwner = false ∧
    ∃ value typedData, SponsorshipApproved crypto audience present.sponsorshipOwnerApproval value typedData ∧
      SameSponsorship value.toSponsorshipApprovalBinding
        ⟨record.actor.accountId, record.actor.principalId, record.id, record.commitment, submissionHash⟩ ∧
      window = ⟨value.issuedAt, value.expiresAt⟩)

variable {context : Option RestRequestContext}

theorem authenticated {actor : RestActor} {present : RestRequestContext}
    {authority : Authority} (current : currentAuthority crypto context actor audience readings = .ok (present, authority))
    (kind : decide (authority.principal.kind = some .walletApp) = false) :
    Authenticated context actor present authority := by
  obtain ⟨context, held, account, principal, relay, _⟩ := currentAuthority_ok current
  exact ⟨context, held, account, principal, relay, by simpa using kind⟩

theorem authorizeTransaction_ok {plan : StoredPlan} {stepIndex : Int}
    {transactionHash : String} {window : DispatchApprovalWindow}
    (authorized : authorizeTransaction crypto audience context plan stepIndex transactionHash readings = .ok window) :
    Timely window (readings.now 3) ∧ ∃ present authority, Authenticated context plan.actor present authority ∧
      TransactionConsent crypto audience present authority plan stepIndex transactionHash window := by
  unfold authorizeTransaction at authorized
  obtain ⟨⟨present, authority⟩, current, authorized⟩ := ok_bind authorized
  obtain ⟨kind, authorized⟩ := ok_refuse authorized
  obtain ⟨_, intended, authorized⟩ := ok_bind authorized
  obtain ⟨owner, owned, authorized⟩ := ok_bind authorized
  have known := authenticated current kind
  cases owner with
  | some owner =>
    obtain ⟨rfl, timely⟩ := completedWindow_ok authorized
    have request := ownerWindow_ok current known.kind owned
    rw [ofOwner, if_pos request.owner] at intended
    exact ⟨timely, present, authority, known, Or.inl ⟨request, transactionIntent_ok intended⟩⟩
  | none =>
    obtain ⟨value, verified, authorized⟩ := ok_bind authorized
    obtain ⟨rfl, timely⟩ := completedWindow_ok authorized
    obtain ⟨same, typedData, approved⟩ := verifyTransactionApproval_ok verified
    exact ⟨timely, present, authority, known, Or.inr ⟨ownerWindow_none owned, value, typedData, approved, same, rfl⟩⟩

theorem authorizeSponsorship_ok {record : SponsorshipRecord} {submissionHash : String}
    {window : DispatchApprovalWindow}
    (authorized : authorizeSponsorship crypto audience context record submissionHash readings = .ok window) :
    Timely window (readings.now 3) ∧ ∃ present authority, Authenticated context record.actor present authority ∧
      SponsorshipConsent crypto audience present authority record submissionHash window := by
  unfold authorizeSponsorship at authorized
  obtain ⟨⟨present, authority⟩, current, authorized⟩ := ok_bind authorized
  obtain ⟨kind, authorized⟩ := ok_refuse authorized
  obtain ⟨_, intended, authorized⟩ := ok_bind authorized
  obtain ⟨owner, owned, authorized⟩ := ok_bind authorized
  have known := authenticated current kind
  cases owner with
  | some owner =>
    obtain ⟨rfl, timely⟩ := completedWindow_ok authorized
    have request := ownerWindow_ok current known.kind owned
    rw [ofOwner, if_pos request.owner] at intended
    exact ⟨timely, present, authority, known, Or.inl ⟨request, sponsorshipIntent_ok intended⟩⟩
  | none =>
    obtain ⟨value, verified, authorized⟩ := ok_bind authorized
    obtain ⟨rfl, timely⟩ := completedWindow_ok authorized
    obtain ⟨same, typedData, approved⟩ := verifySponsorshipApproval_ok verified
    exact ⟨timely, present, authority, known, Or.inr ⟨ownerWindow_none owned, value, typedData, approved, same, rfl⟩⟩

variable {audience' : String}

theorem transaction_document_inj {a b : TransactionApprovalClaims} {s t : TypedData}
    (built : buildTransactionApprovalTypedData crypto audience a = .ok s)
    (built' : buildTransactionApprovalTypedData crypto audience' b = .ok t) (same : s.encoded = t.encoded) :
    SameTransaction a.toTransactionApprovalBinding b.toTransactionApprovalBinding := by
  unfold buildTransactionApprovalTypedData at built built'
  iterate 2 obtain ⟨_, _, built⟩ := ok_bind built
  iterate 2 obtain ⟨_, _, built'⟩ := ok_bind built'
  cases built
  cases built'
  simp only [TypedData.encoded, TypedField.bytes, List.map_cons, List.map_nil, TypedData.mk.injEq, List.cons.injEq,
    Prod.mk.injEq, TypedField.string.injEq, TypedField.bytes32.injEq, TypedField.uint.injEq, true_and, and_true] at same
  obtain ⟨_, _, _, account, principal, plan, commitment, index, hash, _⟩ := same
  exact ⟨account, principal, plan, commitment, index, hash⟩

theorem sponsorship_document_inj {a b : SponsorshipApprovalClaims} {s t : TypedData}
    (built : buildSponsorshipApprovalTypedData crypto audience a = .ok s)
    (built' : buildSponsorshipApprovalTypedData crypto audience' b = .ok t) (same : s.encoded = t.encoded) :
    SameSponsorship a.toSponsorshipApprovalBinding b.toSponsorshipApprovalBinding := by
  unfold buildSponsorshipApprovalTypedData at built built'
  iterate 2 obtain ⟨_, _, built⟩ := ok_bind built
  iterate 2 obtain ⟨_, _, built'⟩ := ok_bind built'
  cases built
  cases built'
  simp only [TypedData.encoded, TypedField.bytes, List.map_cons, List.map_nil, TypedData.mk.injEq, List.cons.injEq,
    Prod.mk.injEq, TypedField.string.injEq, TypedField.bytes32.injEq, TypedField.uint.injEq, true_and, and_true] at same
  obtain ⟨_, _, _, account, principal, sponsorship, commitment, hash, _⟩ := same
  exact ⟨account, principal, sponsorship, commitment, hash⟩

theorem documents_apart {a : TransactionApprovalClaims} {b : SponsorshipApprovalClaims} {s t : TypedData}
    (built : buildTransactionApprovalTypedData crypto audience a = .ok s)
    (built' : buildSponsorshipApprovalTypedData crypto audience' b = .ok t) : s.encoded ≠ t.encoded := by
  unfold buildTransactionApprovalTypedData at built
  unfold buildSponsorshipApprovalTypedData at built'
  iterate 2 obtain ⟨_, _, built⟩ := ok_bind built
  iterate 2 obtain ⟨_, _, built'⟩ := ok_bind built'
  cases built
  cases built'
  intro same
  have kinds := congrArg TypedData.primaryType same
  simp [TypedData.encoded] at kinds

theorem isHex_toList {digits : Nat} {text : String} (hexadecimal : isHex digits text = true) :
    text.toList.length = digits + 2 ∧ ',' ∉ text.toList := by
  unfold isHex at hexadecimal
  split at hexadecimal
  · rename_i rest spelled
    simp only [Bool.and_eq_true, beq_iff_eq, List.all_eq_true] at hexadecimal
    rw [spelled]
    refine ⟨by simp [hexadecimal.1], fun comma => ?_⟩
    simp only [List.mem_cons] at comma
    obtain comma | comma | comma := comma
    · cases comma
    · cases comma
    · exact absurd (hexadecimal.2 ',' comma) (by decide)
  · cases hexadecimal

theorem toLowerCase_length (text : String) : (toLowerCase text).toList.length = text.toList.length := by
  rw [toLowerCase, String.toList_ofList, List.length_map]

theorem toLower_comma {c : Char} (comma : c.toLower = ',') : c = ',' := by
  delta Char.toLower at comma
  split at comma
  · rename_i upper
    have lowest : 65 ≤ c.val.toNat := UInt32.le_iff_toNat_le.mp upper.1
    have highest : c.val.toNat ≤ 90 := UInt32.le_iff_toNat_le.mp upper.2
    have value : (c.val + 32).toNat = 44 := congrArg (fun d : Char => d.val.toNat) comma
    rw [UInt32.toNat_add] at value
    have shift : (32 : UInt32).toNat = 32 := rfl
    omega
  · exact comma

/-- A signature, its letters lowered, as the hashed text quotes it. -/
def quoted (signature : String) : String := "\"" ++ signature ++ "\""

theorem quoted_injective : Function.Injective quoted := by
  intro a b same
  have spelled := congrArg String.toList same
  simp only [quoted, String.toList_append] at spelled
  exact String.toList_inj.mp (List.append_cancel_left (List.append_cancel_right spelled))

theorem quoted_separable {digits : Nat} {signature : String} (hexadecimal : isHex digits signature = true) :
    ',' ∉ (quoted (toLowerCase signature)).toList := by
  simp only [quoted, toLowerCase, String.toList_append, String.toList_ofList, List.mem_append, List.mem_map, not_or]
  refine ⟨⟨by decide, ?_⟩, by decide⟩
  rintro ⟨c, member, comma⟩
  rw [toLower_comma comma] at member
  exact (isHex_toList hexadecimal).2 member

/-- Between fixed texts, a first part of fixed length and whatever follows it are what the whole says. -/
theorem framed_inj {head middle tail a b x y : String} (length : a.toList.length = b.toList.length)
    (same : head ++ a ++ middle ++ x ++ tail = head ++ b ++ middle ++ y ++ tail) : a = b ∧ x = y := by
  have spelled := congrArg String.toList same
  simp only [String.toList_append, List.append_assoc] at spelled
  obtain ⟨first, rest⟩ := List.append_inj (List.append_cancel_left spelled) length
  exact ⟨String.toList_inj.mp first, String.toList_inj.mp (List.append_cancel_right (List.append_cancel_left rest))⟩

theorem submissionText_inj {commitment commitment' : String} {a b : List String} (fixed : isHex 64 commitment = true)
    (fixed' : isHex 64 commitment' = true) (signed : ∀ signature ∈ a ++ b, isHex 130 signature = true) (some : a ≠ [])
    (any : b ≠ []) (same : submissionText commitment a = submissionText commitment' b) :
    toLowerCase commitment = toLowerCase commitment' ∧ a.map toLowerCase = b.map toLowerCase := by
  have length : (toLowerCase commitment).toList.length = (toLowerCase commitment').toList.length := by
    rw [toLowerCase_length, toLowerCase_length, (isHex_toList fixed).1, (isHex_toList fixed').1]
  obtain ⟨commitments, joined⟩ := framed_inj length same
  have separable : ∀ piece ∈ (a.map toLowerCase).map quoted ++ (b.map toLowerCase).map quoted, ',' ∉ piece.toList := by
    intro piece member
    rw [← List.map_append, ← List.map_append, List.map_map] at member
    obtain ⟨signature, given, rfl⟩ := List.mem_map.mp member
    exact quoted_separable (signed signature given)
  have pieces : (a.map toLowerCase).map quoted = (b.map toLowerCase).map quoted := by
    apply intercalate_inj separable (by simpa using some) (by simpa using any)
    rw [List.map_map, List.map_map]
    exact joined
  exact ⟨commitments, List.map_injective_iff.mpr quoted_injective pieces⟩

theorem mapM_filter_ok {accepts : String → Bool} {entries : List Json} {texts : List String}
    (read : entries.mapM (fun entry => entry.text?.filter accepts) = some texts) :
    entries = texts.map Json.text ∧ ∀ text ∈ texts, accepts text = true := by
  induction entries generalizing texts with
  | nil =>
    cases read
    exact ⟨rfl, nofun⟩
  | cons entry rest ih =>
    rw [List.mapM_cons] at read
    obtain ⟨text, found, read⟩ := some_bind read
    obtain ⟨others, listed, read⟩ := some_bind read
    cases read
    obtain ⟨held, accepted⟩ := Option.filter_eq_some_iff.mp found
    obtain ⟨spelled, all⟩ := ih listed
    refine ⟨?_, List.forall_mem_cons.mpr ⟨accepted, all⟩⟩
    cases entry with
    | text value =>
      cases held
      rw [List.map_cons, spelled]
    | null | boolean | number | array | object => cases held

theorem sponsorshipSubmissionHash_inj (digested : Function.Injective crypto.sha256Text) {commitment commitment' hash : String}
    {a b : List Json} (hashed : sponsorshipSubmissionHash crypto commitment a = .ok hash)
    (hashed' : sponsorshipSubmissionHash crypto commitment' b = .ok hash) :
    toLowerCase commitment = toLowerCase commitment' ∧
      ∃ s t : List String, a = s.map Json.text ∧ b = t.map Json.text ∧ s.map toLowerCase = t.map toLowerCase := by
  have opened : ∀ {commitment : String} {entries : List Json},
      sponsorshipSubmissionHash crypto commitment entries = .ok hash → ∃ s : List String, entries = s.map Json.text ∧
        (∀ signature ∈ s, isHex 130 signature = true) ∧ s ≠ [] ∧ isHex 64 commitment = true ∧
        crypto.sha256Text (submissionText commitment s) = hash := by
    intro commitment entries hashed
    unfold sponsorshipSubmissionHash at hashed
    split at hashed
    · rename_i s read
      obtain ⟨bounded, hashed⟩ := ok_refuse hashed
      cases hashed
      simp only [Bool.or_eq_false_iff, Bool.not_eq_false', decide_eq_false_iff_not, Nat.not_lt] at bounded
      obtain ⟨spelled, signed⟩ := mapM_filter_ok read
      exact ⟨s, spelled, signed, List.length_pos_iff.mp bounded.1.2, bounded.1.1, rfl⟩
    · cases hashed
  obtain ⟨s, spelled, signed, some, fixed, rfl⟩ := opened hashed
  obtain ⟨t, spelled', signed', any, fixed', same⟩ := opened hashed'
  have signatures : ∀ signature ∈ s ++ t, isHex 130 signature = true := by
    intro signature member
    exact (List.mem_append.mp member).elim (signed signature) (signed' signature)
  obtain ⟨commitments, lowered⟩ := submissionText_inj fixed fixed' signatures some any (digested same.symm)
  exact ⟨commitments, s, t, spelled, spelled', lowered⟩

/-- A dispatch is authorized only for the authenticated actor of the record, and only with the owner's consent to exactly
this effect, in a window that is short and holds at the last look at the clock. One signed document is of one effect, and
one publication hash is of one commitment and one order of signatures. -/
theorem dispatch_binds_effect (hashed : ∀ s t, crypto.hashTypedData s = crypto.hashTypedData t → s.encoded = t.encoded)
    (digested : Function.Injective crypto.sha256Text) (service : String) :
    (∀ authorizer, createTransactionDispatchAuthorizer crypto service = .ok authorizer →
      ∃ audience, validateAudience crypto service = .ok audience ∧ ∀ context plan stepIndex transactionHash readings window,
        authorizer context plan stepIndex transactionHash readings = .ok window → Timely window (readings.now 3) ∧
          ∃ present authority, Authenticated context plan.actor present authority ∧
            TransactionConsent crypto audience present authority plan stepIndex transactionHash window) ∧
    (∀ authorizer, createSponsorshipDispatchAuthorizer crypto service = .ok authorizer →
      ∃ audience, validateAudience crypto service = .ok audience ∧ ∀ context record submissionHash readings window,
        authorizer context record submissionHash readings = .ok window → Timely window (readings.now 3) ∧
          ∃ present authority, Authenticated context record.actor present authority ∧
            SponsorshipConsent crypto audience present authority record submissionHash window) ∧
    (∀ audience audience' input input' a b s t, TransactionApproved crypto audience input a s →
      TransactionApproved crypto audience' input' b t → crypto.hashTypedData s = crypto.hashTypedData t →
      SameTransaction a.toTransactionApprovalBinding b.toTransactionApprovalBinding) ∧
    (∀ audience audience' input input' a b s t, SponsorshipApproved crypto audience input a s →
      SponsorshipApproved crypto audience' input' b t → crypto.hashTypedData s = crypto.hashTypedData t →
      SameSponsorship a.toSponsorshipApprovalBinding b.toSponsorshipApprovalBinding) ∧
    (∀ audience audience' input input' a b s t, TransactionApproved crypto audience input a s →
      SponsorshipApproved crypto audience' input' b t → crypto.hashTypedData s ≠ crypto.hashTypedData t) ∧
    ∀ commitment commitment' hash a b, sponsorshipSubmissionHash crypto commitment a = .ok hash →
      sponsorshipSubmissionHash crypto commitment' b = .ok hash → toLowerCase commitment = toLowerCase commitment' ∧
        ∃ s t : List String, a = s.map Json.text ∧ b = t.map Json.text ∧ s.map toLowerCase = t.map toLowerCase := by
  refine ⟨?_, ?_, ?_, ?_, ?_, ?_⟩
  · intro authorizer created
    obtain ⟨audience, validated, rfl⟩ := except_map_ok created
    exact ⟨audience, validated, fun _ _ _ _ _ _ authorized => authorizeTransaction_ok authorized⟩
  · intro authorizer created
    obtain ⟨audience, validated, rfl⟩ := except_map_ok created
    exact ⟨audience, validated, fun _ _ _ _ _ authorized => authorizeSponsorship_ok authorized⟩
  · intro _ _ _ _ _ _ s t approved approved' same
    exact transaction_document_inj approved.document approved'.document (hashed s t same)
  · intro _ _ _ _ _ _ s t approved approved' same
    exact sponsorship_document_inj approved.document approved'.document (hashed s t same)
  · intro _ _ _ _ _ _ s t approved approved' same
    exact documents_apart approved.document approved'.document (hashed s t same)
  · intro _ _ _ _ _ hash hash'
    exact sponsorshipSubmissionHash_inj digested hash hash'

def sampleAddress : String := "0x1111111111111111111111111111111111111111"
def sampleAccount : String := "eip155:1:0x1111111111111111111111111111111111111111"
def samplePlanId : String := "00000000-0000-4000-8000-000000000001"
def sampleGrant : String := "00000000-0000-4000-8000-000000000002"
def sampleNonce : String := "0x3333333333333333333333333333333333333333333333333333333333333333"
def sampleCommitment : String := "0x4444444444444444444444444444444444444444444444444444444444444444"
def sampleHash : String := "0x22ae6da6b482f9b1b19b0b897c3fd43884180a1c5ee361e1107a1bc635649dda"

/-- Typed documents are their own digests, and the owner's signature of any of them is the one byte 1. -/
def sampleCrypto : Crypto TypedData where
  isServiceUrl url := url = "https://center.example/" || url = "https://center.example"
  isAddress := isHex 40
  getAddress address := address
  keccak256 _ := sampleHash
  keccakText _ := "0x9815ead331a3a1373f568116319cc8b4f71c11d5de525656dc9b704a663f5865"
  keccakBody _ := "0xf16f4edeceee0184021da5d200f0cf36df6da927a05017267984fc439beddaa7"
  sha256Text text := text
  hashTypedData := TypedData.encoded
  recoverAddress _ signature := if signature = "0x01" then some sampleAddress else none
  verifyContractOwner := none
  parseBody _ := some (.object [("rawSignedTransaction", .text "0x0102")])

def sampleHeaders (grant : Option String) (name : String) : Option String :=
  if name = REST_AUTH_HEADERS.account then some sampleAccount
  else if name = REST_AUTH_HEADERS.signer then some sampleAddress
  else if name = REST_AUTH_HEADERS.grant then grant
  else if name = REST_AUTH_HEADERS.issuedAt then some "1000"
  else if name = REST_AUTH_HEADERS.expiresAt then some "1200"
  else if name = REST_AUTH_HEADERS.nonce then some sampleNonce
  else if name = REST_AUTH_HEADERS.signature then some "0x01"
  else if name = "content-type" then some "application/json"
  else none

def sampleInput (grant : Option String) : SignedRequestInput :=
  ⟨"POST", stepTarget samplePlanId 2, "application/json", "\x7b\"rawSignedTransaction\":\"0x0102\"\x7d".toUTF8.toList,
    sampleHeaders grant⟩

/-- The owner, or the bot of a grant. -/
def samplePrincipal (grant : Option String) (principalId : String) : RestPrincipal :=
  ⟨sampleAccount, sampleAddress, 1, principalId, sampleAddress, grant, [.relay], grant.isNone, sampleNonce, none, none⟩

def sampleApproval (principalId : String) : Json := .object
  [("accountId", .text sampleAccount), ("principalId", .text principalId), ("planId", .text samplePlanId),
    ("commitment", .text sampleCommitment), ("stepIndex", .number (.integer 2)), ("transactionHash", .text sampleHash),
    ("issuedAt", .number (.integer 1050)), ("expiresAt", .number (.integer 1150)), ("nonce", .text sampleNonce),
    ("signature", .text "0x01")]

def sampleContext (grant : Option String) (principalId : String) : RestRequestContext :=
  ⟨some (samplePrincipal grant principalId, sampleInput grant),
    fun step => if step = 2 then some (sampleApproval principalId) else none, none⟩

def samplePlan (principalId : String) : StoredPlan := ⟨samplePlanId, ⟨sampleAccount, principalId⟩, sampleCommitment⟩
def sampleReadings : Readings := ⟨fun _ => false, fun look => 1100 + look⟩
def sampleOwner : String := "owner:" ++ sampleAccount
def sampleBot : String := "bot:" ++ sampleGrant

theorem sample_authorized :
    (validateAudience sampleCrypto "https://center.example/").toOption = some "https://center.example" ∧
    (authorizeTransaction sampleCrypto "https://center.example" (some (sampleContext none sampleOwner))
      (samplePlan sampleOwner) 2 sampleHash sampleReadings).toOption = some ⟨1000, 1200⟩ ∧
    (authorizeTransaction sampleCrypto "https://center.example" (some (sampleContext (some sampleGrant) sampleBot))
      (samplePlan sampleBot) 2 sampleHash sampleReadings).toOption = some ⟨1050, 1150⟩ := by decide +kernel

theorem dispatch_binds_effect_sample : ∃ authorizer : Option RestRequestContext → StoredPlan → Int → String → Readings →
      Except RestError DispatchApprovalWindow,
    createTransactionDispatchAuthorizer sampleCrypto "https://center.example/" = .ok authorizer ∧
    (∀ window,
        authorizer (some (sampleContext none sampleOwner)) (samplePlan sampleOwner) 2 sampleHash sampleReadings = .ok window →
      window = ⟨1000, 1200⟩) ∧
    ∃ present authority, Authenticated (some (sampleContext (some sampleGrant) sampleBot)) (samplePlan sampleBot).actor present
        authority ∧
      TransactionConsent sampleCrypto "https://center.example" present authority (samplePlan sampleBot) 2
        sampleHash ⟨1050, 1150⟩ := by
  have created : createTransactionDispatchAuthorizer sampleCrypto "https://center.example/" =
      .ok (authorizeTransaction sampleCrypto "https://center.example") := by
    rw [createTransactionDispatchAuthorizer, toOption_ok sample_authorized.1]
    rfl
  obtain ⟨audience, validated, binds⟩ :=
    (@dispatch_binds_effect _ sampleCrypto (fun _ _ => id) Function.injective_id "https://center.example/").1 _ created
  cases (toOption_ok sample_authorized.1).symm.trans validated
  refine ⟨_, created, ?_, (binds _ _ _ _ _ _ (toOption_ok sample_authorized.2.2)).2⟩
  intro window authorized
  rw [toOption_ok sample_authorized.2.1] at authorized
  exact (Except.ok.inj authorized).symm

end JBCenter.Dispatch
