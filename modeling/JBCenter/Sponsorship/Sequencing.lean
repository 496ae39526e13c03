import JBCenter.Base.Ranks
import JBCenter.Rest.Decimals
import JBCenter.Rest.Json
import JBCenter.Sponsorship.Memory

/-! The forwarding nonces of a preparation: assigned when it is prepared, required of its signed requests when it is
submitted, sent to the relay as virtual nonces, and checked again before it is funded. -/
namespace JBCenter.Sponsorship
open Rest

/-- The nonce the chain gave for a sender, and how many requests were put on top of it. -/
structure NoncePosition where
  base : String
  offset : Nat

def nonceChanged : RestError :=
  fail "FORWARD_REQUEST_CHANGED" "The forwarding nonce changed during preparation. Prepare again." 409

def PreparedForwardRequest.withNonce (request : PreparedForwardRequest) (nonce : Nat) : PreparedForwardRequest :=
  { request with message := { request.message with nonce := toString nonce } }

/-- The loop of `prepare` over the requests as the chain gave them, each with the sender's current nonce. -/
def assignNonces (positions : OrderedMap Int NoncePosition) :
    List PreparedForwardRequest → Except RestError (List PreparedForwardRequest)
  | [] => .ok []
  | prepared :: rest => do
    let position := (positions.get prepared.chainId).getD ⟨prepared.message.nonce, 0⟩
    refuse (position.base != prepared.message.nonce) nonceChanged
    let requests ← assignNonces (positions.set prepared.chainId { position with offset := position.offset + 1 }) rest
    return prepared.withNonce (decimalValue position.base + position.offset) :: requests

/-- The settings, the reviewed code hashes of a request, and the coder of the forwarder's calls. -/
structure ForwarderChain where
  minimumRemainingSeconds : Int
  forwarderCodeHash : Payload → String
  targetCodeHash : Payload → String
  /-- The signer of a request's typed data. -/
  recover : PreparedForwardRequest → String → Option String
  encodeExecute : ForwardRequest → String → String
  /-- Whether data is a call of `execute`. What cannot be decoded throws. -/
  decodeExecute : String → Except RestError Bool

/-- What the chain and the clock answer while a request is revalidated. -/
structure RevalidationReplies where
  now : Int
  snapshot : Except RestError Payload
  forwarderCodeHash : Except RestError String
  targetCodeHash : Except RestError String
  nonce : Except RestError String
  trusted : Except RestError Bool
  canonical : Except RestError Unit

def requestExpired : RestError :=
  fail "FORWARD_REQUEST_EXPIRED" "The signed forwarding deadline expires too soon." 409

def requestChanged : RestError :=
  fail "FORWARD_REQUEST_CHANGED" "The forwarder, target, trust configuration or nonce changed after preparation." 409

section
variable (chain : ForwarderChain)

def revalidate (replies : RevalidationReplies) (request : PreparedForwardRequest) (nonceOffset : Nat := 0) :
    Except RestError Payload := do
  refuse ((decimalValue request.message.deadline : Int) ≤ replies.now / 1000 + chain.minimumRemainingSeconds) requestExpired
  let evidence ← replies.snapshot
  let forwarderCode ← replies.forwarderCodeHash
  let targetCode ← replies.targetCodeHash
  let nonce ← replies.nonce
  let trusted ← replies.trusted
  refuse (forwarderCode != chain.forwarderCodeHash request.reviewed || targetCode != chain.targetCodeHash request.reviewed ||
    decimalValue nonce + nonceOffset != decimalValue request.message.nonce || !trusted) requestChanged
  replies.canonical
  return evidence

/-- What the chain answers while a request is signed: to the revalidation, to `verify` and the simulation of a first call,
and to the simulation of a sequence. -/
structure SigningReplies where
  revalidation : RevalidationReplies
  verified : Except RestError Bool
  called : Except RestError Unit
  simulated : Except RestError Json
  canonical : Except RestError Unit

def succeeded (call : Json) : Bool :=
  match call with
  | .object fields => JsonFields.text fields "status" = some "0x1" && (JsonFields.field fields "error").isNone &&
      JsonFields.text fields "returnData" = some "0x"
  | _ => false

/-- One simulated block, in which every call of the sequence succeeds and returns nothing. -/
def sequenceSucceeds (result : Json) (count : Nat) : Bool :=
  match result with
  | .array [.object fields] =>
    match JsonFields.field fields "calls" with
    | some (.array calls) => calls.length == count && calls.all succeeded
    | _ => false
  | _ => false

def invalidSignature : RestError :=
  fail "INVALID_FORWARD_SIGNATURE" "Provide one 65-byte ECDSA signature for each exact request." 400

def unrecoverable : RestError :=
  fail "INVALID_FORWARD_SIGNATURE" "The supplied signature is not valid for this exact forward request." 400

def wrongSigner : RestError :=
  fail "FORWARD_SIGNATURE_ACCOUNT_MISMATCH" "API bot keys cannot replace the owner wallet’s transaction signature." 403

def signatureRejected : RestError :=
  fail "FORWARD_SIGNATURE_REJECTED" "The canonical forwarder rejected this signature or current nonce." 422

def invalidSequence : RestError :=
  fail "INVALID_FORWARD_SEQUENCE" "Forwarded calls must use the same chain and forwarder." 400

def sequenceFailed : RestError :=
  fail "FORWARD_SEQUENCE_SIMULATION_FAILED" "The exact forwarded sequence could not be simulated successfully." 422

def sequencedCall (request : PreparedForwardRequest) (item : RelayrEntry) : Except RestError Unit := do
  let execute ← chain.decodeExecute item.data
  refuse (item.chain != request.chainId || !same item.target request.forwarder || !execute) invalidSequence

/-- The forwarder verifies a first request. A later one has a nonce it does not have yet. -/
def firstVerifies (replies : SigningReplies) (preceding : List RelayrEntry) : Except RestError Unit :=
  if preceding.isEmpty then do
    let verified ← replies.verified
    refuse (!verified) signatureRejected
  else .ok ()

/-- A first request is called, a later one is simulated after those before it. -/
def executes (replies : SigningReplies) (preceding : List RelayrEntry) : Except RestError Unit :=
  if preceding.isEmpty then replies.called
  else do
    let result ← replies.simulated
    refuse (!sequenceSucceeds result (preceding.length + 1)) sequenceFailed

def signed (replies : SigningReplies) (request : PreparedForwardRequest) (signature : String)
    (preceding : List RelayrEntry := []) : Except RestError RelayrEntry := do
  refuse (!isHex 130 signature) invalidSignature
  match chain.recover request signature with
  | none => .error unrecoverable
  | some signer => do
    refuse (!same signer request.message.sender) wrongSigner
    let _ ← revalidate chain replies.revalidation request preceding.length
    firstVerifies replies preceding
    let entry : RelayrEntry := {
      chain := request.chainId, target := request.forwarder, value := request.message.value
      data := chain.encodeExecute request.message signature, virtualNonce := preceding.length }
    (preceding ++ [entry]).forM (sequencedCall chain request)
    executes replies preceding
    replies.canonical
    return entry

/-- A request with its signature and what the chain answers to it. -/
structure Signing where
  request : PreparedForwardRequest
  signature : String
  replies : SigningReplies

/-- The loop of `submit`: each request follows the signed entries of its chain. -/
def signEntries (entries : List RelayrEntry) : List Signing → Except RestError (List RelayrEntry)
  | [] => .ok entries
  | signing :: rest => do
    let preceding := entries.filter (fun entry => entry.chain == signing.request.chainId)
    let entry ← signed chain signing.replies signing.request signing.signature preceding
    signEntries (entries ++ [entry]) rest

def invalidSignatures : RestError :=
  fail "INVALID_FORWARD_SIGNATURES" "Provide one exact ECDSA signature for each prepared request, in order." 400

def signingsOf (requests : List PreparedForwardRequest) (signatures : List String) (replies : Nat → SigningReplies) :
    List Signing :=
  (List.zip requests signatures).zipIdx.map (fun ((request, signature), i) => ⟨request, signature, replies i⟩)

/-- What `submit` makes of the signatures of the prepared requests. -/
def submitEntries (requests : List PreparedForwardRequest) (signatures : List String) (replies : Nat → SigningReplies) :
    Except RestError (List RelayrEntry) := do
  refuse (signatures.length != requests.length || signatures.any (fun signature => !isHex 130 signature)) invalidSignatures
  signEntries chain [] (signingsOf requests signatures replies)

/-- The offsets of `prepareFunding`. -/
def fundingOffsets (requests : List PreparedForwardRequest) : List (PreparedForwardRequest × Nat) :=
  tallied PreparedForwardRequest.chainId .empty requests

/-- What `prepareFunding` revalidates; any failure is one of the whole. -/
def revalidateFunding (requests : List PreparedForwardRequest) (replies : Nat → RevalidationReplies) :
    Except RestError (List Payload) :=
  (fundingOffsets requests).zipIdx.mapM (fun ((request, offset), i) => revalidate chain (replies i) request offset)

end

def chainsOf (requests : List PreparedForwardRequest) : List Int := requests.map PreparedForwardRequest.chainId

variable {chain : ForwarderChain} {prepared requests : List PreparedForwardRequest}

/-- The positions after some requests: of each of their chains the one nonce they were given, and their number. -/
structure Positioned (positions : OrderedMap Int NoncePosition) (seen : List PreparedForwardRequest) : Prop where
  absent : ∀ chainId, positions.get chainId = none → chainId ∉ chainsOf seen
  offset : ∀ chainId position, positions.get chainId = some position → position.offset = (chainsOf seen).count chainId
  base : ∀ chainId position, positions.get chainId = some position →
    ∀ request ∈ seen, request.chainId = chainId → request.message.nonce = position.base

theorem Positioned.empty : Positioned .empty [] where
  absent _ _ := List.not_mem_nil
  offset _ _ found := by cases found
  base _ _ found := by cases found

variable {entries : List RelayrEntry} {signatures : List String} {positions : OrderedMap Int NoncePosition}
variable {request : PreparedForwardRequest}

variable {seen : List PreparedForwardRequest}

theorem Positioned.found
    (positioned : Positioned positions seen) (request : PreparedForwardRequest) :
    ((positions.get request.chainId).getD ⟨request.message.nonce, 0⟩).offset = (chainsOf seen).count request.chainId ∧
      ∀ other ∈ seen, other.chainId = request.chainId →
        other.message.nonce = ((positions.get request.chainId).getD ⟨request.message.nonce, 0⟩).base := by
  cases found : positions.get request.chainId with
  | none =>
    have absent := positioned.absent _ found
    refine ⟨(List.count_eq_zero.mpr absent).symm, fun other member same => ?_⟩
    exact absurd (same ▸ List.mem_map_of_mem member) absent
  | some position => exact ⟨positioned.offset _ _ found, positioned.base _ _ found⟩

theorem Positioned.next
    {position : NoncePosition} (positioned : Positioned positions seen)
    (count : position.offset = (chainsOf seen).count request.chainId)
    (same : ∀ other ∈ seen, other.chainId = request.chainId → other.message.nonce = position.base)
    (own : position.base = request.message.nonce) :
    Positioned (positions.set request.chainId { position with offset := position.offset + 1 }) (seen ++ [request]) := by
  have chains : chainsOf (seen ++ [request]) = chainsOf seen ++ [request.chainId] := List.map_append
  refine ⟨fun chainId found => ?_, fun chainId held found => ?_, fun chainId held found other member named => ?_⟩
  · rw [OrderedMap.get_set] at found
    split at found
    · cases found
    · rename_i differ
      rw [chains, List.mem_append, List.mem_singleton, not_or]
      exact ⟨positioned.absent chainId found, differ⟩
  · rw [OrderedMap.get_set] at found
    rw [chains, List.count_append, List.count_singleton]
    split at found
    · rename_i alike
      cases found
      subst alike
      rw [beq_self_eq_true, if_pos rfl, count]
    · rename_i differ
      rw [if_neg (by simpa using Ne.symm differ), Nat.add_zero]
      exact positioned.offset chainId held found
  · rw [OrderedMap.get_set] at found
    rw [List.mem_append, List.mem_singleton] at member
    split at found
    · rename_i alike
      cases found
      subst alike
      obtain member | rfl := member
      · exact same other member named
      · exact own.symm
    · rename_i differ
      obtain member | rfl := member
      · exact positioned.base chainId held found other member named
      · exact absurd named.symm differ

/-- What is known of the requests that `prepare` numbers, after some others. -/
theorem assignNonces_after
    (positioned : Positioned positions seen) (assigned : assignNonces positions prepared = .ok requests) :
    chainsOf requests = chainsOf prepared ∧ ∀ i original, prepared[i]? = some original →
      requests[i]? = some (original.withNonce
        (decimalValue original.message.nonce + (chainsOf (seen ++ prepared.take i)).count original.chainId)) ∧
      ∀ other ∈ seen ++ prepared.take i, other.chainId = original.chainId →
        other.message.nonce = original.message.nonce := by
  induction prepared generalizing positions seen requests with
  | nil =>
    cases assigned
    exact ⟨rfl, fun i original found => by cases found⟩
  | cons first rest ih =>
    obtain ⟨count, same⟩ := positioned.found first
    unfold assignNonces at assigned
    generalize (positions.get first.chainId).getD ⟨first.message.nonce, 0⟩ = position at assigned count same
    obtain ⟨own, assigned⟩ := ok_refuse assigned
    obtain ⟨numbered, later, assigned⟩ := ok_bind assigned
    cases assigned
    rw [bne_eq_false_iff_eq] at own
    obtain ⟨chains, places⟩ := ih (positioned.next count same own) later
    refine ⟨congrArg (first.chainId :: ·) chains, fun i original found => ?_⟩
    cases i with
    | zero =>
      cases found
      rw [List.take_zero, List.append_nil, ← count, ← own]
      exact ⟨rfl, same⟩
    | succ i =>
      obtain ⟨numbered, alike⟩ := places i original found
      rw [List.append_assoc, List.singleton_append] at numbered alike
      exact ⟨numbered, alike⟩

theorem revalidate_ok {replies : RevalidationReplies} {offset : Nat} {evidence : Payload}
    (accepted : revalidate chain replies request offset = .ok evidence) :
    ∃ nonce, replies.nonce = .ok nonce ∧ decimalValue nonce + offset = decimalValue request.message.nonce := by
  unfold revalidate at accepted
  iterate 4 obtain ⟨_, _, accepted⟩ := ok_bind accepted
  obtain ⟨nonce, read, accepted⟩ := ok_bind accepted
  obtain ⟨_, _, accepted⟩ := ok_bind accepted
  obtain ⟨unchanged, _⟩ := ok_refuse accepted
  rw [Bool.or_eq_false_iff, Bool.or_eq_false_iff, bne_eq_false_iff_eq] at unchanged
  exact ⟨nonce, read, unchanged.1.2⟩

theorem signed_ok {replies : SigningReplies} {signature : String}
    {preceding : List RelayrEntry} {entry : RelayrEntry}
    (accepted : signed chain replies request signature preceding = .ok entry) :
    entry.chain = request.chainId ∧ entry.virtualNonce = preceding.length ∧
      ∃ nonce, replies.revalidation.nonce = .ok nonce ∧
        decimalValue nonce + preceding.length = decimalValue request.message.nonce := by
  unfold signed at accepted
  obtain ⟨_, accepted⟩ := ok_refuse accepted
  split at accepted
  · cases accepted
  · obtain ⟨_, accepted⟩ := ok_refuse accepted
    obtain ⟨evidence, revalidated, accepted⟩ := ok_bind accepted
    iterate 4 obtain ⟨_, _, accepted⟩ := ok_bind accepted
    cases accepted
    exact ⟨rfl, rfl, revalidate_ok revalidated⟩

theorem signEntries_appends {result : List RelayrEntry} {signings : List Signing}
    (accepted : signEntries chain entries signings = .ok result) :
    ∃ later, result = entries ++ later ∧ later.map RelayrEntry.chain = signings.map (fun signing => signing.request.chainId) := by
  induction signings generalizing entries with
  | nil =>
    cases accepted
    exact ⟨[], (List.append_nil _).symm, rfl⟩
  | cons first rest ih =>
    unfold signEntries at accepted
    obtain ⟨entry, answered, accepted⟩ := ok_bind accepted
    obtain ⟨later, appended, chains⟩ := ih accepted
    refine ⟨entry :: later, ?_, ?_⟩
    · rw [appended, List.append_assoc, List.singleton_append]
    · rw [List.map_cons, List.map_cons, chains, (signed_ok answered).1]

theorem preceding_count {chains : List Int} (chainId : Int)
    (signed : entries.map RelayrEntry.chain = chains) :
    (entries.filter (fun entry => entry.chain == chainId)).length = chains.count chainId := by
  rw [← signed, List.count_eq_countP, List.countP_map, List.countP_eq_length_filter]
  rfl

/-- What is known of the entries that `submit` signs, after some others. -/
theorem signEntries_ok {result : List RelayrEntry} {signings : List Signing}
    (accepted : signEntries chain entries signings = .ok result) : ∀ i signing, signings[i]? = some signing →
      ∃ (preceding : List RelayrEntry) (entry : RelayrEntry), preceding.map RelayrEntry.chain =
          entries.map RelayrEntry.chain ++ (signings.take i).map (fun earlier => earlier.request.chainId) ∧
        signed chain signing.replies signing.request signing.signature
          (preceding.filter (fun entry => entry.chain == signing.request.chainId)) = .ok entry ∧
        result[entries.length + i]? = some entry := by
  induction signings generalizing entries with
  | nil =>
    intro i signing found
    cases found
  | cons first rest ih =>
    unfold signEntries at accepted
    obtain ⟨entry, answered, accepted⟩ := ok_bind accepted
    intro i signing found
    cases i with
    | zero =>
      cases found
      obtain ⟨later, rfl, _⟩ := signEntries_appends accepted
      refine ⟨entries, entry, by rw [List.take_zero, List.map_nil, List.append_nil], answered, ?_⟩
      rw [Nat.add_zero, List.append_assoc, List.getElem?_append_right (Nat.le_refl _), Nat.sub_self]
      rfl
    | succ i =>
      obtain ⟨preceding, later, chains, made, placed⟩ := ih accepted i signing found
      refine ⟨preceding, later, ?_, made, ?_⟩
      · rw [chains, List.map_append, List.append_assoc, List.map_singleton, (signed_ok answered).1]
        rfl
      · rwa [List.length_append, List.length_singleton, Nat.add_assoc, Nat.add_comm 1] at placed

theorem signingsOf_at (replies : Nat → SigningReplies) (long : signatures.length = requests.length)
    {i : Nat} (found : requests[i]? = some request) :
    ∃ signature, (signingsOf requests signatures replies)[i]? = some ⟨request, signature, replies i⟩ := by
  have inside : i < signatures.length := long ▸ (List.getElem?_eq_some_iff.mp found).1
  refine ⟨signatures[i], ?_⟩
  have both : (List.zip requests signatures)[i]? = some (request, signatures[i]) :=
    List.getElem?_zip_eq_some.mpr ⟨found, List.getElem?_eq_getElem inside⟩
  rw [signingsOf, List.getElem?_map, List.getElem?_zipIdx, both, Option.map_some, Option.map_some, Nat.zero_add]

theorem signingsOf_requests (replies : Nat → SigningReplies)
    (long : signatures.length = requests.length) :
    (signingsOf requests signatures replies).map Signing.request = requests := by
  have first : Signing.request ∘ (fun ((request, signature), i) => Signing.mk request signature (replies i)) =
      Prod.fst ∘ Prod.fst := rfl
  rw [signingsOf, List.map_map, first, ← List.map_map, List.zipIdx_map_fst, List.map_fst_zip (Nat.le_of_eq long.symm)]

theorem preceding_rank {replies : Nat → SigningReplies} {i : Nat}
    {preceding : List RelayrEntry} (long : signatures.length = requests.length) (found : requests[i]? = some request)
    (before : signEntries chain [] ((signingsOf requests signatures replies).take i) = .ok preceding) :
    (preceding.filter (fun entry => entry.chain == request.chainId)).length = rank (chainsOf requests) i := by
  obtain ⟨later, appended, chains⟩ := signEntries_appends before
  rw [List.nil_append] at appended
  subst appended
  have keyed : (chainsOf requests)[i]? = some request.chainId := by rw [chainsOf, List.getElem?_map, found, Option.map_some]
  rw [preceding_count request.chainId chains, rank_eq keyed, chainsOf, ← List.map_take]
  conv_rhs => rw [← signingsOf_requests replies long, ← List.map_take, List.map_map]
  rfl

theorem assignNonces_rank (assigned : assignNonces .empty prepared = .ok requests) {i : Nat}
    {original : PreparedForwardRequest} (found : prepared[i]? = some original) :
    requests[i]? = some (original.withNonce (decimalValue original.message.nonce + rank (chainsOf prepared) i)) := by
  obtain ⟨_, places⟩ := assignNonces_after Positioned.empty assigned
  have keyed : (chainsOf prepared)[i]? = some original.chainId := by rw [chainsOf, List.getElem?_map, found, Option.map_some]
  rw [rank_eq keyed, chainsOf, ← List.map_take]
  exact (places i original found).1

theorem assignNonces_base (assigned : assignNonces .empty prepared = .ok requests) {i j : Nat} (before : i < j)
    {first second : PreparedForwardRequest} (earlier : prepared[i]? = some first) (later : prepared[j]? = some second)
    (same : first.chainId = second.chainId) : first.message.nonce = second.message.nonce := by
  obtain ⟨_, places⟩ := assignNonces_after Positioned.empty assigned
  refine (places j second later).2 first ?_ same
  rw [List.nil_append, List.mem_iff_getElem?]
  exact ⟨i, by rw [List.getElem?_take_of_lt before, earlier]⟩

theorem withNonce_nonce (request : PreparedForwardRequest) (nonce : Nat) :
    decimalValue (request.withNonce nonce).nonceKey.nonce = nonce := decimalValue_toString nonce

theorem assignNonces_distinct (assigned : assignNonces .empty prepared = .ok requests) :
    (requests.map PreparedForwardRequest.nonceKey).Nodup := by
  have length : requests.length = prepared.length := by
    have chains := congrArg List.length (assignNonces_after Positioned.empty assigned).1
    rwa [chainsOf, chainsOf, List.length_map, List.length_map] at chains
  rw [List.Nodup, List.pairwise_map, List.pairwise_iff_getElem]
  intro i j inside later before same
  have first : prepared[i]? = some prepared[i] := List.getElem?_eq_getElem (length ▸ inside)
  have second : prepared[j]? = some prepared[j] := List.getElem?_eq_getElem (length ▸ later)
  have numbered := assignNonces_rank assigned first
  have renumbered := assignNonces_rank assigned second
  rw [List.getElem?_eq_getElem inside, Option.some.injEq] at numbered
  rw [List.getElem?_eq_getElem later, Option.some.injEq] at renumbered
  rw [numbered, renumbered] at same
  have chainId : prepared[i].chainId = prepared[j].chainId := congrArg ForwardNonceKey.chainId same
  have base := assignNonces_base assigned before first second chainId
  have values := congrArg (fun key => decimalValue key.nonce) same
  rw [withNonce_nonce, withNonce_nonce, base] at values
  have keyed : (chainsOf prepared)[i]? = some prepared[i].chainId := by rw [chainsOf, List.getElem?_map, first, Option.map_some]
  have rekeyed : (chainsOf prepared)[j]? = some prepared[i].chainId := by
    rw [chainsOf, List.getElem?_map, second, Option.map_some]
    exact congrArg some chainId.symm
  have ranks := rank_lt before keyed rekeyed
  omega

theorem submitEntries_rank {replies : Nat → SigningReplies}
    (submitted : submitEntries chain requests signatures replies = .ok entries) {i : Nat}
    (found : requests[i]? = some request) :
    ∃ entry nonce, entries[i]? = some entry ∧ entry.chain = request.chainId ∧
      entry.virtualNonce = rank (chainsOf requests) i ∧ (replies i).revalidation.nonce = .ok nonce ∧
      decimalValue nonce + rank (chainsOf requests) i = decimalValue request.message.nonce := by
  obtain ⟨whole, accepted⟩ := ok_refuse submitted
  have long : signatures.length = requests.length := by
    rw [Bool.or_eq_false_iff, bne_eq_false_iff_eq] at whole
    exact whole.1
  obtain ⟨signature, placed⟩ := signingsOf_at replies long found
  obtain ⟨preceding, entry, chains, made, held⟩ := signEntries_ok accepted i _ placed
  rw [List.map_nil, List.nil_append] at chains
  have keyed : (chainsOf requests)[i]? = some request.chainId := by rw [chainsOf, List.getElem?_map, found, Option.map_some]
  have count : (preceding.filter (fun entry => entry.chain == request.chainId)).length = rank (chainsOf requests) i := by
    rw [preceding_count request.chainId chains, rank_eq keyed, chainsOf, ← List.map_take]
    conv_rhs => rw [← signingsOf_requests replies long, ← List.map_take, List.map_map]
    rfl
  obtain ⟨ofChain, numbered, nonce, read, required⟩ := signed_ok made
  rw [count] at numbered required
  rw [List.length_nil, Nat.zero_add] at held
  exact ⟨entry, nonce, held, ofChain, numbered, read, required⟩

theorem revalidateFunding_rank {replies : Nat → RevalidationReplies} {evidence : List Payload}
    (accepted : revalidateFunding chain requests replies = .ok evidence) {i : Nat}
    (found : requests[i]? = some request) :
    ∃ nonce, (replies i).nonce = .ok nonce ∧
      decimalValue nonce + rank (chainsOf requests) i = decimalValue request.message.nonce := by
  have member : ((request, rank (chainsOf requests) i), i) ∈ (fundingOffsets requests).zipIdx := by
    rw [List.mem_zipIdx_iff_getElem?]
    exact tallied_rank found
  obtain ⟨_, revalidated⟩ := mapM_ok_mem accepted member
  exact revalidate_ok revalidated

/-- Preparation, submission, the relay and the funding number every request alike: by how many requests of its chain
come before it. -/
theorem forward_nonces_agree (assigned : assignNonces .empty prepared = .ok requests) {i : Nat}
    {original : PreparedForwardRequest} (found : prepared[i]? = some original) :
    let base := decimalValue original.message.nonce
    let k := rank (chainsOf prepared) i
    let request := original.withNonce (base + k)
    requests[i]? = some request ∧
      (∀ (j : Nat) other, prepared[j]? = some other → other.chainId = original.chainId →
      decimalValue other.message.nonce = base) ∧
      (requests.map PreparedForwardRequest.nonceKey).Nodup ∧
      (∀ signatures replies preceding, signatures.length = requests.length →
        signEntries chain [] ((signingsOf requests signatures replies).take i) = .ok preceding →
        (preceding.filter (fun entry => entry.chain == request.chainId)).length = k) ∧
      (∀ signatures replies entries, submitEntries chain requests signatures replies = .ok entries →
        ∃ entry nonce, entries[i]? = some entry ∧ entry.chain = request.chainId ∧ entry.virtualNonce = k ∧
          (replies i).revalidation.nonce = .ok nonce ∧ decimalValue nonce + k = base + k) ∧
      (fundingOffsets requests)[i]? = some (request, k) ∧
      ∀ replies evidence, revalidateFunding chain requests replies = .ok evidence →
        ∃ nonce, (replies i).nonce = .ok nonce ∧ decimalValue nonce + k = base + k := by
  intro base k request
  have numbered : requests[i]? = some request := assignNonces_rank assigned found
  have chains : chainsOf requests = chainsOf prepared := (assignNonces_after Positioned.empty assigned).1
  have nonce : decimalValue request.message.nonce = base + k := decimalValue_toString _
  refine ⟨numbered, fun j other placed same => ?_, assignNonces_distinct assigned, ?_, ?_, ?_, ?_⟩
  · obtain before | rfl | after := Nat.lt_trichotomy j i
    · exact congrArg decimalValue (assignNonces_base assigned before placed found same)
    · rw [found] at placed
      cases placed
      rfl
    · exact congrArg decimalValue (assignNonces_base assigned after found placed same.symm).symm
  · intro signatures replies preceding long before
    rw [preceding_rank long numbered before, chains]
  · intro signatures replies entries submitted
    have entry := submitEntries_rank submitted numbered
    rwa [chains, nonce] at entry
  · have offset : (fundingOffsets requests)[i]? = some (request, rank (chainsOf requests) i) := tallied_rank numbered
    rwa [chains] at offset
  · intro replies evidence accepted
    have revalidated := revalidateFunding_rank accepted numbered
    rwa [chains, nonce] at revalidated

def sampleRequest (chainId : Int) (nonce : String) : PreparedForwardRequest where
  stepIndex := 0
  chainId := chainId
  forwarder := "f"
  message := ⟨"a", "t", "0", "100", nonce, "900", "0x"⟩
  reviewed := "r"

def interleaved : List PreparedForwardRequest := [sampleRequest 1 "7", sampleRequest 10 "3", sampleRequest 1 "7"]

def numbered : List PreparedForwardRequest := [sampleRequest 1 "7", sampleRequest 10 "3", sampleRequest 1 "8"]

def sampleChain : ForwarderChain where
  minimumRemainingSeconds := 60
  forwarderCodeHash _ := "c"
  targetCodeHash _ := "d"
  recover request _ := some request.message.sender
  encodeExecute _ _ := "e"
  decodeExecute _ := .ok true

def sampleRevalidation (nonce : String) : RevalidationReplies :=
  ⟨0, .ok "b", .ok "c", .ok "d", .ok nonce, .ok true, .ok ()⟩

def sampleReplies (i : Nat) : SigningReplies where
  revalidation := sampleRevalidation (if i = 1 then "3" else "7")
  verified := .ok true
  called := .ok ()
  simulated := .ok (.array [.object [("calls", .array (List.replicate 2
    (.object [("status", .text "0x1"), ("returnData", .text "0x")])))]])
  canonical := .ok ()

def forwardSignature : String := String.ofList ('0' :: 'x' :: List.replicate 130 '1')

def relayed (chain virtualNonce : Int) : RelayrEntry := ⟨chain, "f", "e", "0", virtualNonce⟩

theorem interleaved_assigned : assignNonces .empty interleaved = .ok numbered := by decide

theorem forwardSignature_isHex : isHex 130 forwardSignature = true := isHex_replicate 130 (by decide)

theorem interleaved_submitted :
    submitEntries sampleChain numbered (List.replicate 3 forwardSignature) sampleReplies =
      .ok [relayed 1 0, relayed 10 0, relayed 1 1] := by
  have first : signed sampleChain (sampleReplies 0) (sampleRequest 1 "7") forwardSignature = .ok (relayed 1 0) := by
    unfold signed
    rw [forwardSignature_isHex]
    decide
  have other : signed sampleChain (sampleReplies 1) (sampleRequest 10 "3") forwardSignature = .ok (relayed 10 0) := by
    unfold signed
    rw [forwardSignature_isHex]
    decide
  have second : signed sampleChain (sampleReplies 2) (sampleRequest 1 "8") forwardSignature [relayed 1 0] =
      .ok (relayed 1 1) := by
    unfold signed
    rw [forwardSignature_isHex]
    decide
  have whole : refuse ((List.replicate 3 forwardSignature).length != numbered.length ||
      (List.replicate 3 forwardSignature).any (fun signature => !isHex 130 signature)) invalidSignatures = .ok () := by
    rw [refuse_ok, List.any_replicate, forwardSignature_isHex]
    rfl
  exact bind_run whole (bind_run first (bind_run other (bind_run second rfl)))

/-- The third request is the second of its chain: its nonce is one more than the chain's, and so is its virtual nonce. -/
theorem forward_nonces_agree_interleaved :
    numbered[2]? = some ((sampleRequest 1 "7").withNonce 8) ∧ ∃ entry nonce,
      [relayed 1 0, relayed 10 0, relayed 1 1][2]? = some entry ∧ entry.virtualNonce = 1 ∧
      (sampleReplies 2).revalidation.nonce = .ok nonce ∧ decimalValue nonce + 1 = 8 := by
  obtain ⟨requested, _, _, _, entries, _⟩ :=
    @forward_nonces_agree sampleChain interleaved numbered interleaved_assigned 2 (sampleRequest 1 "7") rfl
  obtain ⟨entry, nonce, placed, _, virtual, read, required⟩ := entries _ _ _ interleaved_submitted
  exact ⟨requested, entry, nonce, placed, virtual, read, required⟩

end JBCenter.Sponsorship
