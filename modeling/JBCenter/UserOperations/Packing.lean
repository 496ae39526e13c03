import JBCenter.UserOperations.Codec

/-! Packing and unpacking are inverse. Both pass through the canonical form of an operation, which normalization produces
and leaves as it is. -/
namespace JBCenter.UserOperations
open Rest
open List (append_assoc drop_left' drop_zero length_append length_map map_cons mem_map take_append_drop take_left')

/-- A number of at most so many bits, as `toHex` writes it. -/
def IsQuantity (bits : Nat) (text : String) : Prop := ∃ n < 2 ^ bits, text = toHex n

/-- At most so many bytes, in lower case. -/
def IsBytes (maximum : Nat) (text : String) : Prop :=
  ∃ digits, text = hexText digits ∧ IsNumeral 16 digits ∧ digits.length % 2 = 0 ∧ digits.length / 2 ≤ maximum

/-- Twenty bytes other than zero, in lower case. -/
def IsAddress (text : String) : Prop :=
  ∃ digits, text = hexText digits ∧ IsNumeral 16 digits ∧ digits.length = 40 ∧ text ≠ zeroAddress

/-- A factory with its calldata, or neither. -/
inductive FactoryForm : Option String → Option String → Prop where
  | absent : FactoryForm none none
  | present {factory data : String} (address : IsAddress factory) (unmarked : factory ∉ authorizationMarkers)
      (bytes : IsBytes OperationLimits.factoryBytes data) : FactoryForm (some factory) (some data)

/-- A paymaster with its two limits and its data, or none of them. -/
inductive PaymasterForm : Option String → Option String → Option String → Option String → Prop where
  | absent : PaymasterForm none none none none
  | present {paymaster verification postOp data : String} (address : IsAddress paymaster)
      (verifies : IsQuantity 128 verification) (settles : IsQuantity 128 postOp)
      (bytes : IsBytes OperationLimits.paymasterBytes data) :
      PaymasterForm (some paymaster) (some verification) (some postOp) (some data)

/-- An operation in canonical form. -/
structure UserOperationV07.Canonical (op : UserOperationV07) : Prop where
  sender : IsAddress op.sender
  nonce : IsQuantity 256 op.nonce
  callData : IsBytes OperationLimits.calldataBytes op.callData
  callGasLimit : IsQuantity 128 op.callGasLimit
  verificationGasLimit : IsQuantity 128 op.verificationGasLimit
  preVerificationGas : IsQuantity 256 op.preVerificationGas
  maxFeePerGas : IsQuantity 128 op.maxFeePerGas
  maxPriorityFeePerGas : IsQuantity 128 op.maxPriorityFeePerGas
  signature : IsBytes OperationLimits.signatureBytes op.signature
  priority : hexNumber op.maxPriorityFeePerGas ≤ hexNumber op.maxFeePerGas
  factory : FactoryForm op.factory op.factoryData
  paymaster : PaymasterForm op.paymaster op.paymasterVerificationGasLimit op.paymasterPostOpGasLimit op.paymasterData
  size : (uoCanonical op).utf8ByteSize ≤ OperationLimits.operationBytes

variable {checksumAddress : String → String} {fields : JsonFields} {value : Option Json} {op raw : UserOperationV07}
variable {key label text : String} {bits maximum : Nat}

theorem IsQuantity.lower (quantity : IsQuantity bits text) : toLowerCase text = text := by
  obtain ⟨n, _, rfl⟩ := quantity
  exact toLowerCase_numeral (isNumeral_toDigits (by decide))

theorem readQuantity_iff (wide : bits ≤ 256) : readQuantity fields key label bits = .ok text ↔
    fields.field key = some (.text text) ∧ IsQuantity bits text := by
  have most : 2 ^ bits ≤ 16 ^ 64 := by
    calc 2 ^ bits ≤ 2 ^ 256 := Nat.pow_le_pow_right (by decide) wide
      _ = 16 ^ 64 := by decide +kernel
  unfold readQuantity uoQuantity
  constructor
  · intro read
    split at read
    · rename_i raw held
      split at read
      · rename_i accepted
        simp only [Bool.and_eq_true, decide_eq_true_eq] at accepted
        obtain ⟨shape, small⟩ := accepted
        obtain ⟨n, _, rfl⟩ := isQuantityText_iff.mp shape
        cases read
        rw [hexNumber_toHex] at small ⊢
        exact ⟨held, n, small, rfl⟩
      · cases read
    · cases read
  · rintro ⟨held, n, small, rfl⟩
    have shape : isQuantityText (toHex n) = true := isQuantityText_iff.mpr ⟨n, Nat.lt_of_lt_of_le small most, rfl⟩
    rw [held]
    simp [hexNumber_toHex, shape, small, Except.map]

theorem hexText_length (digits : List Char) : (hexText digits).toList.length = digits.length + 2 := by
  rw [hexText_toList, List.length_cons, List.length_cons]

theorem toLowerCase_hexText (digits : List Char) : toLowerCase (hexText digits) = hexText (digits.map Char.toLower) := by
  rw [toLowerCase, hexText_toList]
  rfl

theorem uoBytes_ok (read : uoBytes value label maximum = .ok text) :
    ∃ raw, value = some (.text raw) ∧ toLowerCase raw = text ∧ IsBytes maximum text := by
  unfold uoBytes at read
  split at read
  · rename_i raw
    split at read
    · rename_i accepted
      simp only [Bool.and_eq_true, decide_eq_true_eq] at accepted
      obtain ⟨shape, short⟩ := accepted
      obtain ⟨digits, rfl, even, hexadecimal⟩ := isByteText_iff.mp shape
      rw [hexText_length, Nat.add_sub_cancel] at short
      cases read
      exact ⟨_, rfl, rfl, digits.map Char.toLower, toLowerCase_hexText digits, lower_numeral hexadecimal,
        by rwa [length_map], by rwa [length_map]⟩
    · cases read
  · cases read

theorem uoBytes_run (bytes : IsBytes maximum text) : uoBytes (some (.text text)) label maximum = .ok text := by
  obtain ⟨digits, rfl, numeral, even, short⟩ := bytes
  have shape : isByteText (hexText digits) = true := isByteText_iff.mpr ⟨digits, rfl, even, isHexDigit_numeral numeral⟩
  have accepted : (isByteText (hexText digits) && decide (((hexText digits).toList.length - 2) / 2 ≤ maximum)) = true := by
    rw [shape, hexText_length, Nat.add_sub_cancel, Bool.true_and, decide_eq_true_eq]
    exact short
  rw [uoBytes, if_pos accepted, toLowerCase_numeral numeral]

theorem uoAddress_ok (read : uoAddress checksumAddress value label = .ok text) :
    ∃ raw, value = some (.text raw) ∧ toLowerCase raw = text ∧ IsAddress text := by
  unfold uoAddress at read
  split at read
  · rename_i raw
    split at read
    · rename_i accepted
      simp only [Bool.and_eq_true, isStrictAddress, bne_iff_ne] at accepted
      obtain ⟨⟨shape, _⟩, other⟩ := accepted
      cases read
      obtain ⟨digits, rfl, length, hexadecimal⟩ : ∃ digits, raw = hexText digits ∧ digits.length = 40 ∧
          digits.all isHexDigit = true := by
        unfold isHex at shape
        split at shape
        · rename_i rest spelled
          rw [Bool.and_eq_true, beq_iff_eq] at shape
          exact ⟨rest, String.toList_inj.mp (by rw [spelled, hexText_toList]), shape⟩
        · cases shape
      exact ⟨_, rfl, rfl, digits.map Char.toLower, toLowerCase_hexText digits, lower_numeral hexadecimal,
        by rwa [length_map], other⟩
    · cases read
  · cases read

theorem uoAddress_run (address : IsAddress text) : uoAddress checksumAddress (some (.text text)) label = .ok text := by
  obtain ⟨digits, rfl, numeral, length, other⟩ := address
  have lower := toLowerCase_numeral numeral
  have shape : isHex 40 (hexText digits) = true := by
    rw [hexText, isHex_ofList, length, isHexDigit_numeral numeral]
    rfl
  have accepted : (isStrictAddress checksumAddress (hexText digits) && toLowerCase (hexText digits) != zeroAddress) = true := by
    simp only [isStrictAddress, shape, lower, BEq.rfl, Bool.true_or, Bool.true_and, bne_iff_ne]
    exact other
  rw [uoAddress, if_pos accepted, lower]

/-- What a list of optional values holds under a key, where the keys are distinct. -/
theorem lookup_present {table : List (String × Option String)} (distinct : (table.map Prod.fst).Nodup) :
    (table.filterMap (fun (key, value) => value.map (fun value => (key, value)))).lookup key = (table.lookup key).join := by
  induction table with
  | nil => rfl
  | cons entry rest ih =>
    obtain ⟨name, value⟩ := entry
    rw [map_cons, List.nodup_cons] at distinct
    have later := ih distinct.2
    rw [List.lookup_cons]
    split
    · rename_i same
      cases eq_of_beq same
      cases value with
      | some value => simp
      | none =>
        have absent : rest.lookup key = none := by
          rw [List.lookup_eq_none_iff]
          intro other member
          rw [bne_iff_ne]
          rintro rfl
          exact distinct.1 (mem_map.mpr ⟨other, member, rfl⟩)
        simp [later, absent]
    · rename_i other
      cases value with
      | some value => simpa [List.lookup_cons, other] using later
      | none => simpa using later

theorem lookup_mapped {items : List (String × String)} :
    (items.map (fun (key, value) => (key, Json.text value))).lookup key = (items.lookup key).map Json.text := by
  induction items with
  | nil => rfl
  | cons entry rest ih =>
    obtain ⟨name, value⟩ := entry
    rw [map_cons, List.lookup_cons, List.lookup_cons, ih]
    split <;> rfl

theorem table_keys (op : UserOperationV07) : op.table.map Prod.fst =
    ["sender", "nonce", "factory", "factoryData", "callData", "callGasLimit", "verificationGasLimit", "preVerificationGas",
      "maxFeePerGas", "maxPriorityFeePerGas", "paymaster", "paymasterVerificationGasLimit", "paymasterPostOpGasLimit",
      "paymasterData", "signature"] := rfl

theorem members_table (op : UserOperationV07) (key : String) :
    JsonFields.field op.members key = (op.table.lookup key).join.map Json.text := by
  have distinct : (op.table.map Prod.fst).Nodup := by
    rw [table_keys]
    decide
  exact lookup_mapped.trans (congrArg (Option.map Json.text) (lookup_present distinct))

theorem table_known (op : UserOperationV07) : JsonFields.unknownKey op.members (required ++ optional) = false := by
  unfold JsonFields.unknownKey
  rw [List.any_eq_false]
  intro entry member
  obtain ⟨present, listed, rfl⟩ := mem_map.mp member
  obtain ⟨⟨key, value⟩, among, shown⟩ := List.mem_filterMap.mp listed
  obtain ⟨text, _, rfl⟩ := Option.map_eq_some_iff.mp shown
  have known : ∀ key ∈ op.table.map Prod.fst, key ∈ required ++ optional := by
    rw [table_keys]
    decide
  simp only [decide_eq_true_eq, not_not]
  exact known key (List.mem_map_of_mem among)

/-- A field of the value that was normalized, and what became of it. -/
def Spells (fields : JsonFields) (entry : String × Option String) : Prop :=
  match entry.2 with
  | some text => ∃ raw, fields.field entry.1 = some (.text raw) ∧ toLowerCase raw = text
  | none => fields.field entry.1 = none

theorem contains_false : contains fields key = false ↔ fields.field key = none := by
  rw [contains, Option.isSome_eq_false_iff, Option.isNone_iff_eq_none]

theorem spells_address (read : uoAddress checksumAddress (fields.field key) label = .ok text) :
    Spells fields (key, some text) ∧ IsAddress text := by
  obtain ⟨raw, held, lower, address⟩ := uoAddress_ok read
  exact ⟨⟨raw, held, lower⟩, address⟩

theorem spells_bytes (read : uoBytes (fields.field key) label maximum = .ok text) :
    Spells fields (key, some text) ∧ IsBytes maximum text := by
  obtain ⟨raw, held, lower, bytes⟩ := uoBytes_ok read
  exact ⟨⟨raw, held, lower⟩, bytes⟩

theorem spells_quantity (wide : bits ≤ 256) (read : readQuantity fields key label bits = .ok text) :
    Spells fields (key, some text) ∧ IsQuantity bits text := by
  obtain ⟨held, quantity⟩ := (readQuantity_iff wide).mp read
  exact ⟨⟨text, held, quantity.lower⟩, quantity⟩

theorem readFactory_ok {result : UserOperationV07} (fresh : op.factory = none ∧ op.factoryData = none)
    (read : readFactory checksumAddress fields op = .ok result) :
    ∃ factory factoryData, result = { op with factory, factoryData } ∧ Spells fields ("factory", factory) ∧
      Spells fields ("factoryData", factoryData) ∧ FactoryForm factory factoryData := by
  unfold readFactory at read
  split at read
  · obtain ⟨factory, address, read⟩ := ok_bind read
    split at read
    · cases read
    · rename_i unmarked
      obtain ⟨data, bytes, read⟩ := ok_bind read
      cases read
      have address := spells_address address
      have bytes := spells_bytes bytes
      exact ⟨some factory, some data, rfl, address.1, bytes.1, .present address.2 (by simpa using unmarked) bytes.2⟩
  · rename_i absent
    cases read
    rw [Bool.not_eq_true, Bool.or_eq_false_iff, contains_false, contains_false] at absent
    exact ⟨op.factory, op.factoryData, rfl, by rw [fresh.1]; exact absent.1, by rw [fresh.2]; exact absent.2,
      by rw [fresh.1, fresh.2]; exact .absent⟩

theorem readPaymaster_ok {result : UserOperationV07}
    (fresh : op.paymaster = none ∧ op.paymasterVerificationGasLimit = none ∧ op.paymasterPostOpGasLimit = none ∧
      op.paymasterData = none) (read : readPaymaster checksumAddress fields op = .ok result) :
    ∃ paymaster paymasterVerificationGasLimit paymasterPostOpGasLimit paymasterData,
      result = { op with paymaster, paymasterVerificationGasLimit, paymasterPostOpGasLimit, paymasterData } ∧
      Spells fields ("paymaster", paymaster) ∧
      Spells fields ("paymasterVerificationGasLimit", paymasterVerificationGasLimit) ∧
      Spells fields ("paymasterPostOpGasLimit", paymasterPostOpGasLimit) ∧
      Spells fields ("paymasterData", paymasterData) ∧
      PaymasterForm paymaster paymasterVerificationGasLimit paymasterPostOpGasLimit paymasterData := by
  unfold readPaymaster at read
  split at read
  · obtain ⟨paymaster, address, read⟩ := ok_bind read
    obtain ⟨data, bytes, read⟩ := ok_bind read
    obtain ⟨verification, verifies, read⟩ := ok_bind read
    obtain ⟨postOp, settles, read⟩ := ok_bind read
    cases read
    have address := spells_address address
    have bytes := spells_bytes bytes
    have verifies := spells_quantity (by decide) verifies
    have settles := spells_quantity (by decide) settles
    exact ⟨some paymaster, some verification, some postOp, some data, rfl, address.1, verifies.1, settles.1, bytes.1,
      .present address.2 verifies.2 settles.2 bytes.2⟩
  · rename_i absent
    cases read
    rw [Bool.not_eq_true, List.any_eq_false] at absent
    have gone : ∀ {value : Option String}, value = none → ∀ key ∈ optional.drop 2, Spells fields (key, value) := by
      rintro _ rfl key member
      exact contains_false.mp (Bool.eq_false_iff.mpr (absent key member))
    obtain ⟨paymaster, verification, postOp, data⟩ := fresh
    exact ⟨_, _, _, _, rfl, gone paymaster _ (by decide), gone verification _ (by decide), gone postOp _ (by decide),
      gone data _ (by decide), by rw [paymaster, verification, postOp, data]; exact .absent⟩

/-- What normalization accepts is canonical, and says field for field what the value said. -/
theorem normalize_ok {value : Json} (accepted : normalizeUserOperation checksumAddress value = .ok op) :
    ∃ fields, value = .object fields ∧ op.Canonical ∧ ∀ entry ∈ op.table, Spells fields entry := by
  unfold normalizeUserOperation at accepted
  split at accepted
  · rename_i fields
    split at accepted
    · cases accepted
    · obtain ⟨first, required, accepted⟩ := ok_bind accepted
      split at accepted
      · cases accepted
      · rename_i priority
        obtain ⟨second, deployed, accepted⟩ := ok_bind accepted
        obtain ⟨third, paid, accepted⟩ := ok_bind accepted
        split at accepted
        · cases accepted
        · rename_i size
          cases accepted
          unfold readRequired at required
          obtain ⟨sender, senderRead, required⟩ := ok_bind required
          obtain ⟨nonce, nonceRead, required⟩ := ok_bind required
          obtain ⟨callData, callDataRead, required⟩ := ok_bind required
          obtain ⟨callGas, callGasRead, required⟩ := ok_bind required
          obtain ⟨verificationGas, verificationGasRead, required⟩ := ok_bind required
          obtain ⟨preVerificationGas, preVerificationGasRead, required⟩ := ok_bind required
          obtain ⟨maximumFee, maximumFeeRead, required⟩ := ok_bind required
          obtain ⟨priorityFee, priorityFeeRead, required⟩ := ok_bind required
          obtain ⟨signature, signatureRead, required⟩ := ok_bind required
          cases required
          obtain ⟨factory, factoryData, rfl, factorySpelled, dataSpelled, factoryForm⟩ := readFactory_ok ⟨rfl, rfl⟩ deployed
          obtain ⟨paymaster, verification, postOp, paymasterData, rfl, paymasterSpelled, verificationSpelled, postOpSpelled,
            paymasterDataSpelled, paymasterForm⟩ := readPaymaster_ok ⟨rfl, rfl, rfl, rfl⟩ paid
          have sender := spells_address senderRead
          have nonce := spells_quantity (by decide) nonceRead
          have callData := spells_bytes callDataRead
          have callGas := spells_quantity (by decide) callGasRead
          have verificationGas := spells_quantity (by decide) verificationGasRead
          have preVerificationGas := spells_quantity (by decide) preVerificationGasRead
          have maximumFee := spells_quantity (by decide) maximumFeeRead
          have priorityFee := spells_quantity (by decide) priorityFeeRead
          have signature := spells_bytes signatureRead
          refine ⟨fields, rfl, ⟨sender.2, nonce.2, callData.2, callGas.2, verificationGas.2, preVerificationGas.2, maximumFee.2,
            priorityFee.2, signature.2, Nat.not_lt.mp priority, factoryForm, paymasterForm, Nat.not_lt.mp size⟩, ?_⟩
          simp only [UserOperationV07.table, List.forall_mem_cons]
          exact ⟨sender.1, nonce.1, factorySpelled, dataSpelled, callData.1, callGas.1, verificationGas.1,
            preVerificationGas.1, maximumFee.1, priorityFee.1, paymasterSpelled, verificationSpelled, postOpSpelled,
            paymasterDataSpelled, signature.1, List.forall_mem_nil _⟩
  · cases accepted

theorem members_present (named : op.table.lookup key = some (some text)) :
    JsonFields.field op.members key = some (.text text) := by
  rw [members_table, named]
  rfl

theorem members_absent (named : op.table.lookup key = some none) : contains op.members key = false := by
  rw [contains_false, members_table, named]
  rfl

theorem contains_present (named : op.table.lookup key = some (some text)) : contains op.members key = true := by
  rw [contains, members_present named]
  rfl

/-- The fields every operation has. -/
def UserOperationV07.bare (op : UserOperationV07) : UserOperationV07 :=
  { op with
    factory := none
    factoryData := none
    paymaster := none
    paymasterVerificationGasLimit := none
    paymasterPostOpGasLimit := none
    paymasterData := none }

theorem readRequired_run (canonical : op.Canonical) : readRequired checksumAddress op.members = .ok op.bare := by
  have quantity : ∀ {key label text : String} {bits : Nat}, bits ≤ 256 → op.table.lookup key = some (some text) →
      IsQuantity bits text → readQuantity op.members key label bits = .ok text :=
    fun wide named quantity => (readQuantity_iff wide).mpr ⟨members_present named, quantity⟩
  have bytes : ∀ {key label text : String} {maximum : Nat}, op.table.lookup key = some (some text) →
      IsBytes maximum text → uoBytes (JsonFields.field op.members key) label maximum = .ok text := by
    intro key label text maximum named bytes
    rw [members_present named]
    exact uoBytes_run bytes
  have sender : uoAddress checksumAddress (JsonFields.field op.members "sender") "sender" = .ok op.sender := by
    rw [members_present rfl]
    exact uoAddress_run canonical.sender
  exact bind_run sender <| bind_run (quantity (by decide) rfl canonical.nonce) <|
    bind_run (bytes rfl canonical.callData) <| bind_run (quantity (by decide) rfl canonical.callGasLimit) <|
    bind_run (quantity (by decide) rfl canonical.verificationGasLimit) <|
    bind_run (quantity (by decide) rfl canonical.preVerificationGas) <|
    bind_run (quantity (by decide) rfl canonical.maxFeePerGas) <|
    bind_run (quantity (by decide) rfl canonical.maxPriorityFeePerGas) <|
    bind_run (bytes rfl canonical.signature) rfl

/-- The required fields with the factory. -/
def UserOperationV07.deployed (op : UserOperationV07) : UserOperationV07 :=
  { op.bare with factory := op.factory, factoryData := op.factoryData }

theorem readFactory_run (form : FactoryForm op.factory op.factoryData) :
    readFactory checksumAddress op.members op.bare = .ok op.deployed := by
  have factory : op.table.lookup "factory" = some op.factory := rfl
  have factoryData : op.table.lookup "factoryData" = some op.factoryData := rfl
  unfold UserOperationV07.deployed readFactory
  revert form factory factoryData
  generalize op.factory = first, op.factoryData = second
  intro form factory factoryData
  cases form with
  | absent => rw [members_absent factory, members_absent factoryData]; rfl
  | present address unmarked bytes =>
    rw [contains_present factory, members_present factory, members_present factoryData]
    refine bind_run (uoAddress_run address) ?_
    rw [if_neg (by simpa using unmarked)]
    exact bind_run (uoBytes_run bytes) rfl

theorem readPaymaster_run (form : PaymasterForm op.paymaster op.paymasterVerificationGasLimit op.paymasterPostOpGasLimit
    op.paymasterData) : readPaymaster checksumAddress op.members op.deployed = .ok op := by
  have paymaster : op.table.lookup "paymaster" = some op.paymaster := rfl
  have verification : op.table.lookup "paymasterVerificationGasLimit" = some op.paymasterVerificationGasLimit := rfl
  have postOp : op.table.lookup "paymasterPostOpGasLimit" = some op.paymasterPostOpGasLimit := rfl
  have data : op.table.lookup "paymasterData" = some op.paymasterData := rfl
  have whole : op = { op.deployed with
    paymaster := op.paymaster
    paymasterVerificationGasLimit := op.paymasterVerificationGasLimit
    paymasterPostOpGasLimit := op.paymasterPostOpGasLimit
    paymasterData := op.paymasterData } := rfl
  have listed : (optional.drop 2).any (contains op.members) = (contains op.members "paymaster" ||
    (contains op.members "paymasterVerificationGasLimit" || (contains op.members "paymasterPostOpGasLimit" ||
      (contains op.members "paymasterData" || false)))) := rfl
  suffices read : readPaymaster checksumAddress op.members op.deployed = .ok { op.deployed with
      paymaster := op.paymaster
      paymasterVerificationGasLimit := op.paymasterVerificationGasLimit
      paymasterPostOpGasLimit := op.paymasterPostOpGasLimit
      paymasterData := op.paymasterData } from read.trans (congrArg Except.ok whole.symm)
  clear whole
  unfold readPaymaster
  rw [listed]
  clear listed
  revert form paymaster verification postOp data
  generalize op.paymaster = first, op.paymasterVerificationGasLimit = second, op.paymasterPostOpGasLimit = third,
    op.paymasterData = fourth
  intro form paymaster verification postOp data
  cases form with
  | absent =>
    rw [members_absent paymaster, members_absent verification, members_absent postOp, members_absent data]
    rfl
  | present address verifies settles bytes =>
    rw [contains_present paymaster, members_present paymaster, members_present data]
    refine bind_run (uoAddress_run address) (bind_run (uoBytes_run bytes) ?_)
    exact bind_run ((readQuantity_iff (by decide)).mpr ⟨members_present verification, verifies⟩)
      (bind_run ((readQuantity_iff (by decide)).mpr ⟨members_present postOp, settles⟩) rfl)

/-- A canonical operation is normalized to itself. -/
theorem normalize_canonical (canonical : op.Canonical) : normalizeUserOperation checksumAddress op.toJson = .ok op := by
  have complete : required.any (fun key => !contains op.members key) = false := by
    rw [List.any_eq_false]
    simp only [required, List.forall_mem_cons]
    refine ⟨?_, ?_, ?_, ?_, ?_, ?_, ?_, ?_, ?_, List.forall_mem_nil _⟩ <;>
      exact fun missing => absurd missing (by rw [contains_present rfl]; decide)
  change (if (required.any (fun key => !contains op.members key) || JsonFields.unknownKey op.members (required ++ optional))
    then _ else _) = _
  rw [complete, table_known, Bool.false_or, if_neg Bool.false_ne_true]
  refine bind_run (readRequired_run canonical) ?_
  have priority : ¬hexNumber op.bare.maxFeePerGas < hexNumber op.bare.maxPriorityFeePerGas :=
    Nat.not_lt.mpr canonical.priority
  rw [if_neg priority]
  refine bind_run (readFactory_run canonical.factory) (bind_run (readPaymaster_run canonical.paymaster) ?_)
  rw [if_neg (Nat.not_lt.mpr canonical.size)]

theorem refusal_ok {result : Except RestError α} {a : α} : refusal result = .ok a ↔ result = .ok a := by
  cases result <;> simp [refusal, Except.mapError]

theorem hexText_drop (digits : List Char) : (hexText digits).toList.drop 2 = digits := by
  rw [hexText_toList]
  rfl

theorem slice_hexText (digits : List Char) (first last : Nat) :
    slice (hexText digits) (first + 2) (last + 2) = hexText ((digits.take last).drop first) := by
  rw [slice, hexText_toList, List.take_succ_cons, List.take_succ_cons, List.drop_succ_cons, List.drop_succ_cons]

theorem sliceHex_hexText (digits : List Char) (first last : Nat) :
    sliceHex (hexText digits) (first + 2) (last + 2) = toHex (numeralValue 16 ((digits.take last).drop first)) := by
  rw [sliceHex, slice_hexText, hexNumber, hexText_drop]

/-- Half a packed word: sixteen bytes that stand for a quantity. -/
structure Half (digits : List Char) (text : String) : Prop where
  padded : padHex text 16 = hexText digits
  numeral : IsNumeral 16 digits
  length : digits.length = 32
  value : toHex (numeralValue 16 digits) = text

theorem padHex_half (quantity : IsQuantity 128 text) : ∃ digits, Half digits text := by
  obtain ⟨n, small, rfl⟩ := quantity
  have short : (Nat.toDigits 16 n).length ≤ 32 := (Nat.length_toDigits_le_iff (by decide) (by decide)).mpr small
  refine ⟨(Nat.toDigits 16 n).leftpad 32 '0', ?_, ?_, ?_, ?_⟩
  · rw [padHex, toHex, hexText_drop]
  · exact isNumeral_append.mpr ⟨isNumeral_zeros (by decide), isNumeral_toDigits (by decide)⟩
  · rw [List.length_leftpad]
    omega
  · rw [numeralValue_leftpad, numeralValue_toDigits (by decide) (by decide)]

variable {digits : List Char}

/-- Digits of sixteen bytes are what their number is padded to. -/
theorem padHex_digits (numeral : IsNumeral 16 digits) (length : digits.length = 32) :
    padHex (toHex (numeralValue 16 digits)) 16 = hexText digits := by
  have some : digits ≠ [] := by
    rintro rfl
    cases length
  have padded := leftpad_toDigits (by decide) (by decide) numeral some
  rw [length] at padded
  rw [padHex, toHex, hexText_drop, padded]

theorem concat_hexText (first second : List Char) : concat [hexText first, hexText second] = hexText (first ++ second) := by
  simp [concat]

/-- A packed word and the two quantities that are read off it. -/
theorem word_halves {first second : List Char} {high low : String} (upper : Half first high) (lower : Half second low) :
    concat [padHex high 16, padHex low 16] = hexText (first ++ second) ∧ IsBytes 32 (hexText (first ++ second)) ∧
      (hexText (first ++ second)).toList.length = 66 ∧ sliceHex (hexText (first ++ second)) 2 34 = high ∧
      sliceHex (hexText (first ++ second)) 34 66 = low := by
  have total : (first ++ second).length = 64 := by rw [length_append, upper.length, lower.length]
  have whole : second.take 32 = second := List.take_of_length_le (by rw [lower.length])
  refine ⟨by rw [upper.padded, lower.padded, concat_hexText], ⟨_, rfl, isNumeral_append.mpr ⟨upper.numeral, lower.numeral⟩,
    by rw [total], by rw [total]⟩, by rw [hexText_length, total], ?_, ?_⟩
  · rw [sliceHex_hexText _ 0 32, take_left' upper.length, drop_zero, upper.value]
  · rw [sliceHex_hexText _ 32 64, ← total, List.take_length, drop_left' upper.length, lower.value]

theorem hexText_ne (some : digits ≠ []) : hexText digits ≠ "0x" := by
  intro same
  exact some (hexText_inj.mp (same : hexText digits = hexText []))

theorem parts_hexText (some : digits ≠ []) : parts (hexText digits) = .some (hexText digits) :=
  if_neg (hexText_ne some)

/-- The factory and its calldata, read off the init code. -/
theorem initCode_read (form : FactoryForm op.factory op.factoryData) : ∃ init, (packNormalized op).initCode = init ∧
    IsBytes (OperationLimits.factoryBytes + 20) init ∧ ¬(init ≠ "0x" ∧ init.toList.length < 42) ∧
    (parts init).map (fun init => slice init 2 42) = op.factory ∧
    (parts init).map (fun init => slice init 42 init.toList.length) = op.factoryData := by
  unfold packNormalized
  revert form
  generalize op.factory = factory, op.factoryData = factoryData
  intro form
  cases form with
  | absent => exact ⟨"0x", rfl, ⟨[], rfl, fun _ => nofun, rfl, Nat.zero_le _⟩, fun long => long.1 rfl, rfl, rfl⟩
  | present address _ bytes =>
    obtain ⟨first, rfl, numeral, length, _⟩ := address
    obtain ⟨second, rfl, rest, even, short⟩ := bytes
    have total : (first ++ second).length = 40 + second.length := by rw [length_append, length]
    have some : first ++ second ≠ [] := by
      intro empty
      rw [empty, List.length_nil] at total
      omega
    refine ⟨hexText (first ++ second), concat_hexText first second,
      ⟨_, rfl, isNumeral_append.mpr ⟨numeral, rest⟩, by omega, by omega⟩, ?_, ?_, ?_⟩
    · rw [hexText_length, total]
      omega
    · rw [parts_hexText some, Option.map_some, slice_hexText _ 0 40, take_left' length, drop_zero]
    · rw [parts_hexText some, Option.map_some, hexText_length, slice_hexText _ 40, List.take_length, drop_left' length]

/-- The paymaster, its limits and its data, read off the packed paymaster. -/
theorem paymasterAndData_read (form : PaymasterForm op.paymaster op.paymasterVerificationGasLimit
      op.paymasterPostOpGasLimit op.paymasterData) :
    ∃ paymaster, (packNormalized op).paymasterAndData = paymaster ∧
      IsBytes (OperationLimits.paymasterBytes + 52) paymaster ∧ ¬(paymaster ≠ "0x" ∧ paymaster.toList.length < 106) ∧
      (parts paymaster).map (fun paymaster => slice paymaster 2 42) = op.paymaster ∧
      (parts paymaster).map (fun paymaster => sliceHex paymaster 42 74) = op.paymasterVerificationGasLimit ∧
      (parts paymaster).map (fun paymaster => sliceHex paymaster 74 106) = op.paymasterPostOpGasLimit ∧
      (parts paymaster).map (fun paymaster => slice paymaster 106 paymaster.toList.length) = op.paymasterData := by
  unfold packNormalized
  revert form
  generalize op.paymaster = paymaster, op.paymasterVerificationGasLimit = verification, op.paymasterPostOpGasLimit = postOp,
    op.paymasterData = data
  intro form
  cases form with
  | absent =>
    exact ⟨"0x", rfl, ⟨[], rfl, fun _ => nofun, rfl, Nat.zero_le _⟩, fun long => long.1 rfl, rfl, rfl, rfl, rfl⟩
  | present address verifies settles bytes =>
    obtain ⟨first, rfl, numeral, length, _⟩ := address
    obtain ⟨second, upper⟩ := padHex_half verifies
    obtain ⟨third, lower⟩ := padHex_half settles
    obtain ⟨fourth, rfl, rest, even, short⟩ := bytes
    have total : (first ++ second ++ third ++ fourth).length = 104 + fourth.length := by
      rw [length_append, length_append, length_append, length, upper.length, lower.length]
    have some : first ++ second ++ third ++ fourth ≠ [] := by
      intro empty
      rw [empty, List.length_nil] at total
      omega
    have numerals : IsNumeral 16 (first ++ second ++ third ++ fourth) :=
      isNumeral_append.mpr ⟨isNumeral_append.mpr ⟨isNumeral_append.mpr ⟨numeral, upper.numeral⟩, lower.numeral⟩, rest⟩
    refine ⟨hexText (first ++ second ++ third ++ fourth), ?_, ⟨_, rfl, numerals, by omega, by omega⟩, ?_, ?_, ?_, ?_, ?_⟩
    · simp [concat, upper.padded, lower.padded]
    · rw [hexText_length, total]
      omega
    · rw [parts_hexText some, Option.map_some, slice_hexText _ 0 40, append_assoc, append_assoc,
        take_left' length, drop_zero]
    · rw [parts_hexText some, Option.map_some, sliceHex_hexText _ 40 72, append_assoc (first ++ second),
        take_left' (by rw [length_append, length, upper.length]), drop_left' length, upper.value]
    · rw [parts_hexText some, Option.map_some, sliceHex_hexText _ 72 104,
        take_left' (by rw [length_append, length_append, length, upper.length, lower.length]),
        drop_left' (by rw [length_append, length, upper.length]), lower.value]
    · rw [parts_hexText some, Option.map_some, hexText_length, slice_hexText _ 104, List.take_length,
        drop_left' (by rw [length_append, length_append, length, upper.length, lower.length])]

theorem bigintHex_quantity (quantity : IsQuantity bits text) : bigintHex (hexNumber text : Nat) = .ok text := by
  obtain ⟨n, _, rfl⟩ := quantity
  rw [bigintHex, if_pos (Int.natCast_nonneg _), Int.toNat_natCast, hexNumber_toHex]

/-- A canonical operation is what its packed words are unpacked to. -/
theorem unpack_packNormalized (canonical : op.Canonical) :
    unpackUserOperation checksumAddress (packNormalized op) = .ok op := by
  obtain ⟨a, upper⟩ := padHex_half canonical.verificationGasLimit
  obtain ⟨b, lower⟩ := padHex_half canonical.callGasLimit
  obtain ⟨c, priority⟩ := padHex_half canonical.maxPriorityFeePerGas
  obtain ⟨d, maximum⟩ := padHex_half canonical.maxFeePerGas
  obtain ⟨gasWord, gasBytes, gasLength, verification, call⟩ := word_halves upper lower
  obtain ⟨feeWord, feeBytes, feeLength, priorityRead, maximumRead⟩ := word_halves priority maximum
  obtain ⟨init, initWord, initBytes, initLong, factory, factoryData⟩ := initCode_read canonical.factory
  obtain ⟨paymaster, paymasterWord, paymasterBytes, paymasterLong, address, verifies, settles, data⟩ :=
    paymasterAndData_read canonical.paymaster
  have gas : (packNormalized op).accountGasLimits = hexText (a ++ b) := gasWord
  have fees : (packNormalized op).gasFees = hexText (c ++ d) := feeWord
  unfold unpackUserOperation
  rw [gas, fees, initWord, paymasterWord]
  refine bind_run (refusal_ok.mpr (uoBytes_run gasBytes)) (bind_run (refusal_ok.mpr (uoBytes_run feeBytes)) ?_)
  rw [if_neg (by rw [gasLength, feeLength]; decide)]
  refine bind_run (refusal_ok.mpr (uoBytes_run initBytes))
    (bind_run (refusal_ok.mpr (uoBytes_run paymasterBytes)) ?_)
  have complete : ¬(init ≠ "0x" && init.toList.length < 42 || paymaster ≠ "0x" && paymaster.toList.length < 106) = true := by
    simp only [Bool.or_eq_true, Bool.and_eq_true, decide_eq_true_eq]
    exact fun short => short.elim initLong paymasterLong
  rw [if_neg complete]
  refine bind_run (bigintHex_quantity canonical.nonce)
    (bind_run (bigintHex_quantity canonical.preVerificationGas) (refusal_ok.mpr ?_))
  simp only [verification, call, priorityRead, maximumRead, factory, factoryData, address, verifies, settles, data]
  exact normalize_canonical canonical

theorem spells_members {held value : Option String} (spells : Spells raw.members (key, value))
    (named : raw.table.lookup key = some held) : value = held.map toLowerCase := by
  unfold Spells at spells
  simp only [members_table, named, Option.join_some] at spells
  cases value with
  | none =>
    rw [Option.map_eq_none_iff] at spells
    rw [spells, Option.map_none]
  | some text =>
    obtain ⟨given, same, lower⟩ := spells
    obtain ⟨text, rfl, same⟩ := Option.map_eq_some_iff.mp same
    cases same
    rw [Option.map_some, lower]

theorem spells_present {held : String} (spells : Spells raw.members (key, some text))
    (named : raw.table.lookup key = some (some held)) : text = toLowerCase held :=
  Option.some.inj (spells_members spells named)

/-- The operation with the letters of its texts lowered. -/
def UserOperationV07.lower (op : UserOperationV07) : UserOperationV07 where
  sender := toLowerCase op.sender
  nonce := toLowerCase op.nonce
  factory := op.factory.map toLowerCase
  factoryData := op.factoryData.map toLowerCase
  callData := toLowerCase op.callData
  callGasLimit := toLowerCase op.callGasLimit
  verificationGasLimit := toLowerCase op.verificationGasLimit
  preVerificationGas := toLowerCase op.preVerificationGas
  maxFeePerGas := toLowerCase op.maxFeePerGas
  maxPriorityFeePerGas := toLowerCase op.maxPriorityFeePerGas
  paymaster := op.paymaster.map toLowerCase
  paymasterVerificationGasLimit := op.paymasterVerificationGasLimit.map toLowerCase
  paymasterPostOpGasLimit := op.paymasterPostOpGasLimit.map toLowerCase
  paymasterData := op.paymasterData.map toLowerCase
  signature := toLowerCase op.signature

/-- Normalization of an operation only lowers its letters. -/
theorem normalize_lower (accepted : normalizeUserOperation checksumAddress raw.toJson = .ok op) :
    op.Canonical ∧ op = raw.lower := by
  obtain ⟨fields, same, canonical, spells⟩ := normalize_ok accepted
  cases same
  refine ⟨canonical, ?_⟩
  simp only [UserOperationV07.table, List.forall_mem_cons] at spells
  obtain ⟨sender, nonce, factory, factoryData, callData, callGas, verificationGas, preVerificationGas, maximumFee,
    priorityFee, paymaster, verifies, settles, data, signature, _⟩ := spells
  rw [UserOperationV07.lower, ← spells_present sender rfl, ← spells_present nonce rfl, ← spells_members factory rfl,
    ← spells_members factoryData rfl, ← spells_present callData rfl, ← spells_present callGas rfl,
    ← spells_present verificationGas rfl, ← spells_present preVerificationGas rfl, ← spells_present maximumFee rfl,
    ← spells_present priorityFee rfl, ← spells_members paymaster rfl, ← spells_members verifies rfl,
    ← spells_members settles rfl, ← spells_members data rfl, ← spells_present signature rfl]

theorem lower_toHex (n : Nat) : toLowerCase (toHex n) = toHex n := toLowerCase_numeral (isNumeral_toDigits (by decide))

/-- A word of two halves is what the quantities of its halves are packed to. -/
theorem word_packed {word : String} (bytes : IsBytes 32 word) (length : word.toList.length = 66) :
    concat [padHex (toLowerCase (sliceHex word 2 34)) 16, padHex (toLowerCase (sliceHex word 34 66)) 16] = word := by
  obtain ⟨digits, rfl, numeral, _⟩ := bytes
  rw [hexText_length] at length
  obtain ⟨upper, lower⟩ := isNumeral_append.mp (((take_append_drop 32 digits).symm ▸ numeral :
    IsNumeral 16 (digits.take 32 ++ digits.drop 32)))
  rw [sliceHex_hexText _ 0 32, sliceHex_hexText _ 32 64, lower_toHex, lower_toHex, drop_zero,
    List.take_of_length_le (i := 64) (by omega), padHex_digits upper (by rw [List.length_take]; omega),
    padHex_digits lower (by rw [List.length_drop]; omega), concat_hexText, take_append_drop]

/-- Init code is packed again from the factory and the calldata it was split into. -/
theorem initCode_packed {init : String} (bytes : IsBytes maximum init) (long : ¬(init ≠ "0x" ∧ init.toList.length < 42))
    (factory : op.factory = ((parts init).map (fun init => slice init 2 42)).map toLowerCase)
    (factoryData : op.factoryData = ((parts init).map (fun init => slice init 42 init.toList.length)).map toLowerCase) :
    (packNormalized op).initCode = init := by
  obtain ⟨digits, rfl, numeral, _⟩ := bytes
  unfold packNormalized
  by_cases empty : digits = []
  · subst empty
    simp only [factory]
    rfl
  · have length : 40 ≤ digits.length := by
      rw [hexText_length] at long
      have := Nat.not_lt.mp fun short => long ⟨hexText_ne empty, short⟩
      omega
    simp only [factory, factoryData, parts_hexText empty, Option.map_some, Option.getD_some, hexText_length,
      slice_hexText _ 0 40, slice_hexText _ 40, drop_zero, List.take_length,
      toLowerCase_numeral (isNumeral_take numeral 40), toLowerCase_numeral (isNumeral_drop numeral 40), concat_hexText,
      take_append_drop]

/-- The packed paymaster, from the parts it was split into. -/
theorem paymasterAndData_packed {paymaster : String} (bytes : IsBytes maximum paymaster)
    (long : ¬(paymaster ≠ "0x" ∧ paymaster.toList.length < 106))
    (address : op.paymaster = ((parts paymaster).map (fun paymaster => slice paymaster 2 42)).map toLowerCase)
    (verifies : op.paymasterVerificationGasLimit =
      ((parts paymaster).map (fun paymaster => sliceHex paymaster 42 74)).map toLowerCase)
    (settles : op.paymasterPostOpGasLimit =
      ((parts paymaster).map (fun paymaster => sliceHex paymaster 74 106)).map toLowerCase)
    (data : op.paymasterData =
      ((parts paymaster).map (fun paymaster => slice paymaster 106 paymaster.toList.length)).map toLowerCase) :
    (packNormalized op).paymasterAndData = paymaster := by
  obtain ⟨digits, rfl, numeral, _⟩ := bytes
  unfold packNormalized
  by_cases empty : digits = []
  · subst empty
    simp only [address]
    rfl
  · have length : 104 ≤ digits.length := by
      rw [hexText_length] at long
      have := Nat.not_lt.mp fun short => long ⟨hexText_ne empty, short⟩
      omega
    have half : ∀ first, first + 32 ≤ 104 → ((digits.take (first + 32)).drop first).length = 32 := by
      intro first bounded
      rw [List.length_drop, List.length_take]
      omega
    have split : digits.take 40 ++ ((digits.take 72).drop 40 ++ ((digits.take 104).drop 72 ++ digits.drop 104)) = digits := by
      have step : ∀ first, (digits.take (first + 32)).drop first ++ digits.drop (first + 32) = digits.drop first := by
        intro first
        rw [List.drop_take, Nat.add_sub_cancel_left, ← List.drop_drop, take_append_drop]
      rw [step 72, step 40, take_append_drop]
    simp only [address, verifies, settles, data, parts_hexText empty, Option.map_some, Option.getD_some, hexText_length,
      slice_hexText _ 0 40, slice_hexText _ 104, sliceHex_hexText _ 40 72, sliceHex_hexText _ 72 104, lower_toHex,
      padHex_digits (isNumeral_drop (isNumeral_take numeral 72) 40) (half 40 (by decide)),
      padHex_digits (isNumeral_drop (isNumeral_take numeral 104) 72) (half 72 (by decide)), drop_zero, List.take_length,
      toLowerCase_numeral (isNumeral_take numeral 40), toLowerCase_numeral (isNumeral_drop numeral 104)]
    simp only [concat, List.flatMap_cons, List.flatMap_nil, List.append_nil, hexText_drop, split]

theorem bigintHex_read {value : Int} (read : bigintHex value = .ok text) : (hexNumber (toLowerCase text) : Int) = value := by
  unfold bigintHex at read
  split at read
  · rename_i natural
    cases read
    rw [lower_toHex, hexNumber_toHex, Int.toNat_of_nonneg natural]
  · cases read

/-- What is unpacked is packed to the same words, up to the case of the letters. -/
theorem pack_unpacked {packed : PackedUserOperationV07} (unpacked : unpackUserOperation checksumAddress packed = .ok op) :
    op.Canonical ∧ packNormalized op = packed.lower := by
  unfold unpackUserOperation at unpacked
  obtain ⟨gas, gasRead, unpacked⟩ := ok_bind unpacked
  obtain ⟨fees, feesRead, unpacked⟩ := ok_bind unpacked
  split at unpacked
  · cases unpacked
  · rename_i words
    obtain ⟨init, initRead, unpacked⟩ := ok_bind unpacked
    obtain ⟨paymaster, paymasterRead, unpacked⟩ := ok_bind unpacked
    split at unpacked
    · cases unpacked
    · rename_i complete
      obtain ⟨nonce, nonceRead, unpacked⟩ := ok_bind unpacked
      obtain ⟨preVerificationGas, preVerificationGasRead, unpacked⟩ := ok_bind unpacked
      obtain ⟨canonical, same⟩ := normalize_lower (refusal_ok.mp unpacked)
      refine ⟨canonical, ?_⟩
      obtain ⟨_, held, gasLower, gasBytes⟩ := uoBytes_ok (refusal_ok.mp gasRead)
      cases held
      obtain ⟨_, held, feesLower, feesBytes⟩ := uoBytes_ok (refusal_ok.mp feesRead)
      cases held
      obtain ⟨_, held, initLower, initBytes⟩ := uoBytes_ok (refusal_ok.mp initRead)
      cases held
      obtain ⟨_, held, paymasterLower, paymasterBytes⟩ := uoBytes_ok (refusal_ok.mp paymasterRead)
      cases held
      simp only [Bool.or_eq_true, decide_eq_true_eq, not_or, not_not] at words
      simp only [Bool.or_eq_true, Bool.and_eq_true, decide_eq_true_eq, not_or] at complete
      have gasWord := word_packed gasBytes words.1
      have feesWord := word_packed feesBytes words.2
      have initWord := initCode_packed initBytes complete.1 (congrArg UserOperationV07.factory same)
        (congrArg UserOperationV07.factoryData same)
      have paymasterWord := paymasterAndData_packed paymasterBytes complete.2 (congrArg UserOperationV07.paymaster same)
        (congrArg UserOperationV07.paymasterVerificationGasLimit same)
        (congrArg UserOperationV07.paymasterPostOpGasLimit same) (congrArg UserOperationV07.paymasterData same)
      subst same
      unfold packNormalized at initWord paymasterWord ⊢
      rw [PackedUserOperationV07.lower, PackedUserOperationV07.mk.injEq]
      exact ⟨rfl, bigintHex_read nonceRead, initWord.trans initLower.symm, rfl, gasWord.trans gasLower.symm,
        bigintHex_read preVerificationGasRead, feesWord.trans feesLower.symm, paymasterWord.trans paymasterLower.symm, rfl⟩

/-- Packing and unpacking are inverse: an operation that normalization accepts is unpacked from its packed form as its
normal form, which is its own normal form; and packed words that are accepted are packed again up to the case of letters. -/
theorem packing_round_trip (checksumAddress : String → String) :
    (∀ value op, normalizeUserOperation checksumAddress value = .ok op →
      (∃ packed, packUserOperation checksumAddress value = .ok packed ∧
        unpackUserOperation checksumAddress packed = .ok op) ∧
      normalizeUserOperation checksumAddress op.toJson = .ok op) ∧
    ∀ packed op, unpackUserOperation checksumAddress packed = .ok op →
      packUserOperation checksumAddress op.toJson = .ok packed.lower := by
  constructor
  · intro value op accepted
    obtain ⟨_, _, canonical, _⟩ := normalize_ok accepted
    refine ⟨⟨packNormalized op, ?_, unpack_packNormalized canonical⟩, normalize_canonical canonical⟩
    rw [packUserOperation, accepted]
    rfl
  · intro packed op unpacked
    obtain ⟨canonical, same⟩ := pack_unpacked unpacked
    rw [packUserOperation, normalize_canonical canonical, ← same]
    rfl

/-- An operation that deploys its account, with letters in both cases and no calldata for the factory. -/
def deployingOperation : UserOperationV07 where
  sender := "0x3ba60b60933916a7c87d0860dcee62a0ce34e3e2"
  nonce := "0x1"
  factory := some "0x6017d1fba9dc279bfa0b03fd931c22e242ab3691"
  factoryData := some "0x"
  callData := "0xC0FFEE"
  callGasLimit := "0xffffffffffffffffffffffffffffffff"
  verificationGasLimit := "0x0"
  preVerificationGas := "0xfff"
  maxFeePerGas := "0x5"
  maxPriorityFeePerGas := "0x5"
  signature := "0xAb"

theorem packing_round_trip_sample : ∃ op packed, normalizeUserOperation id deployingOperation.toJson = .ok op ∧
    packUserOperation id deployingOperation.toJson = .ok packed ∧ unpackUserOperation id packed = .ok op ∧
    packUserOperation id op.toJson = .ok packed.lower := by
  have accepted : (normalizeUserOperation id deployingOperation.toJson).toOption.isSome = true := by decide +kernel
  obtain ⟨op, accepted⟩ := Option.isSome_iff_exists.mp accepted
  have accepted := toOption_ok accepted
  obtain ⟨⟨packed, word, unpacked⟩, _⟩ := (packing_round_trip id).1 _ op accepted
  exact ⟨op, packed, accepted, word, unpacked, (packing_round_trip id).2 packed op unpacked⟩

end JBCenter.UserOperations
