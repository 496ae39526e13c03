import JBCenter.UserOperations.GasBudget

/-! The final sponsorship of a prepared operation. A sponsor quotes, a bundler estimates what was quoted, and where
the estimate asks for more gas the operation is raised and quoted again, three times at most. -/
namespace JBCenter.UserOperations
open Rest

inductive GasField where
  | callGasLimit | verificationGasLimit | preVerificationGas | paymasterVerificationGasLimit | paymasterPostOpGasLimit
  deriving DecidableEq

def gasFields : List GasField :=
  [.callGasLimit, .verificationGasLimit, .preVerificationGas, .paymasterVerificationGasLimit, .paymasterPostOpGasLimit]

def GasField.name : GasField → String
  | .callGasLimit => "callGasLimit"
  | .verificationGasLimit => "verificationGasLimit"
  | .preVerificationGas => "preVerificationGas"
  | .paymasterVerificationGasLimit => "paymasterVerificationGasLimit"
  | .paymasterPostOpGasLimit => "paymasterPostOpGasLimit"

def GasField.bits (field : GasField) : Nat := if field = .preVerificationGas then 256 else 128

def UserOperationV07.gas (op : UserOperationV07) : GasField → Option String
  | .callGasLimit => some op.callGasLimit
  | .verificationGasLimit => some op.verificationGasLimit
  | .preVerificationGas => some op.preVerificationGas
  | .paymasterVerificationGasLimit => op.paymasterVerificationGasLimit
  | .paymasterPostOpGasLimit => op.paymasterPostOpGasLimit

/-- `BigInt(op[field] ?? "0x0")` -/
def UserOperationV07.gasNumber (op : UserOperationV07) (field : GasField) : Nat := optionalNumber (op.gas field)

def UserOperationV07.setGas (op : UserOperationV07) (field : GasField) (text : String) : UserOperationV07 :=
  match field with
  | .callGasLimit => { op with callGasLimit := text }
  | .verificationGasLimit => { op with verificationGasLimit := text }
  | .preVerificationGas => { op with preVerificationGas := text }
  | .paymasterVerificationGasLimit => { op with paymasterVerificationGasLimit := some text }
  | .paymasterPostOpGasLimit => { op with paymasterPostOpGasLimit := some text }

/-- A quote, with the operation as it came back and the second up to which its proof is valid. -/
structure SponsorQuote where
  operation : Json
  validUntil : Int

/-- A call to the provider that was answered. -/
inductive Exchange where
  | sponsored (request : UserOperationV07) (quote : SponsorQuote)
  | estimated (request : UserOperationV07) (answer : Json)

inductive FinalizationError where
  | estimation (error : EstimationError)
  | provider (error : RestError)
  | unreachable

/-- The sponsor and the bundler, which may answer by all that they were asked before. -/
structure UserOperationProvider where
  sponsor : List Exchange → UserOperationV07 → Except RestError SponsorQuote
  estimate : List Exchange → UserOperationV07 → Except RestError Json

structure FinalizationInput where
  operation : Json
  gasPolicy : UserOperationGasPolicy
  /-- The profile is `pimlico-v7-current-flags`. -/
  currentFlags : Bool
  expiresAt : Int
  dummySignature : Int → String
  sessionGas : Option SessionGasEstimation
  marginsCoverSameSizeSponsorship : Bool

abbrev Finalizing := Fallible FinalizationError (List Exchange)

section
variable (codec : EstimationCodec) (input : FinalizationInput) (provider : UserOperationProvider)

def unsigned (value : Json) : Except EstimationError UserOperationV07 := do
  let operation ← normalized codec value
  refuse (operation.signature != "0x") (.codec (.rest (uoError "USER_OPERATION_ALREADY_SIGNED"
    "Complete sponsorship before requesting the owner/session signature." 400)))
  return operation

def checkedEstimate (value : Json) : Except RestError (List (GasField × Nat)) :=
  let unsupported := uoError "INVALID_USER_OPERATION_ESTIMATE" "The bundler returned an unsupported gas estimate." 502
  match value with
  | .object fields => do
    refuse ((gasFields.take 3).any (fun field => !contains fields field.name) ||
      JsonFields.unknownKey fields (gasFields.map GasField.name)) unsupported
    (gasFields.filter fun field => contains fields field.name).mapM fun field => do
      let amount ← uoQuantity (JsonFields.field fields field.name) ("estimated " ++ field.name) field.bits
      return (field, amount)
  | _ => .error unsupported

def assertBudget (operation : UserOperationV07) : Except EstimationError Unit := do
  (refusal (assertUserOperationGasPolicy codec.checksumAddress operation.toJson input.gasPolicy)).mapError .codec
  optionally (fun session => session.assert codec operation.toJson) input.sessionGas

/-- The sponsor may replace its data, but every other field must match its request. Without data to put back
the canonical text is not defined. -/
def assertReviewed (operation funded : UserOperationV07) : Except EstimationError Unit :=
  match operation.paymasterData with
  | none => .error (.codec (.rest (uoError "INVALID_USER_OPERATION" "Only bounded lossless JSON is accepted." 400)))
  | some data =>
    refuse (uoCanonical { funded with paymasterData := some data } != uoCanonical operation)
      (.codec (.rest (uoError "USER_OPERATION_SPONSOR_FIELDS_CHANGED"
        "Final sponsorship changed the operation fields being reviewed." 502)))

def checked (result : Except EstimationError α) : Finalizing α := Fallible.check (result.mapError .estimation)

def sponsor (request : UserOperationV07) : Finalizing SponsorQuote := fun asked =>
  match provider.sponsor asked request with
  | .ok quote => .ok quote (asked ++ [.sponsored request quote])
  | .error error => .error (.provider error) asked

def estimate (request : UserOperationV07) : Finalizing Json := fun asked =>
  match provider.estimate asked request with
  | .ok answer => .ok answer (asked ++ [.estimated request answer])
  | .error error => .error (.provider error) asked

def fund (operation : UserOperationV07) (expiresAt : Int) : Finalizing (UserOperationV07 × Int) := do
  checked (assertBudget codec input operation)
  let quote ← sponsor provider operation
  let funded ← checked (unsigned codec quote.operation)
  checked (assertReviewed operation funded)
  checked (assertBudget codec input funded)
  return (funded, min expiresAt (quote.validUntil * 1000))

def raisedFields (funded : UserOperationV07) (expiresAt : Int) : Finalizing (List (GasField × Nat)) := do
  let answer ← estimate provider { funded with signature := input.dummySignature expiresAt }
  let estimated ← checked ((refusal (checkedEstimate answer)).mapError .codec)
  return estimated.filter fun (field, amount) => funded.gasNumber field < amount

/-- Each field that was asked for, with a margin of a twentieth. -/
def raise (funded : UserOperationV07) (raised : List (GasField × Nat)) : UserOperationV07 :=
  raised.foldl (fun op (field, amount) => op.setGas field (toHex ((amount * 105 + 99) / 100))) funded

def sameSize (funded operation : UserOperationV07) : Bool :=
  (funded.paymasterData.getD "0x").length = (operation.paymasterData.getD "0x").length

/-- With so many quotes left. -/
def finalizeFrom : Nat → UserOperationV07 → Int → Finalizing (UserOperationV07 × Int)
  | 0, _, _ => throw .unreachable
  | left + 1, operation, expiresAt => do
    let (funded, expiresAt) ← fund codec input provider operation expiresAt
    if input.marginsCoverSameSizeSponsorship && sameSize funded operation then return (funded, expiresAt)
    else do
      let raised ← raisedFields input provider funded expiresAt
      if raised.isEmpty then do
        checked (assertBudget codec input funded)
        return (funded, expiresAt)
      else if left = 0 then
        throw (.estimation (.codec (.rest (uoError "USER_OPERATION_SPONSOR_GAS_CHANGED"
          "Final sponsorship requires more gas than the reviewed operation. Bounded preparation did not converge." 409))))
      else do
        let next ← checked (unsigned codec (raise funded raised).toJson)
        checked (assertBudget codec input next)
        finalizeFrom left next expiresAt

def maximumQuotes : Nat := if input.currentFlags then 3 else 1

def finalizeUserOperationSponsorship : Finalizing (UserOperationV07 × Int) := do
  let operation ← checked (unsigned codec input.operation)
  finalizeFrom codec input provider (maximumQuotes input) operation input.expiresAt

end

variable {codec : EstimationCodec} {input : FinalizationInput} {provider : UserOperationProvider}
variable {operation funded : UserOperationV07} {expiresAt : Int} {asked after : List Exchange}

theorem append_quote_inj {first second : List Char} {rest rest' : List Char} (left : '"' ∉ first) (right : '"' ∉ second)
    (same : first ++ '"' :: rest = second ++ '"' :: rest') : first = second ∧ rest = rest' := by
  induction first generalizing second with
  | nil =>
    cases second with
    | nil => exact ⟨rfl, (List.cons.inj same).2⟩
    | cons c second =>
      obtain ⟨rfl, _⟩ := List.cons.inj same
      exact absurd List.mem_cons_self right
  | cons c first ih =>
    cases second with
    | nil =>
      obtain ⟨rfl, _⟩ := List.cons.inj same
      exact absurd List.mem_cons_self left
    | cons d second =>
      obtain ⟨rfl, tails⟩ := List.cons.inj same
      obtain ⟨rfl, rest⟩ := ih (fun member => left (List.mem_cons_of_mem _ member))
        (fun member => right (List.mem_cons_of_mem _ member)) tails
      exact ⟨rfl, rest⟩

/-- A text that stands between quotes as it is, and holds no comma. -/
def Plain (text : String) : Prop := '"' ∉ text.toList ∧ ',' ∉ text.toList

def memberPiece (entry : String × String) : String := "\"" ++ entry.1 ++ "\":\"" ++ entry.2 ++ "\""

theorem memberPiece_toList (entry : String × String) : (memberPiece entry).toList =
    '"' :: (entry.1.toList ++ '"' :: ':' :: '"' :: (entry.2.toList ++ ['"'])) := by
  simp [memberPiece]

theorem memberPiece_inj {first second : String × String} (left : Plain first.1 ∧ Plain first.2)
    (right : Plain second.1 ∧ Plain second.2)
    (same : memberPiece first = memberPiece second) : first = second := by
  have spelled := congrArg String.toList same
  rw [memberPiece_toList, memberPiece_toList] at spelled
  obtain ⟨key, rest⟩ := append_quote_inj left.1.1 right.1.1 (List.cons.inj spelled).2
  obtain ⟨value, _⟩ := append_quote_inj left.2.1 right.2.1 (List.cons.inj (List.cons.inj rest).2).2
  exact Prod.ext (String.toList_inj.mp key) (String.toList_inj.mp value)

theorem memberPiece_plain {entry : String × String} (plain : Plain entry.1 ∧ Plain entry.2) :
    ',' ∉ (memberPiece entry).toList := by
  rw [memberPiece_toList]
  simp only [List.mem_cons, List.mem_append, not_or]
  exact ⟨by decide, plain.1.2, by decide, by decide, by decide, plain.2.2, by decide, List.not_mem_nil⟩

theorem map_inj_of_mem {f : α → β} {items others : List α} (inj : ∀ x ∈ items, ∀ y ∈ others, f x = f y → x = y)
    (same : items.map f = others.map f) : items = others := by
  induction items generalizing others with
  | nil => exact (List.map_eq_nil_iff.mp same.symm).symm
  | cons x items ih =>
    cases others with
    | nil => cases same
    | cons y others =>
      obtain ⟨first, rest⟩ := List.cons.inj same
      rw [inj x List.mem_cons_self y List.mem_cons_self first,
        ih (fun x member y also => inj x (List.mem_cons_of_mem _ member) y (List.mem_cons_of_mem _ also)) rest]

variable {text : String} {first op : UserOperationV07}

theorem mem_entries {key : String} : (key, text) ∈ op.entries ↔ (key, some text) ∈ op.table := by
  rw [UserOperationV07.entries, List.mem_filterMap]
  constructor
  · rintro ⟨⟨name, value⟩, member, shown⟩
    obtain ⟨_, rfl, same⟩ := Option.map_eq_some_iff.mp shown
    cases same
    exact member
  · exact fun member => ⟨_, member, rfl⟩

def UserOperationV07.Plain (op : UserOperationV07) : Prop := ∀ entry ∈ op.table, ∀ text ∈ entry.2, UserOperations.Plain text

theorem plain_of_numeral {digits : List Char} (numeral : IsNumeral 16 digits) : UserOperations.Plain (hexText digits) := by
  have letters : ∀ d < 16, Nat.digitChar d ≠ '"' ∧ Nat.digitChar d ≠ ',' := by decide
  have digit {c : Char} (member : c ∈ digits) : c ≠ '"' ∧ c ≠ ',' := by
    obtain ⟨d, small, rfl⟩ := numeral c member
    exact letters d small
  rw [UserOperations.Plain, hexText_toList]
  simp only [List.mem_cons, not_or]
  exact ⟨⟨by decide, by decide, fun member => (digit member).1 rfl⟩, by decide, by decide, fun member => (digit member).2 rfl⟩

theorem plain_some (plain : UserOperations.Plain text) : ∀ other ∈ some text, UserOperations.Plain other := by
  rintro _ ⟨⟩
  exact plain

theorem IsAddress.plain (form : IsAddress text) : UserOperations.Plain text := by
  obtain ⟨digits, rfl, numeral, _⟩ := form
  exact plain_of_numeral numeral

theorem IsBytes.plain {maximum : Nat} (form : IsBytes maximum text) : UserOperations.Plain text := by
  obtain ⟨digits, rfl, numeral, _⟩ := form
  exact plain_of_numeral numeral

theorem IsQuantity.plain {bits : Nat} (form : IsQuantity bits text) : UserOperations.Plain text := by
  obtain ⟨n, _, rfl⟩ := form
  exact plain_of_numeral (isNumeral_toDigits (by decide))

theorem FactoryForm.plain {factory data : Option String} (form : FactoryForm factory data) :
    (∀ text ∈ factory, UserOperations.Plain text) ∧ ∀ text ∈ data, UserOperations.Plain text := by
  cases form with
  | absent => exact ⟨nofun, nofun⟩
  | present address _ bytes => exact ⟨plain_some address.plain, plain_some bytes.plain⟩

theorem PaymasterForm.plain {paymaster verification postOp data : Option String}
    (form : PaymasterForm paymaster verification postOp data) :
    ((∀ text ∈ paymaster, UserOperations.Plain text) ∧ ∀ text ∈ data, UserOperations.Plain text) ∧
      (∀ text ∈ verification, UserOperations.Plain text) ∧ ∀ text ∈ postOp, UserOperations.Plain text := by
  cases form with
  | absent => exact ⟨⟨nofun, nofun⟩, nofun, nofun⟩
  | present address verifies settles bytes =>
    exact ⟨⟨plain_some address.plain, plain_some bytes.plain⟩,
      plain_some verifies.plain, plain_some settles.plain⟩

theorem UserOperationV07.Canonical.plain (canonical : op.Canonical) : op.Plain := by
  obtain ⟨⟨paymaster, data⟩, verifies, settles⟩ := canonical.paymaster.plain
  simp only [UserOperationV07.Plain, UserOperationV07.table, List.forall_mem_cons]
  exact ⟨plain_some canonical.sender.plain, plain_some canonical.nonce.plain,
    canonical.factory.plain.1, canonical.factory.plain.2,
    plain_some canonical.callData.plain, plain_some canonical.callGasLimit.plain, plain_some canonical.verificationGasLimit.plain,
    plain_some canonical.preVerificationGas.plain, plain_some canonical.maxFeePerGas.plain,
    plain_some canonical.maxPriorityFeePerGas.plain,
    paymaster, verifies, settles, data, plain_some canonical.signature.plain, List.forall_mem_nil _⟩

theorem lookup_table {key : String} (member : (key, some text) ∈ op.table) :
    op.table.lookup key = some (some text) := by
  have distinct : (op.table.map Prod.fst).Nodup := by
    rw [table_keys]
    decide
  obtain ⟨before, after, split⟩ := List.mem_iff_append.mp member
  refine List.lookup_eq_some_iff.mpr ⟨before, after, split, fun entry earlier => ?_⟩
  rw [split, List.map_append, List.nodup_append] at distinct
  have differ := distinct.2.2 entry.1 (List.mem_map_of_mem earlier) key (by simp)
  simpa using Ne.symm differ

theorem table_agrees {second : UserOperationV07} {key : String} {x y : Option String}
    (listed : ∀ key text, (key, text) ∈ first.entries ↔ (key, text) ∈ second.entries) (held : first.table.lookup key = some x)
    (held' : second.table.lookup key = some y) (there : x = some text) : y = some text := by
  subst there
  obtain ⟨before, after, split, _⟩ := List.lookup_eq_some_iff.mp held
  have member : (key, some text) ∈ first.table := split ▸ List.mem_append_right before List.mem_cons_self
  have found := lookup_table (mem_entries.mp ((listed key text).mp (mem_entries.mpr member)))
  exact Option.some.inj (held'.symm.trans found)

theorem uoCanonical_eq (op : UserOperationV07) : uoCanonical op =
    "\x7b" ++ String.intercalate "," ((op.entries.insertionSort fun a b => a.1 ≤ b.1).map memberPiece) ++ "\x7d" := rfl

theorem uoCanonical_inj {second : UserOperationV07} (left : first.Plain) (right : second.Plain)
    (same : uoCanonical first = uoCanonical second) : first = second := by
  have plain {op : UserOperationV07} (texts : op.Plain) {entry : String × String}
      (member : entry ∈ op.entries.insertionSort fun a b => a.1 ≤ b.1) :
      UserOperations.Plain entry.1 ∧ UserOperations.Plain entry.2 := by
    have listed := mem_entries.mp ((List.mem_insertionSort _).mp member)
    have keys : ∀ key ∈ op.table.map Prod.fst, UserOperations.Plain key := by
      rw [table_keys]
      unfold UserOperations.Plain
      decide
    exact ⟨keys entry.1 (List.mem_map_of_mem listed), texts _ listed _ rfl⟩
  have some (op : UserOperationV07) : (op.entries.insertionSort fun a b => a.1 ≤ b.1).map memberPiece ≠ [] := by
    have sender : ("sender", op.sender) ∈ op.entries := mem_entries.mpr List.mem_cons_self
    exact List.ne_nil_of_mem (List.mem_map_of_mem ((List.mem_insertionSort _).mpr sender))
  rw [uoCanonical_eq, uoCanonical_eq] at same
  have joined := congrArg String.toList same
  simp only [String.toList_append] at joined
  have pieces := intercalate_inj (fun piece member => ?_) (some first) (some second)
    (String.toList_inj.mp (List.append_cancel_left (List.append_cancel_right joined)))
  · have sorted := map_inj_of_mem (fun x member y also => memberPiece_inj (plain left member) (plain right also)) pieces
    have listed (key text : String) : (key, text) ∈ first.entries ↔ (key, text) ∈ second.entries := by
      rw [← List.mem_insertionSort fun a b : String × String => a.1 ≤ b.1, sorted, List.mem_insertionSort]
    have field (key : String) {x y : Option String} (held : first.table.lookup key = .some x)
        (held' : second.table.lookup key = .some y) : x = y :=
      Option.ext fun text => ⟨fun there => table_agrees listed held held' there,
        fun there => table_agrees (fun key text => (listed key text).symm) held' held there⟩
    cases first
    cases second
    simp only [UserOperationV07.mk.injEq]
    exact ⟨Option.some.inj (field "sender" rfl rfl), Option.some.inj (field "nonce" rfl rfl), field "factory" rfl rfl,
      field "factoryData" rfl rfl, Option.some.inj (field "callData" rfl rfl), Option.some.inj (field "callGasLimit" rfl rfl),
      Option.some.inj (field "verificationGasLimit" rfl rfl), Option.some.inj (field "preVerificationGas" rfl rfl),
      Option.some.inj (field "maxFeePerGas" rfl rfl), Option.some.inj (field "maxPriorityFeePerGas" rfl rfl),
      field "paymaster" rfl rfl, field "paymasterVerificationGasLimit" rfl rfl, field "paymasterPostOpGasLimit" rfl rfl,
      field "paymasterData" rfl rfl, Option.some.inj (field "signature" rfl rfl)⟩
  · rcases List.mem_append.mp member with member | member
    · obtain ⟨entry, listed, rfl⟩ := List.mem_map.mp member
      exact memberPiece_plain (plain left listed)
    · obtain ⟨entry, listed, rfl⟩ := List.mem_map.mp member
      exact memberPiece_plain (plain right listed)

/-- What sponsorship leaves as it was reviewed: everything but the paymaster's data and the gas. -/
def UserOperationV07.reviewed (op : UserOperationV07) : UserOperationV07 :=
  { op with
    callGasLimit := "", verificationGasLimit := "", preVerificationGas := ""
    paymasterVerificationGasLimit := none, paymasterPostOpGasLimit := none, paymasterData := none }

open UserOperationV07 (gas gasNumber setGas table totalGas)

theorem lower_setGas (op : UserOperationV07) (field : GasField) (n : Nat) :
    (op.setGas field (toHex n)).lower = op.lower.setGas field (toHex n) := by
  cases field <;> simp [setGas, UserOperationV07.lower, lower_toHex]

theorem lower_raise (raised : List (GasField × Nat)) (op : UserOperationV07) :
    (raise op raised).lower = raise op.lower raised := by
  induction raised generalizing op with
  | nil => rfl
  | cons first rest ih => exact (ih _).trans (congrArg (fun op => raise op rest) (lower_setGas op first.1 _))

theorem UserOperationV07.Canonical.lower_eq (canonical : op.Canonical) : op.lower = op := by
  have normal : normalizeUserOperation id op.toJson = .ok op := normalize_canonical canonical
  exact (normalize_lower normal).2.symm

theorem reviewed_setGas (op : UserOperationV07) (field : GasField) (text : String) :
    (op.setGas field text).reviewed = op.reviewed := by
  cases field <;> rfl

theorem reviewed_raise (raised : List (GasField × Nat)) (op : UserOperationV07) : (raise op raised).reviewed = op.reviewed := by
  induction raised generalizing op with
  | nil => rfl
  | cons first rest ih => exact (ih _).trans (reviewed_setGas op first.1 _)

theorem gasNumber_setGas (op : UserOperationV07) (field other : GasField) (n : Nat) :
    (op.setGas field (toHex n)).gasNumber other = if other = field then n else op.gasNumber other := by
  cases field <;> cases other <;>
    simp [gasNumber, gas, setGas, optionalNumber, hexNumber_toHex]

theorem gasNumber_raise {raised : List (GasField × Nat)} (base : UserOperationV07)
    (kept : ∀ field, base.gasNumber field ≤ op.gasNumber field)
    (more : ∀ entry ∈ raised, base.gasNumber entry.1 < entry.2) (field : GasField) :
    base.gasNumber field ≤ (raise op raised).gasNumber field := by
  induction raised generalizing op with
  | nil => exact kept field
  | cons first rest ih =>
    obtain ⟨above, others⟩ := List.forall_mem_cons.mp more
    refine ih (fun other => ?_) others
    rw [gasNumber_setGas]
    split
    · rename_i same
      subst same
      have margin : first.2 ≤ (first.2 * 105 + 99) / 100 := by omega
      exact above.le.trans margin
    · exact kept other

theorem mapError_ok {x : Except ε α} {f : ε → ε'} {a : α} (ran : x.mapError f = .ok a) : x = .ok a := by
  cases x with
  | error => cases ran
  | ok b =>
    cases ran
    rfl

theorem checked_ok {result : Except EstimationError α} {a : α}
    (ran : (checked result).run asked = .ok a after) : result = .ok a ∧ after = asked := by
  obtain ⟨read, same⟩ := Fallible.check_ok ran
  exact ⟨mapError_ok read, same⟩

theorem checked_bind_ok {result : Except EstimationError α} {f : α → Finalizing β} {b : β}
    (ran : (checked result >>= f).run asked = .ok b after) : ∃ a, result = .ok a ∧ (f a).run asked = .ok b after := by
  obtain ⟨a, middle, first, rest⟩ := Fallible.bind_ok ran
  obtain ⟨read, rfl⟩ := checked_ok first
  exact ⟨a, read, rest⟩

theorem unsigned_ok {value : Json} (read : unsigned codec value = .ok operation) :
    operation.Canonical ∧ operation.signature = "0x" ∧
    normalizeUserOperation codec.checksumAddress value = .ok operation := by
  obtain ⟨op, normal, read⟩ := ok_bind read
  obtain ⟨bare, read⟩ := ok_refuse read
  cases read
  obtain ⟨accepted, canonical⟩ := normalized_ok normal
  exact ⟨canonical, by simpa using bare, accepted⟩

structure WithinPolicy (policy : UserOperationGasPolicy) (op : UserOperationV07) : Prop where
  call : (hexNumber op.callGasLimit : Int) ≤ policy.maximumCallGas
  verification : (hexNumber op.verificationGasLimit : Int) ≤ policy.maximumVerificationGas
  preVerification : (hexNumber op.preVerificationGas : Int) ≤ policy.maximumPreVerificationGas
  fee : (hexNumber op.maxFeePerGas : Int) ≤ policy.maximumFeePerGas
  priority : (hexNumber op.maxPriorityFeePerGas : Int) ≤ policy.maximumPriorityFeePerGas
  paymasterVerification : (optionalNumber op.paymasterVerificationGasLimit : Int) ≤ policy.maximumPaymasterVerificationGas
  paymasterPostOp : (optionalNumber op.paymasterPostOpGasLimit : Int) ≤ policy.maximumPaymasterPostOpGas
  cost : (op.totalGas * hexNumber op.maxFeePerGas : Int) ≤ policy.maximumCost
  paymaster : policy.requirePaymaster = true → op.paymaster ≠ none

theorem assertCeiling_ok {amount : Nat} {ceiling : Int} (ran : assertCeiling amount ceiling = .ok ()) :
    (amount : Int) ≤ ceiling := by
  unfold assertCeiling at ran
  split at ran
  · cases ran
  · split at ran
    · cases ran
    · omega

theorem assertUserOperationGasPolicy_ok {checksumAddress : String → String} {policy : UserOperationGasPolicy}
    (canonical : op.Canonical) (ran : assertUserOperationGasPolicy checksumAddress op.toJson policy = .ok ()) :
    WithinPolicy policy op := by
  obtain ⟨current, normal, ran⟩ := ok_bind ran
  cases (normalize_canonical canonical).symm.trans normal
  obtain ⟨_, call, ran⟩ := ok_bind ran
  obtain ⟨_, verification, ran⟩ := ok_bind ran
  obtain ⟨_, preVerification, ran⟩ := ok_bind ran
  obtain ⟨_, fee, ran⟩ := ok_bind ran
  obtain ⟨_, priority, ran⟩ := ok_bind ran
  obtain ⟨_, paymasterVerification, ran⟩ := ok_bind ran
  obtain ⟨_, paymasterPostOp, ran⟩ := ok_bind ran
  split at ran
  · cases ran
  · obtain ⟨cost, costRead, ran⟩ := ok_bind ran
    obtain ⟨again, normal', costRead⟩ := ok_bind costRead
    cases (normalize_canonical canonical).symm.trans normal'
    cases costRead
    split at ran
    · cases ran
    · rename_i within
      simp only [Bool.or_eq_true, decide_eq_true_eq, Bool.and_eq_true, not_or, not_and, not_lt] at within
      refine ⟨assertCeiling_ok call, assertCeiling_ok verification, assertCeiling_ok preVerification, assertCeiling_ok fee,
        assertCeiling_ok priority, assertCeiling_ok paymasterVerification, assertCeiling_ok paymasterPostOp, ?_, ?_⟩
      · exact_mod_cast within.1
      · intro required absent
        exact within.2 required (Option.isNone_iff_eq_none.mpr absent)

/-- Within the gas policy, and what the session's budget admits. -/
structure WithinBudget (input : FinalizationInput) (op : UserOperationV07) : Prop where
  policy : WithinPolicy input.gasPolicy op
  session : ∀ context, input.sessionGas = some context → context.Admits op

theorem assertBudget_ok (canonical : operation.Canonical) (ran : assertBudget codec input operation = .ok ()) :
    WithinBudget input operation := by
  obtain ⟨_, policy, session⟩ := ok_bind ran
  refine ⟨assertUserOperationGasPolicy_ok canonical (refusal_ok.mp (mapError_ok policy)), fun context there => ?_⟩
  rw [there] at session
  exact (assert_ok (normalized_run (normalize_canonical canonical))).mp session

theorem assertReviewed_ok (canonical : operation.Canonical) (funds : funded.Canonical)
    (ran : assertReviewed operation funded = .ok ()) : { funded with paymasterData := operation.paymasterData } = operation := by
  unfold assertReviewed at ran
  split at ran
  · cases ran
  · rename_i data there
    have same : uoCanonical { funded with paymasterData := some data } = uoCanonical operation := by
      simpa using refuse_ok.mp ran
    have plain := canonical.plain
    have dataPlain : UserOperations.Plain data := canonical.paymaster.plain.1.2 data there
    have rest := funds.plain
    simp only [UserOperationV07.Plain, table, List.forall_mem_cons] at rest
    have replaced : UserOperationV07.Plain { funded with paymasterData := some data } := by
      simp only [UserOperationV07.Plain, table, List.forall_mem_cons]
      obtain ⟨sender, nonce, factory, factoryData, callData, callGas, verificationGas,
        preVerificationGas, maximumFee, priorityFee,
        paymaster, verifies, settles, _, signature⟩ := rest
      exact ⟨sender, nonce, factory, factoryData, callData, callGas, verificationGas, preVerificationGas, maximumFee, priorityFee,
        paymaster, verifies, settles, plain_some dataPlain, signature⟩
    rw [there]
    exact uoCanonical_inj replaced plain same

def quotes (asked : List Exchange) : List (UserOperationV07 × SponsorQuote) := asked.filterMap fun exchange =>
  match exchange with
  | .sponsored request quote => some (request, quote)
  | .estimated _ _ => none

theorem quotes_append (asked later : List Exchange) :
    quotes (asked ++ later) = quotes asked ++ quotes later := List.filterMap_append

structure Funds (codec : EstimationCodec) (input : FinalizationInput) (operation : UserOperationV07) (expiresAt : Int)
    (quote : SponsorQuote) (funded : UserOperationV07) (expires : Int) : Prop where
  read : unsigned codec quote.operation = .ok funded
  reviewed : { funded with paymasterData := operation.paymasterData } = operation
  budget : WithinBudget input funded
  expires : expires = min expiresAt (quote.validUntil * 1000)

theorem fund_ok {expires : Int} (canonical : operation.Canonical)
    (ran : (fund codec input provider operation expiresAt).run asked = .ok (funded, expires) after) :
    ∃ quote, after = asked ++ [.sponsored operation quote] ∧ Funds codec input operation expiresAt quote funded expires := by
  obtain ⟨_, _, ran⟩ := checked_bind_ok ran
  obtain ⟨quote, middle, sponsored, ran⟩ := Fallible.bind_ok ran
  obtain ⟨op, read, ran⟩ := checked_bind_ok ran
  obtain ⟨_, reviewed, ran⟩ := checked_bind_ok ran
  obtain ⟨_, budget, ran⟩ := checked_bind_ok ran
  cases ran
  have funds := (unsigned_ok read).1
  have logged : after = asked ++ [.sponsored operation quote] := by
    change sponsor provider operation asked = _ at sponsored
    unfold sponsor at sponsored
    split at sponsored
    · cases sponsored
      rfl
    · cases sponsored
  exact ⟨quote, logged, read, assertReviewed_ok canonical funds reviewed, assertBudget_ok funds budget, rfl⟩

theorem raisedFields_ok {raised : List (GasField × Nat)}
    (ran : (raisedFields input provider funded expiresAt).run asked = .ok raised after) :
    ∃ answer amounts, after = asked ++ [.estimated { funded with signature := input.dummySignature expiresAt } answer] ∧
      checkedEstimate answer = .ok amounts ∧ raised = amounts.filter fun (field, amount) => funded.gasNumber field < amount := by
  obtain ⟨answer, middle, answered, ran⟩ := Fallible.bind_ok ran
  obtain ⟨amounts, read, ran⟩ := checked_bind_ok ran
  cases ran
  have logged : after = asked ++ [.estimated { funded with signature := input.dummySignature expiresAt } answer] := by
    change estimate provider _ asked = _ at answered
    unfold estimate at answered
    split at answered
    · cases answered
      rfl
    · cases answered
  exact ⟨answer, amounts, logged, refusal_ok.mp (mapError_ok read), rfl⟩

/-- An operation on its way from the first one: only the paymaster's data and the gas have changed, and no gas has shrunk. -/
structure Descends (first operation : UserOperationV07) : Prop where
  reviewed : operation.reviewed = first.reviewed
  gas : ∀ field, first.gasNumber field ≤ operation.gasNumber field

theorem Descends.funds {quote : SponsorQuote} {expires : Int} (descends : Descends first operation)
    (funds : Funds codec input operation expiresAt quote funded expires) : Descends first funded := by
  have same := funds.reviewed
  constructor
  · rw [← descends.reviewed, ← same]
    rfl
  · intro field
    have equal : funded.gasNumber field = operation.gasNumber field := by
      rw [← same]
      cases field <;> rfl
    exact equal ▸ descends.gas field

structure Finalized (codec : EstimationCodec) (input : FinalizationInput) (first : UserOperationV07) (asked : List Exchange)
    (operation : UserOperationV07) (expiresAt : Int) : Prop where
  descends : Descends first operation
  budget : WithinBudget input operation
  /-- It is the operation of the last quote, which was asked for exactly it. -/
  quoted : ∃ request quote, (quotes asked).getLast? = some (request, quote) ∧ unsigned codec quote.operation = .ok operation ∧
    { operation with paymasterData := request.paymasterData } = request
  /-- The margins cover its sponsorship, or it was estimated last and asks for no more than it has. -/
  estimated : (input.marginsCoverSameSizeSponsorship = true ∧
      ∃ request quote, asked.getLast? = some (.sponsored request quote) ∧ sameSize operation request = true) ∨
    ∃ answer amounts, asked.getLast? = some (.estimated { operation with signature := input.dummySignature expiresAt } answer) ∧
      checkedEstimate answer = .ok amounts ∧ ∀ field amount, (field, amount) ∈ amounts → amount ≤ operation.gasNumber field
  expires : expiresAt ≤ input.expiresAt ∧ ∀ quoted ∈ quotes asked, expiresAt ≤ quoted.2.validUntil * 1000
  few : (quotes asked).length ≤ maximumQuotes input

theorem finalizeFrom_ok {left : Nat} {result : UserOperationV07 × Int} (canonical : operation.Canonical)
    (descends : Descends first operation) (few : (quotes asked).length + left ≤ maximumQuotes input)
    (expires : expiresAt ≤ input.expiresAt ∧ ∀ quoted ∈ quotes asked, expiresAt ≤ quoted.2.validUntil * 1000)
    (ran : (finalizeFrom codec input provider left operation expiresAt).run asked = .ok result after) :
    Finalized codec input first after result.1 result.2 := by
  induction left generalizing operation expiresAt asked with
  | zero => cases ran
  | succ left ih =>
    obtain ⟨⟨funded, expiry⟩, middle, fundedRun, ran⟩ := Fallible.bind_ok ran
    obtain ⟨quote, rfl, funds⟩ := fund_ok canonical fundedRun
    have asks : quotes (asked ++ [.sponsored operation quote]) = quotes asked ++ [(operation, quote)] := quotes_append ..
    have sooner : expiry ≤ input.expiresAt ∧
        ∀ quoted ∈ quotes (asked ++ [.sponsored operation quote]), expiry ≤ quoted.2.validUntil * 1000 := by
      rw [asks, funds.expires]
      refine ⟨(Int.min_le_left ..).trans expires.1, fun quoted member => ?_⟩
      rcases List.mem_append.mp member with earlier | last
      · exact (Int.min_le_left ..).trans (expires.2 quoted earlier)
      · exact List.mem_singleton.mp last ▸ Int.min_le_right ..
    have fewer : (quotes (asked ++ [.sponsored operation quote])).length + left ≤ maximumQuotes input := by
      rw [asks, List.length_append, List.length_singleton]
      omega
    have keeps := descends.funds funds
    have bound : { funded with paymasterData := operation.paymasterData } = operation := funds.reviewed
    dsimp only at ran
    split at ran
    · rename_i shortcut
      rw [Bool.and_eq_true] at shortcut
      cases ran
      exact ⟨keeps, funds.budget, ⟨operation, quote, by rw [asks, List.getLast?_concat], funds.read, bound⟩,
        Or.inl ⟨shortcut.1, operation, quote, List.getLast?_concat, shortcut.2⟩, sooner, by omega⟩
    · obtain ⟨raised, later, estimates, ran⟩ := Fallible.bind_ok ran
      obtain ⟨answer, amounts, rfl, read, rfl⟩ := raisedFields_ok estimates
      have silent (request : UserOperationV07) : quotes ((asked ++ [.sponsored operation quote]) ++ [.estimated request answer]) =
          quotes (asked ++ [.sponsored operation quote]) := by
        rw [quotes_append]
        exact List.append_nil _
      split at ran
      · rename_i none
        obtain ⟨_, _, ran⟩ := checked_bind_ok ran
        cases ran
        refine ⟨keeps, funds.budget, ⟨operation, quote, by rw [silent, asks, List.getLast?_concat], funds.read, bound⟩,
          Or.inr ⟨answer, amounts, List.getLast?_concat, read, fun field amount member => ?_⟩, by rwa [silent], ?_⟩
        · by_contra short
          have listed : (field, amount) ∈ amounts.filter fun (field, amount) => funded.gasNumber field < amount :=
            List.mem_filter.mpr ⟨member, decide_eq_true (not_le.mp short)⟩
          rw [List.isEmpty_iff.mp none] at listed
          cases listed
        · rw [silent]
          omega
      · split at ran
        · cases ran
        · obtain ⟨next, nextRead, ran⟩ := checked_bind_ok ran
          obtain ⟨_, _, ran⟩ := checked_bind_ok ran
          obtain ⟨canonical', _, normal⟩ := unsigned_ok nextRead
          have same : next = raise funded (amounts.filter fun (field, amount) => funded.gasNumber field < amount) := by
            rw [(normalize_lower normal).2, lower_raise, (unsigned_ok funds.read).1.lower_eq]
          have more : ∀ entry ∈ amounts.filter fun (field, amount) => funded.gasNumber field < amount,
              funded.gasNumber entry.1 < entry.2 := fun entry member => of_decide_eq_true (List.mem_filter.mp member).2
          have raises : Descends first next := by
            refine ⟨?_, fun field => ?_⟩
            · rw [same, reviewed_raise, keeps.reviewed]
            · rw [same]
              exact (keeps.gas field).trans (gasNumber_raise funded (fun _ => Nat.le_refl _) more field)
          exact ih canonical' raises (by rwa [silent]) (by rwa [silent]) ran

/-- A finalized operation is the reviewed one but for its sponsor's data and gas that only grew, within the gas policy
and the session's budget; the last quote was for it, and the last estimate asks for no more. -/
theorem finalization_preserves_review (codec : EstimationCodec) (input : FinalizationInput) (provider : UserOperationProvider)
    (operation : UserOperationV07) (expiresAt : Int) (asked : List Exchange)
    (ran : (finalizeUserOperationSponsorship codec input provider).run [] = .ok (operation, expiresAt) asked) :
    ∃ first, unsigned codec input.operation = .ok first ∧ Finalized codec input first asked operation expiresAt ∧
      (quotes asked).length ≤ 3 := by
  obtain ⟨first, read, ran⟩ := checked_bind_ok ran
  have few : (quotes []).length + maximumQuotes input ≤ maximumQuotes input := (Nat.zero_add _).le
  have unasked : ∀ quoted ∈ quotes [], input.expiresAt ≤ quoted.2.validUntil * 1000 :=
    fun _ member => absurd member List.not_mem_nil
  have finalized : Finalized codec input first asked operation expiresAt :=
    finalizeFrom_ok (unsigned_ok read).1 ⟨rfl, fun _ => Nat.le_refl _⟩ few ⟨Int.le_refl _, unasked⟩ ran
  have three : maximumQuotes input ≤ 3 := by
    unfold maximumQuotes
    split
    · exact Nat.le_refl 3
    · exact Nat.le_add_left 1 2
  exact ⟨first, read, finalized, finalized.few.trans three⟩

/-- The sponsor signs what it is asked for as it is. -/
def sampleProvider : UserOperationProvider where
  sponsor := fun _ request => .ok ⟨request.toJson, 100⟩
  estimate := fun _ _ => .ok (.object [])

def sampleFinalization : FinalizationInput where
  operation := thousandOperation.toJson
  gasPolicy := { thousandPolicy with maximumPaymasterVerificationGas := 100 }
  currentFlags := false
  expiresAt := 120000
  dummySignature := fun _ => "0x02"
  sessionGas := none
  marginsCoverSameSizeSponsorship := true

theorem thousandOperation_canonical : thousandOperation.Canonical := by
  obtain ⟨_, _, _, _, _, read, rfl, _⟩ := thousand_ran
  exact (normalized_ok read).2

theorem sample_unsigned : unsigned thousandCodec thousandOperation.toJson = .ok thousandOperation := by
  have normal : normalizeUserOperation thousandCodec.checksumAddress thousandOperation.toJson = .ok thousandOperation :=
    normalize_canonical thousandOperation_canonical
  exact bind_run (normalized_run normal) rfl

theorem sample_policy : assertUserOperationGasPolicy thousandCodec.checksumAddress thousandOperation.toJson
    sampleFinalization.gasPolicy = .ok () := by
  have normal : normalizeUserOperation thousandCodec.checksumAddress thousandOperation.toJson = .ok thousandOperation :=
    normalize_canonical thousandOperation_canonical
  have one : hexNumber "0x1" = 1 := by decide +kernel
  have hundred : optionalNumber thousandOperation.paymasterVerificationGasLimit = 100 := by decide +kernel
  have zero : optionalNumber thousandOperation.paymasterPostOpGasLimit = 0 := by decide +kernel
  have gas : thousandOperation.totalGas = 103 := by
    rw [totalGas, hundred, zero]
    simp only [thousandOperation, one]
  have ceiling {limit : Int} (below : assertCeiling 1 limit = .ok ()) : assertCeiling (hexNumber "0x1") limit = .ok () := by
    rw [one]
    exact below
  refine bind_run normal (bind_run (ceiling rfl) (bind_run (ceiling rfl) (bind_run (ceiling rfl) ?_)))
  refine bind_run (ceiling rfl) (bind_run (ceiling rfl) ?_)
  rw [hundred, zero]
  refine bind_run (a := ()) rfl (bind_run (a := ()) rfl ?_)
  rw [if_neg (by decide)]
  refine bind_run (bind_run normal rfl) ?_
  rw [gas]
  simp only [thousandOperation, one]
  rfl

theorem sample_budget : assertBudget thousandCodec sampleFinalization thousandOperation = .ok () := by
  rw [assertBudget, sample_policy]
  rfl

theorem checked_bind_run {result : Except EstimationError α} {f : α → Finalizing β} {a : α} (read : result = .ok a) :
    (checked result >>= f).run asked = (f a).run asked := by
  subst read
  rfl

theorem fund_run {quote : SponsorQuote} (budget : assertBudget codec input operation = .ok ())
    (answered : provider.sponsor asked operation = .ok quote) (read : unsigned codec quote.operation = .ok funded)
    (reviewed : assertReviewed operation funded = .ok ()) (again : assertBudget codec input funded = .ok ()) :
    (fund codec input provider operation expiresAt).run asked =
      .ok (funded, min expiresAt (quote.validUntil * 1000)) (asked ++ [.sponsored operation quote]) := by
  have sponsored : (sponsor provider operation).run asked = .ok quote (asked ++ [.sponsored operation quote]) := by
    change sponsor provider operation asked = _
    rw [sponsor, answered]
  refine (checked_bind_run budget).trans ((Fallible.run_bind_ok sponsored).trans ?_)
  exact (checked_bind_run read).trans ((checked_bind_run reviewed).trans ((checked_bind_run again).trans rfl))

theorem sampleFinalization_ran :
    (finalizeUserOperationSponsorship thousandCodec sampleFinalization sampleProvider).run [] =
      .ok (thousandOperation, 100000) [.sponsored thousandOperation ⟨thousandOperation.toJson, 100⟩] := by
  have reviewed : assertReviewed thousandOperation thousandOperation = .ok () := refuse_ok.mpr (bne_self_eq_false _)
  have answered : sampleProvider.sponsor [] thousandOperation = .ok ⟨thousandOperation.toJson, 100⟩ := rfl
  have soon : min (120000 : Int) (100 * 1000) = 100000 := by decide
  have funded : (fund thousandCodec sampleFinalization sampleProvider thousandOperation 120000).run [] =
      .ok (thousandOperation, 100000) [.sponsored thousandOperation ⟨thousandOperation.toJson, 100⟩] :=
    soon ▸ fund_run sample_budget answered sample_unsigned reviewed sample_budget
  have start : unsigned thousandCodec sampleFinalization.operation = .ok thousandOperation := sample_unsigned
  refine (checked_bind_run start).trans ((Fallible.run_bind_ok funded).trans ?_)
  have shortcut : (sampleFinalization.marginsCoverSameSizeSponsorship &&
    sameSize thousandOperation thousandOperation) = true := by
    rw [sameSize, decide_eq_true rfl]
    rfl
  dsimp only
  rw [if_pos shortcut]
  rfl

theorem finalization_preserves_review_sample : ∃ first, unsigned thousandCodec sampleFinalization.operation = .ok first ∧
    Finalized thousandCodec sampleFinalization first [.sponsored thousandOperation ⟨thousandOperation.toJson, 100⟩]
      thousandOperation 100000 := by
  obtain ⟨first, read, finalized, _⟩ := finalization_preserves_review thousandCodec sampleFinalization sampleProvider
    thousandOperation 100000 [.sponsored thousandOperation ⟨thousandOperation.toJson, 100⟩] sampleFinalization_ran
  exact ⟨first, read, finalized⟩

end JBCenter.UserOperations
