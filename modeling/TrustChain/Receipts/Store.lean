import TrustChain.Receipts.Types

/-!
# The receipt store

A receipt is stored as a row whose metadata has the extension and the external payment under
reserved keys. The database keeps one row for an identifier and one for a step of a task. What
it returns for a date-time is a parameter.
-/

namespace TrustChain.Receipts

open Library Service

structure ReceiptRow where
  receiptId : ReceiptId
  taskId : TaskId
  agentId : IdentityId
  profileId : Option ProfileId
  stepIndex : Nat
  toolName : String
  inputHash : String
  outputHash : String
  startedAt : DateTime
  endedAt : DateTime
  durationMs : Nat
  status : String
  errorMessage : Option String
  metadata : Json.Fields
  signature : Option String

/-- `_KARMA_RECEIPT_EXTENSION_KEY`. -/
def karmaReceiptExtensionKey : String := "karma_receipt_extension"

/-- `_EXTERNAL_PAYMENT_KEY`. -/
def externalPaymentKey : String := "external_payment"

/-- The metadata without the reserved keys. -/
def ownMetadata (metadata : Json.Fields) : Json.Fields :=
  (metadata.pop karmaReceiptExtensionKey).pop externalPaymentKey

/-- The metadata with the extension and the payment under the reserved keys. -/
def packedMetadata (receipt : ExecutionReceipt) : Json.Fields :=
  ownMetadata receipt.metadata ++
    (receipt.extension.toList.map (fun extension =>
      (karmaReceiptExtensionKey, .object extension.modelDump)) ++
    receipt.externalPayment.toList.map fun payment => (externalPaymentKey, .object payment.modelDump))

/-- `_to_row`, as the database returns it. -/
def toRow (column : DateTime → DateTime) (receipt : ExecutionReceipt) : ReceiptRow where
  receiptId := receipt.receiptId
  taskId := receipt.taskId
  agentId := receipt.agentId
  profileId := receipt.profileId
  stepIndex := receipt.stepIndex
  toolName := receipt.toolName
  inputHash := receipt.inputHash
  outputHash := receipt.outputHash
  startedAt := column receipt.startedAt
  endedAt := column receipt.endedAt
  durationMs := receipt.durationMs
  status := toolStatusValue receipt.status
  errorMessage := receipt.errorMessage
  metadata := packedMetadata receipt
  signature := receipt.signature

/-- The value under a reserved key; the outer `none` is a validation error. -/
def reserved {α : Type} (parse : Json.Fields → Option α) (raw : Option Json) : Option (Option α) :=
  match raw.filter Json.truthy with
  | none => some none
  | some (.object fields) => (parse fields).map some
  | some _ => none

/-- `_from_row`; `none` if the row is no valid receipt. -/
def fromRow (row : ReceiptRow) : Option ExecutionReceipt := do
  let extension ← reserved parseExecutionReceiptExtension (row.metadata.get karmaReceiptExtensionKey)
  let externalPayment ← reserved readPayment
    ((row.metadata.pop karmaReceiptExtensionKey).get externalPaymentKey)
  let status ← toolStatus? row.status
  if firstStep : 1 ≤ row.stepIndex then
    some {
      receiptId := row.receiptId
      taskId := row.taskId
      agentId := row.agentId
      profileId := row.profileId
      stepIndex := row.stepIndex
      toolName := row.toolName
      inputHash := row.inputHash
      outputHash := row.outputHash
      startedAt := row.startedAt
      endedAt := row.endedAt
      durationMs := row.durationMs
      status
      errorMessage := row.errorMessage
      metadata := ownMetadata row.metadata
      externalPayment
      signature := row.signature
      extension
      firstStep }
  else none

/-! ## The table -/

abbrev Rows := Table ReceiptId ReceiptRow

def Rows.ofTask (rows : Rows) (taskId : TaskId) : List ReceiptRow :=
  (rows.rows.map Prod.snd).filter fun row => row.taskId = taskId

/-- The row with the greatest step. -/
def latestRow : List ReceiptRow → Option ReceiptRow
  | [] => none
  | row :: rest =>
      match latestRow rest with
      | none => some row
      | some other => if row.stepIndex < other.stepIndex then some other else some row

/-- `get_latest_by_task`; the outer `none` is a validation error. -/
def getLatestByTask (rows : Rows) (taskId : TaskId) : Option (Option ExecutionReceipt) :=
  match latestRow (rows.ofTask taskId) with
  | none => some none
  | some row => (fromRow row).map some

/-- `save`, up to the look-up: whether the receipt is stored already. -/
def lookUp (rows : Rows) (receipt : ExecutionReceipt) : Except HttpError Bool :=
  match rows.get receipt.receiptId with
  | none => .ok false
  | some existing =>
      match fromRow existing with
      | none => .error ⟨500, "stored receipt is not valid"⟩
      | some stored =>
          if stored.sameDump receipt then .ok true
          else .error ⟨409, "receipt_id " ++ receipt.receiptId ++
            " already exists with different payload"⟩

/-- A row with the identifier, or with the task and the step, is there. -/
def Rows.Taken (rows : Rows) (receipt : ExecutionReceipt) : Prop :=
  (rows.get receipt.receiptId).isSome ∨
    ∃ row ∈ rows.ofTask receipt.taskId, row.stepIndex = receipt.stepIndex

instance (rows : Rows) (receipt : ExecutionReceipt) : Decidable (rows.Taken receipt) :=
  inferInstanceAs (Decidable (_ ∨ _))

/-- `save`, from the look-up on: the database enforces that nothing is stored twice. -/
def insert (column : DateTime → DateTime) (rows : Rows) (receipt : ExecutionReceipt) :
    Except HttpError Rows := do
  require (¬rows.Taken receipt) ⟨409, "duplicate task_id + step_index receipt"⟩
  .ok (rows.set receipt.receiptId (toRow column receipt))

/-! ## What is read back -/

/-- A receipt as it is read back. -/
def ExecutionReceipt.readBack (receipt : ExecutionReceipt) (column : DateTime → DateTime) :
    ExecutionReceipt :=
  { receipt with
    startedAt := column receipt.startedAt
    endedAt := column receipt.endedAt
    metadata := ownMetadata receipt.metadata }

section ReadBack

variable {fields others : Json.Fields} {key : String} {value : Json} {α : Type}

theorem get_append (key : String) (fields others : Json.Fields) :
    Json.Fields.get (fields ++ others) key = (fields.get key).or (others.get key) := by
  induction fields with
  | nil => rfl
  | cons field rest ih =>
      obtain ⟨name, value⟩ := field
      by_cases here : key = name
      · subst here
        simp
      · rw [List.cons_append, get_cons_of_ne here, get_cons_of_ne here, ih]

theorem get_pop_self (fields : Json.Fields) (key : String) : (fields.pop key).get key = none := by
  rw [Json.Fields.get, List.lookup_eq_none_iff]
  intro field kept
  have other : field.1 ≠ key := of_decide_eq_true (List.mem_filter.mp kept).2
  exact bne_iff_ne.mpr other.symm

theorem get_pop_of_ne {other : String} (different : other ≠ key) (fields : Json.Fields) :
    (fields.pop key).get other = fields.get other := by
  induction fields with
  | nil => rfl
  | cons field rest ih =>
      obtain ⟨name, value⟩ := field
      by_cases here : name = key
      · subst here
        rw [get_cons_of_ne different, ← ih]
        simp [Json.Fields.pop]
      · have kept : Json.Fields.pop ((name, value) :: rest) key =
            (name, value) :: Json.Fields.pop rest key := by
          simp [Json.Fields.pop, here]
        rw [kept]
        by_cases there : other = name
        · subst there
          simp
        · rw [get_cons_of_ne there, get_cons_of_ne there, ih]

theorem keys_ne : externalPaymentKey ≠ karmaReceiptExtensionKey := by decide

theorem ownMetadata_get_extension (metadata : Json.Fields) :
    (ownMetadata metadata).get karmaReceiptExtensionKey = none := by
  rw [ownMetadata, get_pop_of_ne keys_ne.symm, get_pop_self]

theorem ownMetadata_get_payment (metadata : Json.Fields) :
    (ownMetadata metadata).get externalPaymentKey = none := get_pop_self _ _

/-- What was taken out of the metadata is not in it. -/
theorem ownMetadata_append (metadata more : Json.Fields)
    (only : ∀ field ∈ more, field.1 = karmaReceiptExtensionKey ∨ field.1 = externalPaymentKey) :
    ownMetadata (ownMetadata metadata ++ more) = ownMetadata metadata := by
  have popped : ownMetadata more = [] := by
    rw [ownMetadata, Json.Fields.pop, Json.Fields.pop, List.filter_filter, List.filter_eq_nil_iff]
    intro field inside
    rcases only field inside with extension | payment
    · simp [extension]
    · simp [payment]
  have again : ownMetadata (ownMetadata metadata) = ownMetadata metadata := by
    simp only [ownMetadata, Json.Fields.pop, List.filter_filter]
    congr 1
    funext field
    cases decide (field.1 ≠ externalPaymentKey) <;>
      cases decide (field.1 ≠ karmaReceiptExtensionKey) <;> rfl
  have both : ownMetadata (ownMetadata metadata ++ more) =
      ownMetadata (ownMetadata metadata) ++ ownMetadata more := by
    simp [ownMetadata, Json.Fields.pop, List.filter_append]
  rw [both, again, popped, List.append_nil]

theorem reserved_dump {parse : Json.Fields → Option α} {read : α} (some_ : fields ≠ [])
    (parsed : parse fields = some read) :
    reserved parse (some (.object fields)) = some (some read) := by
  obtain ⟨first, rest, rfl⟩ := List.exists_cons_of_ne_nil some_
  simp [reserved, Json.truthy, Option.filter, parsed]

theorem modelDump_ne_nil (extension : ExecutionReceiptExtension) : extension.modelDump ≠ [] := by
  cases extension <;> exact List.cons_ne_nil _ _

theorem get_packed (key : String) (receipt : ExecutionReceipt) :
    (packedMetadata receipt).get key = ((ownMetadata receipt.metadata).get key).or
      ((Json.Fields.get (receipt.extension.toList.map fun extension =>
        (karmaReceiptExtensionKey, .object extension.modelDump)) key).or
      (Json.Fields.get (receipt.externalPayment.toList.map fun payment =>
        (externalPaymentKey, .object payment.modelDump)) key)) := by
  rw [packedMetadata, get_append, get_append]

theorem packed_extension (receipt : ExecutionReceipt) :
    reserved parseExecutionReceiptExtension
      ((packedMetadata receipt).get karmaReceiptExtensionKey) = some receipt.extension := by
  rw [get_packed, ownMetadata_get_extension]
  have payment : Json.Fields.get (receipt.externalPayment.toList.map fun payment =>
      (externalPaymentKey, .object payment.modelDump)) karmaReceiptExtensionKey = none := by
    cases receipt.externalPayment with
    | none => rfl
    | some payment => exact get_cons_of_ne keys_ne.symm _ _
  rw [payment]
  cases receipt.extension with
  | none => rfl
  | some extension =>
      simp only [Option.toList_some, List.map_cons, get_cons_self, Option.none_or, Option.some_or]
      exact reserved_dump (modelDump_ne_nil extension) (parse_modelDump extension)

theorem packed_payment (receipt : ExecutionReceipt) :
    reserved readPayment (((packedMetadata receipt).pop karmaReceiptExtensionKey).get
      externalPaymentKey) = some receipt.externalPayment := by
  rw [get_pop_of_ne keys_ne, get_packed, ownMetadata_get_payment]
  have extension : Json.Fields.get (receipt.extension.toList.map fun extension =>
      (karmaReceiptExtensionKey, .object extension.modelDump)) externalPaymentKey = none := by
    cases receipt.extension with
    | none => rfl
    | some extension => exact get_cons_of_ne keys_ne _ _
  rw [extension]
  cases receipt.externalPayment with
  | none => rfl
  | some payment =>
      simp only [Option.toList_some, List.map_cons, get_cons_self, Option.none_or]
      exact reserved_dump (List.cons_ne_nil _ _) (readPayment_modelDump payment)

theorem packed_own (receipt : ExecutionReceipt) :
    ownMetadata (packedMetadata receipt) = ownMetadata receipt.metadata := by
  refine ownMetadata_append _ _ fun field inside => ?_
  rcases List.mem_append.mp inside with extension | payment
  · obtain ⟨_, -, rfl⟩ := List.mem_map.mp extension
    exact .inl rfl
  · obtain ⟨_, -, rfl⟩ := List.mem_map.mp payment
    exact .inr rfl

/-- A receipt is read back with the date-times of the database, and without reserved keys. -/
theorem fromRow_toRow (column : DateTime → DateTime) (receipt : ExecutionReceipt) :
    fromRow (toRow column receipt) = some (receipt.readBack column) := by
  have read : (toRow column receipt).metadata = packedMetadata receipt := rfl
  rw [fromRow, read, packed_extension, packed_payment, packed_own]
  simp [toRow, toolStatus_value, receipt.firstStep, ExecutionReceipt.readBack]

end ReadBack

end TrustChain.Receipts
