import TrustChain.Library.DateTimes
import TrustChain.Library.Transition
import TrustChain.Service.Types

/-!
# The rows of the settlement store

A settlement state, the columns that are kept of it, and the store of the rows, which saves
states and reads them back. The database decides which rows it takes and what it keeps of a
date-time; beside the store, the workers write the columns of the chain.
-/

namespace TrustChain.SettlementStore

open Library Service

/-- The state of a settlement; `δ` are the JSON documents. -/
structure SettlementState (δ : Type) where
  settlementId : String
  taskId : String
  escrowAmount : ℚ
  currency : String
  status : TaskStatus
  clientAgentId : String
  workerAgentId : Option String
  profileId : Option String
  releasedAmount : Option ℚ
  refundedAmount : Option ℚ
  disputeReason : Option String
  rejectionReasonCode : Option String
  arbitrationNotes : Option String
  createdAt : DateTime
  updatedAt : DateTime
  releasedAt : Option DateTime
  settlementMode : String
  chainId : Option Int
  contractAddress : Option String
  txHash : Option String
  evidenceBundleHash : Option String
  onchainStatus : Option String
  quoteId : Option String
  voucherId : Option String
  deliveryDeadlineAt : Option DateTime
  confirmWindowHours : Option Nat
  confirmDeadlineAt : Option DateTime
  progressRuleSpec : Option δ
  fundingSource : String
  deriving DecidableEq

/-- The columns of the chain, which the workers write. -/
structure Onchain where
  settlementMode : String
  chainId : Option Int
  contractAddress : Option String
  txHash : Option String
  evidenceBundleHash : Option String
  onchainStatus : Option String
  quoteId : Option String
  onchainBindingId : Option Int
  onchainBuyerBillId : Option Int
  onchainAgentBillId : Option Int
  deriving DecidableEq

/-- A row of the table `settlements`. -/
structure SettlementModel (δ : Type) where
  settlementId : String
  taskId : String
  escrowAmount : ℚ
  currency : String
  status : String
  clientAgentId : String
  workerAgentId : Option String
  profileId : Option String
  releasedAmount : Option ℚ
  refundedAmount : Option ℚ
  disputeReason : Option String
  arbitrationNotes : Option String
  createdAt : DateTime
  updatedAt : DateTime
  releasedAt : Option DateTime
  onchain : Onchain
  voucherId : Option String
  deliveryDeadlineAt : Option DateTime
  progressRuleSpec : Option δ
  fundingSource : String
  deriving DecidableEq

/-- The database: what it keeps of a date-time, which it then keeps as it is, and the rows it
takes, by the lengths of its columns and the contracts they refer to. -/
structure Database (δ : Type) where
  column : DateTime → DateTime
  column_column : ∀ time, column (column time) = column time
  takes : SettlementModel δ → Bool

/-- What a row keeps of the identifiers of the chain when a state is saved over it. -/
def identifiers {δ : Type} : Option (SettlementModel δ) → Option Int × Option Int × Option Int
  | some row =>
      (row.onchain.onchainBindingId, row.onchain.onchainBuyerBillId, row.onchain.onchainAgentBillId)
  | none => (none, none, none)

/-- `funding_source or "internal"`. -/
def fundingOr (source : String) : String := if source = "" then "internal" else source

/-- What the database keeps of a row. -/
def Database.keep {δ : Type} (database : Database δ) (row : SettlementModel δ) :
    SettlementModel δ :=
  { row with
    createdAt := database.column row.createdAt
    updatedAt := database.column row.updatedAt
    releasedAt := row.releasedAt.map database.column
    deliveryDeadlineAt := row.deliveryDeadlineAt.map database.column }

/-- `_to_row`, as it is set on the existing row. Three fields of the state have no column. -/
def toRow {δ : Type} (existing : Option (SettlementModel δ)) (state : SettlementState δ) :
    SettlementModel δ where
  settlementId := state.settlementId
  taskId := state.taskId
  escrowAmount := state.escrowAmount
  currency := state.currency
  status := (canonicalTaskStatus state.status).value
  clientAgentId := state.clientAgentId
  workerAgentId := state.workerAgentId
  profileId := state.profileId
  releasedAmount := state.releasedAmount
  refundedAmount := state.refundedAmount
  disputeReason := state.disputeReason
  arbitrationNotes := state.arbitrationNotes
  createdAt := state.createdAt
  updatedAt := state.updatedAt
  releasedAt := state.releasedAt
  onchain := {
    settlementMode := state.settlementMode
    chainId := state.chainId
    contractAddress := state.contractAddress
    txHash := state.txHash
    evidenceBundleHash := state.evidenceBundleHash
    onchainStatus := state.onchainStatus
    quoteId := state.quoteId
    onchainBindingId := (identifiers existing).1
    onchainBuyerBillId := (identifiers existing).2.1
    onchainAgentBillId := (identifiers existing).2.2 }
  voucherId := state.voucherId
  deliveryDeadlineAt := state.deliveryDeadlineAt
  progressRuleSpec := state.progressRuleSpec
  fundingSource := fundingOr state.fundingSource

/-- Every `TaskStatus`. -/
def taskStatuses : List TaskStatus :=
  [.draft, .pending, .accepted, .inProgress, .progressSubmitted, .progressConfirmed, .delivered,
    .disputed, .arbitrated, .settled, .refunded, .cancelled, .created, .locked, .running,
    .submitted, .buyerRegret, .verifying, .verified, .released, .failed, .arbitration, .buyerWins,
    .sellerWins, .partialSplit, .authorized, .autoConfirmed, .partiallySettled, .frozen]

/-- `TaskStatus(value)`. -/
def parseStatus (value : String) : Except String TaskStatus :=
  match taskStatuses.find? fun status => status.value = value with
  | some status => .ok status
  | none => .error ("'" ++ value ++ "' is not a valid TaskStatus")

/-- `canonical_task_status` of a stored status. -/
def storedStatus (value : String) : Except String TaskStatus :=
  canonicalTaskStatus <$> parseStatus value

/-- `_from_row`. -/
def fromRow {δ : Type} (row : SettlementModel δ) : Except String (SettlementState δ) := do
  let status ← storedStatus row.status
  .ok {
    settlementId := row.settlementId
    taskId := row.taskId
    escrowAmount := row.escrowAmount
    currency := row.currency
    status
    clientAgentId := row.clientAgentId
    workerAgentId := row.workerAgentId
    profileId := row.profileId
    releasedAmount := row.releasedAmount
    refundedAmount := row.refundedAmount
    disputeReason := row.disputeReason
    rejectionReasonCode := none
    arbitrationNotes := row.arbitrationNotes
    createdAt := row.createdAt
    updatedAt := row.updatedAt
    releasedAt := row.releasedAt
    settlementMode := row.onchain.settlementMode
    chainId := row.onchain.chainId
    contractAddress := row.onchain.contractAddress
    txHash := row.onchain.txHash
    evidenceBundleHash := row.onchain.evidenceBundleHash
    onchainStatus := row.onchain.onchainStatus
    quoteId := row.onchain.quoteId
    voucherId := row.voucherId
    deliveryDeadlineAt := row.deliveryDeadlineAt
    confirmWindowHours := none
    confirmDeadlineAt := none
    progressRuleSpec := row.progressRuleSpec
    fundingSource := fundingOr row.fundingSource }

/-! ## The store -/

abbrev Store (δ : Type) := List (SettlementModel δ)

section Store

variable {δ : Type} (database : Database δ)

/-- `session.get(SettlementModel, settlement_id)`. -/
def row (store : Store δ) (settlementId : String) : Option (SettlementModel δ) :=
  store.find? fun row => row.settlementId = settlementId

/-- `PostgresSettlementStore.get`. -/
def get (store : Store δ) (taskId : String) : Except String (Option (SettlementState δ)) :=
  match store.find? fun row => row.taskId = taskId with
  | some row => some <$> fromRow row
  | none => .ok none

/-- The first of the immutable fields that would change. -/
def changedField (existing next : SettlementModel δ) : Option String :=
  if existing.escrowAmount ≠ next.escrowAmount then some "escrow_amount"
  else if existing.currency ≠ next.currency then some "currency"
  else if existing.clientAgentId ≠ next.clientAgentId then some "client_agent_id"
  else if existing.workerAgentId ≠ next.workerAgentId then some "worker_agent_id"
  else none

/-- The persistence guard. -/
def guardSave (existing next : SettlementModel δ) (status : TaskStatus) : Except String Unit := do
  let existingStatus ← storedStatus existing.status
  let nextStatus := canonicalTaskStatus status
  require (existingStatus = nextStatus ∨ canTransition existingStatus nextStatus = true)
    ("invalid status transition persistence guard: " ++ existingStatus.value ++ " -> " ++
      nextStatus.value)
  match (if isPostAccepted existingStatus then changedField existing next else none) with
  | some field => .error ("immutable field cannot be modified after accepted: " ++ field)
  | none => .ok ()

variable [DecidableEq δ]

/-- `onupdate`: a row that changes without its `updated_at` gets the time of the update. -/
def touch (now : DateTime) (existing next : SettlementModel δ) : SettlementModel δ :=
  if next ≠ existing ∧ next.updatedAt = existing.updatedAt then { next with updatedAt := now }
  else next

/-- Write a row over the one with its identifier. -/
def overwrite (store : Store δ) (next : SettlementModel δ) : Store δ :=
  store.map fun row => if row.settlementId = next.settlementId then next else row

/-- No two settlements of one task, and only rows that the database takes. -/
def flush (store : Store δ) (next : SettlementModel δ) : Except String Unit :=
  require (database.takes next = true ∧
      ∀ row ∈ store, row.taskId = next.taskId → row.settlementId = next.settlementId)
    "IntegrityError"

/-- `PostgresSettlementStore.save`. -/
def save (now : DateTime) (store : Store δ) (state : SettlementState δ) :
    Except String (Store δ) :=
  match row store state.settlementId with
  | some existing => do
      let next := toRow (some existing) state
      guardSave existing next state.status
      let next := database.keep (touch now existing next)
      flush database store next
      .ok (overwrite store next)
  | none => do
      let next := database.keep (toRow none state)
      flush database store next
      .ok (store ++ [next])

/-- The workers write the columns of the chain. -/
def persistOnchain (now : DateTime) (store : Store δ) (taskId : String) (onchain : Onchain) :
    Except String (Store δ) :=
  match store.find? fun row => row.taskId = taskId with
  | some existing => do
      let next := database.keep (touch now existing { existing with onchain })
      flush database store next
      .ok (overwrite store next)
  | none => .ok store

end Store

/-- A save, or what a worker writes of the chain. -/
inductive Action (δ : Type) where
  | save (now : DateTime) (state : SettlementState δ)
  | persistOnchain (now : DateTime) (taskId : String) (onchain : Onchain)

def perform {δ : Type} [DecidableEq δ] (database : Database δ) (store : Store δ) :
    Action δ → Except String (Store δ)
  | .save now state => save database now store state
  | .persistOnchain now taskId onchain => persistOnchain database now store taskId onchain

/-- The store from its beginning. What raises is rolled back, so it is no step. -/
def system {δ : Type} [DecidableEq δ] (database : Database δ) :
    TransitionSystem (Store δ) (Action δ) where
  Init store := store = []
  Step store action next := perform database store action = .ok next

end TrustChain.SettlementStore
