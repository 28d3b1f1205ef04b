import TrustChain.Service.Vouchers

/-!
# Settlements

The settlement store with its persistence guard, the transitions, and the settlement routes.
Every route runs in one transaction, which an error rolls back.
-/

namespace TrustChain.Service

open Library

/-! ## The store -/

/-- `_to_row`: the confirmation window has no column. -/
def SettlementState.toRow (state : SettlementState) : SettlementState :=
  { state with
    status := canonicalTaskStatus state.status
    confirmWindowHours := none
    confirmDeadlineAt := none }

/-- `_from_row`. -/
def SettlementState.fromRow (row : SettlementState) : SettlementState :=
  { row with
    status := canonicalTaskStatus row.status
    confirmWindowHours := none
    confirmDeadlineAt := none }

/-- The first of the immutable fields that differs. -/
def SettlementState.changedField (existing row : SettlementState) : Option String :=
  if existing.escrowAmount ≠ row.escrowAmount then some "escrow_amount"
  else if existing.currency ≠ row.currency then some "currency"
  else if existing.clientAgentId ≠ row.clientAgentId then some "client_agent_id"
  else if existing.workerAgentId ≠ row.workerAgentId then some "worker_agent_id"
  else none

/-- `PostgresSettlementStore.save`: the row that is stored over the existing one. -/
def saveRow (existing : Option SettlementState) (state : SettlementState) :
    Except String SettlementState :=
  match existing with
  | none => .ok state.toRow
  | some existing => do
      let existingStatus := canonicalTaskStatus existing.status
      let nextStatus := canonicalTaskStatus state.status
      require (existingStatus = nextStatus ∨ canTransition existingStatus nextStatus = true)
        ("invalid status transition persistence guard: " ++ existingStatus.value ++ " -> " ++
          nextStatus.value)
      match (if isPostAccepted existingStatus then existing.changedField state.toRow else none) with
      | some field => .error ("immutable field cannot be modified after accepted: " ++ field)
      | none => .ok state.toRow

namespace Db

variable (db : Db)

def setSettlement (row : SettlementState) : Db :=
  { db with settlements := db.settlements.set row.taskId row }

def audit (audit : TransitionAudit) : Db := { db with audits := db.audits ++ [audit] }

end Db

/-- Save a state. A settlement has one row, found by its task. -/
def saveSettlement (errorStatus : Nat) (db : Db) (state : SettlementState) :
    Except HttpError Db :=
  match saveRow (db.settlements.get state.taskId) state with
  | .error detail => .error ⟨errorStatus, detail⟩
  | .ok row => .ok (db.setSettlement row)

/-- `PostgresSettlementStore.get`, with what a route says of a missing row. -/
def findSettlement (db : Db) (taskId : TaskId) (notFound : String) :
    Except HttpError SettlementState :=
  match db.settlements.get taskId with
  | some row => .ok row.fromRow
  | none => .error ⟨404, notFound⟩

def getSettlement (db : Db) (taskId : TaskId) : Except HttpError SettlementState :=
  findSettlement db taskId ("Settlement " ++ taskId ++ " not found")

def SettlementState.moveTo (state : SettlementState) (target : TaskStatus) (now : ℚ) :
    SettlementState :=
  { state with status := target, updatedAt := now }

/-- `_apply_transition`. The audit of a refused transition is rolled back with the request. -/
def applyTransition (request : Request) (db : Db) (state : SettlementState)
    (target : TaskStatus) : Except HttpError Db := do
  require (canTransition state.status target = true)
    ⟨409, "invalid status transition: " ++ state.status.value ++ " -> " ++ target.value⟩
  let saved ← saveSettlement 409 db (state.moveTo target request.now)
  .ok (saved.audit ⟨state.taskId, some state.status, target, true⟩)

/-! ## Parties -/

section Parties

variable (request : Request) (state : SettlementState)

def requireBuyer : Except HttpError Unit :=
  if request.config.partyBinding then do
    let actor ← requireActor request
    require (actor = state.clientAgentId)
      ⟨403, "only the settlement buyer may perform this action"⟩
  else .ok ()

def requireWorker : Except HttpError Unit :=
  if request.config.partyBinding then do
    let actor ← requireActor request
    require (state.workerAgentId ≠ none) ⟨409, "settlement has no assigned worker"⟩
    require (some actor = state.workerAgentId)
      ⟨403, "only the assigned worker may perform this action"⟩
  else .ok ()

def requireBuyerOrWorker : Except HttpError Unit :=
  if request.config.partyBinding then do
    let actor ← requireActor request
    require (actor = state.clientAgentId ∨ some actor = state.workerAgentId)
      ⟨403, "only the settlement buyer or assigned worker may perform this action"⟩
  else .ok ()

def requireBuyerOnCreate (clientAgentId : IdentityId) : Except HttpError Unit :=
  if request.config.partyBinding then do
    let actor ← requireActor request
    require (actor = clientAgentId)
      ⟨403, "authenticated actor must match client_agent_id when creating settlement"⟩
  else .ok ()

end Parties

/-! ## Creation and work -/

structure CreateSettlementRequest where
  taskId : TaskId
  clientAgentId : IdentityId
  escrowAmount : ℚ
  currency : String := "USD"
  voucherId : Option VoucherId := none
  deliveryDeadlineAt : Option ℚ := none
  profileId : Option ProfileId := none
deriving DecidableEq

section Work

variable (request : Request) (db : Db)

/-- The voucher that a settlement is created on, checked. -/
def boundVoucher (body : CreateSettlementRequest) (voucherId : VoucherId) :
    Except HttpError Voucher :=
  match db.vouchers.get voucherId with
  | none => .error ⟨404, "voucher " ++ voucherId ++ " not found"⟩
  | some row => do
      require (row.status = .accepted)
        ⟨409, "voucher must be accepted before settlement bind, got " ++ row.status.value⟩
      require (row.buyerIdentityId = body.clientAgentId)
        ⟨409, "settlement client_agent_id must match voucher buyer_identity_id"⟩
      require (|row.billCreditAmount - body.escrowAmount| ≤ 1 / 10 ^ 6)
        ⟨409, "escrow_amount must equal voucher bill_credit_amount when voucher_id is set"⟩
      .ok row

/-- The voucher of a new settlement, if it names one. -/
def bindVoucher (body : CreateSettlementRequest) : Except HttpError (Option Voucher) :=
  match body.voucherId with
  | some voucherId => some <$> boundVoucher db body voucherId
  | none => .ok none

/-- The draft of a settlement. With a voucher it takes the voucher's progress rule, and the
voucher's profile unless it names one. -/
def CreateSettlementRequest.draft (body : CreateSettlementRequest) (voucher : Option Voucher)
    (now : ℚ) : SettlementState where
  taskId := body.taskId
  escrowAmount := body.escrowAmount
  currency := body.currency
  clientAgentId := body.clientAgentId
  profileId := body.profileId <|> voucher.bind Voucher.profileId
  updatedAt := now
  voucherId := body.voucherId
  deliveryDeadlineAt := body.deliveryDeadlineAt
  progressRuleSpec := voucher.bind Voucher.progressRuleSpec

def createSettlement (body : CreateSettlementRequest) : Except HttpError Db := do
  assertRuntimeOperationAllowed request .newTask
  auditCapacityAnchor db
  requireBuyerOnCreate request body.clientAgentId
  require (body.taskId ∈ db.contracts) ⟨404, "task contract not found for this task_id"⟩
  let voucher ← bindVoucher db body
  require (db.settlements.get body.taskId = none)
    ⟨409, "Settlement already exists for task " ++ body.taskId⟩
  let saved ← saveSettlement 409 db (body.draft voucher request.now)
  .ok (saved.audit ⟨body.taskId, none, .draft, true⟩)

variable (taskId : TaskId)

/-- The beginning of a route for new work on a task. -/
def openTask (operation : RuntimeOperation) : Except HttpError SettlementState := do
  assertRuntimeOperationAllowed request operation
  auditCapacityAnchor db
  getSettlement db taskId

def markSettlementPending : Except HttpError Db := do
  let state ← openTask request db taskId .newTask
  requireBuyer request state
  applyTransition request db state .pending

/-- Look for a path to `buyerId` from the nodes on the stack, over the edges from client to
worker. Every node is expanded once, so each edge is pushed once at most. -/
def searchEdges (edges : List (IdentityId × IdentityId)) (buyerId : IdentityId) :
    Nat → List IdentityId → List IdentityId → Bool
  | 0, _, _ => false
  | _ + 1, [], _ => false
  | fuel + 1, node :: stack, seen =>
      if node = buyerId then true
      else if node ∈ seen then searchEdges edges buyerId fuel stack seen
      else
        let workers := (edges.filter fun edge => edge.1 = node).map Prod.snd
        searchEdges edges buyerId fuel (workers.reverse ++ stack) (node :: seen)

def workerReachesBuyerOnEdges (edges : List (IdentityId × IdentityId))
    (workerId buyerId : IdentityId) : Bool :=
  if workerId = buyerId then false
  else searchEdges edges buyerId (edges.length + 2) [workerId] []

/-- The edges of the other active settlements. -/
def activeEdges : List (IdentityId × IdentityId) :=
  db.settlements.rows.filterMap fun row =>
    if row.1 ≠ taskId ∧ ¬row.2.status.Terminal then
      row.2.workerAgentId.map fun worker => (row.2.clientAgentId, worker)
    else none

def assertLockDoesNotClosePaymentCycle (buyerId workerId : IdentityId) :
    Except HttpError Unit :=
  if request.config.settlementBlockPaymentCycle then
    require (workerReachesBuyerOnEdges (activeEdges db taskId) workerId buyerId = false)
      ⟨409, "locking this worker would close a directed buyer→worker payment cycle across " ++
        "active settlements; choose a different worker or complete/terminalize related " ++
        "settlements first"⟩
  else .ok ()

def lockSettlement (workerAgentId : IdentityId) : Except HttpError Db := do
  let state ← openTask request db taskId .newTask
  requireBuyer request state
  require (workerAgentId ≠ state.clientAgentId)
    ⟨409, "worker_agent_id cannot equal settlement buyer (client_agent_id)"⟩
  assertLockDoesNotClosePaymentCycle request db taskId state.clientAgentId workerAgentId
  require (¬(request.config.settlementLockRequiresPending = true ∧ state.status = .draft))
    ⟨409, "settlement must be moved to pending before lock (settlement_lock_requires_pending)"⟩
  applyTransition request db { state with workerAgentId := some workerAgentId } .accepted

def startSettlement : Except HttpError Db := do
  let state ← openTask request db taskId .newTask
  requireWorker request state
  applyTransition request db state .inProgress

def assertDeliveryGate : Except HttpError Unit :=
  require (request.gates.deliveryVerified = true) ⟨409, "delivery_verification_required"⟩

def submitSettlement : Except HttpError Db := do
  let state ← openTask request db taskId .newTask
  requireWorker request state
  assertDeliveryGate request
  applyTransition request db state .delivered

def failSettlement : Except HttpError Db := do
  let state ← openTask request db taskId .newTask
  requireBuyerOrWorker request state
  applyTransition request db state .cancelled

end Work

/-! ## Resolutions -/

section Resolve

variable (request : Request) (db : Db) (taskId : TaskId)

/-- The highest confirmed claim of a task. -/
def confirmedProgressPercent : ℚ :=
  let confirmed := db.progress.rows.filter fun row =>
    row.2.taskId = taskId ∧ row.2.confirmationStatus = .confirmed
  ((confirmed.map fun row => row.2.claimedValuePercent).max?).getD 0

def ensureSuccessReceipt (settledAmount : ℚ) : Except HttpError Unit :=
  require (request.config.settlementRequiresSuccessReceipt = false ∨ settledAmount ≤ 1 / 10 ^ 6 ∨
      .success ∈ db.receipts taskId)
    ⟨409, "at least one successful execution receipt is required before releasing funds to " ++
      "the seller"⟩

/-- The voucher of a resolved settlement becomes used. -/
def markVoucherUsedIfLinked : Db :=
  match (db.settlements.get taskId).bind SettlementState.voucherId with
  | none => db
  | some voucherId =>
      match db.vouchers.get voucherId with
      | none => db
      | some voucher =>
          if voucher.status = .accepted then
            db.setVoucher voucherId { voucher with status := .used }
          else db

/-- The common end of a resolution: the transition, the capacity and the voucher. -/
def finalize (state : SettlementState) (target : TaskStatus) (settledAmount refundedAmount : ℚ) :
    Except HttpError Db := do
  let moved ← applyTransition request db state target
  let resolved ← applyCapacityResolution moved state.clientAgentId state.escrowAmount
    settledAmount refundedAmount
  .ok (markVoucherUsedIfLinked resolved state.taskId)

def SettlementState.release (state : SettlementState) (released refunded now : ℚ) :
    SettlementState :=
  { state with
    releasedAmount := some released
    refundedAmount := some refunded
    releasedAt := some now }

/-- The share of the escrow that a percentage settles, and the rest. -/
def percentSplit (escrowAmount percent : ℚ) : ℚ × ℚ :=
  let settled := cents (escrowAmount * percent / 100)
  (settled, cents (escrowAmount - settled))

/-- A split must not exceed the confirmed progress; without any, the work must have been
delivered. -/
def assertPartialCeiling (state : SettlementState) (percent confirmed : ℚ) :
    Except HttpError Unit :=
  if 1 / 10 ^ 4 < percent then
    if epsilon < confirmed then
      require (percent ≤ confirmed + 1 / 10 ^ 4)
        ⟨400, "settled_value_percent exceeds confirmed claimed value ceiling"⟩
    else
      require (state.status = .delivered)
        ⟨400, "partial settlement with no confirmed progress requires delivered status " ++
          "(POST /v1/settlement/{task_id}/submit first); otherwise confirm progress receipts " ++
          "up to the intended split"⟩
  else .ok ()

def partialSettlement (settledValuePercent : ℚ) : Except HttpError Db := do
  require (0 < settledValuePercent ∧ settledValuePercent ≤ 100)
    ⟨422, "settled_value_percent must be in (0, 100]"⟩
  let state ← openTask request db taskId .newSettlement
  requireBuyer request state
  assertPartialCeiling state settledValuePercent (confirmedProgressPercent db taskId)
  let (settled, refunded) := percentSplit state.escrowAmount settledValuePercent
  ensureSuccessReceipt request db taskId settled
  finalize request db (state.release settled refunded request.now) .settled settled refunded

def regretSettlement (buyerIdentityId : Option IdentityId) : Except HttpError Db := do
  let state ← openTask request db taskId .newSettlement
  requireBuyer request state
  require (buyerIdentityId = none ∨ buyerIdentityId = some state.clientAgentId)
    ⟨403, "buyer_identity_id does not match settlement buyer (client_agent_id)"⟩
  let (settled, refunded) :=
    percentSplit state.escrowAmount (confirmedProgressPercent db taskId)
  ensureSuccessReceipt request db taskId settled
  finalize request db (state.release settled refunded request.now) .settled settled refunded

def openDispute : Except HttpError Db := do
  let state ← getSettlement db taskId
  requireBuyer request state
  let moved ← moveReservedToDisputed db state.clientAgentId state.escrowAmount
  applyTransition request moved state .disputed

/-- `_scene_id_from_settlement`. -/
def SettlementState.sceneId (state : SettlementState) : Option String :=
  ((state.progressRuleSpec.bind ProgressRuleSpec.sceneId).map fun scene => scene.trimAscii.toString).filter (· ≠ "")

/-- The scene that a buyer names is stored with a settlement that has no progress rule. -/
def SettlementState.hintScene (state : SettlementState) (sceneId : Option String) :
    SettlementState :=
  let hint := (sceneId.map fun scene => scene.trimAscii.toString).filter (· ≠ "") <|> state.sceneId
  match hint, state.progressRuleSpec with
  | some scene, none => { state with progressRuleSpec := some { sceneId := some scene } }
  | _, _ => state

/-- `released_amount or escrow_amount`. -/
def SettlementState.releasedOrEscrow (state : SettlementState) : ℚ :=
  match state.releasedAmount with
  | some released => if released = 0 then state.escrowAmount else released
  | none => state.escrowAmount

/-- `_release_profile_credits_if_bound`. -/
def releaseProfileIfBound (state : SettlementState) : Db :=
  match state.profileId with
  | none => db
  | some profileId =>
      releaseProfileCredits db profileId state.releasedOrEscrow (state.refundedAmount.getD 0)

/-- The end of a full release to the seller. -/
def finalizeFull (state : SettlementState) : Except HttpError Db := do
  let moved ← applyTransition request db state .settled
  let resolved ← applyCapacityResolution moved state.clientAgentId state.escrowAmount
    state.escrowAmount 0
  .ok (markVoucherUsedIfLinked (releaseProfileIfBound resolved state) state.taskId)

def buyerAcceptSettlement (sceneId : Option String) : Except HttpError Db := do
  let state ← getSettlement db taskId
  requireBuyer request state
  require (state.status = .delivered) ⟨409, "buyer accept requires delivered status"⟩
  assertRuntimeOperationAllowed request .newSettlement
  auditCapacityAnchor db
  assertDeliveryGate request
  require (request.gates.settleConfirmed = true)
    ⟨403, "buyer_accept_settle_confirmation_required"⟩
  ensureSuccessReceipt request db taskId state.escrowAmount
  let hinted := state.hintScene sceneId
  finalizeFull request db (hinted.release (cents state.escrowAmount) 0 request.now)

def autoConfirmSettlement : Except HttpError Db := do
  let state ← getSettlement db taskId
  require (state.status = .delivered)
    ⟨409, "auto-confirm requires delivered, got " ++ state.status.value⟩
  match state.confirmWindowHours with
  | none => .error ⟨409, "confirm_window_hours not set"⟩
  | some hours =>
      let deadline := state.confirmDeadlineAt.getD (state.updatedAt + hours * 3600)
      require (deadline ≤ request.now) ⟨409, "confirm window not expired"⟩
      requireBuyerOrWorker request state
      assertRuntimeOperationAllowed request .newSettlement
      auditCapacityAnchor db
      assertDeliveryGate request
      require (request.gates.autoConfirm = true) ⟨409, "auto_confirm_forbidden_for_scene"⟩
      let state := { state with confirmDeadlineAt := some deadline }
      let confirmed ← applyTransition request db state .autoConfirmed
      finalizeFull request confirmed
        ((state.moveTo .autoConfirmed request.now).release (cents state.escrowAmount) 0 request.now)

def buyerRejectSettlement : Except HttpError Db := do
  let state ← getSettlement db taskId
  requireBuyer request state
  require (state.status = .delivered)
    ⟨409, "buyer reject requires delivered status, got " ++ state.status.value⟩
  let moved ← moveReservedToDisputed db state.clientAgentId state.escrowAmount
  applyTransition request moved state .disputed

end Resolve

/-! ## Automatic arbitration -/

/-- What comparing the evidence bundle of a task with its receipts gives. -/
structure BundleVerdict where
  receiptIdsOk : Bool
  stepCountsOk : Bool
  receiptHashesMatch : Bool
deriving DecidableEq

structure AutoArbitrationContext where
  deliveryOverdue : Bool
  hasSuccessReceipt : Bool
  bundleReceiptIdsOk : Option Bool
  bundleStepCountsOk : Option Bool
  bundleReceiptHashesMatch : Option Bool
deriving DecidableEq

/-- The structured inputs of automatic arbitration. The bundle is compared with the receipts
only if there are any; without receipts a bundle fails every check. -/
def buildAutoArbitrationContext (request : Request) (db : Db) (state : SettlementState)
    (bundle : Option BundleVerdict) : AutoArbitrationContext :=
  let receipts := db.receipts state.taskId
  let verdict := bundle.map fun verdict =>
    if receipts.isEmpty then ⟨false, false, false⟩ else verdict
  { deliveryOverdue := (state.deliveryDeadlineAt.any fun deadline => deadline < request.now) &&
      state.status ≠ .delivered
    hasSuccessReceipt := receipts.contains .success
    bundleReceiptIdsOk := verdict.map BundleVerdict.receiptIdsOk
    bundleStepCountsOk := verdict.map BundleVerdict.stepCountsOk
    bundleReceiptHashesMatch := verdict.map BundleVerdict.receiptHashesMatch }

/-- The settled and the refunded amount: by confirmed progress, pushed toward the buyer where
proofs are missing. -/
def adjustAutoSplitForRules (ctx : AutoArbitrationContext) (confirmedPercent escrowAmount : ℚ) :
    ℚ × ℚ :=
  let integrityBad :=
    ctx.bundleReceiptIdsOk = some false ∨ ctx.bundleReceiptHashesMatch = some false
  if ctx.bundleStepCountsOk = some false then (0, cents escrowAmount)
  else if integrityBad ∧ confirmedPercent ≤ 0 then (0, cents escrowAmount)
  else if ctx.deliveryOverdue = true ∧ confirmedPercent ≤ 0 then (0, cents escrowAmount)
  else if ctx.hasSuccessReceipt = false ∧ confirmedPercent ≤ 0 then (0, cents escrowAmount)
  else if integrityBad ∧ confirmedPercent < 50 then
    percentSplit escrowAmount (max confirmedPercent 0)
  else if confirmedPercent ≤ 0 then (0, cents escrowAmount)
  else if 90 ≤ confirmedPercent then (cents escrowAmount, 0)
  else percentSplit escrowAmount confirmedPercent

def autoArbitrate (request : Request) (db : Db) (taskId : TaskId)
    (bundle : Option BundleVerdict) : Except HttpError Db := do
  let state ← getSettlement db taskId
  requireBuyerOrWorker request state
  let arbitrated ← applyTransition request db state .arbitrated
  let ctx := buildAutoArbitrationContext request db state bundle
  let (settled, refunded) := adjustAutoSplitForRules ctx (confirmedProgressPercent db taskId)
    state.escrowAmount
  ensureSuccessReceipt request db taskId settled
  let decision := if settled ≤ 1 / 10 ^ 6 then TaskStatus.refunded else .settled
  let state := state.moveTo .arbitrated request.now
  let released := { state with
    releasedAmount := some settled
    refundedAmount := some refunded
    releasedAt := if 0 < settled then some request.now else none }
  finalize request arbitrated released decision settled refunded

end TrustChain.Service
