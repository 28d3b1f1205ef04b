import TrustChain.TradeLaunch.Launches

/-!
# The pipeline of a trade order

A launch looks its key up, checks both policies and the budget, inserts its order, and drives the
task to the start of its execution. It is suspended wherever it waits for the database, and it is
one transaction, which is stored when the launch returns and undone when it raises. Parts that
follow one another and read only rows of the transaction itself are one step.
-/

namespace TrustChain.TradeLaunch

open Library Service

/-- The number of a request, in no particular order. -/
abbrev RequestNo := Nat

/-! ## Orders -/

inductive OrderStatus where
  | decomposed | contractCreated | voucherCreated | accepted | rejected | settlementCreated
  | settlementLocked | handoffConfirmed | executionStarted | failed
  deriving DecidableEq, Repr

structure Order where
  orderId : OrderId
  taskId : TaskId
  voucherId : Option VoucherId := none
  buyerIdentityId : IdentityId
  sellerIdentityId : IdentityId
  requirementText : String
  decomposedSpec : Spec
  status : OrderStatus := .decomposed
  statusDetail : Option String := none
  launchIdempotencyKey : Option String := none
  createdAt : ℚ
  deriving DecidableEq

namespace Order

/-- The order counts against the budget of its buyer. -/
def Counts (order : Order) : Prop := order.status ≠ .rejected ∧ order.status ≠ .failed

instance (order : Order) : Decidable order.Counts := inferInstanceAs (Decidable (_ ∧ _))

/-- The order was created by a buyer on a UTC day, and counts against the budget. -/
def CountsOn (order : Order) (buyerIdentityId : IdentityId) (today : ℤ) : Prop :=
  order.buyerIdentityId = buyerIdentityId ∧ day order.createdAt = today ∧ order.Counts

instance (order : Order) (buyerIdentityId : IdentityId) (today : ℤ) :
    Decidable (order.CountsOn buyerIdentityId today) := inferInstanceAs (Decidable (_ ∧ _))

end Order

/-- `_mark_order_failed`. -/
def Order.markFailed (order : Order) (detail : String) : Order :=
  { order with status := .failed, statusDetail := some (detail.take 2000).copy }

/-- The rows that `sum_buyer_launch_amount_today` reads. -/
def launchedToday (orders : Table OrderId Order) (buyerIdentityId : IdentityId) (now : ℚ) :
    List Order :=
  (orders.rows.map Prod.snd).filter fun order =>
    order.buyerIdentityId = buyerIdentityId ∧ midnight (day now) ≤ order.createdAt ∧ order.Counts

def sumAmounts (rows : List Order) : ℚ := (rows.map fun row => row.decomposedSpec.amount).sum

/-- `assert_pre_launch_spending_policy`, with the rows that it has read, if it has read any. -/
def assertPreLaunchSpendingPolicy (orders : Table OrderId Order) (policy : AutomationPolicy)
    (buyerIdentityId : IdentityId) (additionalAmount now : ℚ) :
    Except HttpError (Option (List Order)) :=
  let daily := (effectiveSpendingLimits policy).2
  if daily ≤ 0 then .ok none
  else do
    let rows := launchedToday orders buyerIdentityId now
    assertWithinDailyLimit daily (sumAmounts rows) additionalAmount
    .ok (some rows)

def findOrderByIdempotencyKey (orders : Table OrderId Order) (key : String) : Option Order :=
  (orders.rows.map Prod.snd).find? fun order => order.launchIdempotencyKey = some key

/-- `assert_idempotent_launch_matches`. -/
def assertIdempotentLaunchMatches (row : Order) (launch : Launch) (requirementFingerprint : String) :
    Except HttpError Unit :=
  let stored := row.decomposedSpec.requirementFingerprint
  require (row.buyerIdentityId = launch.buyerIdentityId ∧
      row.sellerIdentityId = launch.sellerIdentityId ∧
      (stored = "" ∨ stored = requirementFingerprint))
    ⟨409, "Idempotency-Key reused with different buyer, seller, or requirement"⟩

/-- The row of a new order. -/
def newOrder (orderId : OrderId) (launch : Launch) (text : String) (spec : Spec)
    (createdAt : ℚ) : Order where
  orderId := orderId
  taskId := spec.taskId
  buyerIdentityId := launch.buyerIdentityId
  sellerIdentityId := launch.sellerIdentityId
  requirementText := text
  decomposedSpec := spec
  launchIdempotencyKey := launch.launchIdempotencyKey
  createdAt := createdAt

/-! ## Transactions -/

/-- What the transaction of a launch has written. -/
structure Held where
  order : Order
  /-- The orders that the budget sum has read, if the buyer has a daily limit. -/
  counted : Option (List Order)
  /-- The capacity of the buyer as the session has it, and whether the session has changed it. -/
  capacity : Option Capacity := none
  reserved : Bool := false
  contract : Bool := false
  voucher : Option (VoucherId × Voucher) := none
  settlement : Option SettlementState := none

namespace Held

variable (held : Held)

/-- The database as the transaction sees it. -/
def view (db : Db) : Db :=
  { db with
    contracts := if held.contract then held.order.taskId :: db.contracts else db.contracts
    capacity := held.capacity.elim db.capacity (db.capacity.set held.order.buyerIdentityId)
    vouchers := held.voucher.elim db.vouchers fun entry => db.vouchers.set entry.1 entry.2
    settlements := held.settlement.elim db.settlements (db.settlements.set held.order.taskId) }

/-- The capacity after the transaction: the columns that the session has changed are written. -/
def storeCapacity (db : Db) : Table IdentityId Capacity :=
  match held.reserved, held.capacity, db.capacity.get held.order.buyerIdentityId with
  | true, some session, some row =>
      db.capacity.set held.order.buyerIdentityId
        { row with
          availableCredits := session.availableCredits
          reservedCredits := session.reservedCredits }
  | _, _, _ => db.capacity

/-- The database once the transaction is stored. -/
def store (db : Db) : Db := { held.view db with capacity := held.storeCapacity db }

/-- The order is at another status. -/
def mark (status : OrderStatus) : Held := { held with order := { held.order with status } }

/-- What `launch_preauth_trade_order` does with an error of the service. -/
def abort : Held :=
  if held.order.status ∈ [.rejected, .executionStarted, .failed] then held
  else { held with order := held.order.markFailed "pipeline aborted" }

/-- What `launch_preauth_trade_order` does with any other error. -/
def breakOff (detail : String) : Held := { held with order := held.order.markFailed detail }

/-- Both transactions have written a row with the same unique value, or the same capacity. -/
def Clashes (other : Held) : Prop :=
  held.order.orderId = other.order.orderId ∨
  (∃ key ∈ held.order.launchIdempotencyKey, other.order.launchIdempotencyKey = some key) ∨
  (held.contract = true ∧ other.contract = true ∧ held.order.taskId = other.order.taskId) ∨
  (∃ entry ∈ held.voucher, ∃ another ∈ other.voucher, entry.1 = another.1) ∨
  (held.reserved = true ∧ other.reserved = true ∧
    held.order.buyerIdentityId = other.order.buyerIdentityId)

instance (other : Held) : Decidable (held.Clashes other) :=
  inferInstanceAs (Decidable (_ ∨ (∃ key ∈ held.order.launchIdempotencyKey, _) ∨ (_ ∧ _) ∨
    (∃ entry ∈ held.voucher, ∃ another ∈ other.voucher, _) ∨ _))

end Held

/-- Where a request is suspended. -/
inductive Stage where
  /-- Validated, before the look-up of its key. -/
  | received (launch : Launch) (text : String)
  /-- No order has its key, before the policies are read. -/
  | unknown (launch : Launch) (text : String)
  /-- Specified and clamped, before the budget sum. -/
  | specified (launch : Launch) (text : String) (spec : Spec)
  /-- Within the budget, before the signature is verified. -/
  | affordable (launch : Launch) (text : String) (spec : Spec) (counted : Option (List Order))
  /-- The order has been made, before it is inserted. -/
  | adding (held : Held)
  | running (held : Held)
  /-- The pipeline has returned, before the commit. -/
  | answered (held : Held)
  /-- The pipeline has raised, before the rollback. -/
  | failing (held : Held)
  | ended

/-- The rows that the transaction of a request holds. -/
def Stage.held : Stage → Option Held
  | .running held | .answered held | .failing held => some held
  | _ => none

/-- The tables, the requests, and the replays that an observer writes down. -/
structure World where
  db : Db := {}
  orders : Table OrderId Order := .empty
  /-- The order that the progress rule of a voucher names. -/
  tradeOrderIds : Table VoucherId OrderId := .empty
  policies : IdentityId → Option AutomationPolicy
  runtimeKeys : List RuntimeKey := []
  requests : Table RequestNo Stage := .empty
  replays : List (Launch × OrderId) := []

def World.suspend (world : World) (request : RequestNo) (stage : Stage) : World :=
  { world with requests := world.requests.set request stage }

/-! ## The parts of the pipeline -/

section Parts

variable (settings : Settings) (world : World) (held : Held)

def checkCapacity : Stage :=
  match world.db.capacity.get held.order.buyerIdentityId with
  | some cap =>
      if held.order.decomposedSpec.billCreditAmount ≤ cap.availableCredits then
        .running { held with capacity := some cap }
      else .failing (held.breakOff "insufficient buyer capacity").abort
  | none => .failing (held.breakOff "insufficient buyer capacity").abort

def createContract : Stage :=
  if held.order.taskId ∈ world.db.contracts then .failing (held.breakOff "task_contracts.task_id")
  else .running ({ held with contract := true }.mark .contractCreated)

def newVoucher (nonce : String) (now : ℚ) : Voucher where
  buyerIdentityId := held.order.buyerIdentityId
  sellerIdentityId := held.order.sellerIdentityId
  amount := held.order.decomposedSpec.amount
  billCreditAmount := held.order.decomposedSpec.billCreditAmount
  expiryTime :=
    let ttl := ((world.policies held.order.buyerIdentityId).bind
      AutomationPolicy.paymentCodeTtlSeconds).getD 0
    now + if ttl = 0 then 3600 else (ttl : ℚ)
  nonce := nonce

def createVoucher (voucherId : VoucherId) (nonce : String) (now : ℚ) : Stage :=
  let row := newVoucher world held nonce now
  if world.db.vouchers.get voucherId ≠ none ∨ ∃ entry ∈ world.db.vouchers.rows,
      entry.2.buyerIdentityId = row.buyerIdentityId ∧ entry.2.nonce = row.nonce then
    .failing (held.breakOff "vouchers")
  else
    .running ({ held with
      voucher := some (voucherId, row)
      order := { held.order with voucherId := some voucherId } }.mark .voucherCreated)

/-- The seller's automation accepts or rejects the voucher. -/
def answerVoucher (voucherId : VoucherId) (row : Voucher) (now : ℚ) : Stage :=
  let seller := held.order.sellerIdentityId
  let answer := evaluateSellerPreauth (world.policies seller)
    (world.policies row.buyerIdentityId) row held.order.decomposedSpec now
  if answer.accept then
    match acceptVoucherRow { now } (held.view world.db) voucherId row seller with
    | .ok after =>
        .running ({ held with
          voucher := (after.vouchers.get voucherId).map fun row => (voucherId, row)
          capacity := after.capacity.get row.buyerIdentityId
          reserved := true }.mark .accepted)
    | .error _ => .failing held.abort
  else
    match rejectVoucherRow (held.view world.db) voucherId row seller with
    | .ok after =>
        .answered ({ held with
          voucher := (after.vouchers.get voucherId).map fun row => (voucherId, row)
          order := { held.order with statusDetail := some answer.reason } }.mark .rejected)
    | .error _ => .failing held.abort

def createSettlement (now : ℚ) : Stage :=
  let state : SettlementState :=
    { taskId := held.order.taskId
      escrowAmount := held.order.decomposedSpec.billCreditAmount
      clientAgentId := held.order.buyerIdentityId
      updatedAt := now
      voucherId := held.order.voucherId }
  match saveRow (world.db.settlements.get held.order.taskId) state with
  | .ok row => .running ({ held with settlement := some row }.mark .settlementCreated)
  | .error detail => .failing (held.breakOff detail)

/-- Pending, then accepted with the seller as the worker. -/
def lockState (state : SettlementState) (now : ℚ) : Except HttpError Db := do
  let request : Request := { now, config := settings.config }
  let db := held.view world.db
  assertLockDoesNotClosePaymentCycle request db held.order.taskId held.order.buyerIdentityId
    held.order.sellerIdentityId
  let pending ← if state.status = .draft then applyTransition request db state .pending else .ok db
  let state := if state.status = .draft then state.moveTo .pending now else state
  applyTransition request pending
    { state with workerAgentId := some held.order.sellerIdentityId } .accepted

def lockSettlement (row : SettlementState) (now : ℚ) : Stage :=
  match lockState settings world held row.fromRow now with
  | .ok after =>
      .running ({ held with settlement := after.settlements.get held.order.taskId }.mark
        .settlementLocked)
  | .error _ => .failing held.abort

/-- The progress of an accepted settlement begins. -/
def startState (row : SettlementState) (now : ℚ) : Stage :=
  let state := row.fromRow
  if state.status = .accepted then
    match applyTransition { now } (held.view world.db) state .inProgress with
    | .ok after =>
        .answered ({ held with settlement := after.settlements.get held.order.taskId }.mark
          .executionStarted)
    | .error _ => .failing held.abort
  else .answered (held.mark .executionStarted)

/-- The next part of the pipeline, by the status of the order. -/
def advance (voucherId : VoucherId) (nonce : String) (now : ℚ) : Option Stage :=
  match held.order.status, held.voucher, held.settlement with
  | .decomposed, _, _ =>
      some (if held.capacity = none then checkCapacity world held else createContract world held)
  | .contractCreated, _, _ => some (createVoucher world held voucherId nonce now)
  | .voucherCreated, some (voucherId, row), _ => some (answerVoucher world held voucherId row now)
  | .accepted, _, _ => some (createSettlement world held now)
  | .settlementCreated, _, some row => some (lockSettlement settings world held row now)
  | .settlementLocked, _, _ => some (.running (held.mark .handoffConfirmed))
  | .handoffConfirmed, _, some row => some (startState world held row now)
  | _, _, _ => none

end Parts

/-! ## Requests -/

/-- The validation of a launch, and its requirement without the white space around it. -/
def validateLaunch (settings : Settings) (launch : Launch) : Except HttpError String := do
  validateLaunchParties launch.buyerIdentityId launch.sellerIdentityId
  let text ← validateRequirementText launch.requirementText
  let _ ← validateChainAnchorForMode settings launch.chainAnchorHash
  .ok text

/-- Both parties are authorised, and the specification is clamped to their policies. -/
def specify (platform : Platform) (settings : Settings) (world : World) (launch : Launch)
    (text : String) (taskId : TaskId) (now : ℚ) : Except HttpError Spec := do
  let buyerPolicy ← assertPipelinePreauth (world.policies launch.buyerIdentityId)
    world.runtimeKeys launch.buyerIdentityId "buyer" now
  let sellerPolicy ← assertPipelinePreauth (world.policies launch.sellerIdentityId)
    world.runtimeKeys launch.sellerIdentityId "seller" now
  clampSpecToPolicies settings (decomposeBuyerRequirement platform launch text taskId)
    buyerPolicy sellerPolicy

/-- The rows that are stored forbid a new one under the same order or key. -/
def World.Taken (world : World) (order : Order) : Prop :=
  world.orders.get order.orderId ≠ none ∨
  ∃ entry ∈ world.orders.rows, ∃ key ∈ order.launchIdempotencyKey,
    entry.2.launchIdempotencyKey = some key

instance (world : World) (order : Order) : Decidable (world.Taken order) :=
  inferInstanceAs (Decidable (_ ∨ ∃ entry ∈ world.orders.rows, _))

/-- Another transaction holds a row that the stage would write. -/
def World.Waits (world : World) (request : RequestNo) (stage : Stage) : Prop :=
  ∃ entry ∈ world.requests.rows, entry.1 ≠ request ∧ ∃ other ∈ entry.2.held,
    ∃ held ∈ stage.held, held.Clashes other

instance (world : World) (request : RequestNo) (stage : Stage) :
    Decidable (world.Waits request stage) :=
  inferInstanceAs (Decidable (∃ entry ∈ world.requests.rows, _))

inductive Failure where
  /-- An `HTTPException`. -/
  | http
  | other (detail : String)

inductive Action where
  | launch (request : RequestNo) (launch : Launch)
  | lookUp (request : RequestNo)
  | specify (request : RequestNo) (taskId : TaskId) (now : ℚ)
  | sum (request : RequestNo) (now : ℚ)
  /-- The signature is verified, and the order is made. -/
  | sign (request : RequestNo) (orderId : OrderId) (now : ℚ)
  | insert (request : RequestNo)
  | advance (request : RequestNo) (voucherId : VoucherId) (nonce : String) (now : ℚ)
  | commit (request : RequestNo)
  /-- What the request waits for raises. -/
  | raise (request : RequestNo) (failure : Failure)
  | rollBack (request : RequestNo)

section System

variable (platform : Platform) (settings : Settings)

/-- A launch whose key an order has is a replay of it, or refused. -/
def lookUp (world : World) (request : RequestNo) (launch : Launch) (text : String) : World :=
  let known := (launch.launchIdempotencyKey.filter (· ≠ "")).bind
    (findOrderByIdempotencyKey world.orders)
  match known with
  | none => world.suspend request (.unknown launch text)
  | some existing =>
      match assertIdempotentLaunchMatches existing launch
          (requirementFingerprint platform launch text) with
      | .ok _ =>
          { world.suspend request .ended with
            replays := (launch, existing.orderId) :: world.replays }
      | .error _ => world.suspend request .ended

/-- The stage after a part that may raise; before its order is inserted, a request that raises
is over. -/
def World.continue (world : World) (request : RequestNo) (outcome : Except HttpError Stage) :
    World :=
  match outcome with
  | .ok stage => world.suspend request stage
  | .error _ => world.suspend request .ended

/-- The stage, once no other transaction is in the way. -/
def World.write (world : World) (request : RequestNo) (stage : Stage) : Option World :=
  if world.Waits request stage then none else some (world.suspend request stage)

/-- The pipeline raises, or whatever the launch does before its order is inserted. -/
def Stage.raise : Stage → Failure → Option Stage
  | .running held, .http => some (.failing held.abort)
  | .running held, .other detail => some (.failing (held.breakOff detail))
  | .received .., _ | .unknown .., _ | .specified .., _ | .affordable .., _ | .adding _, _ =>
      some .ended
  | .answered _, _ | .failing _, _ | .ended, _ => none

/-- The tables once the transaction of a launch is stored. -/
def World.commit (world : World) (held : Held) : World :=
  { world with
    db := held.store world.db
    orders := world.orders.set held.order.orderId held.order
    tradeOrderIds := held.voucher.elim world.tradeOrderIds fun entry =>
      world.tradeOrderIds.set entry.1 held.order.orderId }

def perform (world : World) : Action → Option World
  | .launch request launch =>
      match world.requests.get request, validateLaunch settings launch with
      | none, .ok text => some (world.suspend request (.received launch text))
      | none, .error _ => some (world.suspend request .ended)
      | some _, _ => none
  | .lookUp request =>
      match world.requests.get request with
      | some (.received launch text) => some (lookUp platform world request launch text)
      | _ => none
  | .specify request taskId now =>
      match world.requests.get request with
      | some (.unknown launch text) =>
          some (world.continue request
            ((specify platform settings world launch text taskId now).map fun spec =>
              .specified launch text spec))
      | _ => none
  | .sum request now =>
      match world.requests.get request with
      | some (.specified launch text spec) =>
          match world.policies launch.buyerIdentityId with
          | some policy =>
              some (world.continue request
                ((assertPreLaunchSpendingPolicy world.orders policy launch.buyerIdentityId
                  spec.amount now).map fun counted => .affordable launch text spec counted))
          | none => none
      | _ => none
  | .sign request orderId now =>
      match world.requests.get request with
      | some (.affordable launch text spec counted) =>
          some (world.suspend request
            (.adding { order := newOrder orderId launch text spec now, counted }))
      | _ => none
  | .insert request =>
      match world.requests.get request with
      | some (.adding held) =>
          if world.Taken held.order then some (world.suspend request .ended)
          else world.write request (.running held)
      | _ => none
  | .advance request voucherId nonce now =>
      match world.requests.get request with
      | some (.running held) =>
          match advance settings world held voucherId nonce now with
          | some stage => world.write request stage
          | none => none
      | _ => none
  | .commit request =>
      match world.requests.get request with
      | some (.answered held) => some ((world.suspend request .ended).commit held)
      | _ => none
  | .raise request failure =>
      match world.requests.get request with
      | some stage => (stage.raise failure).map (world.suspend request)
      | none => none
  | .rollBack request =>
      match world.requests.get request with
      | some (.failing _) => some (world.suspend request .ended)
      | _ => none

/-- No orders and no requests yet, and any other rows. -/
def system : TransitionSystem World Action where
  Init world := ∃ db policies runtimeKeys, world = { db, policies, runtimeKeys }
  Step world action next := perform platform settings world action = some next

end System

end TrustChain.TradeLaunch
