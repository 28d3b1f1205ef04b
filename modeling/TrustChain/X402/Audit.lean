import TrustChain.Billing.Merkle
import TrustChain.Receipts.Routes
import TrustChain.X402.Client

/-!
# Paying, fetching and the audit

A request pays an external resource, fetches it again with the proof, and records the payment in a
receipt of its task and in the settlement. It is suspended at every call of the resource, the
executor and the database, and it is one transaction. Other clients submit receipts meanwhile.
-/

namespace TrustChain.X402

open Library Service Receipts

/-- The number of a request, in no particular order. -/
abbrev RequestNo := Nat

structure X402Settings where
  x402Enabled : Bool := true
  x402DefaultMaxBudgetUsdc : Double := .finite 10
  x402HardMaxBudgetUsdc : Double := .finite 100
  x402AllowPrivateHosts : Bool := true
  receiptRequireSignature : Bool := true

/-- What a request finds. -/
structure X402Context where
  settings : X402Settings := {}
  /-- `require_ledger_identity`. -/
  owns : IdentityId → Bool
  contracts : TaskId → Bool
  /-- What `build_x402_client` raises. -/
  clientError : Option String := none

structure X402PayAndFetchBody where
  taskId : TaskId
  agentId : IdentityId
  url : String
  maxBudgetUsdc : Option Double := none

/-- A body that was let through. -/
structure Job where
  taskId : TaskId
  agentId : IdentityId
  url : String
  safeUrl : String
  maxBudgetUsdc : Double
  receiptRequireSignature : Bool

/-- `ValueError` becomes status 400. -/
def raised {α : Type} (outcome : Except String α) : Except HttpError α :=
  outcome.mapError fun detail => ⟨400, detail⟩

/-- `x402_pay_and_fetch` and `pay_and_fetch_with_audit`, up to the first call of the resource. -/
def payAndFetch (wire : Wire) (context : X402Context) (body : X402PayAndFetchBody) :
    Except HttpError Job := do
  let settings := context.settings
  require (settings.x402Enabled = true) ⟨503, "x402 integration disabled"⟩
  validatePublicUrlSegment "task_id" body.taskId
  validatePublicUrlSegment "agent_id" body.agentId
  require (context.owns body.agentId = true) ⟨403, "identity does not match"⟩
  require (∀ budget ∈ body.maxBudgetUsdc, (Double.finite 0).lt budget = true)
    ⟨422, "Input should be greater than 0"⟩
  let cap := body.maxBudgetUsdc.getD settings.x402DefaultMaxBudgetUsdc
  require (¬settings.x402HardMaxBudgetUsdc.lt cap = true)
    ⟨400, "max_budget_usdc exceeds platform hard cap"⟩
  require (¬cap.le (.finite 0) = true) ⟨400, "max_budget_usdc must be positive"⟩
  require (context.contracts body.taskId = true)
    ⟨404, "task contract not found for this task_id"⟩
  match context.clientError with
  | some error => .error ⟨400, error⟩
  | none => do
      let safeUrl ← raised
        (validateX402TargetUrl wire settings.x402AllowPrivateHosts body.url)
      .ok { taskId := body.taskId, agentId := body.agentId, url := body.url, safeUrl,
            maxBudgetUsdc := cap, receiptRequireSignature := settings.receiptRequireSignature }

/-- `X402FetchResult`. -/
structure FetchResult where
  statusCode : Int
  body : List UInt8
  externalPayment : Option ExternalPaymentRecord

/-- The record of a payment. One whose amount is negative, infinite or not a number is refused,
by its model or by the column. -/
def paymentRecord (quote : Quote) (proof : PaymentProof) : Except HttpError ExternalPaymentRecord :=
  match recordedAmount quote proof with
  | .finite amountUsdc =>
      if nonneg : 0 ≤ amountUsdc then
        .ok { protocol := "x402", txHash := proof.txHash, amountUsdc,
              resourceUrl := quote.safeUrl, paymentProof := some proof.paymentSignatureB64,
              network := some proof.network, asset := some proof.asset, nonneg }
      else .error ⟨400, "Input should be greater than or equal to 0"⟩
  | _ => .error ⟨500, "amount_usdc is not a JSON number"⟩

/-- `_hex64`. -/
def hex64 (data : List UInt8) : String := Billing.hex (sha256 data)

/-- The receipt of a payment. -/
def auditReceipt (job : Job) (result : FetchResult) (payment : ExternalPaymentRecord)
    (latest : Option ExecutionReceipt) (receiptId : ReceiptId) (now : DateTime) :
    ExecutionReceipt where
  receiptId := receiptId
  taskId := job.taskId
  agentId := job.agentId
  stepIndex := latest.elim 1 fun latest => latest.stepIndex + 1
  toolName := "x402.fetch"
  inputHash := hex64 job.url.toUTF8.data.toList
  outputHash := hex64 result.body
  startedAt := now
  endedAt := now
  durationMs := 1
  status := if 200 ≤ result.statusCode ∧ result.statusCode < 300 then .success else .failure
  externalPayment := some payment
  signature := if job.receiptRequireSignature then none else some "0xtrade_x402_audit"
  metadata := [("x402_status_code", .int result.statusCode)]
  firstStep := by cases latest <;> simp

/-- The source of the funds of a settlement, once a payment is recorded. -/
def fundedBy (fundingSource : String) : String :=
  if fundingSource = "" ∨ fundingSource = "internal" then "x402"
  else if fundingSource = "x402" then "x402"
  else "hybrid"

/-! ## Requests under way -/

/-- Where a request is suspended. -/
inductive Stage where
  /-- Before the first call of the resource. -/
  | asking (job : Job)
  /-- Before the executor pays. -/
  | quoted (job : Job) (quote : Quote)
  /-- Paid, before the second call of the resource. -/
  | paid (job : Job) (quote : Quote) (proof : PaymentProof)
  /-- The resource has answered, before the latest receipt is read. -/
  | fetched (job : Job) (result : FetchResult)
  /-- Before the look-up of the identifier of the receipt. -/
  | numbered (receipt : ExecutionReceipt)
  /-- No receipt had its identifier, before it is inserted. -/
  | absent (receipt : ExecutionReceipt)
  /-- Inserted, before the settlement is read. `kept` if it was there already. -/
  | recorded (receipt : ExecutionReceipt) (kept : Bool)
  /-- The settlement has been read and saved, before the commit. -/
  | saved (receipt : ExecutionReceipt) (kept : Bool) (fundingSource : Option String)
  | ended

/-- The receipt that the transaction of a request has inserted. -/
def Stage.held : Stage → Option ExecutionReceipt
  | .recorded receipt false | .saved receipt false _ => some receipt
  | _ => none

/-- A settlement with the source of its funds. -/
structure FundedSettlement where
  settlement : SettlementState
  fundingSource : String := "internal"
  deriving DecidableEq

/-- A payment that the executor completed. -/
structure Payment where
  taskId : TaskId
  txHash : Option String
  amountUsdc : Double
  network : String
  resource : String
  deriving DecidableEq

/-- What the executor has paid for a quote. -/
def Payment.of (job : Job) (quote : Quote) (proof : PaymentProof) : Payment where
  taskId := job.taskId
  txHash := proof.txHash
  amountUsdc := proof.amountUsdc
  network := proof.network
  resource := quote.safeUrl

/-- The tables, the requests, and what an observer writes down: the payment of a request, and the
receipt that it has stored. -/
structure World where
  receipts : Receipts.World := {}
  settlements : Table TaskId FundedSettlement := .empty
  requests : Table RequestNo Stage := .empty
  payments : List (RequestNo × Payment) := []
  stored : List (RequestNo × ReceiptId) := []

/-- Another transaction has inserted a row under the same identifier, or for the same step. -/
def World.Blocks (world : World) (receipt : ExecutionReceipt) : Prop :=
  ∃ entry ∈ world.requests.rows, ∃ held ∈ entry.2.held,
    held.receiptId = receipt.receiptId ∨
      (held.taskId = receipt.taskId ∧ held.stepIndex = receipt.stepIndex)

instance (world : World) (receipt : ExecutionReceipt) : Decidable (world.Blocks receipt) :=
  inferInstanceAs (Decidable (∃ entry ∈ world.requests.rows, ∃ held ∈ entry.2.held, _))

def World.suspend (world : World) (request : RequestNo) (stage : Stage) : World :=
  { world with requests := world.requests.set request stage }

inductive Action where
  /-- A step of another submission of a receipt. -/
  | submission (action : Receipts.Action)
  | ask (request : RequestNo) (context : X402Context) (body : X402PayAndFetchBody)
  /-- The resource answers the first call. -/
  | first (request : RequestNo) (response : Response)
  /-- The executor pays. -/
  | pay (request : RequestNo) (proof : PaymentProof)
  /-- The resource answers the second call. -/
  | retry (request : RequestNo) (response : Response)
  | readLatest (request : RequestNo) (receiptId : ReceiptId) (instant : Int)
  | lookUp (request : RequestNo)
  | insert (request : RequestNo)
  | saveSettlement (request : RequestNo)
  | commit (request : RequestNo) (now : ℚ)
  /-- What the request waits for raises, or the request is cancelled. -/
  | raise (request : RequestNo)

/-- The stage after a part that may raise; a request that raises is rolled back. -/
def World.continue (world : World) (request : RequestNo) (outcome : Except HttpError Stage) :
    World :=
  match outcome with
  | .ok stage => world.suspend request stage
  | .error _ => world.suspend request .ended

/-- The settlement with another source of funds, and the time of the update. -/
def FundedSettlement.fund (row : FundedSettlement) (fundingSource : String) (now : ℚ) :
    FundedSettlement :=
  { settlement := { row.settlement with updatedAt := now }, fundingSource }

/-- The column is written if it was changed. -/
def saveFunding (settlements : Table TaskId FundedSettlement) (taskId : TaskId)
    (fundingSource : Option String) (now : ℚ) : Table TaskId FundedSettlement :=
  match fundingSource, settlements.get taskId with
  | some fundingSource, some row => settlements.set taskId (row.fund fundingSource now)
  | _, _ => settlements

/-- What the save of a settlement changes, given its source of funds as it was read. -/
def changedFunding (fundingSource : String) : Option String :=
  if fundedBy fundingSource = fundingSource then none else some (fundedBy fundingSource)

section System

variable (column : DateTime → DateTime) (signing : Signing) (wire : Wire)

/-- The rows with those that the transaction has inserted. -/
def storeHeld (rows : Rows) (receipt : ExecutionReceipt) (kept : Bool) : Rows :=
  if kept then rows else rows.set receipt.receiptId (toRow column receipt)

/-- The submission inserts a row that another transaction has inserted: it waits. -/
def World.Waits (world : World) : Receipts.Action → Prop
  | .insert client => ∃ stage ∈ world.receipts.pending client, world.Blocks stage.receipt
  | _ => False

instance (world : World) (action : Receipts.Action) : Decidable (world.Waits action) :=
  match action with
  | .insert client =>
      inferInstanceAs (Decidable (∃ stage ∈ world.receipts.pending client, _))
  | .ask .. | .lookUp .. => isFalse id

def perform (world : World) : Action → Option World
  | .submission action =>
      if world.Waits action then none
      else (Receipts.perform column signing world.receipts action).map fun receipts =>
        { world with receipts }
  | .ask request context body =>
      match world.requests.get request, payAndFetch wire context body with
      | none, .ok job => some (world.suspend request (.asking job))
      | none, .error _ => some (world.suspend request .ended)
      | some _, _ => none
  | .first request response =>
      match world.requests.get request with
      | some (.asking job) =>
          some (world.continue request
            ((raised (readQuote wire job.safeUrl job.maxBudgetUsdc response)).map fun quote? =>
              match quote? with
              | some quote => .quoted job quote
              | none => .fetched job ⟨response.statusCode, response.body, none⟩))
      | _ => none
  | .pay request proof =>
      match world.requests.get request with
      | some (.quoted job quote) =>
          some { world.suspend request (.paid job quote proof) with
            payments := (request, .of job quote proof) :: world.payments }
      | _ => none
  | .retry request response =>
      match world.requests.get request with
      | some (.paid job quote proof) =>
          some (world.continue request
            ((paymentRecord quote proof).map fun payment =>
              .fetched job ⟨response.statusCode, response.body, some payment⟩))
      | _ => none
  | .readLatest request receiptId instant =>
      match world.requests.get request with
      | some (.fetched job result) =>
          some (world.continue request
            ((Receipts.readLatest world.receipts.rows job.taskId).map fun latest =>
              match result.externalPayment with
              | none => .ended
              | some payment =>
                  .numbered (auditReceipt job result payment latest receiptId ⟨instant, some 0⟩)))
      | _ => none
  | .lookUp request =>
      match world.requests.get request with
      | some (.numbered receipt) =>
          some (world.continue request
            ((Receipts.lookUp world.receipts.rows receipt).map fun there =>
              if there then .recorded receipt true else .absent receipt))
      | _ => none
  | .insert request =>
      match world.requests.get request with
      | some (.absent receipt) =>
          if world.Blocks receipt then none
          else if world.receipts.rows.Taken receipt then some (world.suspend request .ended)
          else some (world.suspend request (.recorded receipt false))
      | _ => none
  | .saveSettlement request =>
      match world.requests.get request with
      | some (.recorded receipt kept) =>
          let row := world.settlements.get receipt.taskId
          some (world.suspend request
            (.saved receipt kept (row.bind fun row => changedFunding row.fundingSource)))
      | _ => none
  | .commit request now =>
      match world.requests.get request with
      | some (.saved receipt kept fundingSource) =>
          some { world.suspend request .ended with
            receipts := { world.receipts with
              rows := storeHeld column world.receipts.rows receipt kept }
            settlements := saveFunding world.settlements receipt.taskId fundingSource now
            stored :=
              if kept then world.stored else (request, receipt.receiptId) :: world.stored }
      | _ => none
  | .raise request =>
      match world.requests.get request with
      | none | some .ended => none
      | some _ => some (world.suspend request .ended)

/-- No receipts and no requests yet, and any settlements. -/
def system : TransitionSystem World Action where
  Init world := ∃ settlements, world = { settlements }
  Step world action next := perform column signing wire world action = some next

/-- What a step does, from the stage of its request. -/
inductive Turn (world : World) : Action → World → Prop
  | submitted {action : Receipts.Action} {receipts : Receipts.World}
      (served : ¬world.Waits action)
      (performed : Receipts.perform column signing world.receipts action = some receipts) :
      Turn world (.submission action) { world with receipts }
  | asked {request : RequestNo} {context : X402Context} {body : X402PayAndFetchBody} {job : Job}
      (there : world.requests.get request = none) :
      Turn world (.ask request context body) (world.suspend request (.asking job))
  | refused {request : RequestNo} {context : X402Context} {body : X402PayAndFetchBody}
      (there : world.requests.get request = none) :
      Turn world (.ask request context body) (world.suspend request .ended)
  | first {request : RequestNo} {response : Response} {job : Job}
      (there : world.requests.get request = some (.asking job)) :
      Turn world (.first request response) (world.continue request
        ((raised (readQuote wire job.safeUrl job.maxBudgetUsdc response)).map fun quote? =>
          match quote? with
          | some quote => .quoted job quote
          | none => .fetched job ⟨response.statusCode, response.body, none⟩))
  | paid {request : RequestNo} {proof : PaymentProof} {job : Job} {quote : Quote}
      (there : world.requests.get request = some (.quoted job quote)) :
      Turn world (.pay request proof) { world.suspend request (.paid job quote proof) with
        payments := (request, .of job quote proof) :: world.payments }
  | retried {request : RequestNo} {response : Response} {job : Job} {quote : Quote}
      {proof : PaymentProof} (there : world.requests.get request = some (.paid job quote proof)) :
      Turn world (.retry request response) (world.continue request
        ((paymentRecord quote proof).map fun payment =>
          .fetched job ⟨response.statusCode, response.body, some payment⟩))
  | read {request : RequestNo} {receiptId : ReceiptId} {instant : Int} {job : Job}
      {result : FetchResult} (there : world.requests.get request = some (.fetched job result)) :
      Turn world (.readLatest request receiptId instant) (world.continue request
        ((Receipts.readLatest world.receipts.rows job.taskId).map fun latest =>
          match result.externalPayment with
          | none => .ended
          | some payment =>
              .numbered (auditReceipt job result payment latest receiptId ⟨instant, some 0⟩)))
  | lookedUp {request : RequestNo} {receipt : ExecutionReceipt}
      (there : world.requests.get request = some (.numbered receipt)) :
      Turn world (.lookUp request) (world.continue request
        ((Receipts.lookUp world.receipts.rows receipt).map fun there =>
          if there then .recorded receipt true else .absent receipt))
  | taken {request : RequestNo} {receipt : ExecutionReceipt}
      (there : world.requests.get request = some (.absent receipt))
      (used : world.receipts.rows.Taken receipt) :
      Turn world (.insert request) (world.suspend request .ended)
  | inserted {request : RequestNo} {receipt : ExecutionReceipt}
      (there : world.requests.get request = some (.absent receipt))
      (served : ¬world.Blocks receipt) (unused : ¬world.receipts.rows.Taken receipt) :
      Turn world (.insert request) (world.suspend request (.recorded receipt false))
  | saved {request : RequestNo} {receipt : ExecutionReceipt} {kept : Bool}
      (there : world.requests.get request = some (.recorded receipt kept)) :
      Turn world (.saveSettlement request) (world.suspend request (.saved receipt kept
        ((world.settlements.get receipt.taskId).bind fun row =>
          changedFunding row.fundingSource)))
  | committed {request : RequestNo} {now : ℚ} {receipt : ExecutionReceipt} {kept : Bool}
      {fundingSource : Option String}
      (there : world.requests.get request = some (.saved receipt kept fundingSource)) :
      Turn world (.commit request now) { world.suspend request .ended with
        receipts := { world.receipts with
          rows := storeHeld column world.receipts.rows receipt kept }
        settlements := saveFunding world.settlements receipt.taskId fundingSource now
        stored := if kept then world.stored else (request, receipt.receiptId) :: world.stored }
  | raised {request : RequestNo} {stage : Stage}
      (there : world.requests.get request = some stage) :
      Turn world (.raise request) (world.suspend request .ended)

variable {column signing wire}

theorem turn_of_step {world next : World} {action : Action}
    (step : (system column signing wire).Step world action next) :
    Turn column signing wire world action next := by
  change perform column signing wire world action = some next at step
  cases action with
  | submission action =>
      simp only [perform] at step
      split at step
      · cases step
      case isFalse served =>
        obtain ⟨receipts, performed, rfl⟩ := Option.map_eq_some_iff.mp step
        exact .submitted served performed
  | ask request context body =>
      simp only [perform] at step
      split at step
      case h_1 there _ =>
        obtain rfl := Option.some.inj step
        exact .asked there
      case h_2 there _ =>
        obtain rfl := Option.some.inj step
        exact .refused there
      · cases step
  | insert request =>
      simp only [perform] at step
      split at step
      case h_1 receipt there =>
        split at step
        · cases step
        case isFalse served =>
          split at step
          case isTrue used =>
            obtain rfl := Option.some.inj step
            exact .taken there used
          case isFalse unused =>
            obtain rfl := Option.some.inj step
            exact .inserted there served unused
      · cases step
  | raise request =>
      simp only [perform] at step
      split at step
      · cases step
      · cases step
      case h_3 stage _ there =>
        obtain rfl := Option.some.inj step
        exact .raised there
  | first | pay | retry | readLatest | lookUp | saveSettlement | commit =>
      simp only [perform] at step
      split at step
      · obtain rfl := Option.some.inj step
        constructor
        assumption
      · cases step

end System

end TrustChain.X402
