import TrustChain.Library.Doubles
import TrustChain.Receipts.Store
import TrustChain.Runtime.Keys

/-!
# Submitting receipts

Two routes take a receipt of a task: one with a signature of the worker, and one with a runtime
key, which signs the receipt itself. Both check it, read the latest receipt of the task, compare,
and save. Many requests are under way at a time, and each is suspended between these parts.
-/

namespace TrustChain.Receipts

open Library Service

/-- The settings that the checks of a receipt read. -/
structure Settings where
  receiptRequireSignature : Bool := true
  /-- `delivery_signatures_relaxed()`. -/
  deliverySignaturesRelaxed : Bool := false
  receiptMaxFutureSkewSeconds : Int := 300
  receiptMaxPastHours : Int := 168
  receiptStrictRecentTimestamps : Bool := true
  receiptMaxPastHoursStrict : Int := 24
  receiptTemplateVoucherBinding : Bool := true

/-- What a request finds. -/
structure Context where
  /-- The instant, in microseconds. -/
  now : Int
  settings : Settings := {}
  contracts : TaskId → Bool
  /-- The task type of the voucher that the settlement of a task names, if it names one. -/
  taskType : TaskId → Option (Option String) := fun _ => none

/-- The signing service: signatures of the canonical bytes of a receipt. -/
structure Signing where
  sign : ExecutionReceipt → String
  verify : ExecutionReceipt → String → Bool

/-! ## Checks -/

def safeCharacter (char : Char) : Bool :=
  char.isAlphanum || char = '_' || char = '.' || char = '-'

/-- `_SAFE_SEGMENT.match(value)`, which does not see a line feed at the end. -/
def safeSegment (value : String) : Bool :=
  let text := value.toList
  let line := if text.getLast? = some '\n' then text.dropLast else text
  line.all safeCharacter && 1 ≤ line.length && line.length ≤ 256

def validatePublicUrlSegment (name value : String) : Except HttpError Unit :=
  require (safeSegment value = true)
    ⟨400, "invalid " ++ name ++ ": allowed characters are [A-Za-z0-9_.-], max length 256"⟩

/-- Every hash of an extension, under its name. -/
def extensionHashes : ExecutionReceiptExtension → List (String × String)
  | .api extension =>
      [("request_hash", extension.requestHash), ("response_hash", extension.responseHash)]
  | .mcp extension => [("trace_hash", extension.traceHash), ("result_hash", extension.resultHash)]
  | .agent extension =>
      [("tool_calls_hash", extension.toolCallsHash), ("step_log_hash", extension.stepLogHash),
        ("runtime_trace_hash", extension.runtimeTraceHash)]

def validateExtensionPayloads (extension : ExecutionReceiptExtension) : Except HttpError Unit :=
  match (extensionHashes extension).find? fun hash => isHex64 hash.2 = false with
  | some hash => .error ⟨400, hash.1 ++ " must be 64 lowercase hex chars"⟩
  | none => .ok ()

/-- `int(delta.total_seconds() * 1000)` of a delta that is not negative. -/
def milliseconds (micros : Int) : Option Int :=
  match Double.round (micros / 10 ^ 6) with
  | .finite seconds =>
      match Double.round (seconds * 1000) with
      | .finite value => some ⌊value⌋
      | _ => none
  | _ => none

/-- The oldest start that is taken. -/
def Context.minPast (context : Context) : Int :=
  let hours := if context.settings.receiptStrictRecentTimestamps
    then max 1 context.settings.receiptMaxPastHoursStrict
    else max 1 context.settings.receiptMaxPastHours
  context.now - hours * 3600000000

def Context.maxFuture (context : Context) : Int :=
  context.now + max 0 context.settings.receiptMaxFutureSkewSeconds * 1000000

def validateExecutionReceiptStatic (context : Context) (receipt : ExecutionReceipt) :
    Except HttpError Unit := do
  require (isHex64 receipt.inputHash = true) ⟨400, "input_hash must be 64-char lowercase hex"⟩
  require (isHex64 receipt.outputHash = true) ⟨400, "output_hash must be 64-char lowercase hex"⟩
  let started := receipt.startedAt.instant
  let ended := receipt.endedAt.instant
  require (¬ended < started) ⟨400, "receipt ended_at must be >= started_at"⟩
  match receipt.extension with
  | some extension => validateExtensionPayloads extension
  | none => .ok ()
  require (¬(context.maxFuture < started ∨ context.maxFuture < ended))
    ⟨400, "receipt timestamp is too far in the future"⟩
  require (¬started < context.minPast) ⟨400, "receipt timestamp is too far in the past"⟩
  require (∀ expected ∈ milliseconds (ended - started), |expected - receipt.durationMs| ≤ 5000)
    ⟨400, "receipt duration_ms does not match timestamp delta"⟩
  require (¬(context.settings.receiptRequireSignature = true ∧
      context.settings.deliverySignaturesRelaxed = false ∧
      Runtime.strip (receipt.signature.getD "") = ""))
    ⟨400, "receipt signature is required"⟩

/-- The extension that the type of a task asks for. -/
inductive TemplateFamily where
  | generic | api | mcp | agent
deriving DecidableEq

def taskTypeTemplateFamily (taskType : Option String) : TemplateFamily :=
  match String.ofList
      (((Runtime.strip (taskType.getD "")).toList.takeWhile (· ≠ '.')).map Char.toLower) with
  | "api" => .api
  | "mcp" => .mcp
  | "agent" => .agent
  | _ => .generic

def ExecutionReceiptExtension.family : ExecutionReceiptExtension → TemplateFamily
  | .api _ => .api
  | .mcp _ => .mcp
  | .agent _ => .agent

/-- The errors leave out the type of the task. -/
def validateExtensionVsTaskType (taskType : Option String) (receipt : ExecutionReceipt) :
    Except HttpError Unit :=
  match taskTypeTemplateFamily taskType, receipt.extension with
  | .generic, none => .ok ()
  | .generic, some _ => .error ⟨400, "execution receipt extension is only allowed for task_type " ++
      "prefix api.* / mcp.* / agent.*"⟩
  | _, none => .error ⟨400, "task_type requires a matching execution receipt extension"⟩
  | family, some extension => do
      require (extension.family = family) ⟨400, "task_type requires another extension.kind"⟩
      validateExtensionPayloads extension

def validateTemplateBinding (context : Context) (receipt : ExecutionReceipt) :
    Except HttpError Unit :=
  if context.settings.receiptTemplateVoucherBinding then
    match context.taskType receipt.taskId with
    | some taskType => validateExtensionVsTaskType taskType receipt
    | none => .ok ()
  else .ok ()

/-! ## Signatures -/

def devPlaceholderSignaturePrefixes : List String :=
  ["0xopenclaw_", "0xtrade_pipeline_", "sig-", "sig_", "runtime:"]

def isDevPlaceholderSignature (value : String) : Bool :=
  let text := (Runtime.strip value).toList.map Char.toLower
  devPlaceholderSignaturePrefixes.any fun start => start.toList.isPrefixOf text

def verifyExecutionReceiptSignature (signing : Signing) (receipt : ExecutionReceipt) : Bool :=
  let signature := Runtime.strip (receipt.signature.getD "")
  signature ≠ "" && signing.verify receipt signature

def executionReceiptSignatureAcceptable (signing : Signing) (settings : Settings)
    (receipt : ExecutionReceipt) : Bool :=
  let signature := Runtime.strip (receipt.signature.getD "")
  (settings.deliverySignaturesRelaxed &&
      (signature = "" || isDevPlaceholderSignature signature)) ||
    (!settings.receiptRequireSignature && signature = "") ||
    verifyExecutionReceiptSignature signing receipt

/-! ## The two routes, up to the save -/

/-- The latest receipt of the task; a row that is no receipt is an internal error. -/
def readLatest (rows : Rows) (taskId : TaskId) : Except HttpError (Option ExecutionReceipt) :=
  match getLatestByTask rows taskId with
  | some latest => .ok latest
  | none => .error ⟨500, "stored receipt is not valid"⟩

def executionReceiptStartsBeforePriorEnded (startedAt priorEndedAt : DateTime) : Prop :=
  startedAt.instant < priorEndedAt.instant

instance (startedAt priorEndedAt : DateTime) :
    Decidable (executionReceiptStartsBeforePriorEnded startedAt priorEndedAt) :=
  inferInstanceAs (Decidable (_ < _))

/-- The step follows the latest one. -/
def checkStep (receipt : ExecutionReceipt) (latest : Option ExecutionReceipt) :
    Except HttpError Unit :=
  match latest with
  | none => require (receipt.stepIndex = 1) ⟨409, "first receipt step_index must be 1"⟩
  | some latest => require (receipt.stepIndex = latest.stepIndex + 1)
      ⟨409, "receipt step_index must be sequential: expected " ++ toString (latest.stepIndex + 1)⟩

/-- The times follow those of the latest receipt. -/
def checkTimes (receipt : ExecutionReceipt) : Option ExecutionReceipt → Except HttpError Unit
  | none => .ok ()
  | some latest => do
      require (¬receipt.startedAt.instant < latest.startedAt.instant)
        ⟨409, "receipt started_at must not precede prior receipt on task"⟩
      require (¬executionReceiptStartsBeforePriorEnded receipt.startedAt latest.endedAt)
        ⟨409, "receipt timestamps out of order for task"⟩

/-- The times as they come. -/
def runtimeCheckTimes (receipt : ExecutionReceipt) : Option ExecutionReceipt → Except HttpError Unit
  | none => .ok ()
  | some latest =>
      match receipt.startedAt.lt? latest.endedAt with
      | some false => .ok ()
      | some true => .error ⟨409, "receipt timestamps out of order for task"⟩
      | none => .error ⟨500, "can't compare offset-naive and offset-aware datetimes"⟩

def submitReceipt (signing : Signing) (context : Context) (rows : Rows)
    (receipt : ExecutionReceipt) : Except HttpError ExecutionReceipt := do
  validatePublicUrlSegment "task_id" receipt.taskId
  validatePublicUrlSegment "receipt_id" receipt.receiptId
  require (context.contracts receipt.taskId = true)
    ⟨404, "task contract not found for this task_id"⟩
  validateExecutionReceiptStatic context receipt
  validateTemplateBinding context receipt
  require (executionReceiptSignatureAcceptable signing context.settings receipt = true)
    ⟨400, "invalid receipt signature"⟩
  let latest ← readLatest rows receipt.taskId
  checkStep receipt latest
  checkTimes receipt latest
  .ok receipt

structure RuntimeKeyContext where
  karmaIdentityId : IdentityId
  profileId : Option ProfileId
  permissions : List String
  /-- Whether `assert_task_automation_ready` passes for a task. -/
  ready : TaskId → Bool

/-- The receipt with the profile of the key, unless it names one. -/
def RuntimeKeyContext.fill (ctx : RuntimeKeyContext) (receipt : ExecutionReceipt) :
    ExecutionReceipt :=
  if (ctx.profileId.getD "") ≠ "" ∧ (receipt.profileId.getD "") = "" then
    { receipt with profileId := ctx.profileId }
  else receipt

def signed (signing : Signing) (receipt : ExecutionReceipt) : ExecutionReceipt :=
  { receipt with signature := some (signing.sign { receipt with signature := none }) }

def runtimeSubmitReceipt (signing : Signing) (context : Context) (ctx : RuntimeKeyContext)
    (rows : Rows) (body : ExecutionReceipt) : Except HttpError ExecutionReceipt := do
  require ("submit_receipt" ∈ ctx.permissions)
    ⟨403, "runtime key missing permission: submit_receipt"⟩
  validatePublicUrlSegment "task_id" body.taskId
  validatePublicUrlSegment "receipt_id" body.receiptId
  require (body.agentId = ctx.karmaIdentityId)
    ⟨403, "receipt agent_id must match runtime key identity"⟩
  let receipt := ctx.fill body
  require (ctx.ready receipt.taskId = true) ⟨403, "automation_not_ready"⟩
  require (context.contracts receipt.taskId = true)
    ⟨404, "task contract not found for this task_id"⟩
  validateExecutionReceiptStatic context receipt
  validateTemplateBinding context receipt
  require (verifyExecutionReceiptSignature signing (signed signing receipt) = true)
    ⟨500, "runtime receipt signing invariant failed"⟩
  let latest ← readLatest rows receipt.taskId
  checkStep receipt latest
  runtimeCheckTimes receipt latest
  .ok (signed signing receipt)

/-! ## Requests under way -/

inductive Route where
  | submitReceipt
  | runtimeSubmitReceipt (ctx : RuntimeKeyContext)

def Route.accept (signing : Signing) (context : Context) (rows : Rows) :
    Route → ExecutionReceipt → Except HttpError ExecutionReceipt
  | .submitReceipt, receipt => Receipts.submitReceipt signing context rows receipt
  | .runtimeSubmitReceipt ctx, receipt =>
      Receipts.runtimeSubmitReceipt signing context ctx rows receipt

/-- Where a request is suspended. -/
inductive Stage where
  /-- Checked against the latest receipt, before the look-up of its identifier. -/
  | checked (receipt : ExecutionReceipt)
  /-- No receipt had its identifier, before it is inserted. -/
  | absent (receipt : ExecutionReceipt)

def Stage.receipt : Stage → ExecutionReceipt
  | .checked receipt | .absent receipt => receipt

abbrev Client := Nat

structure World where
  rows : Rows := .empty
  pending : Client → Option Stage := fun _ => none

def World.suspend (world : World) (client : Client) (stage : Option Stage) : World :=
  { world with pending := Function.update world.pending client stage }

/-- What happens next to a request of a client. -/
inductive Action where
  | ask (client : Client) (context : Context) (route : Route) (receipt : ExecutionReceipt)
  | lookUp (client : Client)
  | insert (client : Client)

section System

variable (column : DateTime → DateTime) (signing : Signing)

def perform (world : World) : Action → Option World
  | .ask client context route receipt =>
      match world.pending client with
      | some _ => none
      | none =>
          match route.accept signing context world.rows receipt with
          | .ok checked => some (world.suspend client (some (.checked checked)))
          | .error _ => some world
  | .lookUp client =>
      match world.pending client with
      | some (.checked receipt) =>
          match Receipts.lookUp world.rows receipt with
          | .ok false => some (world.suspend client (some (.absent receipt)))
          | _ => some (world.suspend client none)
      | _ => none
  | .insert client =>
      match world.pending client with
      | some (.absent receipt) =>
          match Receipts.insert column world.rows receipt with
          | .ok rows => some ({ world with rows }.suspend client none)
          | .error _ => some (world.suspend client none)
      | _ => none

/-- The two routes, from an empty table, with any number of clients. -/
def system : TransitionSystem World Action where
  Init world := world = {}
  Step world action next := perform column signing world action = some next

end System

end TrustChain.Receipts
