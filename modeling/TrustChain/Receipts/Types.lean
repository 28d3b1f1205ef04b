import TrustChain.Library.DateTimes
import TrustChain.Library.Json
import TrustChain.Service.Settlement

/-!
# Execution receipts

A receipt of one tool call, with a typed extension and the record of an external payment, and
what its fields are as JSON.
-/

namespace TrustChain.Receipts

open Library Service

/-! ## Extensions -/

structure ApiExecutionReceiptExtension where
  requestHash : String
  responseHash : String
  httpStatusCode : Int
  latencyMs : Int
  errorCode : Option String
  statusBounds : 100 ≤ httpStatusCode ∧ httpStatusCode ≤ 599
  latencyBounds : 0 ≤ latencyMs ∧ latencyMs ≤ 3600000
  errorLength : ∀ code ∈ errorCode, code.length ≤ 128
deriving DecidableEq

structure McpExecutionReceiptExtension where
  mcpServerId : String
  mcpToolName : String
  traceHash : String
  resultHash : String
  serverLength : mcpServerId.length ≤ 256
  toolLength : mcpToolName.length ≤ 256
deriving DecidableEq

structure AgentExecutionReceiptExtension where
  modelUsed : String
  toolCallsHash : String
  stepLogHash : String
  runtimeTraceHash : String
  modelLength : modelUsed.length ≤ 128
deriving DecidableEq

inductive ExecutionReceiptExtension where
  | api (extension : ApiExecutionReceiptExtension)
  | mcp (extension : McpExecutionReceiptExtension)
  | agent (extension : AgentExecutionReceiptExtension)
deriving DecidableEq

/-- A text or nothing. -/
def optionalText (value : Option String) : Json := value.elim .null .string

def ExecutionReceiptExtension.modelDump : ExecutionReceiptExtension → Json.Fields
  | .api extension => [("kind", .string "api"), ("request_hash", .string extension.requestHash),
      ("response_hash", .string extension.responseHash),
      ("http_status_code", .int extension.httpStatusCode), ("latency_ms", .int extension.latencyMs),
      ("error_code", optionalText extension.errorCode)]
  | .mcp extension => [("kind", .string "mcp"), ("mcp_server_id", .string extension.mcpServerId),
      ("mcp_tool_name", .string extension.mcpToolName), ("trace_hash", .string extension.traceHash),
      ("result_hash", .string extension.resultHash)]
  | .agent extension => [("kind", .string "agent"), ("model_used", .string extension.modelUsed),
      ("tool_calls_hash", .string extension.toolCallsHash),
      ("step_log_hash", .string extension.stepLogHash),
      ("runtime_trace_hash", .string extension.runtimeTraceHash)]

/-! ## Reading fields -/

def textField (fields : Json.Fields) (key : String) : Option String :=
  match fields.get key with
  | some (.string value) => some value
  | _ => none

/-- A field that may be missing or null; `none` if it is no text. -/
def optionalField (fields : Json.Fields) (key : String) : Option (Option String) :=
  match fields.get key with
  | none | some .null => some none
  | some (.string value) => some (some value)
  | _ => none

def intField (fields : Json.Fields) (key : String) : Option Int :=
  match fields.get key with
  | some (.int value) => some value
  | _ => none

/-- `extra="forbid"`. -/
def onlyKeys (fields : Json.Fields) (keys : List String) : Option Unit :=
  if ∀ field ∈ fields, field.1 ∈ keys then some () else none

def readApi (fields : Json.Fields) : Option ApiExecutionReceiptExtension := do
  onlyKeys fields
    ["kind", "request_hash", "response_hash", "http_status_code", "latency_ms", "error_code"]
  let requestHash ← textField fields "request_hash"
  let responseHash ← textField fields "response_hash"
  let httpStatusCode ← intField fields "http_status_code"
  let latencyMs ← intField fields "latency_ms"
  let errorCode ← optionalField fields "error_code"
  if bounds : (100 ≤ httpStatusCode ∧ httpStatusCode ≤ 599) ∧ (0 ≤ latencyMs ∧ latencyMs ≤ 3600000) ∧
      ∀ code ∈ errorCode, code.length ≤ 128 then
    some { requestHash, responseHash, httpStatusCode, latencyMs, errorCode
           statusBounds := bounds.1, latencyBounds := bounds.2.1, errorLength := bounds.2.2 }
  else none

def readMcp (fields : Json.Fields) : Option McpExecutionReceiptExtension := do
  onlyKeys fields ["kind", "mcp_server_id", "mcp_tool_name", "trace_hash", "result_hash"]
  let mcpServerId ← textField fields "mcp_server_id"
  let mcpToolName ← textField fields "mcp_tool_name"
  let traceHash ← textField fields "trace_hash"
  let resultHash ← textField fields "result_hash"
  if bounds : mcpServerId.length ≤ 256 ∧ mcpToolName.length ≤ 256 then
    some { mcpServerId, mcpToolName, traceHash, resultHash
           serverLength := bounds.1, toolLength := bounds.2 }
  else none

def readAgent (fields : Json.Fields) : Option AgentExecutionReceiptExtension := do
  onlyKeys fields
    ["kind", "model_used", "tool_calls_hash", "step_log_hash", "runtime_trace_hash"]
  let modelUsed ← textField fields "model_used"
  let toolCallsHash ← textField fields "tool_calls_hash"
  let stepLogHash ← textField fields "step_log_hash"
  let runtimeTraceHash ← textField fields "runtime_trace_hash"
  if bounds : modelUsed.length ≤ 128 then
    some { modelUsed, toolCallsHash, stepLogHash, runtimeTraceHash, modelLength := bounds }
  else none

/-- `parse_execution_receipt_extension` of fields with the types of a dump; the kind tells which
extension it is. -/
def parseExecutionReceiptExtension (fields : Json.Fields) : Option ExecutionReceiptExtension :=
  match textField fields "kind" with
  | some "api" => (readApi fields).map .api
  | some "mcp" => (readMcp fields).map .mcp
  | some "agent" => (readAgent fields).map .agent
  | _ => none

/-! ## External payments -/

structure ExternalPaymentRecord where
  protocol : String := "x402"
  txHash : Option String := none
  amountUsdc : ℚ
  resourceUrl : String
  paymentProof : Option String := none
  network : Option String := none
  asset : Option String := none
  metadata : Json.Fields := []
  nonneg : 0 ≤ amountUsdc

def ExternalPaymentRecord.modelDump (payment : ExternalPaymentRecord) : Json.Fields :=
  [("protocol", .string payment.protocol), ("tx_hash", optionalText payment.txHash),
    ("amount_usdc", .float payment.amountUsdc), ("resource_url", .string payment.resourceUrl),
    ("payment_proof", optionalText payment.paymentProof), ("network", optionalText payment.network),
    ("asset", optionalText payment.asset), ("metadata", .object payment.metadata)]

def amountField (fields : Json.Fields) (key : String) : Option ℚ :=
  match fields.get key with
  | some (.float value) => some value
  | some (.int value) => some value
  | _ => none

/-- A field that is `fallback` if it is missing. -/
def defaultField (fields : Json.Fields) (key fallback : String) : Option String :=
  match fields.get key with
  | none => some fallback
  | some (.string value) => some value
  | _ => none

def objectField (fields : Json.Fields) (key : String) : Option Json.Fields :=
  match fields.get key with
  | none => some []
  | some (.object value) => some value
  | _ => none

/-- `ExternalPaymentRecord.model_validate` of fields with the types of a dump. -/
def readPayment (fields : Json.Fields) : Option ExternalPaymentRecord := do
  let protocol ← defaultField fields "protocol" "x402"
  let txHash ← optionalField fields "tx_hash"
  let amountUsdc ← amountField fields "amount_usdc"
  let resourceUrl ← textField fields "resource_url"
  let paymentProof ← optionalField fields "payment_proof"
  let network ← optionalField fields "network"
  let asset ← optionalField fields "asset"
  let metadata ← objectField fields "metadata"
  if nonneg : 0 ≤ amountUsdc then
    some { protocol, txHash, amountUsdc, resourceUrl, paymentProof, network, asset, metadata, nonneg }
  else none

/-! ## Receipts -/

/-- `ToolStatus.value`. -/
def toolStatusValue : ToolStatus → String
  | .success => "success"
  | .failure => "failure"
  | .timeout => "timeout"
  | .skipped => "skipped"

/-- `ToolStatus(value)`. -/
def toolStatus? : String → Option ToolStatus
  | "success" => some .success
  | "failure" => some .failure
  | "timeout" => some .timeout
  | "skipped" => some .skipped
  | _ => none

structure ExecutionReceipt where
  receiptId : ReceiptId
  taskId : TaskId
  agentId : IdentityId
  profileId : Option ProfileId := none
  stepIndex : Nat
  toolName : String
  inputHash : String
  outputHash : String
  startedAt : DateTime
  endedAt : DateTime
  durationMs : Nat
  status : ToolStatus
  errorMessage : Option String := none
  metadata : Json.Fields := []
  externalPayment : Option ExternalPaymentRecord := none
  signature : Option String := none
  extension : Option ExecutionReceiptExtension := none
  firstStep : 1 ≤ stepIndex

namespace ExecutionReceipt

variable (receipt : ExecutionReceipt)

def dumpedExtension : Json := receipt.extension.elim .null fun extension => .object extension.modelDump

def dumpedPayment : Json := receipt.externalPayment.elim .null fun payment => .object payment.modelDump

/-- `model_dump(mode="json")`. -/
def modelDump : Json.Fields :=
  [("receipt_id", .string receipt.receiptId), ("task_id", .string receipt.taskId),
    ("agent_id", .string receipt.agentId), ("profile_id", optionalText receipt.profileId),
    ("step_index", .int receipt.stepIndex), ("tool_name", .string receipt.toolName),
    ("input_hash", .string receipt.inputHash), ("output_hash", .string receipt.outputHash),
    ("started_at", .string (.ofList receipt.startedAt.iso)),
    ("ended_at", .string (.ofList receipt.endedAt.iso)),
    ("duration_ms", .int receipt.durationMs), ("status", .string (toolStatusValue receipt.status)),
    ("error_message", optionalText receipt.errorMessage), ("metadata", .object receipt.metadata),
    ("external_payment", receipt.dumpedPayment), ("signature", optionalText receipt.signature),
    ("extension", receipt.dumpedExtension)]

/-- `left.model_dump() == right.model_dump()`, where date-times are compared as such. -/
def sameDump (other : ExecutionReceipt) : Bool :=
  receipt.startedAt.equal other.startedAt && receipt.endedAt.equal other.endedAt &&
    Json.equalFields ((receipt.modelDump.pop "started_at").pop "ended_at")
      ((other.modelDump.pop "started_at").pop "ended_at")

end ExecutionReceipt

/-! ## What is dumped can be read -/

section RoundTrips

@[simp] theorem get_cons_self (key : String) (value : Json) (rest : Json.Fields) :
    Json.Fields.get ((key, value) :: rest) key = some value := by
  simp [Json.Fields.get]

theorem get_cons_of_ne {key other : String} (different : other ≠ key) (value : Json)
    (rest : Json.Fields) : Json.Fields.get ((key, value) :: rest) other = rest.get other := by
  have unlike : (other == key) = false := by simpa using different
  simp [Json.Fields.get, List.lookup_cons, unlike]

@[simp] theorem optionalField_cons_self (key : String) (value : Option String)
    (rest : Json.Fields) : optionalField ((key, optionalText value) :: rest) key = some value := by
  rw [optionalField, get_cons_self]
  cases value <;> rfl

theorem optionalField_cons_of_ne {key other : String} (different : other ≠ key) (value : Json)
    (rest : Json.Fields) : optionalField ((key, value) :: rest) other = optionalField rest other := by
  rw [optionalField, get_cons_of_ne different, optionalField]

theorem toolStatus_value (status : ToolStatus) :
    toolStatus? (toolStatusValue status) = some status := by
  cases status <;> rfl

theorem readApi_modelDump (extension : ApiExecutionReceiptExtension) :
    readApi (ExecutionReceiptExtension.api extension).modelDump = some extension := by
  simp [readApi, onlyKeys, textField, intField, ExecutionReceiptExtension.modelDump, get_cons_of_ne,
    optionalField_cons_of_ne, extension.statusBounds, extension.latencyBounds]
  exact extension.errorLength

theorem parse_modelDump (extension : ExecutionReceiptExtension) :
    parseExecutionReceiptExtension extension.modelDump = some extension := by
  cases extension with
  | api extension =>
      rw [parseExecutionReceiptExtension, readApi_modelDump]
      rfl
  | mcp extension =>
      simp [parseExecutionReceiptExtension, readMcp, onlyKeys, textField,
        ExecutionReceiptExtension.modelDump, get_cons_of_ne, extension.serverLength,
        extension.toolLength]
  | agent extension =>
      simp [parseExecutionReceiptExtension, readAgent, onlyKeys, textField,
        ExecutionReceiptExtension.modelDump, get_cons_of_ne, extension.modelLength]

theorem readPayment_modelDump (payment : ExternalPaymentRecord) :
    readPayment payment.modelDump = some payment := by
  simp [readPayment, defaultField, textField, amountField, objectField, get_cons_of_ne,
    ExternalPaymentRecord.modelDump, optionalField_cons_of_ne, payment.nonneg]

end RoundTrips

end TrustChain.Receipts
