import TrustChain.Billing.Anchoring

/-!
# The billing state machine

The states of a billing task, the transitions between them, the paths of each scenario, and
the machine that carries out the transitions. With the audit log in memory nothing inside a
call waits, so a call runs to its end before another one starts.
-/

namespace TrustChain.Billing

open Library Function

inductive BillingState where
  | initiated
  | intentReceived
  | intentValidated
  | delegationAccepted
  | taskStarted
  | stepInProgress
  | stepCompleted
  | taskCompleted
  | bidEvaluating
  | bidAccepted
  | pipelineStaging
  | invoiceGenerated
  | paymentAuthorized
  | paymentPending
  | paymentSettling
  | refundPending
  | settled
  deriving DecidableEq

inductive ScenarioType where
  | s1Delegation
  | s2Bidding
  | s3Pipeline
  | s4MultiDelegation
  | s5Data
  | s6Conditional
  | s7Recurring
  | s8Dispute
  | s9Intent
  | s10CrossChain
  deriving DecidableEq

def BillingState.value : BillingState → String
  | .initiated => "INITIATED"
  | .intentReceived => "INTENT_RECEIVED"
  | .intentValidated => "INTENT_VALIDATED"
  | .delegationAccepted => "DELEGATION_ACCEPTED"
  | .taskStarted => "TASK_STARTED"
  | .stepInProgress => "STEP_IN_PROGRESS"
  | .stepCompleted => "STEP_COMPLETED"
  | .taskCompleted => "TASK_COMPLETED"
  | .bidEvaluating => "BID_EVALUATING"
  | .bidAccepted => "BID_ACCEPTED"
  | .pipelineStaging => "PIPELINE_STAGING"
  | .invoiceGenerated => "INVOICE_GENERATED"
  | .paymentAuthorized => "PAYMENT_AUTHORIZED"
  | .paymentPending => "PAYMENT_PENDING"
  | .paymentSettling => "PAYMENT_SETTLING"
  | .refundPending => "REFUND_PENDING"
  | .settled => "SETTLED"

def ScenarioType.value : ScenarioType → String
  | .s1Delegation => "S1_DELEGATION"
  | .s2Bidding => "S2_BIDDING"
  | .s3Pipeline => "S3_PIPELINE"
  | .s4MultiDelegation => "S4_MULTI_DELEGATION"
  | .s5Data => "S5_DATA"
  | .s6Conditional => "S6_CONDITIONAL"
  | .s7Recurring => "S7_RECURRING"
  | .s8Dispute => "S8_DISPUTE"
  | .s9Intent => "S9_INTENT"
  | .s10CrossChain => "S10_CROSS_CHAIN"

/-! ## The predefined transitions -/

/-- `BILLING_STATE_TRANSITIONS`. -/
def legalTargets : BillingState → List BillingState
  | .initiated => [.intentReceived]
  | .intentReceived => [.intentValidated]
  | .intentValidated => [.delegationAccepted, .bidEvaluating, .pipelineStaging]
  | .delegationAccepted => [.taskStarted]
  | .taskStarted => [.stepInProgress, .taskCompleted]
  | .stepInProgress => [.stepCompleted, .taskCompleted]
  | .stepCompleted => [.stepInProgress, .taskCompleted]
  | .taskCompleted => [.invoiceGenerated]
  | .bidEvaluating => [.bidAccepted, .invoiceGenerated]
  | .bidAccepted => [.taskStarted]
  | .pipelineStaging => [.taskStarted, .stepInProgress, .taskCompleted]
  | .invoiceGenerated => [.paymentAuthorized, .paymentSettling]
  | .paymentAuthorized => [.paymentPending, .paymentSettling]
  | .paymentPending => [.paymentSettling]
  | .paymentSettling => [.settled, .refundPending]
  | .refundPending => [.settled]
  | .settled => []

/-- `REQUIRE_IMMEDIATE_ANCHOR`. -/
def requireImmediateAnchor : List BillingState :=
  [.intentValidated, .taskCompleted, .invoiceGenerated, .paymentAuthorized, .settled,
    .refundPending]

/-- The path that six of the scenarios share. -/
def directPath : List BillingState :=
  [.initiated, .intentReceived, .intentValidated, .delegationAccepted, .taskStarted,
    .taskCompleted, .invoiceGenerated, .paymentAuthorized, .paymentSettling, .settled]

/-- `ALLOWED_STATE_PATHS`. -/
def allowedStatePaths : ScenarioType → List (List BillingState)
  | .s1Delegation =>
      [[.initiated, .intentReceived, .intentValidated, .delegationAccepted, .taskStarted,
          .stepInProgress, .stepCompleted, .taskCompleted, .invoiceGenerated, .paymentAuthorized,
          .paymentPending, .paymentSettling, .settled],
        [.stepCompleted, .stepInProgress], [.stepInProgress, .taskCompleted],
        [.stepCompleted, .taskCompleted], [.paymentAuthorized, .paymentSettling]]
  | .s2Bidding =>
      [[.initiated, .intentReceived, .intentValidated, .bidEvaluating, .bidAccepted, .taskStarted,
          .stepInProgress, .stepCompleted, .taskCompleted, .invoiceGenerated, .paymentAuthorized,
          .paymentSettling, .settled],
        [.initiated, .intentReceived, .intentValidated, .bidEvaluating, .invoiceGenerated,
          .paymentSettling, .settled]]
  | .s3Pipeline =>
      [[.initiated, .intentReceived, .intentValidated, .pipelineStaging, .stepInProgress,
          .stepCompleted, .taskCompleted, .invoiceGenerated, .paymentAuthorized, .paymentSettling,
          .settled]]
  | .s4MultiDelegation =>
      [[.initiated, .intentReceived, .intentValidated, .delegationAccepted, .taskStarted,
          .stepInProgress, .stepCompleted, .taskCompleted, .invoiceGenerated, .paymentAuthorized,
          .paymentSettling, .settled]]
  | .s8Dispute => [directPath, [.paymentSettling, .refundPending, .settled]]
  | .s5Data | .s6Conditional | .s7Recurring | .s9Intent | .s10CrossChain => [directPath]

/-- The path continues from `fromState`, where it first occurs, with `toState`. -/
def continues (path : List BillingState) (fromState toState : BillingState) : Bool :=
  match path.idxOf? fromState with
  | some index => path[index + 1]? == some toState
  | none => false

def isTransitionAllowed (scenario : ScenarioType) (fromState toState : BillingState) : Bool :=
  decide (toState ∈ legalTargets fromState) &&
    (allowedStatePaths scenario).any fun path => continues path fromState toState

/-- No scenario lets a task leave `SETTLED`. -/
theorem not_allowed_settled (scenario : ScenarioType) (toState : BillingState) :
    isTransitionAllowed scenario .settled toState = false := by
  simp [isTransitionAllowed, legalTargets]

/-! ## The machine -/

structure StateTransitionRecord where
  recordId : String
  taskId : TaskId
  fromState : BillingState
  toState : BillingState
  triggeredByReceiptId : String
  triggeredByDid : String
  timestamp : Int
  deriving DecidableEq

inductive Severity where
  | critical
  | info
  deriving DecidableEq

structure SecurityEvent where
  eventType : String
  severity : Severity
  taskId : TaskId
  details : List (String × String)
  deriving DecidableEq

structure InMemoryAuditLog where
  transitions : List StateTransitionRecord := []
  securityEvents : List SecurityEvent := []

structure IllegalStateTransitionError where
  taskId : TaskId
  fromState : BillingState
  toState : BillingState
  scenario : ScenarioType
  deriving DecidableEq

/-- `ImmutableBillingStateMachine`, between two calls. -/
structure Machine where
  auditLog : InMemoryAuditLog := {}
  taskStates : TaskId → Option BillingState := fun _ => none
  taskScenarios : TaskId → Option ScenarioType := fun _ => none
  taskReceipts : TaskId → Option (Finset String) := fun _ => none

/-- The arguments of a transition. -/
structure Request where
  taskId : TaskId
  scenario : ScenarioType
  toState : BillingState
  triggeredByReceiptId : String
  triggeredByDid : String

namespace Machine

variable (machine : Machine)

def getCurrentState (taskId : TaskId) : Option BillingState := machine.taskStates taskId

def getScenario (taskId : TaskId) : Option ScenarioType := machine.taskScenarios taskId

/-- The recorded transitions of a task, oldest first. -/
def history (taskId : TaskId) : List StateTransitionRecord :=
  machine.auditLog.transitions.filter fun record => record.taskId = taskId

/-- The receipts registered for a task. -/
def receipts (taskId : TaskId) : Finset String := (machine.taskReceipts taskId).getD ∅

def isReceiptValid (taskId : TaskId) (receiptId : String) : Bool :=
  decide (receiptId ∈ machine.receipts taskId)

def logSecurityEvent (event : SecurityEvent) : Machine :=
  { machine with
    auditLog.securityEvents := machine.auditLog.securityEvents ++ [event] }

def logTransition (record : StateTransitionRecord) : Machine :=
  { machine with auditLog.transitions := machine.auditLog.transitions ++ [record] }

/-- The event that `validate_transition` logs when it refuses, after the first of its three
checks that fails. -/
def objection (request : Request) (fromState : BillingState) : Option SecurityEvent :=
  if request.toState ∉ legalTargets fromState then
    some {
      eventType := "ILLEGAL_TRANSITION_ATTEMPT"
      severity := .critical
      taskId := request.taskId
      details := [("from_state", fromState.value), ("to_state", request.toState.value),
        ("triggered_by_receipt_id", request.triggeredByReceiptId),
        ("triggered_by_did", request.triggeredByDid),
        ("reason", "Transition not in global transition map")] }
  else if isTransitionAllowed request.scenario fromState request.toState = false then
    some {
      eventType := "ILLEGAL_TRANSITION_ATTEMPT"
      severity := .critical
      taskId := request.taskId
      details := [("from_state", fromState.value), ("to_state", request.toState.value),
        ("scenario", request.scenario.value),
        ("triggered_by_receipt_id", request.triggeredByReceiptId),
        ("triggered_by_did", request.triggeredByDid),
        ("reason", "Transition not on any allowed path for scenario")] }
  else if machine.isReceiptValid request.taskId request.triggeredByReceiptId = false then
    some {
      eventType := "INVALID_RECEIPT"
      severity := .critical
      taskId := request.taskId
      details := [("receipt_id", request.triggeredByReceiptId),
        ("reason", "Receipt not found or not associated with this task")] }
  else none

def validateTransition (request : Request) (fromState : BillingState) : Bool × Machine :=
  match machine.objection request fromState with
  | some event => (false, machine.logSecurityEvent event)
  | none => (true, machine)

/-- The first transition of a task starts from `INITIATED`, under the caller's scenario. -/
def firstUse (request : Request) : BillingState × Machine :=
  match machine.taskStates request.taskId with
  | some state => (state, machine)
  | none =>
      (.initiated, { machine with
        taskStates := update machine.taskStates request.taskId (some .initiated)
        taskScenarios := update machine.taskScenarios request.taskId (some request.scenario)
        taskReceipts := update machine.taskReceipts request.taskId
          (some (machine.receipts request.taskId)) })

/-- The event of a state that requires immediate anchoring. -/
def anchorRequired (request : Request) : SecurityEvent where
  eventType := "ANCHOR_REQUIRED"
  severity := .info
  taskId := request.taskId
  details := [("state", request.toState.value),
    ("reason", "State requires immediate on-chain anchoring")]

/-- `execute_transition`, with the record's fresh identifier and the time of day. -/
def executeTransition (recordId : String) (timestamp : Int) (request : Request) :
    Except IllegalStateTransitionError StateTransitionRecord × Machine :=
  let (fromState, machine) := machine.firstUse request
  match machine.validateTransition request fromState with
  | (false, machine) =>
      (.error ⟨request.taskId, fromState, request.toState, request.scenario⟩, machine)
  | (true, machine) =>
      let record : StateTransitionRecord := {
        recordId
        taskId := request.taskId
        fromState
        toState := request.toState
        triggeredByReceiptId := request.triggeredByReceiptId
        triggeredByDid := request.triggeredByDid
        timestamp }
      let machine := machine.logTransition record
      let machine := { machine with
        taskStates := update machine.taskStates request.taskId (some request.toState) }
      if request.toState ∈ requireImmediateAnchor then
        (.ok record, machine.logSecurityEvent (anchorRequired request))
      else (.ok record, machine)

def registerReceipt (taskId : TaskId) (receiptId : String) : Machine :=
  { machine with
    taskReceipts := update machine.taskReceipts taskId
      (some (insert receiptId (machine.receipts taskId))) }

end Machine

end TrustChain.Billing
