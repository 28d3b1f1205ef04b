import TrustChain.Library.Outcome
import TrustChain.Library.Rounding
import TrustChain.Library.Table

/-!
# The off-chain service: statuses, rows and requests

The settlement statuses with their transition table, the rows of the database, and what a
request carries besides its body. Amounts are exact rationals, and times are seconds. The texts
of errors are the source's, without the amounts that some of them end with.
-/

namespace TrustChain.Service

open Library

abbrev IdentityId := String
abbrev TaskId := String
abbrev VoucherId := String
abbrev ProfileId := String
abbrev ReceiptId := String
abbrev CaseId := String

structure HttpError where
  status : Nat
  detail : String
deriving DecidableEq, Repr

/-- `round(x, 2)`. -/
abbrev cents (x : ℚ) : ℚ := roundTo 2 x

/-- The tolerance `1e-9` of the capacity ledger. -/
def epsilon : ℚ := 1 / 10 ^ 9

theorem epsilon_nonneg : 0 ≤ epsilon := by norm_num [epsilon]

/-! ## Task statuses -/

inductive TaskStatus where
  | draft | pending | accepted | inProgress | progressSubmitted | progressConfirmed
  | delivered | disputed | arbitrated | settled | refunded | cancelled
  -- legacy values, kept for parsing
  | created | locked | running | submitted | buyerRegret | verifying | verified | released
  | failed | arbitration | buyerWins | sellerWins | partialSplit
  | authorized | autoConfirmed | partiallySettled | frozen
deriving DecidableEq, Repr

def canonicalTaskStatus : TaskStatus → TaskStatus
  | .created => .draft
  | .locked => .accepted
  | .running => .inProgress
  | .submitted => .delivered
  | .buyerRegret => .settled
  | .verifying => .delivered
  | .verified => .delivered
  | .released => .settled
  | .failed => .cancelled
  | .arbitration => .arbitrated
  | .buyerWins => .refunded
  | .sellerWins => .settled
  | .partialSplit => .settled
  | status => status

/-- `VALID_TRANSITIONS`. -/
def validTransitions : TaskStatus → List TaskStatus
  | .draft => [.pending, .accepted, .cancelled]
  | .pending => [.accepted, .cancelled]
  | .accepted => [.inProgress, .disputed, .cancelled]
  | .inProgress => [.progressSubmitted, .delivered, .settled, .disputed, .cancelled]
  | .progressSubmitted => [.progressConfirmed, .delivered, .settled, .disputed]
  | .progressConfirmed => [.delivered, .disputed, .settled, .autoConfirmed]
  | .delivered => [.settled, .disputed, .refunded, .frozen]
  | .disputed => [.arbitrated, .frozen]
  | .arbitrated => [.settled, .refunded, .partiallySettled, .frozen]
  | .settled => [.frozen]
  | .partiallySettled => [.settled, .frozen]
  | .refunded => [.frozen]
  | .cancelled => [.frozen]
  | .autoConfirmed => [.settled, .disputed, .frozen]
  | .frozen => [.delivered, .disputed, .settled, .refunded, .cancelled]
  | _ => []

/-- `STATUS_ORDER.get(status, 0)`: the table has no entry for `settled`. -/
def statusOrder : TaskStatus → Nat
  | .draft => 1
  | .pending => 2
  | .accepted => 3
  | .inProgress => 4
  | .progressSubmitted => 5
  | .progressConfirmed => 6
  | .delivered => 7
  | .disputed => 8
  | .arbitrated => 9
  | .autoConfirmed => 6
  | .partiallySettled => 9
  | .frozen => 0
  | .refunded => 10
  | .cancelled => 10
  | _ => 0

def canTransition (source target : TaskStatus) : Bool :=
  (validTransitions (canonicalTaskStatus source)).contains (canonicalTaskStatus target)

def isPostAccepted (status : TaskStatus) : Bool :=
  statusOrder .accepted ≤ statusOrder (canonicalTaskStatus status)

/-- `TaskStatus.value`. -/
def TaskStatus.value : TaskStatus → String
  | .draft => "draft"
  | .pending => "pending"
  | .accepted => "accepted"
  | .inProgress => "in_progress"
  | .progressSubmitted => "progress_submitted"
  | .progressConfirmed => "progress_confirmed"
  | .delivered => "delivered"
  | .disputed => "disputed"
  | .arbitrated => "arbitrated"
  | .settled => "settled"
  | .refunded => "refunded"
  | .cancelled => "cancelled"
  | .created => "created"
  | .locked => "locked"
  | .running => "running"
  | .submitted => "submitted"
  | .buyerRegret => "buyer_regret"
  | .verifying => "verifying"
  | .verified => "verified"
  | .released => "released"
  | .failed => "failed"
  | .arbitration => "arbitration"
  | .buyerWins => "buyer_wins"
  | .sellerWins => "seller_wins"
  | .partialSplit => "partial"
  | .authorized => "authorized"
  | .autoConfirmed => "auto_confirmed"
  | .partiallySettled => "partially_settled"
  | .frozen => "frozen"

/-- The statuses in which a settlement is over: no escrow is at stake any more. -/
def TaskStatus.Terminal (status : TaskStatus) : Prop :=
  status = .settled ∨ status = .refunded ∨ status = .cancelled

instance : DecidablePred TaskStatus.Terminal := fun _ => inferInstanceAs (Decidable (_ ∨ _))

/-! ## Rows -/

/-- A row of `capacity`. -/
structure Capacity where
  totalLockedUsdc : ℚ := 0
  totalBillCredits : ℚ := 0
  availableCredits : ℚ := 0
  reservedCredits : ℚ := 0
  inProgressCredits : ℚ := 0
  confirmedProgressCredits : ℚ := 0
  disputedCredits : ℚ := 0
  pendingSettlementCredits : ℚ := 0
  burnedCredits : ℚ := 0
  releasedCredits : ℚ := 0
deriving DecidableEq

/-- A row of `profile_capacity`. -/
structure ProfileCapacity where
  ownerIdentityId : IdentityId
  allocatedCredits : ℚ := 0
  availableCredits : ℚ := 0
  inProgressCredits : ℚ := 0
  pendingSettlementCredits : ℚ := 0
  disputedCredits : ℚ := 0
  releasedCredits : ℚ := 0
deriving DecidableEq

/-- A progress rule, as far as it is read: its type, its points if they are a list, and the
scene it names. -/
structure ProgressRuleSpec where
  type : Option String := none
  points : Option (List (List ℚ)) := none
  sceneId : Option String := none
deriving DecidableEq

inductive VoucherStatus where
  | created | accepted | used | expired | cancelled | rejected
deriving DecidableEq, Repr

/-- `VoucherStatus.value`. -/
def VoucherStatus.value : VoucherStatus → String
  | .created => "created"
  | .accepted => "accepted"
  | .used => "used"
  | .expired => "expired"
  | .cancelled => "cancelled"
  | .rejected => "rejected"

structure Voucher where
  buyerIdentityId : IdentityId
  sellerIdentityId : IdentityId
  amount : ℚ
  billCreditAmount : ℚ
  expiryTime : ℚ
  nonce : String
  status : VoucherStatus := .created
  profileId : Option ProfileId := none
  progressRuleSpec : Option ProgressRuleSpec := none
deriving DecidableEq

structure SettlementState where
  taskId : TaskId
  escrowAmount : ℚ
  currency : String := "USD"
  status : TaskStatus := .draft
  clientAgentId : IdentityId
  workerAgentId : Option IdentityId := none
  profileId : Option ProfileId := none
  releasedAmount : Option ℚ := none
  refundedAmount : Option ℚ := none
  updatedAt : ℚ := 0
  releasedAt : Option ℚ := none
  voucherId : Option VoucherId := none
  deliveryDeadlineAt : Option ℚ := none
  confirmWindowHours : Option Nat := none
  confirmDeadlineAt : Option ℚ := none
  progressRuleSpec : Option ProgressRuleSpec := none
deriving DecidableEq

inductive ProgressConfirmationStatus where
  | pending | confirmed | rejected
deriving DecidableEq, Repr

structure ProgressReceipt where
  progressReceiptId : ReceiptId
  taskId : TaskId
  sellerIdentityId : IdentityId
  progressPercent : ℚ
  claimedValuePercent : ℚ
  evidenceHash : String
  runtimeLogHash : String
  timestamp : ℚ
  sellerSignature : String
  confirmationStatus : ProgressConfirmationStatus := .pending
  confirmedAt : Option ℚ := none
deriving DecidableEq

/-- The status of an execution receipt. -/
inductive ToolStatus where
  | success | failure | timeout | skipped
deriving DecidableEq, Repr

inductive ArbitrationCaseStatus where
  | open_ | voting | decided | executed | cancelled
deriving DecidableEq, Repr

/-- `ArbitrationCaseStatus.value`. -/
def ArbitrationCaseStatus.value : ArbitrationCaseStatus → String
  | .open_ => "open"
  | .voting => "voting"
  | .decided => "decided"
  | .executed => "executed"
  | .cancelled => "cancelled"

inductive ArbitrationVoteDecision where
  | buyerWins | sellerWins | partialSplit
deriving DecidableEq, Repr

structure ArbitrationCase where
  taskId : TaskId
  openedBy : IdentityId
  status : ArbitrationCaseStatus := .open_
  requiredArbitrators : Nat := 3
  decidedOutcome : Option ArbitrationVoteDecision := none
  finalPartialPercent : Option ℚ := none
deriving DecidableEq

structure ArbitrationVote where
  caseId : CaseId
  arbitratorIdentityId : IdentityId
  decision : ArbitrationVoteDecision
  partialPercent : Option ℚ
deriving DecidableEq

structure TransitionAudit where
  taskId : TaskId
  fromStatus : Option TaskStatus
  toStatus : TaskStatus
  transitionAllowed : Bool
deriving DecidableEq

/-- What `apply_capacity_resolution` has been called with. -/
structure Resolution where
  buyerIdentityId : IdentityId
  escrowAmount : ℚ
  settledAmount : ℚ
  refundedAmount : ℚ
deriving DecidableEq

/-- The database. `receipts` has the statuses of a task's execution receipts, and
`resolutions` is a record beside the source's tables. -/
structure Db where
  capacity : Table IdentityId Capacity := .empty
  profiles : Table ProfileId ProfileCapacity := .empty
  roleProfiles : ProfileId → Option IdentityId := fun _ => none
  vouchers : Table VoucherId Voucher := .empty
  settlements : Table TaskId SettlementState := .empty
  contracts : List TaskId := []
  progress : Table ReceiptId ProgressReceipt := .empty
  receipts : TaskId → List ToolStatus := fun _ => []
  pool : List IdentityId := []
  cases : Table CaseId ArbitrationCase := .empty
  assignments : List (CaseId × IdentityId) := []
  votes : List ArbitrationVote := []
  audits : List TransitionAudit := []
  resolutions : List Resolution := []

/-! ## Requests -/

structure Config where
  escrowMinAmount : ℚ := 1 / 100
  escrowMaxAmount : ℚ := 10000
  /-- `settlement_require_party_actor` and `auth_enforce_protected_routes`. -/
  partyBinding : Bool := false
  /-- `ledger_require_party_actor` and `auth_enforce_protected_routes`. -/
  ledgerBinding : Bool := false
  settlementLockRequiresPending : Bool := false
  settlementRequiresSuccessReceipt : Bool := true
  settlementBlockPaymentCycle : Bool := true
  progressConfirmRequireBuyerActor : Bool := false
  /-- `progress_require_signature`, unless delivery signatures are relaxed. -/
  progressRequireSignature : Bool := true
  receiptMaxFutureSkewSeconds : Int := 300
  receiptMaxPastHours : Int := 24 * 7

/-- The pauses of the runtime safety mode. -/
structure Pauses where
  newLock : Bool := false
  newAuthorization : Bool := false
  newTask : Bool := false
  newSettlement : Bool := false
deriving DecidableEq

/-- What the checks outside this model answer. -/
structure Gates where
  /-- The sub-identities of a voucher belong to its parties. -/
  subIdentities : Bool := true
  /-- The buyer's signature commits to the voucher. -/
  buyerCommitment : Bool := true
  /-- The delivery verification that the scene requires is there. -/
  deliveryVerified : Bool := true
  /-- The owner has confirmed a settlement whose scene requires it. -/
  settleConfirmed : Bool := true
  /-- The scene admits automatic confirmation. -/
  autoConfirm : Bool := true
deriving DecidableEq

/-- Who calls, when, and under which circumstances. -/
structure Request where
  actor : Option IdentityId := none
  now : ℚ := 0
  config : Config := {}
  pauses : Pauses := {}
  gates : Gates := {}

end TrustChain.Service
