import Mathlib.Algebra.Order.Group.Nat
import TrustChain.Library.Outcome

/-!
# Rows of the scan queue

A scan run is a row with its status, its attempts, and the claim of the runner that works on
it. Every operation of the queue reads and changes some of these fields.
-/

namespace TrustChain.ScanQueue

open Library

/-- `ResponsibilityScanRunStatus`. -/
inductive Status where
  | pending
  | claimed
  | running
  | completed
  | failed
  | cancelled
  | deadLetter
  deriving DecidableEq

/-- A point in time, in microseconds. -/
abbrev Time := Nat

def seconds (count : Int) : Time := count.toNat * 1000000

/-- Whether an optional text counts as true. -/
def truthy (text : Option String) : Bool := text.any (· ≠ "")

/-- `first or second`, of optional texts. -/
def orText (first second : Option String) : Option String := if truthy first then first else second

/-- The columns of `ResponsibilityScanRunModel` that the queue works with. -/
structure ScanRun where
  status : Status := .pending
  retryMaxAttempts : Nat := 3
  retryBackoffSeconds : Nat := 30
  currentAttempt : Nat := 0
  claimedBy : Option String := none
  claimedAt : Option Time := none
  leaseExpiresAt : Option Time := none
  lastHeartbeatAt : Option Time := none
  startedAt : Option Time := none
  nextRetryAt : Option Time := none
  lastError : Option String := none
  cancelledAt : Option Time := none
  cancelReason : Option String := none
  deadLetteredAt : Option Time := none
  deadLetterReason : Option String := none
  totalIdentities : Nat := 0
  flaggedIdentities : Nat := 0
  createdAt : Time
  completedAt : Option Time := none
  deriving DecidableEq

/-- The bounds that `CreateBatchScanRunRequest` puts on the retries of a run. -/
structure RetryPolicy where
  retryMaxAttempts : Nat := 3
  retryBackoffSeconds : Nat := 30
  attempts_bounds : 1 ≤ retryMaxAttempts ∧ retryMaxAttempts ≤ 10 := by decide
  backoff_bounds : 1 ≤ retryBackoffSeconds ∧ retryBackoffSeconds ≤ 3600 := by decide

/-- The row that `run_batch_scan` stores for asynchronous execution. -/
def RetryPolicy.create (policy : RetryPolicy) (now : Time) : ScanRun where
  retryMaxAttempts := policy.retryMaxAttempts
  retryBackoffSeconds := policy.retryBackoffSeconds
  createdAt := now

/-- A row as the session of an execution has it, running. -/
abbrev Session := { row : ScanRun // row.status = .running }

namespace ScanRun

variable (row : ScanRun) (now : Time)

/-- `_clear_claim_fields`. -/
def clearClaimFields : ScanRun :=
  { row with claimedBy := none, claimedAt := none, leaseExpiresAt := none, lastHeartbeatAt := none }

/-- Whether the row has a lease that has run out. -/
def stale : Bool := row.leaseExpiresAt.any (· ≤ now)

/-! ## Claiming -/

/-- What `claim_next_scan_run` makes of the row it picks. -/
def claim (runnerIdentityId : String) (leaseSeconds : Int) : ScanRun :=
  { row with
    status := .claimed
    claimedBy := some runnerIdentityId
    claimedAt := some now
    leaseExpiresAt := some (now + seconds (max 1 leaseSeconds))
    lastHeartbeatAt := some now
    cancelledAt := none
    cancelReason := none
    deadLetteredAt := none
    deadLetterReason := none }

def heartbeat (runnerIdentityId : String) (leaseSeconds : Int) : Except String ScanRun := do
  require (row.status = .claimed ∨ row.status = .running) "scan run is not claimable for heartbeat"
  require (truthy row.claimedBy → row.claimedBy = some runnerIdentityId)
    "scan run is claimed by another runner"
  .ok { row with
    claimedBy := some runnerIdentityId
    lastHeartbeatAt := some now
    leaseExpiresAt := some (now + seconds (max 1 leaseSeconds)) }

def cancel (runnerIdentityId reason : Option String) : Except String ScanRun := do
  require (¬(row.status = .completed ∨ row.status = .cancelled))
    "scan run is already terminal and cannot be cancelled"
  require (truthy runnerIdentityId ∧ truthy row.claimedBy → row.claimedBy = runnerIdentityId)
    "scan run is claimed by another runner"
  .ok { row with
    status := .cancelled
    cancelledAt := some now
    cancelReason := orText reason (some "cancelled by operator")
    deadLetteredAt := none
    deadLetterReason := none
    leaseExpiresAt := none
    lastHeartbeatAt := none
    nextRetryAt := none
    completedAt := none }

/-! ## Recovery and dead letters -/

/-- What `recover_stale_scan_runs` makes of a row it has selected. -/
def recover : ScanRun :=
  clearClaimFields <|
    match row.status with
    | .claimed =>
        { row with
          status := .pending
          lastError := some "stale claim recovered to pending"
          nextRetryAt := none }
    | .running =>
        { row with
          status := .failed
          completedAt := none
          lastError := some "worker lease expired during run execution"
          nextRetryAt := if row.currentAttempt < row.retryMaxAttempts then some now else none }
    | _ => row

/-- What `sweep_dead_letter_scan_runs` makes of a row it has selected. -/
def sweep (reason : Option String) : ScanRun :=
  clearClaimFields { row with
    status := .deadLetter
    deadLetteredAt := some now
    deadLetterReason := orText reason (some "retry attempts exhausted") }

/-- `requeue_dead_letter_scan_run`. -/
def requeue : Except String ScanRun := do
  require (row.status = .deadLetter) "scan run is not in dead-letter state"
  .ok (clearClaimFields { row with
    status := .pending
    currentAttempt := 0
    nextRetryAt := none
    lastError := some "requeued from dead-letter"
    completedAt := none
    cancelledAt := none
    cancelReason := none
    deadLetteredAt := none
    deadLetterReason := none })

/-! ## Execution -/

/-- The row after the first flush of `execute_scan_run`. -/
def begin (runnerIdentityId : Option String) (leaseSeconds : Int) : Session where
  property := rfl
  val := { row with
      status := .running
      startedAt := some now
      currentAttempt := row.currentAttempt + 1
      claimedBy := orText runnerIdentityId row.claimedBy
      claimedAt := some (row.claimedAt.getD now)
      lastHeartbeatAt := some now
      leaseExpiresAt := some (now + seconds (max 1 leaseSeconds))
      cancelledAt := none
      cancelReason := none
      deadLetteredAt := none
      deadLetterReason := none
      lastError := none
      nextRetryAt := none }

/-- The start of `execute_scan_run` without force: the row it goes on with, or nothing where it
answers with the stored result. -/
def start (runnerIdentityId : Option String) (leaseSeconds : Int) (requireFailed : Bool) :
    Except String (Option Session) := do
  require (requireFailed → row.status = .failed) "scan run is not in failed state"
  require (row.status ≠ .cancelled) "scan run is cancelled"
  require (row.status = .claimed → truthy runnerIdentityId ∧ truthy row.claimedBy →
    row.claimedBy = runnerIdentityId) "scan run is claimed by another runner"
  if row.status = .completed ∨ row.status = .running then .ok none
  else do
    require (row.status = .failed → ¬row.nextRetryAt.any (now < ·))
      "scan run is waiting for next retry window"
    require (row.status = .failed → row.currentAttempt < row.retryMaxAttempts)
      "scan run retry attempts exhausted"
    .ok (some (row.begin now runnerIdentityId leaseSeconds))

end ScanRun

/-- An execution in progress. -/
structure Execution where
  scanId : String
  session : Session

namespace Execution

variable (execution : Execution) (row : ScanRun) (now : Time)

/-- What a flush stores in a column: a session writes only what it has changed. -/
def flush {α : Type} [DecidableEq α] (loaded assigned stored : α) : α :=
  if assigned = loaded then stored else assigned

/-- Let the flush of a session bring the stored row from `loaded` to `assigned`. -/
def flushRow (loaded assigned : ScanRun) : ScanRun :=
  { row with
    status := flush loaded.status assigned.status row.status
    claimedBy := flush loaded.claimedBy assigned.claimedBy row.claimedBy
    claimedAt := flush loaded.claimedAt assigned.claimedAt row.claimedAt
    leaseExpiresAt := flush loaded.leaseExpiresAt assigned.leaseExpiresAt row.leaseExpiresAt
    lastHeartbeatAt := flush loaded.lastHeartbeatAt assigned.lastHeartbeatAt row.lastHeartbeatAt
    lastError := flush loaded.lastError assigned.lastError row.lastError
    nextRetryAt := flush loaded.nextRetryAt assigned.nextRetryAt row.nextRetryAt
    totalIdentities := flush loaded.totalIdentities assigned.totalIdentities row.totalIdentities
    flaggedIdentities :=
      flush loaded.flaggedIdentities assigned.flaggedIdentities row.flaggedIdentities
    completedAt := flush loaded.completedAt assigned.completedAt row.completedAt }

/-- The end of `execute_scan_run` after a scan of `total` identities. -/
def complete (total flagged : Nat) : ScanRun :=
  flushRow row execution.session.val <| ScanRun.clearClaimFields { execution.session.val with
    totalIdentities := total
    flaggedIdentities := flagged
    status := .completed
    completedAt := some now
    lastError := none
    nextRetryAt := none }

/-- The end of `execute_scan_run` after an exception. -/
def fail (error : String) : ScanRun :=
  flushRow row execution.session.val <| ScanRun.clearClaimFields { execution.session.val with
    status := .failed
    completedAt := none
    lastError := some error
    nextRetryAt :=
      if execution.session.val.currentAttempt < execution.session.val.retryMaxAttempts then
        some (now + seconds (max 1 execution.session.val.retryBackoffSeconds *
          execution.session.val.currentAttempt))
      else none }

end Execution

end TrustChain.ScanQueue
